import Mathlib.Data.List.Nodup
import DicePipeline.Interaction.Traces
import DicePipeline.Runs.Debts

/-!
# One chain of notifications per callback

A chain starts when `send_webhook_notification` is put on the queue for a callback
for the first time: by a run of the task, for every callback it has listed, or by
the submit that registered the callback, if it had read the attempt as finished.

`Dues` is what a thread has yet to notify, and `taken` are the callbacks that some
thread has taken on.  Nobody checks whether a callback has been taken on already:
two overlapping runs list the same callbacks (`listedTwice`), and a run lists a
callback that was registered between its last status write and its list, by a
submit that read the attempt as finished (`registeredBetween`).  Where every list
finds callbacks that nobody has taken on (`listsUntaken`), the dues of the threads
are apart from each other and from what is queued, and no callback is queued twice.

### What is load-bearing

`listsUntaken` is asked of the runs that list, and of no submit.  A submit that has read
its attempt as finished takes on the callback it registers, and nobody else can have
taken on a callback that was not there; where the callback was there already, the submit
registers nothing and takes nothing on.
-/

namespace DicePipeline

open Interaction Program

/-- The callbacks that an answer makes the thread notify. -/
def Op.takes : (op : Op) → Except Exn op.Ans → List ℕ
  | .callbackIds _, .ok ids => ids
  | .getOrCreateCallback remediation _, .ok (callback, true) =>
      if remediation.status.isFinished then [RemediationCallback.id callback] else []
  | _, _ => []

/-- The callbacks a thread has yet to notify. -/
abbrev Dues := List ℕ

/-- Moves on by one answer. -/
def Dues.after (x : Dues) : (op : Op) → Except Exn op.Ans → Dues
  | .enqueueWebhook callback, _ => x.erase callback
  | op, answer => op.takes answer ++ x

/-- A thread notifies only callbacks it has taken on. -/
def Dues.Permits (x : Dues) : Op → Prop
  | .enqueueWebhook callback => callback ∈ x
  | _ => True

/-- The operation takes on no callback and notifies none. -/
def MindsNoCallback : Op → Prop
  | .callbackIds _ => False
  | .getOrCreateCallback _ _ => False
  | .enqueueWebhook _ => False
  | _ => True

theorem dues_after_of_minds {op : Op} (minds : MindsNoCallback op) (x : Dues)
    (answer : Except Exn op.Ans) : x.after op answer = x := by
  cases op <;> first | rfl | exact minds.elim

/-! ## The programs -/

/-- Programs that follow the trace. -/
abbrev Notifies {α : Type} (Q : Dues → Except Exn α → Prop) (p : Py α) (x : Dues) : Prop :=
  p.Tracks Dues.after answered Dues.Permits Q x

section Programs

variable {settings : Settings} {x : Dues} {α : Type}

/-- A program that minds no callback keeps what is due. -/
theorem notifies_of_minds {p : Py α} (minds : p.Only answered MindsNoCallback) :
    Notifies (fun y _ => y = x) p x := by
  refine Only.tracks (I := (· = x)) minds rfl ?_
  rintro y op rfl ofClass
  refine ⟨?_, fun answer _ => dues_after_of_minds ofClass y answer⟩
  cases op <;> trivial

private theorem enqueueWebhooks_notifies (callbacks : List ℕ) :
    Notifies (fun _ _ => True) (enqueueWebhooks callbacks) callbacks := by
  induction callbacks with
  | nil => trivial
  | cons callback rest ih =>
      refine ⟨List.mem_cons_self, fun answer _ => ?_⟩
      have paid : Dues.after (callback :: rest) (.enqueueWebhook callback) answer = rest :=
        List.erase_cons_head callback rest
      cases answer with
      | ok _ => exact paid.symm ▸ ih
      | error exc => trivial

/-- The attempt that `get` returned. -/
private theorem get_notifies (id : ℕ) :
    Notifies (fun y r => y = x ∧ ∀ row, r = .ok row → row.id = id) (RemediationService.get id) x := by
  refine ⟨trivial, fun answer promised => ⟨?_, ?_⟩⟩
  · have quiet : MindsNoCallback (.getRemediation id) := trivial
    exact dues_after_of_minds quiet x answer
  · rintro row rfl
    exact promised

/-- A run takes on the callbacks it lists, and notifies those. -/
theorem run_notifies (settings : Settings) (id : ℕ) :
    Notifies (fun _ _ => True) (processRemediation settings id) [] := by
  refine Tracks.bind (get_notifies id) ?_ fun _ _ _ => trivial
  rintro remediation _ ⟨rfl, known⟩
  have own := known remediation rfl
  split
  · trivial
  · refine Tracks.bind (notifies_of_minds ?_) ?_ fun _ _ _ => trivial
    · exact Only.bind ((only_perform _).mpr trivial) fun _ => (only_perform _).mpr trivial
    · rintro _ _ rfl
      refine Tracks.attempt_bind (notifies_of_minds ?_) ?_
      · exact (runPipeline_only own).mono fun op ofPipeline => by
          cases op <;> trivial
      · rintro result _ rfl
        refine Tracks.bind (M := fun _ _ => True) ?_ (fun _ _ _ => trivial) fun _ _ _ => trivial
        refine Tracks.bind (M := fun y r => ∀ ids, r = .ok ids → y = ids) ?_ ?_ fun _ _ _ => trivial
        · refine ⟨trivial, fun answer _ => ?_⟩
          rintro ids rfl
          exact List.append_nil ids
        · intro ids y isList
          obtain rfl := isList ids rfl
          exact enqueueWebhooks_notifies y

/-- A submit takes on the callback it registers on an attempt it read as finished,
and notifies that one. -/
private theorem subscribe_notifies (remediation : Remediation) (callbackUrl : String) :
    Notifies (fun _ _ => True) (CreateRemediationView.subscribe remediation callbackUrl) [] := by
  unfold CreateRemediationView.subscribe
  split
  · trivial
  · refine Tracks.bind (M := fun y r => ∀ callback created, r = .ok (callback, created) →
      (created && remediation.status.isFinished) = true → callback.id ∈ y) ?_ ?_ fun _ _ _ => trivial
    · refine ⟨trivial, fun answer _ => ?_⟩
      rintro callback created rfl isDue
      rw [Bool.and_eq_true] at isDue
      obtain ⟨rfl, finished⟩ := isDue
      have takes : Op.takes (.getOrCreateCallback remediation callbackUrl) (.ok (callback, true)) =
          [callback.id] := if_pos finished
      have after : Dues.after [] (.getOrCreateCallback remediation callbackUrl)
          (.ok (callback, true)) = [callback.id] := by
        show Op.takes _ _ ++ [] = _
        rw [takes, List.append_nil]
      exact after ▸ List.mem_cons_self
    · rintro ⟨callback, created⟩ y isDue
      refine Tracks.ite (fun due => ?_) fun _ => trivial
      exact ⟨isDue callback created rfl due, fun _ _ => trivial⟩

/-- A submit notifies only a callback it has taken on. -/
theorem post_notifies (settings : Settings) (acceptsUrl : String → Bool) (account : ServiceAccount)
    (upload : Upload) :
    Notifies (fun _ _ => True) (CreateRemediationView.post settings acceptsUrl account upload) [] := by
  unfold CreateRemediationView.post
  cases found : limitFor account with
  | error exc => trivial
  | ok limit =>
      simp only [CreateRemediationView.submit]
      cases RemediationUploadSerializer.isValid acceptsUrl upload with
      | error exc => trivial
      | ok _ =>
          refine Tracks.bind (notifies_of_minds ?_) ?_ fun _ _ _ => trivial
          · refine (getOrCreate_only limit (limitFor_account found)).mono fun op ofUpload => ?_
            cases op <;> trivial
          · rintro made _ rfl
            refine Tracks.bind (subscribe_notifies _ _) ?_ fun _ _ _ => trivial
            intro _ y _
            refine Tracks.bind (notifies_of_minds ?_) (fun _ _ _ => trivial) fun _ _ _ => trivial
            exact queue_only trivial (fun _ _ _ => trivial) (fun _ => trivial) (fun _ => trivial) _ _

end Programs

/-! ## The runs of the system -/

/-- The callbacks thread `i` has yet to notify. -/
def dues (i : ℕ) (history : List (Event Query Exn (Option Response) Role)) : Dues :=
  Machine.observed (S := Query) Dues.after [] i history

/-- The callbacks that some thread has taken on. -/
def taken : List (Event Query Exn (Option Response) Role) → List ℕ
  | [] => []
  | .answered _ op answer :: earlier => Op.takes op answer ++ taken earlier
  | .started _ _ :: earlier => taken earlier
  | .returned _ _ _ :: earlier => taken earlier
  | .killed _ :: earlier => taken earlier

@[simp] theorem taken_place (c : Cluster) (i : ℕ) (role : Role) (body : Py (Option Response)) :
    taken (c.place i role body).history = taken c.history := by
  cases body <;> rfl

/-- **The condition.**  A run that lists the callbacks of its attempt finds none that a thread
has taken on already.

It is broken by a submit that reads the attempt after the run has written its final status, and
registers a callback on it before the run lists them; and by two overlapping runs of one
attempt. -/
def listsUntaken (c : Cluster) : Choice → Bool
  | .step i _ => (c.threads i).all fun thread =>
      match thread.op with
      | .callbackIds id =>
          c.store.callbacks.all fun callback =>
            callback.remediation ≠ id || callback.id ∉ taken c.history
      | _ => true
  | _ => true

/-- What the threads owe and what is queued. -/
structure OneChain (s : Store) (history : List (Event Query Exn (Option Response) Role)) : Prop where
  /-- No notification is queued twice. -/
  queued : s.webhookTasks.Nodup
  queuedTaken : ∀ callback ∈ s.webhookTasks, callback ∈ taken history
  /-- What a thread owes it owes once, and it is not queued yet. -/
  due : ∀ i, (dues i history).Nodup
  dueTaken : ∀ i, ∀ callback ∈ dues i history, callback ∈ taken history
  dueUnqueued : ∀ i, ∀ callback ∈ dues i history, callback ∉ s.webhookTasks
  /-- No two threads owe one notification. -/
  apart : ∀ i j, i ≠ j → ∀ callback ∈ dues i history, callback ∉ dues j history
  /-- Primary keys are unique and below the next one. -/
  keyed : (s.callbacks.map (·.id)).Nodup
  fresh : ∀ callback ∈ s.callbacks, callback.id < s.nextId
  takenFresh : ∀ callback ∈ taken history, callback < s.nextId

section Runs

variable {settings : Settings} {acceptsUrl : String → Bool} {retryFloor : Option String}
variable {ok : Cluster → Choice → Prop} {c : Cluster}

/-- A thread is about to notify only what it owes. -/
theorem notify_permitted
    (reached : (system settings acceptsUrl).Reach ok (deployed retryFloor) c) {i : ℕ}
    {thread : Thread Query Exn (Option Response) Role} (live : c.threads i = some thread) :
    (dues i c.history).Permits thread.op := by
  have followed := reached.tracked (S := Query) Dues.after [] answered
    (fun _ => Dues.Permits) (fun _ _ _ => True) ?_ ?_
  · exact (followed.live i thread live).1
  · intro role s body started
    rw [start_eq started]
    cases role with
    | request account upload =>
        exact Tracks.bind (post_notifies settings acceptsUrl account upload) (fun _ _ _ => trivial)
          fun _ _ _ => trivial
    | run id =>
        exact Tracks.bind (run_notifies settings id) (fun _ _ _ => trivial) fun _ _ _ => trivial
  · exact fun _ _ _ _ _ _ executed => execute_answered executed

/-- What a step of thread `i` leaves due. -/
theorem dues_stepped {i j : ℕ} {thread : Thread Query Exn (Option Response) Role}
    {answer : Except Exn thread.op.Ans} {t : Store} :
    dues j (stepped c i thread answer t).history =
      if i = j then (dues j c.history).after thread.op answer else dues j c.history :=
  observed_stepped

end Runs

section Steps

variable {i : ℕ} {s t : Store} {history history' : List (Event Query Exn (Option Response) Role)}

/-- Nobody takes anything on, nothing is queued, and the callbacks stay. -/
theorem OneChain.frame (chain : OneChain s history) (sameDues : ∀ j, dues j history' = dues j history)
    (sameTaken : taken history' = taken history) (queue : t.webhookTasks = s.webhookTasks)
    (callbacks : t.callbacks = s.callbacks) (grows : s.nextId ≤ t.nextId) : OneChain t history' where
  queued := queue ▸ chain.queued
  queuedTaken := by
    rw [queue, sameTaken]
    exact chain.queuedTaken
  due := fun j => sameDues j ▸ chain.due j
  dueTaken := by
    intro j
    rw [sameDues, sameTaken]
    exact chain.dueTaken j
  dueUnqueued := by
    intro j
    rw [sameDues, queue]
    exact chain.dueUnqueued j
  apart := by
    intro j k
    rw [sameDues, sameDues]
    exact chain.apart j k
  keyed := callbacks ▸ chain.keyed
  fresh := by
    rw [callbacks]
    exact fun callback member => (chain.fresh callback member).trans_le grows
  takenFresh := by
    rw [sameTaken]
    exact fun callback member => (chain.takenFresh callback member).trans_le grows

/-- Thread `i` takes on callbacks that nobody has taken on yet. -/
theorem OneChain.take (chain : OneChain s history) {ids : List ℕ}
    (mine : dues i history' = ids ++ dues i history)
    (others : ∀ j, j ≠ i → dues j history' = dues j history)
    (takes : taken history' = ids ++ taken history) (nodup : ids.Nodup)
    (untaken : ∀ id ∈ ids, id ∉ taken history) (below : ∀ id ∈ ids, id < s.nextId) :
    OneChain s history' where
  -- What is new is new to everybody, so each clause is the old one, or is settled by `untaken`.
  queued := chain.queued
  queuedTaken := fun callback member => takes ▸ List.mem_append_right _ (chain.queuedTaken callback member)
  due := by
    intro j
    by_cases same : j = i
    · subst same
      rw [mine, List.nodup_append]
      refine ⟨nodup, chain.due j, ?_⟩
      rintro id isNew _ isOld rfl
      exact untaken id isNew (chain.dueTaken j id isOld)
    · rw [others j same]
      exact chain.due j
  dueTaken := by
    intro j id owed
    rw [takes]
    by_cases same : j = i
    · subst same
      rw [mine] at owed
      rcases List.mem_append.mp owed with isNew | isOld
      · exact List.mem_append_left _ isNew
      · exact List.mem_append_right _ (chain.dueTaken j id isOld)
    · rw [others j same] at owed
      exact List.mem_append_right _ (chain.dueTaken j id owed)
  dueUnqueued := by
    intro j id owed
    by_cases same : j = i
    · subst same
      rw [mine] at owed
      rcases List.mem_append.mp owed with isNew | isOld
      · exact fun queued => untaken id isNew (chain.queuedTaken id queued)
      · exact chain.dueUnqueued j id isOld
    · rw [others j same] at owed
      exact chain.dueUnqueued j id owed
  apart := by
    intro j k different id owed
    by_cases same : j = i
    · subst same
      rw [others k (Ne.symm different)]
      rw [mine] at owed
      rcases List.mem_append.mp owed with isNew | isOld
      · exact fun theirs => untaken id isNew (chain.dueTaken k id theirs)
      · exact chain.apart j k different id isOld
    · rw [others j same] at owed
      by_cases same' : k = i
      · subst same'
        rw [mine]
        intro theirs
        rcases List.mem_append.mp theirs with isNew | isOld
        · exact untaken id isNew (chain.dueTaken j id owed)
        · exact chain.apart j k different id owed isOld
      · rw [others k same']
        exact chain.apart j k different id owed
  keyed := chain.keyed
  fresh := chain.fresh
  takenFresh := by
    rw [takes]
    intro id member
    rcases List.mem_append.mp member with isNew | isOld
    · exact below id isNew
    · exact chain.takenFresh id isOld

/-- Thread `i` notifies a callback it owes, or fails to. -/
theorem OneChain.notify (chain : OneChain s history) {callback : ℕ}
    (owed : callback ∈ dues i history)
    (mine : dues i history' = (dues i history).erase callback)
    (others : ∀ j, j ≠ i → dues j history' = dues j history)
    (sameTaken : taken history' = taken history)
    (queue : t = { s with webhookTasks := callback :: s.webhookTasks } ∨ t = s) :
    OneChain t history' := by
  -- Whoever still owes something owes another callback than this one.
  have stillDue : ∀ j, ∀ id ∈ dues j history', id ∈ dues j history ∧ id ≠ callback := by
    intro j id member
    by_cases same : j = i
    · subst same
      rw [mine] at member
      exact ⟨List.mem_of_mem_erase member,
        fun isCallback => (chain.due j).not_mem_erase (isCallback ▸ member)⟩
    · rw [others j same] at member
      exact ⟨member, fun isCallback => chain.apart i j (Ne.symm same) callback owed (isCallback ▸ member)⟩
  -- Even if the notification was not queued, it is no longer owed.
  have dropped : OneChain s history' := by
    refine ⟨chain.queued, sameTaken ▸ chain.queuedTaken, ?_, ?_, ?_, ?_, chain.keyed, chain.fresh,
      sameTaken ▸ chain.takenFresh⟩
    · intro j
      by_cases same : j = i
      · subst same
        rw [mine]
        exact (chain.due j).erase callback
      · rw [others j same]
        exact chain.due j
    · exact fun j id member => sameTaken ▸ chain.dueTaken j id (stillDue j id member).1
    · exact fun j id member => chain.dueUnqueued j id (stillDue j id member).1
    · exact fun j k different id member theirs =>
        chain.apart j k different id (stillDue j id member).1 (stillDue k id theirs).1
  rcases queue with rfl | rfl
  -- It was queued, and it had not been before: an owed callback is not in the queue.
  · refine { dropped with queued := ?_, queuedTaken := ?_, dueUnqueued := ?_ }
    · exact List.nodup_cons.mpr ⟨chain.dueUnqueued i callback owed, chain.queued⟩
    · intro id member
      rcases List.mem_cons.mp member with rfl | earlier
      · exact sameTaken ▸ chain.dueTaken i id owed
      · exact dropped.queuedTaken id earlier
    · intro j id member queued
      rcases List.mem_cons.mp queued with isCallback | earlier
      · exact (stillDue j id member).2 isCallback
      · exact dropped.dueUnqueued j id member earlier
  · exact dropped

/-- A callback is registered. -/
theorem OneChain.register (chain : OneChain s history) (remediation : ℕ) (callbackUrl : String) :
    OneChain
      { s with
        callbacks := s.callbacks ++ [⟨s.nextId, remediation, callbackUrl⟩]
        nextId := s.nextId + 1 } history := by
  refine { chain with keyed := ?_, fresh := ?_, takenFresh := ?_ }
  · rw [List.map_append, List.nodup_append]
    refine ⟨chain.keyed, List.nodup_singleton _, ?_⟩
    rintro id listed _ last rfl
    obtain ⟨callback, member, rfl⟩ := List.mem_map.mp listed
    have isNext : callback.id = s.nextId := List.mem_singleton.mp last
    have below := chain.fresh callback member
    omega
  · intro callback member
    rcases List.mem_append.mp member with old | last
    · exact Nat.lt_succ_of_lt (chain.fresh callback old)
    · obtain rfl := List.mem_singleton.mp last
      exact Nat.lt_succ_self _
  · exact fun callback member => Nat.lt_succ_of_lt (chain.takenFresh callback member)

/-- What minds no callback leaves the callbacks and the queue alone. -/
theorem Effect.callbacks_of_minds {op : Op} (effect : Effect i s op t) (minds : MindsNoCallback op) :
    t.webhookTasks = s.webhookTasks ∧ t.callbacks = s.callbacks := by
  cases effect <;> first | exact ⟨rfl, rfl⟩ | exact minds.elim

/-- Only a callback that was made is taken on. -/
theorem Op.takes_getOrCreateCallback {remediation : Remediation} {callbackUrl : String}
    {answer : Except Exn (RemediationCallback × Bool)}
    (found : ∀ callback, answer ≠ .ok (callback, true)) :
    Op.takes (.getOrCreateCallback remediation callbackUrl) answer = [] := by
  rcases answer with exc | ⟨callback, _ | _⟩
  · rfl
  · rfl
  · exact absurd rfl (found callback)

end Steps

section Runs

variable {settings : Settings} {acceptsUrl : String → Bool} {retryFloor : Option String}
variable {c : Cluster}

/-- The invariant holds wherever every list finds untaken callbacks. -/
private theorem reach_oneChain
    (reached : (system settings acceptsUrl).Reach (listsUntaken · ·) (deployed retryFloor) c) :
    OneChain c.store c.history := by
  refine reached.invariant (fun c => OneChain c.store c.history) ?_ ?_
  · refine ⟨List.nodup_nil, ?_, fun _ => List.nodup_nil, ?_, ?_, ?_, List.nodup_nil, ?_, ?_⟩
    · exact fun _ member => nomatch member
    · exact fun _ _ member => nomatch member
    · exact fun _ _ member => nomatch member
    · exact fun _ _ _ _ member => nomatch member
    · exact fun _ member => nomatch member
    · exact fun _ member => nomatch member
  · intro c choice c' before chain admitted moved
    cases choice with
    | spawn role =>
        obtain ⟨body, -, rfl⟩ := Machine.next_spawn_eq moved
        rw [Config.place_store]
        exact chain.frame (fun j => Machine.observed_place _ _ _ _ _) (taken_place _ _ _ _) rfl rfl
          le_rfl
    | step i world =>
        obtain ⟨thread, answer, t, live, executed, rfl⟩ := step_eq moved
        have permitted := notify_permitted before live
        -- What the condition says of this step: a list finds nothing that anybody took before.
        have finds : (match thread.op with
            | .callbackIds id =>
                c.store.callbacks.all fun callback =>
                  callback.remediation ≠ id || callback.id ∉ taken c.history
            | _ => true) = true := by
          simpa [listsUntaken, live] using admitted
        have mine : dues i (stepped c i thread answer t).history =
            (dues i c.history).after thread.op answer := dues_stepped.trans (if_pos rfl)
        -- The other threads owe what they owed: only the mover's history has grown.
        have others : ∀ j, j ≠ i →
            dues j (stepped c i thread answer t).history = dues j c.history :=
          fun j different => dues_stepped.trans (if_neg (Ne.symm different))
        have takes : taken (stepped c i thread answer t).history =
            thread.op.takes answer ++ taken c.history := taken_place _ _ _ _
        rw [stepped_store]
        generalize (stepped c i thread answer t).history = history' at *
        obtain ⟨role, op, next⟩ := thread
        dsimp only at executed answer permitted finds mine takes
        -- An operation that takes no callback and enqueues none leaves the invariant as it is.
        have quiet : op.takes answer = [] → (dues i c.history).after op answer = dues i c.history →
            t.webhookTasks = c.store.webhookTasks → t.callbacks = c.store.callbacks →
            OneChain t history' := by
          intro none keeps queue callbacks
          refine chain.frame (fun j => ?_) (by rw [takes, none, List.nil_append]) queue callbacks
            (execute_effect executed).nextId_le
          by_cases same : j = i
          · subst same
            exact mine.trans keeps
          · exact others j same
        have minds : MindsNoCallback op → op.takes answer = [] → OneChain t history' := by
          intro minds none
          obtain ⟨queue, callbacks⟩ := (execute_effect executed).callbacks_of_minds minds
          exact quiet none (dues_after_of_minds minds _ _) queue callbacks
        cases op with
        | callbackIds id =>
            cases answer with
            | error exc =>
                rcases execute_error executed with rfl | impossible
                · exact quiet rfl rfl rfl rfl
                · cases impossible
            | ok ids =>
                obtain ⟨listed, rfl⟩ := Prod.mk.inj (Option.some.inj (execute_ok executed))
                cases listed
                -- The run takes the callbacks it lists; each is stored once, and untaken by `finds`.
                refine chain.take mine others takes ?_ ?_ ?_
                · exact chain.keyed.sublist (List.filter_sublist.map _)
                · intro id' member
                  obtain ⟨callback, isListed, rfl⟩ := List.mem_map.mp member
                  obtain ⟨stored, own⟩ := List.mem_filter.mp isListed
                  have untaken := List.all_eq_true.mp finds callback stored
                  simpa [of_decide_eq_true own] using untaken
                · intro id' member
                  obtain ⟨callback, isListed, rfl⟩ := List.mem_map.mp member
                  exact chain.fresh callback (List.mem_filter.mp isListed).1
        | getOrCreateCallback remediation callbackUrl =>
            rcases execute_getOrCreateCallback executed with ⟨rfl, found⟩ | ⟨rfl, rfl, -⟩
            · have none : Op.takes (.getOrCreateCallback remediation callbackUrl) answer = [] :=
                Op.takes_getOrCreateCallback found
              exact quiet none (congrArg (· ++ dues i c.history) none) rfl rfl
            · have registered := chain.register remediation.id callbackUrl
              -- A submit that had read the attempt as finished takes the new callback for itself;
              -- its key is the next one, so nobody can have taken it.
              by_cases finished : remediation.status.isFinished = true
              · have one : Op.takes (.getOrCreateCallback remediation callbackUrl)
                    (.ok (⟨c.store.nextId, remediation.id, callbackUrl⟩, true)) =
                      [c.store.nextId] := if_pos finished
                have mine' : dues i history' = [c.store.nextId] ++ dues i c.history :=
                  mine.trans (congrArg (· ++ dues i c.history) one)
                have takes' : taken history' = [c.store.nextId] ++ taken c.history :=
                  takes.trans (congrArg (· ++ taken c.history) one)
                refine registered.take mine' others takes' (List.nodup_singleton _) ?_ ?_
                · intro id member isTaken
                  obtain rfl := List.mem_singleton.mp member
                  exact lt_irrefl _ (chain.takenFresh _ isTaken)
                · intro id member
                  obtain rfl := List.mem_singleton.mp member
                  exact Nat.lt_succ_self _
              · have none : Op.takes (.getOrCreateCallback remediation callbackUrl)
                    (.ok (⟨c.store.nextId, remediation.id, callbackUrl⟩, true)) = [] :=
                  if_neg finished
                -- One that had read it unfinished leaves the callback to the run.
                refine registered.frame (fun j => ?_) (takes.trans ?_) rfl rfl le_rfl
                · by_cases same : j = i
                  · subst same
                    exact mine.trans (congrArg (· ++ dues j c.history) none)
                  · exact others j same
                · exact congrArg (· ++ taken c.history) none
        | enqueueWebhook callback =>
            refine chain.notify permitted mine others takes ?_
            cases execute_effect executed with
            | notified => exact .inl rfl
            | unchanged => exact .inr rfl
        | _ => exact minds trivial rfl
    | kill i =>
        obtain ⟨_, -, rfl⟩ := Machine.next_kill_eq moved
        exact chain.frame (fun _ => rfl) rfl rfl rfl le_rfl
    | env elapsed =>
        obtain rfl := Machine.next_env_eq moved
        exact chain.frame (fun _ => rfl) rfl rfl rfl le_rfl

end Runs

/-- **At most one chain per callback**, where every list of callbacks finds only callbacks that
no run has listed before and no submit that had read the attempt as finished has registered:
no first notification is queued twice.

Whoever may notify a callback takes it, once: a run by listing it, a submit by registering it on
a finished attempt.  The invariant `OneChain` says that nobody takes what is taken. -/
theorem one_chain_per_callback (settings : Settings) (acceptsUrl : String → Bool)
    (retryFloor : Option String) (c : Cluster)
    (reached : (system settings acceptsUrl).Reach (listsUntaken · ·) (deployed retryFloor) c) :
    c.store.webhookTasks.Nodup :=
  (reach_oneChain reached).queued

/-- No thread is killed. -/
def noCrash (_ : Cluster) : Choice → Bool
  | .kill _ => false
  | _ => true

/-- An attempt is submitted with a callback and run to its end. -/
def notifiedOnce : List Choice :=
  [.spawn (.request .noLimits .notifying)] ++ steps 0 10 ++ [.spawn (.run 0)] ++ steps 1 15

/-- The callback of that schedule is notified, and not twice. -/
theorem one_chain_per_callback_notified_once :
    ∃ c : Cluster, c.store.webhookTasks.length = 1 ∧ c.store.webhookTasks.Nodup := by
  obtain ⟨c, reached, one⟩ := Machine.exists_reach_of_replay
    (system .stepsOff fun _ => true) listsUntaken (deployed none) notifiedOnce
    (fun c => c.store.webhookTasks.length = 1) (by decide +kernel)
  exact ⟨c, by simpa using one, one_chain_per_callback _ _ none c reached⟩

/-- A submit reads an attempt as finished and registers its callback before the run
that finished the attempt lists the callbacks. -/
def registeredBetween : List Choice :=
  [.spawn (.request .noLimits .oneByte)] ++ steps 0 9 ++ [.spawn (.run 0)] ++ steps 1 13 ++
  [.spawn (.request .noLimits .notifying)] ++ steps 2 4 ++ steps 1 2

/-- That callback gets two chains, from the submit and from the run. -/
theorem callback_chained_twice :
    ¬ ∀ (settings : Settings) (acceptsUrl : String → Bool) (retryFloor : Option String)
      (c : Cluster), (system settings acceptsUrl).Reach (noCrash · ·) (deployed retryFloor) c →
        c.store.webhookTasks.Nodup := by
  intro claim
  obtain ⟨c, reached, twice⟩ := Machine.exists_reach_of_replay
    (system .stepsOff fun _ => true) noCrash (deployed none) registeredBetween
    (fun c => !decide c.store.webhookTasks.Nodup) (by decide +kernel)
  simp [claim _ _ none c reached] at twice

/-- Two runs of one attempt overlap: both list its callback. -/
def listedTwice : List Choice :=
  [.spawn (.request .noLimits .notifying)] ++ steps 0 10 ++
  [.spawn (.run 0)] ++ steps 1 1 ++ [.spawn (.run 0)] ++ steps 2 1 ++ steps 1 14 ++ steps 2 14

example : ((system .stepsOff fun _ => true).replay noCrash (deployed none) listedTwice).any
    (fun c => c.store.webhookTasks.length = 2 && !decide c.store.webhookTasks.Nodup) = true := by
  decide +kernel

end DicePipeline
