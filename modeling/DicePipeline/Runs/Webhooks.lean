import DicePipeline.Runs.Debts

/-!
# No callback goes without its notification

The worker lists the callbacks after it has committed the final status, and a
submit decides by the status it had read.  `Covered` is the invariant that ties
the two together: the attempt of a callback is unfinished, or the callback has
been notified, or a live thread owes it the notification (`Owes`).

Two steps break it.  A submit that read an unfinished attempt may register its
callback after the last run has listed them.  And a worker may be killed between
the final status and the last notification: the redelivered task finds the
attempt finished and returns.  `webhookCondition` excludes just these two, and
under it `no_lost_webhook` leaves no callback of a finished attempt without its
notification once nothing is pending for it.

### What is load-bearing

`registersInTime` asks for a run that is *working*: one that has marked the attempt
running and has not listed the callbacks.  A run that is live and has not read the
row yet is not enough, for it may find the attempt finished and return without a
look at the callbacks.  Nor is it enough that the submit will look again: it does
not, it goes by the status it read (`late_callback_is_lost`).
-/

namespace DicePipeline

open Interaction Program

/-! ## Debts -/

/-- Thread `i` has registered a callback on attempt `a`. -/
def registered (c : Cluster) (i a : ℕ) : Bool :=
  c.history.any fun event =>
    match event with
    | .answered j (.getOrCreateCallback remediation _) _ => j = i ∧ remediation.id = a
    | _ => false

/-- **Thread `i` is live and owes the callback a notification.** -/
inductive Owes (c : Cluster) (i : ℕ) (callback : RemediationCallback) : Prop
  | run {thread : Thread Query Exn (Option Response) Role} :
      c.threads i = some thread → thread.role = .run callback.remediation →
        (phase c i).owes callback.id = true → Owes c i callback
  | request {thread : Thread Query Exn (Option Response) Role} {account : ServiceAccount}
      {upload : Upload} :
      c.threads i = some thread → thread.role = .request account upload →
        owed c i = some callback.id → registered c i callback.remediation = true →
          Owes c i callback

/-- The attempt of the callback is unfinished, or the callback is notified. -/
def Settled (s : Store) (callback : RemediationCallback) : Prop :=
  (∃ row, s.row callback.remediation = some row ∧ row.status.isUnfinished = true) ∨
    callback.id ∈ s.webhookTasks

/-- Every callback that is not settled is owed a notification. -/
def Covered (c : Cluster) : Prop :=
  ∀ callback ∈ c.store.callbacks, Settled c.store callback ∨ ∃ i, Owes c i callback

/-! ## Notified at the end -/

/-- No live thread is a run of the attempt or has registered a callback on it. -/
def quiet (c : Cluster) (a : ℕ) : Prop :=
  ∀ i thread, c.threads i = some thread → thread.role ≠ .run a ∧ registered c i a = false

/-- Whether every killed run of the attempt was followed by another one. -/
def redelivered (a : ℕ) : List (Event Query Exn (Option Response) Role) → Bool
  | [] => true
  | .started _ role :: earlier => role = .run a || redelivered a earlier
  | .killed i :: earlier =>
      (!earlier.any fun event =>
        match event with
        | .started j role => j = i ∧ role = .run a
        | _ => false) && redelivered a earlier
  | .answered _ _ _ :: earlier => redelivered a earlier
  | .returned _ _ _ :: earlier => redelivered a earlier

/-- **No lost webhook.**  When an attempt is finished and nothing is pending for
it, each of its callbacks has been notified. -/
def NoLostWebhook (settings : Settings) (acceptsUrl : String → Bool)
    (retryFloor : Option String) (ok : Cluster → Choice → Prop) : Prop :=
  ∀ c a row, (system settings acceptsUrl).Reach ok (deployed retryFloor) c →
    c.store.row a = some row → row.status.isFinished = true → quiet c a →
      redelivered a c.history = true →
        ∀ callback ∈ c.store.callbacks, callback.remediation = a →
          callback.id ∈ c.store.webhookTasks

/-- The database does not fail, and only workers are killed. -/
def webhookAssumptions (c : Cluster) : Choice → Bool
  | .step _ world => world.database.isNone
  | .kill i => (c.threads i).all fun thread =>
      match thread.role with
      | .run _ => true
      | .request _ _ => false
  | _ => true

/-- A callback can be registered on the attempt as it was read: it was finished, and
the submit notifies by itself; or it still is not, and its run will; or a run of it
has marked it running and has yet to list the callbacks; or the callback is there
already. -/
def registersInTime (c : Cluster) (remediation : Remediation) (callbackUrl : String) : Prop :=
  remediation.status.isFinished = true ∨
  (∃ row, c.store.row remediation.id = some row ∧ row.status.isUnfinished = true) ∨
  (∃ j thread, c.threads j = some thread ∧ thread.role = .run remediation.id ∧
    phase c j = .working) ∨
  ∃ callback ∈ c.store.callbacks,
    callback.remediation = remediation.id ∧ callback.callbackUrl = callbackUrl

/-- **The condition.**  No callback is registered too late, and no worker is killed that alone
owes a notification.

Both parts are about the configuration before the step.  The second one asks of a kill that each
callback is settled, or owed by a live thread other than the victim. -/
def webhookCondition (c : Cluster) (choice : Choice) : Prop :=
  webhookAssumptions c choice = true ∧
    match choice with
    | .step i _ => ∀ thread remediation callbackUrl, c.threads i = some thread →
        thread.op = .getOrCreateCallback remediation callbackUrl →
          registersInTime c remediation callbackUrl
    | .kill i => ∀ callback ∈ c.store.callbacks,
        Settled c.store callback ∨ ∃ j, j ≠ i ∧ Owes c j callback
    | _ => True

/-! ## The invariant -/

section Steps

variable {settings : Settings} {acceptsUrl : String → Bool} {retryFloor : Option String}
variable {ok : Cluster → Choice → Prop} {c : Cluster} {i j : ℕ} {callback : RemediationCallback}
variable {thread : Thread Query Exn (Option Response) Role} {world : World}
variable {answer : Except Exn thread.op.Ans} {t : Store}

/-- What was registered stays registered. -/
theorem registered_mono {c' : Cluster} {a : ℕ}
    (kept : ∀ event ∈ c.history, event ∈ c'.history) (before : registered c j a = true) :
    registered c' j a = true := by
  obtain ⟨event, member, matched⟩ := List.any_eq_true.mp before
  exact List.any_eq_true.mpr ⟨event, kept event member, matched⟩

/-- A debt depends on the thread and what it has been answered. -/
theorem Owes.of_same {c' : Cluster} (owes : Owes c j callback)
    (sameThread : c'.threads j = c.threads j) (samePhase : phase c' j = phase c j)
    (sameOwed : owed c' j = owed c j) (kept : ∀ event ∈ c.history, event ∈ c'.history) :
    Owes c' j callback := by
  cases owes with
  | run live isRun owes =>
      exact .run (sameThread.trans live) isRun (by rw [samePhase, owes])
  | request live isRequest owes isRegistered =>
      exact .request (sameThread.trans live) isRequest (sameOwed.trans owes)
        (registered_mono kept isRegistered)

/-- A step leaves the debts of the other threads. -/
theorem Owes.stepped_of_ne (owes : Owes c j callback) (different : j ≠ i) :
    Owes (stepped c i thread answer t) j callback :=
  owes.of_same (stepped_threads_of_ne different)
    (observed_stepped.trans (if_neg (Ne.symm different)))
    (observed_stepped.trans (if_neg (Ne.symm different))) fun _ => mem_stepped_history

/-- So does the start of a new thread. -/
theorem Owes.spawned {role : Role} {body : Py (Option Response)} (owes : Owes c j callback)
    (used : j ≠ c.count) :
    Owes ({ c with
      count := c.count + 1
      history := .started c.count role :: c.history }.place c.count role body) j callback :=
  owes.of_same (Config.place_threads_of_ne _ _ _ used) (Machine.observed_place _ _ _ _ _)
    (Machine.observed_place _ _ _ _ _) fun _ member =>
      Config.mem_place_history _ _ _ _ (List.mem_cons_of_mem _ member)

/-- And a kill of another thread. -/
theorem Owes.killed {s : Store} (owes : Owes c j callback) (different : j ≠ i) :
    Owes { c with
      store := s
      threads := Function.update c.threads i none
      history := .killed i :: c.history } j callback :=
  owes.of_same (Function.update_of_ne different _ _) rfl rfl fun _ =>
    List.mem_cons_of_mem _

/-- The thread of a debt is live. -/
theorem Owes.live (owes : Owes c j callback) : ∃ thread, c.threads j = some thread := by
  cases owes with
  | run live _ _ => exact ⟨_, live⟩
  | request live _ _ _ => exact ⟨_, live⟩

/-- A working run owes every callback of its attempt, before and after its
step. -/
theorem Owes.stepped_run {id : ℕ} (isRun : thread.role = .run id)
    (own : callback.remediation = id)
    (describes : ((phase c i).advance thread.op answer).Describes settings id (thread.next answer))
    (owes : ((phase c i).advance thread.op answer).owes callback.id = true) :
    Owes (stepped c i thread answer t) i callback := by
  obtain ⟨op, next, isCall⟩ := describes.call_of_owes owes
  refine .run (stepped_live isCall) (isRun.trans (congrArg Role.run own.symm)) ?_
  rw [phase, observed_stepped, if_pos rfl]
  exact owes

/-- **A thread pays a notification with its step, or goes on owing it.** -/
theorem Owes.stepped_self
    (reached : (system settings acceptsUrl).Reach ok (deployed retryFloor) c)
    (live : c.threads i = some thread) (healthy : world.database = none)
    (executed : execute settings world i thread.op c.store = some (answer, t))
    (member : callback ∈ c.store.callbacks) (owes : Owes c i callback) :
    callback.id ∈ t.webhookTasks ∨ Owes (stepped c i thread answer t) i callback := by
  cases owes with
  | run live' isRun owes =>
      obtain rfl := Option.some.inj (live.symm.trans live')
      have describes := run_phase reached live isRun
      rcases describes.pays owes rfl member healthy executed with paid | owes'
      · exact .inl paid
      · exact .inr (.stepped_run isRun rfl (describes.follows (execute_answered executed)) owes')
  | request live' isRequest owes isRegistered =>
      obtain rfl := Option.some.inj (live.symm.trans live')
      have requesting := request_owed reached live isRequest
      rw [owes] at requesting
      exact .inl (requesting.pays healthy executed)

/-- A callback that is settled stays so, or a run that has just finished its
attempt owes it a notification. -/
theorem Settled.stepped
    (reached : (system settings acceptsUrl).Reach ok (deployed retryFloor) c)
    (live : c.threads i = some thread)
    (executed : execute settings world i thread.op c.store = some (answer, t))
    (settled : Settled c.store callback) :
    Settled t callback ∨ Owes (stepped c i thread answer t) i callback := by
  have effect := execute_effect executed
  rcases settled with ⟨row, found, unfinished⟩ | notified
  · rcases effect.row found with ⟨fields, isSave, found'⟩ | ⟨enqueued, found'⟩
    · cases final : fields.status.isUnfinished with
      | true => exact .inl (.inl ⟨_, found', final⟩)
      | false =>
          have isRun : thread.role = .run callback.remediation := by
            by_contra other
            exact saves_elsewhere (footprint reached live) other fields isSave
          have describes := run_phase reached live isRun
          obtain ⟨role, op, next⟩ := thread
          subst isSave
          have working := Phase.Describes.save_working describes final
          refine .inr (.stepped_run isRun rfl (describes.follows (execute_answered executed)) ?_)
          rw [working]
          rfl
    · exact .inl (.inl ⟨_, found', unfinished⟩)
  · exact .inl (.inr (effect.webhookTasks notified))

/-- **A callback that is registered in time is settled or owed at once.** -/
theorem registered_covered
    (reached : (system settings acceptsUrl).Reach ok (deployed retryFloor) c)
    (live : c.threads i = some thread)
    (executed : execute settings world i thread.op c.store = some (answer, t))
    (inTime : ∀ remediation callbackUrl,
      thread.op = .getOrCreateCallback remediation callbackUrl →
        registersInTime c remediation callbackUrl)
    (member : callback ∈ t.callbacks) (isNew : callback ∉ c.store.callbacks) :
    Settled t callback ∨ ∃ j, Owes (stepped c i thread answer t) j callback := by
  obtain ⟨role, op, next⟩ := thread
  rcases (execute_effect executed).callbacks with same | ⟨remediation, callbackUrl, isRegister⟩
  -- Only a registration makes callbacks, and only one that did not find the row.
  · exact absurd (same ▸ member) isNew
  · obtain rfl : op = .getOrCreateCallback remediation callbackUrl := isRegister
    rcases execute_getOrCreateCallback executed with ⟨rfl, -⟩ | ⟨answered, grown, absent⟩
    · exact absurd member isNew
    have isMade : callback = ⟨c.store.nextId, remediation.id, callbackUrl⟩ := by
      rw [grown] at member
      exact (List.mem_append.mp member).elim (fun old => absurd old isNew) List.mem_singleton.mp
    have own : callback.remediation = remediation.id :=
      congrArg RemediationCallback.remediation isMade
    rw [← isMade] at answered
    subst answered
    -- An attempt that is unfinished stays so under a registration: its run is still to come.
    have row_kept : ∀ row, c.store.row remediation.id = some row →
        row.status.isUnfinished = true → Settled t callback := by
      intro row found unfinished
      rw [← own] at found
      rcases (execute_effect executed).row found with ⟨fields, impossible, -⟩ | ⟨enqueued, found'⟩
      · cases impossible
      · exact .inl ⟨_, found', unfinished⟩
    -- The four ways of being in time: the submit had read a finished attempt, the row is
    -- unfinished, a working run has not listed yet, or the row was there before.
    rcases inTime remediation callbackUrl rfl with finished | ⟨row, found, unfinished⟩ |
        ⟨j, worker, workerLive, isRun, working⟩ | ⟨other, member, same⟩
    · -- The submit saw a finished attempt: it notifies the callback next.
      cases role with
      | run id => exact (footprint reached live : False).elim
      | request account upload =>
          have requesting := request_owed reached live rfl
          cases isOwed : owed c i with
          | some other =>
              rw [isOwed] at requesting
              obtain ⟨_, isNotify, -⟩ := requesting
              cases isNotify
          | none =>
              rw [isOwed] at requesting
              have requesting' : Requesting
                  (advanceOwed none (.getOrCreateCallback remediation callbackUrl)
                    (.ok (callback, true))) (next (.ok (callback, true))) :=
                requesting.follows (execute_answered executed)
              have owes : advanceOwed none (.getOrCreateCallback remediation callbackUrl)
                  (.ok (callback, true)) = some callback.id := by
                simp [advanceOwed, finished]
              rw [owes] at requesting'
              obtain ⟨op', next', isCall⟩ := requesting'.call_of_owed
              refine .inr ⟨i, .request (stepped_live isCall) rfl ?_ ?_⟩
              · exact (observed_stepped.trans (if_pos rfl)).trans
                  ((congrArg (fun owed => advanceOwed owed _ _) isOwed).trans owes)
              · refine List.any_eq_true.mpr ⟨.answered i _ _, Config.mem_place_history _ _ _ _
                  List.mem_cons_self, ?_⟩
                simp [own]
    · exact .inl (row_kept row found unfinished)
    -- The run that has not listed yet owes the callback, and it is not the submit.
    · refine .inr ⟨j, ?_⟩
      have different : j ≠ i := by
        rintro rfl
        obtain rfl := Option.some.inj (workerLive.symm.trans live)
        cases isRun
        exact (footprint reached live : False).elim
      refine Owes.stepped_of_ne (.run workerLive (by rw [isRun, own]) ?_) different
      rw [working]
      rfl
    · exact absurd same (absent other member)

/-- **Every callback is settled or owed.** -/
theorem covered
    (reached : (system settings acceptsUrl).Reach webhookCondition (deployed retryFloor) c) :
    Covered c := by
  refine reached.invariant Covered (fun callback member => (nomatch member)) ?_
  intro c choice c' before inv admitted moved
  cases choice with
  | spawn role =>
      obtain ⟨body, started, rfl⟩ := Machine.next_spawn_eq moved
      intro callback member
      rw [Config.place_store] at member ⊢
      rcases inv callback member with settled | ⟨j, owes⟩
      · exact .inl settled
      · refine .inr ⟨j, owes.spawned ?_⟩
        rintro rfl
        obtain ⟨thread, live⟩ := owes.live
        rw [fresh_thread before le_rfl] at live
        cases live
  | step i world =>
      obtain ⟨thread, answer, t, live, executed, rfl⟩ := step_eq moved
      -- No operation fails in this run, so who owes a callback can pay.
      have healthy : world.database = none := by simpa [webhookAssumptions] using admitted.1
      intro callback member
      rw [stepped_store] at member ⊢
      -- An old callback: settled, owed by the mover, or owed by somebody who has not moved.
      by_cases old : callback ∈ c.store.callbacks
      · rcases inv callback old with settled | ⟨j, owes⟩
        · rcases settled.stepped before live executed with settled' | owes
          · exact .inl settled'
          · exact .inr ⟨i, owes⟩
        · by_cases same : j = i
          · subst same
            rcases owes.stepped_self before live healthy executed old with paid | owes'
            · exact .inl (.inr paid)
            · exact .inr ⟨j, owes'⟩
          · exact .inr ⟨j, owes.stepped_of_ne same⟩
      · exact registered_covered before live executed
          (fun remediation callbackUrl => admitted.2 thread remediation callbackUrl live) member old
  | kill i =>
      obtain ⟨_, -, rfl⟩ := Machine.next_kill_eq moved
      intro callback member
      rcases admitted.2 callback member with settled | ⟨j, different, owes⟩
      · exact .inl settled
      · exact .inr ⟨j, owes.killed different⟩
  | env elapsed =>
      obtain rfl := Machine.next_env_eq moved
      intro callback member
      rcases inv callback member with settled | ⟨j, owes⟩
      · exact .inl settled
      · exact .inr ⟨j, owes.of_same rfl rfl rfl fun _ kept => kept⟩

end Steps

/-- **No lost webhook, under its condition.**  In every run in which callbacks are registered in
time, and no worker is killed that alone owes a notification, each callback of a finished
attempt with nothing pending has been enqueued.

The invariant is `Covered`: every callback is settled, because its attempt is unfinished or it
has been enqueued, or some live thread owes it.  A thread that ends owes nothing, so where no
thread is left every callback is settled. -/
theorem no_lost_webhook (settings : Settings) (acceptsUrl : String → Bool)
    (retryFloor : Option String) :
    NoLostWebhook settings acceptsUrl retryFloor webhookCondition := by
  intro c a row reached found finished isQuiet _ callback member own
  subst own
  rcases covered reached callback member with (⟨row', found', unfinished⟩ | notified) | ⟨i, owes⟩
  · obtain rfl := Option.some.inj (found.symm.trans found')
    rw [JobStatus.isUnfinished_eq, finished] at unfinished
    cases unfinished
  · exact notified
  · cases owes with
    | run live isRun _ => exact absurd isRun (isQuiet i _ live).1
    | request live _ _ isRegistered =>
        rw [(isQuiet i _ live).2] at isRegistered
        cases isRegistered

/-- Where no thread is left, nothing is pending for any attempt. -/
theorem quiet_of_idle {settings : Settings} {acceptsUrl : String → Bool}
    {retryFloor : Option String} {ok : Cluster → Choice → Prop} {c : Cluster}
    (reached : (system settings acceptsUrl).Reach ok (deployed retryFloor) c)
    (idle : ((List.range c.count).all fun i => (c.threads i).isNone) = true) (a : ℕ) :
    quiet c a := by
  intro i thread live
  have none : c.threads i = none := by
    by_cases used : i < c.count
    · simpa using List.all_eq_true.mp idle i (List.mem_range.mpr used)
    · exact fresh_thread reached (Nat.le_of_not_lt used)
  rw [none] at live
  cases live

/-- Nobody is killed, the database does not fail, and every callback is registered
while its attempt is unfinished. -/
def registersBefore (c : Cluster) : Choice → Bool
  | .step i world => world.database.isNone && (c.threads i).all fun thread =>
      match thread.op with
      | .getOrCreateCallback remediation _ =>
          (c.store.row remediation.id).any (·.status.isUnfinished)
      | _ => true
  | .kill _ => false
  | _ => true

theorem registersBefore_condition {c : Cluster} {choice : Choice}
    (before : registersBefore c choice = true) : webhookCondition c choice := by
  cases choice with
  | step i world =>
      obtain ⟨healthy, registers⟩ := Bool.and_eq_true_iff.mp before
      refine ⟨healthy, fun thread remediation callbackUrl live isRegister => ?_⟩
      rw [live, Option.all_some, isRegister] at registers
      exact .inr (.inl ((Option.any_eq_true _ _).mp registers))
  | kill i => cases before
  | spawn role => exact ⟨rfl, trivial⟩
  | env elapsed => exact ⟨rfl, trivial⟩

/-- The attempt is finished, no thread is left, and it has a callback. -/
def allEnded (c : Cluster) : Bool :=
  (c.store.row 0).any (·.status.isFinished) && redelivered 0 c.history &&
    (List.range c.count).all (fun i => (c.threads i).isNone) &&
    c.store.callbacks.any fun callback => callback.remediation = 0

/-- A submit registers its callback, and a run takes the attempt to its end. -/
theorem no_lost_webhook_in_time :
    ∃ (c : Cluster) (callback : RemediationCallback), callback ∈ c.store.callbacks ∧
      callback.remediation = 0 ∧ callback.id ∈ c.store.webhookTasks := by
  obtain ⟨c, reached, checked⟩ := Machine.exists_reach_of_replay
    (system .stepsOff fun _ => true) registersBefore (deployed none)
    ([.spawn (.request .noLimits .notifying)] ++ steps 0 10 ++ [.spawn (.run 0)] ++ steps 1 15)
    allEnded (by decide +kernel)
  simp only [allEnded, Bool.and_eq_true] at checked
  obtain ⟨⟨⟨isFinished, isRedelivered⟩, idle⟩, subscribed⟩ := checked
  obtain ⟨row, found, finished⟩ := (Option.any_eq_true _ _).mp isFinished
  obtain ⟨callback, member, own⟩ := List.any_eq_true.mp subscribed
  exact ⟨c, callback, member, of_decide_eq_true own,
    no_lost_webhook _ _ none c 0 row
      (reached.mono fun _ _ before => registersBefore_condition before) found finished
      (quiet_of_idle reached idle 0) isRedelivered callback member (of_decide_eq_true own)⟩

/-! ## A callback that is registered too late -/

/-- A second submit finds the attempt queued, a run takes it to its end and lists
the callbacks, and only then the submit registers its own. -/
def registeredLate : List Choice :=
  [.spawn (.request .noLimits .oneByte)] ++ steps 0 9 ++
  [.spawn (.request .noLimits (.oneByte false "https://a.example/hook"))] ++ steps 1 2 ++
  [.spawn (.run 0)] ++ steps 2 14 ++ steps 1 2

/-- The attempt is finished, no thread is left, and a callback of it has not been
notified. -/
def lostWebhook (c : Cluster) : Bool :=
  (c.store.row 0).any (·.status.isFinished) && redelivered 0 c.history &&
    (List.range c.count).all (fun i => (c.threads i).isNone) &&
    c.store.callbacks.any fun callback =>
      callback.remediation = 0 && callback.id ∉ c.store.webhookTasks

/-- Under the assumptions alone a callback can be lost. -/
theorem late_callback_is_lost :
    ¬ ∀ (settings : Settings) (acceptsUrl : String → Bool) (retryFloor : Option String),
      NoLostWebhook settings acceptsUrl retryFloor
        fun c choice => webhookAssumptions c choice = true := by
  intro claim
  obtain ⟨c, reached, checked⟩ := Machine.exists_reach_of_replay
    (system .stepsOff fun _ => true) webhookAssumptions (deployed none) registeredLate lostWebhook
    (by decide +kernel)
  simp only [lostWebhook, Bool.and_eq_true] at checked
  obtain ⟨⟨⟨isFinished, isRedelivered⟩, idle⟩, lost⟩ := checked
  obtain ⟨row, found, finished⟩ := (Option.any_eq_true _ _).mp isFinished
  obtain ⟨callback, member, isLost⟩ := List.any_eq_true.mp lost
  rw [Bool.and_eq_true, decide_eq_true_eq, decide_eq_true_eq] at isLost
  exact isLost.2 (claim _ _ _ c 0 row reached found finished (quiet_of_idle reached idle 0)
    isRedelivered callback member isLost.1)

end DicePipeline
