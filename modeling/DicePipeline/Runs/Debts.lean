import DicePipeline.Runs.Phases

/-!
# Who owes a callback its notification

A run owes every callback of its attempt a notification from the moment it marks
the attempt running until it has listed the callbacks, and afterwards owes the
ones on its list until it has notified them.  A submit owes one to the callback it
has just registered on an attempt that was finished when it was read.

`Owes` is that debt, read off the histories of the live threads.  `paid_or_owed`
says what one operation does to it: with a database that does not fail, a debt is
paid or stays owed by the same thread.
-/

namespace DicePipeline

open Interaction Program

/-! ## Submits -/

/-- The callback a submit owes a notification, once an operation has been
answered. -/
def advanceOwed : Option ℕ → (op : Op) → Except Exn op.Ans → Option ℕ
  | _, .getOrCreateCallback remediation _, .ok made =>
      if Prod.snd made && remediation.status.isFinished then
        some (RemediationCallback.id (Prod.fst made))
      else none
  | _, .enqueueWebhook _, _ => none
  | owed, _, _ => owed

/-- An operation that registers and notifies no callback. -/
def IgnoresCallbacks : Op → Prop
  | .getOrCreateCallback _ _ => False
  | .enqueueWebhook _ => False
  | _ => True

theorem advanceOwed_of_ignores {op : Op} (ignores : IgnoresCallbacks op) (owed : Option ℕ)
    (answer : Except Exn op.Ans) : advanceOwed owed op answer = owed := by
  cases op <;> first | rfl | exact ignores.elim

/-- What is left of a submit that has a subscription before it: `resolve` finds
or makes the attempt, and `rest` ignores callbacks. -/
def subscribing (resolve : Py (Remediation × Bool)) (callbackUrl : String)
    (rest : Remediation × Bool → Py (Option Response)) : Py (Option Response) :=
  resolve.bind fun made =>
    (CreateRemediationView.subscribe made.1 callbackUrl).bind fun _ => rest made

/-- What a submit still has to execute, by the callback it owes. -/
def Requesting : Option ℕ → Py (Option Response) → Prop
  | none, body => body.Only answered IgnoresCallbacks ∨
      ∃ resolve callbackUrl rest, resolve.Only answered IgnoresCallbacks ∧
        (∀ made, (rest made).Only answered IgnoresCallbacks) ∧
          body = subscribing resolve callbackUrl rest
  | some callback, body => ∃ next : Except Exn Unit → Py (Option Response),
      body = .call (Op.enqueueWebhook callback) next ∧
        ∀ answer, (next answer).Only answered IgnoresCallbacks

variable {settings : Settings} {acceptsUrl : String → Bool}

/-- The calls of `post` around the subscription. -/
theorem program_requesting (account : ServiceAccount) (upload : Upload) :
    Requesting none (Role.program settings acceptsUrl (.request account upload)) := by
  rw [Role.program, CreateRemediationView.post]
  cases found : limitFor account with
  | error exc => exact .inl trivial
  | ok limit =>
      simp only [CreateRemediationView.submit]
      cases RemediationUploadSerializer.isValid acceptsUrl upload with
      | error exc => exact .inl trivial
      | ok _ =>
          refine .inr ⟨RemediationService.getOrCreateFromUpload settings account.id upload
            (some (checkLimit limit)), upload.callbackUrl, fun made =>
              ((CreateRemediationView.queue settings made.1 made.2).bind fun remediation =>
                .done (.ok { statusCode := if made.2 then 201 else 200, remediation })).bind
                  fun response => .done (.ok (some response)), ?_, fun made => ?_, ?_⟩
          · refine (getOrCreate_only limit (limitFor_account found)).mono fun op ofUpload => ?_
            cases op <;> trivial
          · refine Only.bind (Only.bind ?_ fun _ => trivial) fun _ => trivial
            exact queue_only trivial (fun _ _ _ => trivial) (fun _ => trivial)
              (fun _ => trivial) _ _
          · simp only [bind_eq, Program.bind_assoc]
            rfl

section Follows

variable {op : Op} {next : Except Exn op.Ans → Py (Option Response)} {answer : Except Exn op.Ans}

/-- The subscription itself: it registers a callback, and notifies it at once if
the attempt was finished when it was read. -/
private theorem subscribe_follows {made : Remediation × Bool} {callbackUrl : String}
    {rest : Remediation × Bool → Py (Option Response)}
    (ignores : ∀ made, (rest made).Only answered IgnoresCallbacks)
    (isBody : .call op next = subscribing (.done (.ok made)) callbackUrl rest)
    (promised : answered op answer) :
    Requesting (advanceOwed none op answer) (next answer) := by
  by_cases noUrl : callbackUrl = ""
  · have isRest : (.call op next : Py _) = rest made := by
      rw [isBody]
      change (ite (callbackUrl = "") _ _ : Py Unit).bind _ = _
      rw [if_pos noUrl]
      rfl
    have only := ignores made
    rw [← isRest] at only
    rw [advanceOwed_of_ignores only.1]
    exact .inl (only.2 answer promised)
  · have isCall : (.call op next : Py _) = .call (Op.getOrCreateCallback made.1 callbackUrl)
        fun answer => ((Program.done answer : Py _).bind fun registered =>
          if registered.2 && made.1.status.isFinished then
            issue (.enqueueWebhook registered.1.id)
          else return ()).bind fun _ => rest made := by
      rw [isBody]
      change (ite (callbackUrl = "") _ _ : Py Unit).bind _ = _
      rw [if_neg noUrl]
      rfl
    cases isCall
    cases answer with
    | error exc => exact .inl trivial
    | ok registered =>
        obtain ⟨callback, created⟩ := registered
        change Requesting (if created && made.1.status.isFinished then some callback.id else none)
          ((ite ((created && made.1.status.isFinished) = true)
            (issue (.enqueueWebhook callback.id)) (pure ()) : Py Unit).bind fun _ => rest made)
        cases created && made.1.status.isFinished with
        | true =>
            refine ⟨_, rfl, fun answer => ?_⟩
            cases answer with
            | error exc => trivial
            | ok value => exact ignores made
        | false => exact .inl (ignores made)

/-- **One answer takes a submit from debt to debt.** -/
theorem Requesting.follows {owed : Option ℕ} (requesting : Requesting owed (.call op next))
    (promised : answered op answer) :
    Requesting (advanceOwed owed op answer) (next answer) := by
  cases owed with
  | some callback =>
      obtain ⟨next', isBody, ignores⟩ := requesting
      cases isBody
      exact .inl (ignores answer)
  | none =>
      rcases requesting with only | ⟨resolve, callbackUrl, rest, only, ignores, isBody⟩
      · rw [advanceOwed_of_ignores only.1]
        exact .inl (only.2 answer promised)
      · cases resolve with
        | done result =>
            cases result with
            | error exc => cases isBody
            | ok made => exact subscribe_follows ignores isBody promised
        | call op' next' =>
            change (.call op next : Py _) = .call op' _ at isBody
            cases isBody
            rw [advanceOwed_of_ignores only.1]
            exact .inr ⟨next' answer, callbackUrl, rest, only.2 answer promised, ignores, rfl⟩

end Follows

/-- The callback submit `i` owes a notification. -/
def owed (c : Cluster) (i : ℕ) : Option ℕ := Machine.observed advanceOwed none i c.history

/-- **A live submit is where its debt says.** -/
theorem request_owed {ok : Cluster → Choice → Prop} {retryFloor : Option String} {c : Cluster}
    (reached : (system settings acceptsUrl).Reach ok (deployed retryFloor) c) {i : ℕ}
    {thread : Thread Query Exn (Option Response) Role} (live : c.threads i = some thread)
    {account : ServiceAccount} {upload : Upload} (isRequest : thread.role = .request account upload) :
    Requesting (owed c i) thread.body := by
  have monitored := reached.monitored advanceOwed none
    (fun role owed body => ∀ account upload, role = .request account upload → Requesting owed body)
    (fun role s body started account upload isRequest => by
      subst isRequest
      rw [start_eq started]
      exact program_requesting account upload)
    (fun role owed op next world i s answer t requesting executed account upload isRequest =>
      (requesting account upload isRequest).follows (execute_answered executed))
  exact monitored.live i thread live account upload isRequest

/-! ## Runs -/

/-- Whether a run in that phase still owes the callback a notification. -/
def Phase.owes : Phase → ℕ → Bool
  | .working, _ => true
  | .notifying callbacks, callback => callback ∈ callbacks
  | _, _ => false

section Operation

variable {settings : Settings} {world : World} {i id : ℕ} {op : Op} {s t : Store}
variable {answer : Except Exn op.Ans} {next : Except Exn op.Ans → Py (Option Response)}

theorem Effect.webhookTasks (effect : Effect i s op t) {callback : ℕ}
    (member : callback ∈ s.webhookTasks) : callback ∈ t.webhookTasks := by
  cases effect with
  | notified => exact List.mem_cons_of_mem _ member
  | _ => exact member

/-- With a working database the queue takes the notification. -/
theorem execute_enqueueWebhook {callback : ℕ} {answer : Except Exn Unit}
    (healthy : world.database = none)
    (executed : execute settings world i (.enqueueWebhook callback) s = some (answer, t)) :
    answer = .ok () ∧ t.webhookTasks = callback :: s.webhookTasks := by
  simp only [execute, World.failure, healthy, Option.map_none, perform] at executed
  obtain ⟨rfl, rfl⟩ := Prod.mk.inj (Option.some.inj executed)
  exact ⟨rfl, rfl⟩

/-- With a working database the list has every callback of the attempt. -/
theorem execute_callbackIds {answer : Except Exn (List ℕ)} (healthy : world.database = none)
    (executed : execute settings world i (.callbackIds id) s = some (answer, t)) :
    ∃ callbacks, answer = .ok callbacks ∧
      ∀ callback ∈ s.callbacks, callback.remediation = id → callback.id ∈ callbacks := by
  simp only [execute, World.failure, healthy, Option.map_none, perform] at executed
  obtain ⟨rfl, -⟩ := Prod.mk.inj (Option.some.inj executed)
  refine ⟨_, rfl, fun callback member own => List.mem_map_of_mem ?_⟩
  exact List.mem_filter.mpr ⟨member, by simpa using own⟩

/-- Only a registration adds a callback. -/
theorem Effect.callbacks (effect : Effect i s op t) :
    t.callbacks = s.callbacks ∨
      ∃ remediation callbackUrl, op = .getOrCreateCallback remediation callbackUrl := by
  cases effect with
  | subscribed => exact .inr ⟨_, _, rfl⟩
  | _ => exact .inl rfl

/-- A registration found its callback, or made one that was not there. -/
theorem execute_getOrCreateCallback {remediation : Remediation} {callbackUrl : String}
    {answer : Except Exn (RemediationCallback × Bool)}
    (executed : execute settings world i (.getOrCreateCallback remediation callbackUrl) s =
      some (answer, t)) :
    (t = s ∧ ∀ callback, answer ≠ .ok (callback, true)) ∨
      answer = .ok (⟨s.nextId, remediation.id, callbackUrl⟩, true) ∧
        t = { s with
          callbacks := s.callbacks ++ [⟨s.nextId, remediation.id, callbackUrl⟩]
          nextId := s.nextId + 1 } ∧
        ∀ other ∈ s.callbacks,
          ¬(other.remediation = remediation.id ∧ other.callbackUrl = callbackUrl) := by
  cases answer with
  | error exc =>
      obtain rfl | impossible := execute_error executed
      · exact .inl ⟨rfl, fun callback made => by cases made⟩
      · cases impossible
  | ok made =>
      have performed := execute_ok executed
      simp only [perform] at performed
      split at performed
      · obtain ⟨same, rfl⟩ := Prod.mk.inj (Option.some.inj performed)
        cases same
        exact .inl ⟨rfl, fun callback made => by cases made⟩
      · rename_i absent
        split at performed
        · cases performed
        · obtain ⟨same, rfl⟩ := Prod.mk.inj (Option.some.inj performed)
          refine .inr ⟨same.symm, rfl, fun other member isSame => ?_⟩
          have differs := List.find?_eq_none.mp absent other member
          simp [isSame] at differs

namespace Phase

variable {phase : Phase} {callback : ℕ}

/-- A run that owes a notification has an operation left. -/
theorem Describes.call_of_owes {body : Py (Option Response)}
    (describes : Describes settings id phase body) (owes : phase.owes callback = true) :
    ∃ op next, body = .call op next := by
  cases phase with
  | working =>
      obtain ⟨remediation, rest, -, -, rfl⟩ := describes
      cases rest with
      | done result => exact ⟨_, _, rfl⟩
      | call op next => exact ⟨_, _, rfl⟩
  | notifying callbacks =>
      obtain ⟨result, rfl⟩ := describes
      cases callbacks with
      | nil => simp [Phase.owes] at owes
      | cons first rest => exact ⟨_, _, rfl⟩
  | _ => cases owes

/-- A run writes a final status only while it is working. -/
theorem Describes.save_working {fields : RemediationUpdate}
    {next : Except Exn Unit → Py (Option Response)}
    (describes : Describes settings id phase (.call (Op.saveRemediation id fields) next))
    (final : fields.status.isUnfinished = false) : phase = .working := by
  cases phase with
  | working => rfl
  | unread => cases describes.unread_op
  | starting =>
      obtain ⟨remediation, now, -, isBody⟩ := describes
      cases now with
      | none => cases isBody
      | some now =>
          change (.call (Op.saveRemediation id fields) next : Py _) =
            .call (Op.saveRemediation _ _) _ at isBody
          cases isBody
          cases final
  | notifying callbacks =>
      obtain ⟨result, isBody⟩ := describes
      cases callbacks with
      | nil => cases result <;> cases isBody
      | cons first rest => cases isBody
  | finished =>
      obtain ⟨result, isBody⟩ := describes
      cases isBody

/-- **A run pays a notification or goes on owing it.** -/
theorem Describes.pays {callback : RemediationCallback}
    (describes : Describes settings id phase (.call op next))
    (owes : phase.owes callback.id = true) (own : callback.remediation = id)
    (member : callback ∈ s.callbacks) (healthy : world.database = none)
    (executed : execute settings world i op s = some (answer, t)) :
    callback.id ∈ t.webhookTasks ∨ (phase.advance op answer).owes callback.id = true := by
  cases phase with
  | working =>
      obtain ⟨remediation, rest, own', only, isBody⟩ := describes
      cases rest with
      | done result =>
          change (.call op next : Py _) = .call (Op.callbackIds _) _ at isBody
          cases isBody
          obtain ⟨callbacks, rfl, all⟩ := execute_callbackIds healthy executed
          exact .inr (decide_eq_true (all callback member (own.trans own'.symm)))
      | call op' next' =>
          change (.call op next : Py _) = .call op' _ at isBody
          cases isBody
          have inPipeline : OfPipeline id op := only.1
          rw [advance_working (by rintro other rfl; exact inPipeline)]
          exact .inr rfl
  | notifying callbacks =>
      obtain ⟨result, isBody⟩ := describes
      cases callbacks with
      | nil => simp [Phase.owes] at owes
      | cons first rest =>
          change (.call op next : Py _) = .call (Op.enqueueWebhook _) _ at isBody
          cases isBody
          obtain ⟨rfl, tasks⟩ := execute_enqueueWebhook healthy executed
          rcases List.mem_cons.mp (of_decide_eq_true owes) with isFirst | later
          · exact .inl (by rw [tasks, isFirst]; exact List.mem_cons_self)
          · exact .inr (decide_eq_true later)
  | _ => cases owes

end Phase

/-- A submit pays the notification it owes with its next operation. -/
theorem Requesting.pays {callback : ℕ} (requesting : Requesting (some callback) (.call op next))
    (healthy : world.database = none)
    (executed : execute settings world i op s = some (answer, t)) :
    callback ∈ t.webhookTasks := by
  obtain ⟨next', isBody, -⟩ := requesting
  cases isBody
  obtain ⟨-, tasks⟩ := execute_enqueueWebhook healthy executed
  rw [tasks]
  exact List.mem_cons_self

/-- A submit that owes a notification has an operation left. -/
theorem Requesting.call_of_owed {callback : ℕ} {body : Py (Option Response)}
    (requesting : Requesting (some callback) body) : ∃ op next, body = .call op next := by
  obtain ⟨next, rfl, -⟩ := requesting
  exact ⟨_, _, rfl⟩

end Operation

end DicePipeline
