import DicePipeline.Remediation.Footprints
import DicePipeline.System

/-!
# How far a run has got

A run of `process_remediation` reads its attempt, returns early or marks it
running, works through the pipeline, lists the callbacks, and notifies them one
by one.  Each of these phases is visible in the answers the run has received, so
`Phase` is a monitor of its history, and `run_phase` says which program a live
run still has to execute in each phase.

`footprint` is the other thing every proof about interleavings needs to know of
a live thread: the operation it is about to issue is one its role may issue.
-/

namespace DicePipeline

open Interaction Program

/-- How far a run of the task is. -/
inductive Phase where
  /-- It has not read its attempt. -/
  | unread
  /-- The attempt was unfinished when it was read, and is to be marked running. -/
  | starting
  /-- Inside the `try` statement. -/
  | working
  /-- The callbacks are listed, and these are still to be notified. -/
  | notifying (callbacks : List ℕ)
  /-- It returned early, or an operation outside the `try` statement raised. -/
  | finished
  deriving DecidableEq

namespace Phase

/-- The phase once an operation has been answered. -/
def advance : Phase → (op : Op) → Except Exn op.Ans → Phase
  | .unread, .getRemediation _, .ok row =>
      if JobStatus.isFinished (Remediation.status row) then .finished else .starting
  | .unread, .getRemediation _, .error _ => .finished
  | .starting, .now, .error _ => .finished
  | .starting, .saveRemediation _ _, .ok _ => .working
  | .starting, .saveRemediation _ _, .error _ => .finished
  | .working, .callbackIds _, .ok ids => .notifying ids
  | .working, .callbackIds _, .error _ => .finished
  | .notifying (_ :: rest), .enqueueWebhook _, .ok _ => .notifying rest
  | .notifying (_ :: _), .enqueueWebhook _, .error _ => .finished
  | phase, _, _ => phase

/-- Only the list of callbacks ends the work. -/
theorem advance_working {op : Op} (other : ∀ id, op ≠ .callbackIds id)
    (answer : Except Exn op.Ans) : advance .working op answer = .working := by
  cases op <;> first | rfl | exact absurd rfl (other _)

end Phase

/-- `mark_running`, and what is left of it once the time has been read. -/
def marking (remediation : Remediation) : Option ℕ → Py Unit
  | none => RemediationService.markRunning remediation
  | some now =>
      issue (.saveRemediation remediation.id { status := .running, startedAt := some now })

/-- The rest of a run that has `rest` of the pipeline before it. -/
def closing (remediation : Remediation) (rest : Py Unit) : Py (Option Response) :=
  (rest.ensure (notifyCallbacks remediation)).bind fun _ => .done (.ok none)

/-- The rest of a run whose pipeline ended in `result`, once the callbacks are
listed. -/
def notifications (callbacks : List ℕ) (result : Except Exn Unit) : Py (Option Response) :=
  ((enqueueWebhooks callbacks).bind fun _ => .done result).bind fun _ => .done (.ok none)

variable {settings : Settings} {acceptsUrl : String → Bool}

/-- What a run of attempt `id` still has to execute in each phase. -/
def Phase.Describes (settings : Settings) (id : ℕ) : Phase → Py (Option Response) → Prop
  | .unread, body => body = (processRemediation settings id).bind fun _ => .done (.ok none)
  | .starting, body => ∃ remediation now, remediation.id = id ∧
      body = (marking remediation now).bind fun _ =>
        closing remediation (runPipeline settings remediation)
  | .working, body => ∃ remediation rest, remediation.id = id ∧
      rest.Only answered (OfPipeline id) ∧ body = closing remediation rest
  | .notifying callbacks, body => ∃ result, body = notifications callbacks result
  | .finished, body => ∃ result, body = .done result

namespace Phase

variable {id : ℕ} {op : Op} {next : Except Exn op.Ans → Py (Option Response)}

/-- A run that has not read its attempt is about to. -/
theorem Describes.unread_op (describes : Describes settings id .unread (.call op next)) :
    op = .getRemediation id :=
  (Program.call.inj (S := Query) describes).1

/-- **One answer takes a run from phase to phase.** -/
theorem Describes.follows {phase : Phase}
    (describes : Describes settings id phase (.call op next)) {answer : Except Exn op.Ans}
    (promised : answered op answer) :
    Describes settings id (phase.advance op answer) (next answer) := by
  cases phase with
  -- In each phase the operation is known, and so is what is left to do after either answer.
  | unread =>
      change (.call op next : Py _) = .call (Op.getRemediation id) _ at describes
      cases describes
      cases answer with
      | error exc => exact ⟨_, rfl⟩
      | ok row =>
          change Describes settings id (if JobStatus.isFinished (Remediation.status row) then _ else _)
            ((ite (JobStatus.isFinished (Remediation.status row) = true) _ _ : Py Unit).bind _)
          split
          · exact ⟨_, rfl⟩
          · exact ⟨row, none, promised, Program.bind_assoc _ _ _⟩
  | starting =>
      obtain ⟨remediation, now, own, isBody⟩ := describes
      cases now with
      | none =>
          change (.call op next : Py _) = .call Op.now _ at isBody
          cases isBody
          cases answer with
          | error exc => exact ⟨_, rfl⟩
          | ok now => exact ⟨remediation, some now, own, rfl⟩
      | some now =>
          change (.call op next : Py _) = .call (Op.saveRemediation _ _) _ at isBody
          cases isBody
          cases answer with
          | error exc => exact ⟨_, rfl⟩
          | ok value => exact ⟨remediation, _, own, runPipeline_only own, rfl⟩
  | working =>
      obtain ⟨remediation, rest, own, only, isBody⟩ := describes
      cases rest with
      | done result =>
          change (.call op next : Py _) = .call (Op.callbackIds _) _ at isBody
          cases isBody
          cases answer with
          | error exc => exact ⟨_, rfl⟩
          | ok callbacks => exact ⟨result, rfl⟩
      | call op' next' =>
          change (.call op next : Py _) = .call op' _ at isBody
          cases isBody
          -- An operation of the pipeline lists no callbacks, so the run goes on working.
          have inPipeline : OfPipeline id op := only.1
          rw [advance_working (by rintro other rfl; exact inPipeline)]
          exact ⟨remediation, next' answer, own, only.2 answer promised, rfl⟩
  | notifying callbacks =>
      obtain ⟨result, isBody⟩ := describes
      cases callbacks with
      | nil => cases result <;> cases isBody
      | cons callback later =>
          change (.call op next : Py _) = .call (Op.enqueueWebhook _) _ at isBody
          cases isBody
          cases answer with
          | error exc => exact ⟨_, rfl⟩
          | ok value => exact ⟨result, rfl⟩
  | finished =>
      obtain ⟨result, isBody⟩ := describes
      cases isBody

end Phase

/-- The phase of run `i`. -/
def phase (c : Cluster) (i : ℕ) : Phase := Machine.observed Phase.advance .unread i c.history

/-- The operations a thread of a role may issue. -/
def Role.Footprint (settings : Settings) : Role → Op → Prop
  | .request account upload => OfSubmit settings account.id upload
  | .run remediationId => OfRun remediationId

theorem Role.program_only (role : Role) :
    (role.program settings acceptsUrl).Only answered (role.Footprint settings) := by
  cases role with
  | request account upload =>
      exact Only.bind (post_only settings acceptsUrl account upload) fun _ => trivial
  | run remediationId =>
      exact Only.bind (processRemediation_only settings remediationId) fun _ => trivial

/-- A thread that is no run of the attempt does not save it. -/
theorem saves_elsewhere {role : Role} {op : Op} {a : ℕ} (footprint : role.Footprint settings op)
    (other : role ≠ .run a) (fields : RemediationUpdate) : op ≠ .saveRemediation a fields := by
  rintro rfl
  cases role with
  | request account upload => exact footprint
  | run id => exact other (congrArg Role.run (footprint : a = id).symm)

section System

variable {ok : Cluster → Choice → Prop} {retryFloor : Option String} {c : Cluster} {i id : ℕ}
variable {thread : Thread Query Exn (Option Response) Role}

/-- **A live thread issues only what its role may issue.** -/
theorem footprint (reached : (system settings acceptsUrl).Reach ok (deployed retryFloor) c)
    (live : c.threads i = some thread) : thread.role.Footprint settings thread.op := by
  have only := reached.only (R := answered) (P := fun role => role.Footprint settings)
    (fun role s body started => by
      obtain rfl := start_eq started
      exact role.program_only)
    (fun _ _ _ _ _ _ executed => execute_answered executed) live
  exact only.1

/-- **A live run is where its phase says.** -/
theorem run_phase (reached : (system settings acceptsUrl).Reach ok (deployed retryFloor) c)
    (live : c.threads i = some thread) (isRun : thread.role = .run id) :
    (phase c i).Describes settings id thread.body := by
  have monitored := reached.monitored Phase.advance .unread
    (fun role phase body => ∀ id, role = .run id → phase.Describes settings id body)
    (fun role s body started id isRun => by
      subst isRun
      exact start_eq started)
    (fun role phase op next world i s answer t describes executed id isRun =>
      (describes id isRun).follows (execute_answered executed))
  exact monitored.live i thread live id isRun

end System

end DicePipeline
