import DicePipeline.Interaction.Traces
import DicePipeline.Runs.Phases
import DicePipeline.Submission.Current

/-!
# Notifications of a finished job

The `finally` clause of `process_remediation` notifies the callbacks "once the row's final
status is already committed".  It runs on every exit, though, also on the one where the
final `mark_*` write is what failed.  `_mark_finished` is tried twice; if the second try
fails too, or the first one with anything but an `OperationalError`, the attempt is still
`RUNNING` when its callbacks are notified (`notified_while_running`).

`Closing` follows a run through these writes.  `run_closes` says that a run notifies only
after its final write has gone through or has failed for good, and that a run whose final
write has gone through does nothing but list and notify.  `notifies_finished` says that the
callbacks of an attempt are notified of a final status, where no final write of that
attempt fails for good.

### What is load-bearing

Both halves of `closingCondition` are.  Without `finalWritesCommit` a run notifies of the
attempt it has failed to finish (`notified_while_running`).  Without `noReopening` the
status a run has written may be `RUNNING` again by the time it notifies, because a run that
overlaps it marks the attempt running.  Each half looks at one attempt only: whatever
becomes of the writes of other attempts does not matter.
-/

namespace DicePipeline

open Interaction Program

/-! ## The final write -/

/-- What has become of the final write of a run. -/
inductive Closing where
  /-- It has not been tried. -/
  | pending
  /-- It has failed with an `OperationalError`, and is tried again. -/
  | retrying
  /-- The final status is written. -/
  | marked
  /-- It has failed for good. -/
  | failed
  deriving DecidableEq

/-- The answer to a try of the final write. -/
def Closing.tried {α : Type} : Closing → Except Exn α → Closing
  | .pending, .ok _ => .marked
  | .pending, .error (.operationalError _) => .retrying
  | .pending, .error _ => .failed
  | .retrying, .ok _ => .marked
  | .retrying, .error _ => .failed
  | x, _ => x

/-- Moves on by one answer to a run of attempt `id`. -/
def Closing.after (id : ℕ) (x : Closing) : (op : Op) → Except Exn op.Ans → Closing
  | .saveRemediation saved fields, answer =>
      if saved = id ∧ fields.status.isFinished = true then x.tried answer else x
  -- Reading the clock never fails.
  | .now, .error _ => .failed
  | _, _ => x

/-- A run lists and notifies its callbacks after its final write, and a run that has written its final status does nothing else.

The last line is what freezes an attempt for the run that finished it
(`Runs.Frozen`).  It says nothing of a run whose final write has failed: such a
run has left its attempt unfinished. -/
def Closing.Permits (x : Closing) : Op → Prop
  | .callbackIds _ => x = .marked ∨ x = .failed
  | .enqueueWebhook _ => x = .marked ∨ x = .failed
  | _ => x ≠ .marked

/-- The operation does not write the status of an attempt and is no look at the clock. -/
def MarksNothing : Op → Prop
  | .now => False
  | .saveRemediation _ _ => False
  | _ => True

theorem closing_after_of_marksNothing {op : Op} (marks : MarksNothing op) (id : ℕ) (x : Closing)
    (answer : Except Exn op.Ans) : x.after id op answer = x := by
  cases op <;> first | exact marks.elim | rfl

/-! ## The program -/

/-- Programs that follow the trace. -/
abbrev Closes {α : Type} (id : ℕ) (Q : Closing → Except Exn α → Prop) (p : Py α)
    (x : Closing) : Prop :=
  p.Tracks (Closing.after id) answered Closing.Permits Q x

section Programs

variable {settings : Settings} {id : ℕ} {x : Closing} {α : Type} {remediation : Remediation}

/-- Steps of the pipeline mark nothing. -/
theorem closes_of_step {p : Py α} (only : p.Only answered (OfStep id)) :
    Closes id (fun y _ => y = .pending) p .pending := by
  refine Only.tracks (I := fun y => y = Closing.pending) only rfl ?_
  rintro y op rfl ofStep
  have marks : MarksNothing op := by
    cases op <;> first | exact ofStep.elim | trivial
  refine ⟨?_, fun answer _ => closing_after_of_marksNothing marks id _ answer⟩
  cases op <;> first | exact ofStep.elim | exact Closing.noConfusion

/-- The final write has gone through or has failed for good. -/
def Closing.IsOver (x : Closing) : Prop := x = .marked ∨ x = .failed

/-- One try of the final write. -/
private theorem write_closes (own : remediation.id = id) {status : JobStatus}
    (final : status.isFinished = true) (uri : Uri) (error : Option String)
    {Q : Closing → Except Exn Unit → Prop}
    (written : x = .pending ∨ x = .retrying → Q .marked (.ok ()))
    (lost : ∀ message, x = .pending → Q .retrying (.error (.operationalError message)))
    (failed : ∀ r, Q .failed r) (known : x = .pending ∨ x = .retrying ∨ x = .failed) :
    Closes id Q (do
      let now : ℕ ← issue .now
      issue (.saveRemediation remediation.id
        { status := status
          completedAt := some now
          finalOutputUri := some uri
          error := error })) x := by
  have unmarked : x ≠ .marked := by
    rcases known with rfl | rfl | rfl <;> exact Closing.noConfusion
  refine ⟨unmarked, fun answer _ => ?_⟩
  cases answer with
  | error exc => exact failed _
  | ok now =>
    refine ⟨unmarked, fun answer _ => ?_⟩
    show Q (if remediation.id = id ∧ status.isFinished = true then x.tried answer else x) answer
    rw [if_pos ⟨own, final⟩]
    rcases known with rfl | rfl | rfl
    · cases answer with
      | ok _ => exact written (.inl rfl)
      | error exc =>
        cases exc with
        | operationalError message => exact lost message rfl
        | _ => exact failed _
    · cases answer with
      | ok _ => exact written (.inr rfl)
      | error exc => exact failed _
    · exact failed _

/-- `_mark_finished` with a final status: two tries at most. -/
private theorem markFinished_closes (own : remediation.id = id) {status : JobStatus}
    (final : status.isFinished = true) (uri : Uri) (error : Option String) :
    Closes id (fun y _ => y.IsOver)
      (RemediationService.markFinished remediation status uri error) .pending := by
  refine Tracks.attempt_bind (M := fun y r => y = .marked ∧ r = .ok () ∨ y = .failed ∨
    y = .retrying ∧ ∃ message, r = .error (.operationalError message)) ?_ ?_
  · exact write_closes own final uri error (fun _ => .inl ⟨rfl, rfl⟩)
      (fun message _ => .inr (.inr ⟨rfl, message, rfl⟩)) (fun _ => .inr (.inl rfl)) (.inl rfl)
  · intro r y known
    have isOver : (∀ message, r ≠ .error (.operationalError message)) → y.IsOver := by
      intro other
      rcases known with ⟨marked, -⟩ | failed | ⟨-, message, isLost⟩
      · exact .inl marked
      · exact .inr failed
      · exact absurd isLost (other message)
    cases r with
    | ok value => exact isOver (by simp)
    | error exc =>
      cases exc with
      | operationalError message =>
        -- The second try, after which there is no third.
        refine write_closes own final uri error (fun _ => .inl rfl) ?_ (fun _ => .inr rfl) ?_
        · rintro other rfl
          rcases known with ⟨impossible, -⟩ | impossible | ⟨impossible, -⟩ <;> cases impossible
        · rcases known with ⟨-, impossible⟩ | failed | ⟨retrying, -⟩
          · cases impossible
          · exact .inr (.inr failed)
          · exact .inr (.inl retrying)
      | _ => exact isOver (by simp)

/-- The `except` and `else` clauses all end in a final write. -/
private theorem conclude_closes (own : remediation.id = id) (ended : Except Exn Unit × Uri) :
    Closes id (fun y _ => y.IsOver) (conclude settings remediation ended) .pending := by
  obtain ⟨result, pdfUri⟩ := ended
  have raising : ∀ (uri : Uri) (error : String) (exc : Exn),
      Closes (α := Unit) id (fun y _ => y.IsOver)
        ((RemediationService.markError remediation error uri).bind fun _ => .done (.error exc))
        .pending :=
    fun uri error exc => Tracks.bind (markFinished_closes own rfl uri (some error))
      (fun _ _ isOver => isOver) fun _ _ isOver => isOver
  cases result with
  | ok _ =>
    rw [conclude]
    split
    · exact markFinished_closes own rfl _ _
    · exact markFinished_closes own rfl _ _
  | error exc =>
    cases exc <;> first
      | exact markFinished_closes own rfl _ _
      | exact raising _ _ _

private theorem enqueueWebhooks_closes (callbacks : List ℕ) (isOver : x.IsOver) :
    Closes id (fun _ _ => True) (enqueueWebhooks callbacks) x := by
  induction callbacks with
  | nil => trivial
  | cons callback rest ih =>
    refine ⟨isOver, fun answer _ => ?_⟩
    have marks : MarksNothing (.enqueueWebhook callback) := trivial
    rw [closing_after_of_marksNothing marks id x answer]
    cases answer with
    | ok _ => exact ih
    | error exc => trivial

/-- The loop over the steps returns, and leaves the final write to do. -/
private theorem runSteps_closes (own : remediation.id = id) (services : List ArtifactService)
    (members : ∀ service ∈ services, service ∈ pipelineSteps settings) (pdfUri : Uri) :
    Closes id (fun y r => y = .pending ∧ ∃ ended, r = .ok ended)
      (runSteps settings remediation services pdfUri) .pending := by
  induction services generalizing pdfUri with
  | nil => exact ⟨rfl, _, rfl⟩
  | cons service rest ih =>
    have later : ∀ service ∈ rest, service ∈ pipelineSteps settings :=
      fun other member => members other (List.mem_cons_of_mem _ member)
    rw [runSteps]
    split
    · refine Tracks.attempt_bind (closes_of_step (markStatus_only own _ _)) ?_
      rintro ended _ rfl
      cases ended with
      | ok _ => exact ih later pdfUri
      | error exc => exact ⟨rfl, _, rfl⟩
    · refine Tracks.attempt_bind (closes_of_step (run_only own service
        (members _ List.mem_cons_self) pdfUri)) ?_
      rintro ended _ rfl
      cases ended with
      | ok output => exact ih later output
      | error exc => exact ⟨rfl, _, rfl⟩

/-- `get` and `mark_running` come before the final write. -/
private theorem get_closes (id : ℕ) :
    Closes id (fun y r => y = .pending ∧ ∀ row, r = .ok row → row.id = id)
      (RemediationService.get id) .pending := by
  refine ⟨Closing.noConfusion, fun answer promised => ⟨?_, ?_⟩⟩
  · have marks : MarksNothing (.getRemediation id) := trivial
    exact closing_after_of_marksNothing marks id _ answer
  · rintro row rfl
    exact promised

private theorem markRunning_closes :
    Closes id (fun y r => ∀ value, r = .ok value → y = .pending)
      (RemediationService.markRunning remediation) .pending := by
  refine ⟨Closing.noConfusion, fun answer _ => ?_⟩
  cases answer with
  | error exc => rintro value ⟨⟩
  | ok now =>
    refine ⟨Closing.noConfusion, fun answer _ => ?_⟩
    rintro value rfl
    exact if_neg fun finishes => absurd finishes.2 Bool.false_ne_true

/-- **A run notifies after its final write**, whatever has become of it, and after
one that has gone through it does nothing else. -/
theorem run_closes (settings : Settings) (id : ℕ) :
    Closes id (fun _ _ => True) (processRemediation settings id) .pending := by
  refine Tracks.bind (get_closes id) ?_ fun _ _ _ => trivial
  rintro remediation _ ⟨rfl, known⟩
  have own := known remediation rfl
  split
  · trivial
  · refine Tracks.bind markRunning_closes ?_ fun _ _ _ => trivial
    intro value y isPending
    obtain rfl := isPending value rfl
    refine Tracks.attempt_bind (M := fun y _ => y.IsOver) ?_ fun result y isOver => ?_
    · refine Tracks.bind (runSteps_closes own _ (fun _ member => member) _) ?_ ?_
      · rintro ended y ⟨rfl, -⟩
        exact conclude_closes own ended
      · rintro exc y ⟨-, _, impossible⟩
        cases impossible
    · refine Tracks.bind (M := fun _ _ => True) ?_ (fun _ _ _ => trivial) fun _ _ _ => trivial
      have lists : MarksNothing (.callbackIds remediation.id) := trivial
      refine ⟨isOver, fun answer _ => ?_⟩
      cases answer with
      | ok callbacks =>
        have kept := closing_after_of_marksNothing lists remediation.id y (.ok callbacks)
        exact Eq.mpr (congrArg _ kept) (enqueueWebhooks_closes callbacks isOver)
      | error exc => trivial

end Programs

/-! ## Notifications of a final status -/

/-- What has become of the final write of attempt `id` in run `i`. -/
def finalWrite (c : Cluster) (id i : ℕ) : Closing :=
  Machine.observed (Closing.after id) .pending i c.history

/-- **Notifications go out for finished jobs.**  When a run is about to notify a callback,
the stored status of its attempt is final.  The condition may look at the attempt. -/
def NotifiesFinished (settings : Settings) (acceptsUrl : String → Bool)
    (retryFloor : Option String) (ok : ℕ → Cluster → Choice → Bool) : Prop :=
  ∀ c i thread id callback, (system settings acceptsUrl).Reach (ok id · ·) (deployed retryFloor) c →
    c.threads i = some thread → thread.role = .run id → thread.op = .enqueueWebhook callback →
      ∃ row, c.store.row id = some row ∧ row.status.isFinished = true

/-- A final write of the attempt fails only in its first try, and with an
`OperationalError`, which `_mark_finished` retries. -/
def finalWritesCommit (settings : Settings) (id : ℕ) (c : Cluster) : Choice → Bool
  | .step i world => (c.threads i).all fun thread =>
      match thread.op with
      | .saveRemediation saved fields => saved ≠ id || !fields.status.isFinished ||
          match execute settings world i (.saveRemediation saved fields) c.store with
          | some (.error (.operationalError _), _) => finalWrite c id i = .pending
          | some (.error _, _) => false
          | _ => true
      | _ => true
  | _ => true

/-- The operation does not save an unfinished status over the final one of the attempt. -/
def keepsFinal (id : ℕ) (s : Store) : Op → Bool
  | .saveRemediation saved fields => saved ≠ id || fields.status.isFinished ||
      (s.row id).all fun row => !row.status.isFinished
  | _ => true

/-- No `mark_running` of an overlapping run lands on the attempt once it has finished. -/
def noReopening (id : ℕ) : Cluster → Choice → Bool := operationsWhere fun _ s op => keepsFinal id s op

/-- **The condition** on the steps of a run of the system: what the final writes of the attempt
may fail with, and that nobody reopens it.

Both parts are about one attempt.  A final write may fail with the error that
`retry_on_lost_connection` retries, in its first try only; a `mark_running` on the attempt finds
it unfinished.  What befalls other attempts is left open. -/
def closingCondition (settings : Settings) (id : ℕ) (c : Cluster) (choice : Choice) : Bool :=
  noReopening id c choice && finalWritesCommit settings id c choice

/-! ## Runs of the system -/

section System

variable {settings : Settings} {acceptsUrl : String → Bool} {retryFloor : Option String}
variable {c : Cluster} {i id : ℕ} {op : Op} {s t : Store} {row : Remediation}

theorem noReopening_step {world : World} {thread : Thread Query Exn (Option Response) Role}
    (keeps : noReopening id c (.step i world) = true) (live : c.threads i = some thread) :
    keepsFinal id c.store thread.op = true := by
  have admitted := operationsWhere_step keeps live
  exact admitted

/-- A final status stays, where nothing is reopened. -/
theorem Effect.stays_finished (effect : Effect i s op t) (keeps : keepsFinal id s op = true)
    (found : s.row id = some row) (finished : row.status.isFinished = true) :
    ∃ row', t.row id = some row' ∧ row'.status.isFinished = true := by
  rcases effect.row found with ⟨fields, rfl, isRow⟩ | ⟨enqueued, isRow⟩
  · refine ⟨_, isRow, ?_⟩
    show fields.status.isFinished = true
    simpa [keepsFinal, found, finished] using keeps
  · exact ⟨_, isRow, finished⟩

/-- The final status a run has written is there, and no final write has failed for good. -/
def IsMarked (id : ℕ) (s : Store) (x : Closing) : Prop :=
  x ≠ .failed ∧ (x = .marked → ∃ row, s.row id = some row ∧ row.status.isFinished = true)

theorem finalWritesCommit_step {world : World} {fields : RemediationUpdate} {exc : Exn}
    {thread : Thread Query Exn (Option Response) Role}
    (commits : finalWritesCommit settings id c (.step i world) = true)
    (live : c.threads i = some thread) (isSave : thread.op = .saveRemediation id fields)
    (final : fields.status.isFinished = true)
    (failed : execute settings world i (.saveRemediation id fields) c.store =
      some (.error exc, t)) :
    finalWrite c id i = .pending ∧ ∃ message, exc = .operationalError message := by
  simp only [finalWritesCommit, live, Option.all_some, isSave, final, failed, ne_eq,
    not_true_eq_false, decide_false, Bool.not_true, Bool.false_or] at commits
  cases exc with
  | operationalError message => exact ⟨of_decide_eq_true commits, message, rfl⟩
  | _ => cases commits

/-- What the others do. -/
theorem IsMarked.kept {x : Closing} (marked : IsMarked id s x) (effect : Effect i s op t)
    (keeps : keepsFinal id s op = true) : IsMarked id t x := by
  refine ⟨marked.1, fun isMarked => ?_⟩
  obtain ⟨row, found, finished⟩ := marked.2 isMarked
  exact effect.stays_finished keeps found finished

/-- A try of the final write by the run itself. -/
theorem IsMarked.tried {x : Closing} {world : World} {fields : RemediationUpdate}
    {answer : Except Exn Unit} (marked : IsMarked id s x)
    (keeps : keepsFinal id s (.saveRemediation id fields) = true)
    (final : fields.status.isFinished = true)
    (executed : execute settings world i (.saveRemediation id fields) s = some (answer, t))
    (commits : ∀ exc, answer = .error exc →
      x = .pending ∧ ∃ message, exc = .operationalError message) :
    IsMarked id t (x.tried answer) := by
  have kept : IsMarked id t x := marked.kept (execute_effect executed) keeps
  cases answer with
  | ok value =>
    have written : IsMarked id t .marked := by
      refine ⟨Closing.noConfusion, fun _ => ?_⟩
      have performed := execute_ok executed
      simp only [perform] at performed
      split at performed
      · cases performed
      · rename_i row found
        have saved : t = s.updateRow id fields.apply := by
          repeat' split at performed
          all_goals cases performed
          all_goals rfl
        subst saved
        exact ⟨_, Store.row_updateRow_self (fun _ => rfl) found, final⟩
    cases x with
    | pending => exact written
    | retrying => exact written
    | marked => exact kept
    | failed => exact kept
  | error exc =>
    obtain ⟨rfl, message, rfl⟩ := commits exc rfl
    exact ⟨Closing.noConfusion, Closing.noConfusion⟩

/-- An operation of the run itself. -/
theorem IsMarked.step {x : Closing} {world : World} {answer : Except Exn op.Ans}
    (marked : IsMarked id s x) (keeps : keepsFinal id s op = true)
    (executed : execute settings world i op s = some (answer, t))
    (commits : ∀ fields exc, op = .saveRemediation id fields →
      fields.status.isFinished = true →
        execute settings world i (.saveRemediation id fields) s = some (.error exc, t) →
          x = .pending ∧ ∃ message, exc = .operationalError message) :
    IsMarked id t (x.after id op answer) := by
  have kept : IsMarked id t x := marked.kept (execute_effect executed) keeps
  have quiet : MarksNothing op → IsMarked id t (x.after id op answer) := by
    intro marks
    rw [closing_after_of_marksNothing marks]
    exact kept
  cases op with
  | now =>
    obtain ⟨rfl, rfl⟩ := Prod.mk.inj (Option.some.inj executed)
    exact marked
  | saveRemediation saved fields =>
    show IsMarked id t (if saved = id ∧ fields.status.isFinished = true then _ else _)
    split
    · rename_i finishes
      obtain ⟨rfl, final⟩ := finishes
      refine marked.tried keeps final executed fun exc isError => ?_
      subst isError
      exact commits fields exc rfl final executed
    · exact kept
  | _ => exact quiet trivial

/-- **The invariant.** -/
private theorem reach_isMarked
    (reached : (system settings acceptsUrl).Reach (closingCondition settings id · ·)
      (deployed retryFloor) c) (i : ℕ) : IsMarked id c.store (finalWrite c id i) := by
  refine reached.witnessed (Closing.after id) .pending (fun _ s x => IsMarked id s x)
    ?_ ?_ ?_ ?_ ?_ i
  · exact fun i => ⟨Closing.noConfusion, Closing.noConfusion⟩
  · intro c i world thread answer t _ live admitted executed marked
    obtain ⟨keeps, commits⟩ := Bool.and_eq_true_iff.mp admitted
    exact IsMarked.step marked (noReopening_step keeps live) executed
      fun fields exc isSave final failed =>
        finalWritesCommit_step commits live isSave final failed
  · intro c i j world thread answer t x _ live admitted executed _ marked
    obtain ⟨keeps, -⟩ := Bool.and_eq_true_iff.mp admitted
    exact marked.kept (execute_effect executed)
      (noReopening_step keeps live)
  · rintro i j s x marked
    refine ⟨marked.1, fun isMarked => ?_⟩
    obtain ⟨row, found, finished⟩ := marked.2 isMarked
    exact ⟨row, Store.row_endTransaction found i false, finished⟩
  · exact fun _ _ _ _ marked => marked

/-- **A live run issues only what its final write permits.** -/
theorem run_permits {ok : Cluster → Choice → Prop} {thread : Thread Query Exn (Option Response) Role}
    (reached : (system settings acceptsUrl).Reach ok (deployed retryFloor) c)
    (live : c.threads i = some thread) (isRun : thread.role = .run id) :
    (finalWrite c id i).Permits thread.op := by
  have tracked := (reached.tracked (Closing.after id) .pending answered
    (fun role x op => role = .run id → x.Permits op) (fun _ _ _ => True) ?_ ?_).live i thread live
  · exact tracked.1 isRun
  · intro role s body started
    obtain rfl := start_eq started
    by_cases isRun : role = .run id
    · subst isRun
      refine Tracks.bind ((run_closes settings id).weaken fun x op permits _ => permits)
        (fun _ _ _ => trivial) fun _ _ _ => trivial
    · exact tracks_of_forall (fun _ _ same => absurd same isRun) fun _ _ => trivial
  · exact fun _ _ _ _ _ _ executed => execute_answered executed

/-- **Notifications go out for finished jobs, under the condition.**  Where no final write
of the attempt fails for good, and no overlapping run reopens it, a run notifies only
when the stored status of its attempt is final. -/
theorem notifies_finished (settings : Settings) (acceptsUrl : String → Bool)
    (retryFloor : Option String) :
    NotifiesFinished settings acceptsUrl retryFloor (closingCondition settings) := by
  intro c i thread id callback reached live isRun notifies
  have isOver : (finalWrite c id i).IsOver := by
    have permits := run_permits reached live isRun
    rw [notifies] at permits
    exact permits
  have marked := reach_isMarked reached i
  rcases isOver with isMarked | failed
  · exact marked.2 isMarked
  · exact absurd failed marked.1

end System

/-! ## A final write that is lost -/

/-- The connection to the database is lost. -/
def World.disconnected : World :=
  { World.uneventful with database := some "terminating connection" }

/-- An attempt is submitted with a callback, and a run of it comes to its final write. -/
def upToFinalWrite : List Choice :=
  [.spawn (.request .noLimits .notifying)] ++ steps 0 10 ++ [.spawn (.run 0)] ++ steps 1 12

/-- A run is about to notify a callback, and the stored status is as `check` says. -/
def notifiesWhen (check : JobStatus → Bool) (c : Cluster) : Bool :=
  (c.threads 1).any (fun thread => thread.role = .run 0 &&
    match thread.op with
    | .enqueueWebhook _ => true
    | _ => false) && (c.store.row 0).any (check ·.status)

/-- What such a configuration says of the thread and the row. -/
theorem exists_notifying {check : JobStatus → Bool} {c : Cluster}
    (checked : notifiesWhen check c = true) :
    ∃ thread callback row, c.threads 1 = some thread ∧ thread.role = .run 0 ∧
      thread.op = .enqueueWebhook callback ∧ c.store.row 0 = some row ∧
        check row.status = true := by
  rw [notifiesWhen, Bool.and_eq_true] at checked
  obtain ⟨thread, live, notifies⟩ := (Option.any_eq_true _ _).mp checked.1
  obtain ⟨row, found, holds⟩ := (Option.any_eq_true _ _).mp checked.2
  rw [Bool.and_eq_true, decide_eq_true_eq] at notifies
  cases isOp : thread.op with
  | enqueueWebhook callback =>
    exact ⟨thread, callback, row, live, notifies.1, isOp, found, holds⟩
  | _ =>
    rw [isOp] at notifies
    cases notifies.2

/-- The first try of the final write is lost, and the second one goes through. -/
theorem notifies_finished_second_try :
    ∃ (c : Cluster) (row : Remediation), c.store.row 0 = some row ∧
      row.status.isFinished = true ∧ row.status = .skipped := by
  obtain ⟨c, reached, checked⟩ := Machine.exists_reach_of_replay
    (system .stepsOff fun _ => true) (closingCondition .stepsOff 0) (deployed none)
    (upToFinalWrite ++ [.step 1 .disconnected] ++ steps 1 3) (notifiesWhen (· = .skipped))
    (by decide +kernel)
  obtain ⟨thread, callback, row, live, isRun, notifies, found, skipped⟩ :=
    exists_notifying checked
  obtain ⟨row', found', finished⟩ :=
    notifies_finished _ _ none c 1 thread 0 callback reached live isRun notifies
  obtain rfl := Option.some.inj (found.symm.trans found')
  exact ⟨c, row, found, finished, of_decide_eq_true skipped⟩

/-- Both tries of the final write are lost: the callback is notified of a running job. -/
theorem notified_while_running :
    ¬ ∀ (settings : Settings) (acceptsUrl : String → Bool) (retryFloor : Option String),
      NotifiesFinished settings acceptsUrl retryFloor noReopening := by
  intro claim
  obtain ⟨c, reached, checked⟩ := Machine.exists_reach_of_replay
    (system .stepsOff fun _ => true) (noReopening 0) (deployed none)
    (upToFinalWrite ++ [.step 1 .disconnected] ++ steps 1 1 ++ [.step 1 .disconnected] ++
      steps 1 1) (notifiesWhen (· = .running)) (by decide +kernel)
  obtain ⟨thread, callback, row, live, isRun, notifies, found, running⟩ :=
    exists_notifying checked
  obtain ⟨row', found', finished⟩ := claim _ _ none c 1 thread 0 callback reached live isRun notifies
  obtain rfl := Option.some.inj (found.symm.trans found')
  rw [of_decide_eq_true running] at finished
  cases finished

end DicePipeline
