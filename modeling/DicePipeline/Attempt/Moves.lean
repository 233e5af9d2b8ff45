import DicePipeline.Attempt.State

/-!
# What a run may do to its attempt

`Move` lists every way one operation of a run changes what is stored about its
attempt, each with what the run knows at that moment: that the attempt is still
unfinished, that the step it works on is not COMPLETED, and where the value it
writes comes from (`MayRecord`, `MaySave`).  Claims about histories of kills and
redeliveries are invariants of moves, and none of them looks at a program again.

`Consistent` is the invariant all of them rest on.  It ties artifact rows, verdict
rows and stored bytes together: a COMPLETED step hands on the original or the
object of a COMPLETED step, no object a COMPLETED step hands on is written again,
and the bytes a COMPLETED check hands on are the bytes it judged.
-/

namespace DicePipeline

open Interaction

/-- What each call of an adapter may answer. -/
abbrev Answers := (call : AdapterCall) → call.Result → Prop

/-- The work may end in that value, if the adapters answer as they may. -/
inductive Yields {α : Type} (answers : Answers) : Py α → α → Prop
  | done (value : α) : Yields answers (.done (.ok value)) value
  | call {call : AdapterCall} {next : Except Exn call.Result → Py α} {result : call.Result}
      {value : α} : answers call result → Yields answers (next (.ok result)) value →
      Yields answers (Program.call (S := Query) (Op.adapter call) next) value
  | caught {call : AdapterCall} {next : Except Exn call.Result → Py α} {exc : Exn} {value : α} :
      Yields answers (next (.error exc)) value →
      Yields answers (Program.call (S := Query) (Op.adapter call) next) value

/-- The verdict row is what `validate` answered about the file it remembers. -/
def VerificationResult.IsVerdict (answers : Answers) (result : VerificationResult) : Prop :=
  ∃ outcome, answers (.validate result.validated) outcome ∧
    result = VerificationService.resultOf result.validated outcome

/-- The object at `output` is what the work of a transform service makes of the
object at `input`. -/
def MadeFrom (answers : Answers) (job : Job) (service : TransformService) (s : Store)
    (input output : Uri) : Prop :=
  ∃ bytes file, s.objects input = some bytes ∧ s.objects output = some (LocalFile.bytes file) ∧
    ∀ row, job.Describes row → Yields answers (service.work row ⟨input.filename, bytes⟩) file

/-! ## Moves -/

section Moves

variable (settings : Settings) (answers : Answers) (admitted : Store → Op → Prop) (job : Job)

/-- The attempt is unfinished. -/
def Unfinished (s : Store) : Prop :=
  ∃ row, s.row job.id = some row ∧ row.status.isUnfinished = true

/-- No compliant verdict of precheck has ended the attempt. -/
def GoesOn (s : Store) : Prop :=
  ∀ uri result, s.completed job.id .precheck = some uri →
    s.results job.id .precheck = some result → VerificationResult.isCompliant result = false

/-- What a run may record of a step that is not COMPLETED. -/
inductive MayRecord (s : Store) (step : Step) : RemediationArtifact → Prop
  | incomplete {artifact : RemediationArtifact} :
      artifact.completedUri = none → MayRecord s step artifact
  | transformed {service : TransformService} {name : String} :
      settings.run step = true → service ∈ transformServices settings → service.step = step →
      MadeFrom answers job service s (s.input job step) (job.output step name) → GoesOn job s →
      MayRecord s step { status := .completed, outputUri := job.output step name }
  | judged {result : VerificationResult} :
      settings.run step = true → step.isCheck = true → s.results job.id step = some result →
      s.objects (s.input job step) = some result.validated.bytes →
      MayRecord s step { status := .completed, outputUri := s.input job step }
  | scored :
      settings.run step = true → step = .scoring →
      MayRecord s step { status := .completed, outputUri := s.input job step }

/-- What a run may write to the attempt's row while it is unfinished. -/
inductive MaySave (s : Store) (fields : RemediationUpdate) : Prop
  | began : fields.status = .running → MaySave s fields
  | compliant {step : Step} {uri : Uri} {result : VerificationResult} :
      fields.status = .compliant → fields.finalOutputUri = some uri → step.isCheck = true →
      s.completed job.id step = some uri → s.results job.id step = some result →
      result.isCompliant = true → MaySave s fields
  | noncompliant {uri : Uri} {result : VerificationResult} {failedRules : List FailedRule} :
      fields.status = .noncompliant →
      fields.finalOutputUri = some (s.input job .postcheck) →
      fields.error = some ("postcheck: " ++ formatFailureSummary failedRules) →
      s.completed job.id .postcheck = some uri → s.results job.id .postcheck = some result →
      result.isCompliant = false →
      result.failedRules.mapM FailedRuleDict.toRule = some failedRules → MaySave s fields
  | ended : fields.status = .error ∨ fields.status = .skipped → MaySave s fields

/-- **The ways one operation of a run changes what is stored about its attempt.** -/
inductive Move (s : Store) : Store → Prop
  | idle {t : Store} : LeftAlone job s t → Move s t
  | recorded {step : Step} {artifact : RemediationArtifact} :
      Unfinished job s → admitted s (.upsertArtifact job.id step artifact) →
      s.completed job.id step = none → MayRecord settings answers job s step artifact →
      Move s (s.setArtifact job.id step artifact)
  | judged {step : Step} {result : VerificationResult} :
      Unfinished job s → s.results job.id step = none → result.IsVerdict answers →
      Move s (s.setResult job.id step result)
  | scored {score : RemediationScore} :
      Unfinished job s → Move s (s.setScore job.id score)
  | wrote {step : Step} {name : String} {content : Option Bytes} :
      Unfinished job s → s.completed job.id step = none →
      Move s (s.setObject (job.output step name) content)
  | saved {row : Remediation} {fields : RemediationUpdate} :
      s.row job.id = some row → row.status.isUnfinished = true → MaySave job s fields →
      Move s (s.updateRow job.id fields.apply)

/-- The original, or what a COMPLETED step stored in its own directory. -/
def Rooted (s : Store) (uri : Uri) : Prop :=
  uri = job.source ∨
    ∃ step name, s.completed job.id step = some uri ∧ uri = job.output step name

/-- **The invariant of an attempt.** -/
structure Consistent (s : Store) : Prop where
  described : ∃ row, s.row job.id = some row ∧ job.Describes row
  enabled : ∀ step uri, s.completed job.id step = some uri → settings.run step = true
  rooted : ∀ step uri, s.completed job.id step = some uri → Rooted job s uri
  precheck : ∀ uri, s.completed job.id .precheck = some uri → uri = job.source
  checked : ∀ step uri, Step.isCheck step = true → s.completed job.id step = some uri →
    ∃ result, s.results job.id step = some result ∧
      s.objects uri = some result.validated.bytes
  verdicts : ∀ step result, s.results job.id step = some result → result.IsVerdict answers

end Moves

variable {settings : Settings} {answers : Answers} {admitted : Store → Op → Prop} {job : Job}
variable {s t : Store}

/-! ## Storage names that stay -/

namespace Rooted

variable {uri : Uri}

theorem owns (rooted : Rooted job s uri) : job.Owns uri := by
  rcases rooted with isSource | ⟨step, name, -, isOutput⟩
  · exact .inl isSource
  · exact .inr ⟨step, name, isOutput⟩

/-- The directory of a step that is not COMPLETED is elsewhere. -/
theorem ne_output (rooted : Rooted job s uri) {step : Step}
    (incomplete : s.completed job.id step = none) (name : String) : uri ≠ job.output step name := by
  rintro rfl
  rcases rooted with isSource | ⟨other, otherName, completed, same⟩
  · cases isSource
  · cases same
    rw [incomplete] at completed
    cases completed

/-- What is rooted stays so as long as no COMPLETED step is lost. -/
theorem mono (rooted : Rooted job s uri)
    (kept : ∀ step uri, s.completed job.id step = some uri → t.completed job.id step = some uri) :
    Rooted job t uri := by
  rcases rooted with isSource | ⟨step, name, completed, isOutput⟩
  · exact .inl isSource
  · exact .inr ⟨step, name, kept step uri completed, isOutput⟩

end Rooted

/-- What a run hands from step to step is rooted. -/
theorem Consistent.pdfUri_rooted (consistent : Consistent settings answers job s)
    (steps : List Step) : Rooted job s (s.pdfUri job.id steps job.source) := by
  rcases s.pdfUri_cases job.id steps job.source with isSource | ⟨step, -, completed⟩
  · exact .inl isSource
  · exact consistent.rooted step _ completed

/-- Precheck is handed the original. -/
@[simp] theorem input_precheck (s : Store) (job : Job) : s.input job .precheck = job.source := rfl

/-- No transform step is a check. -/
theorem transform_isCheck {service : TransformService}
    (member : service ∈ transformServices settings) : service.step.isCheck = false := by
  simp only [transformServices, List.mem_cons, List.not_mem_nil, or_false] at member
  rcases member with rfl | rfl | rfl | rfl | rfl <;> rfl

/-! ## The invariant along moves -/

namespace Consistent

theorem leftAlone (consistent : Consistent settings answers job s)
    (leftAlone : LeftAlone job s t) : Consistent settings answers job t where
  described := by
    obtain ⟨row, found, describes⟩ := consistent.described
    obtain ⟨enqueued, foundT⟩ := leftAlone.row row found
    exact ⟨_, foundT, describes.requeued enqueued⟩
  enabled step uri completed := consistent.enabled step uri (leftAlone.completed step ▸ completed)
  rooted step uri completed := by
    rw [leftAlone.completed] at completed
    refine (consistent.rooted step uri completed).mono fun other otherUri otherCompleted => ?_
    rw [leftAlone.completed]
    exact otherCompleted
  precheck uri completed := consistent.precheck uri (leftAlone.completed _ ▸ completed)
  checked step uri isCheck completed := by
    rw [leftAlone.completed] at completed
    obtain ⟨result, stored, judged⟩ := consistent.checked step uri isCheck completed
    refine ⟨result, by rw [leftAlone.results, stored], ?_⟩
    rw [leftAlone.objects uri (consistent.rooted step uri completed).owns, judged]
  verdicts step result stored := consistent.verdicts step result (leftAlone.results ▸ stored)

/-- Recording a step that was not COMPLETED keeps every COMPLETED step. -/
theorem completed_recorded {step other : Step} {artifact : RemediationArtifact} {uri : Uri}
    (incomplete : s.completed job.id step = none)
    (completed : s.completed job.id other = some uri) :
    (s.setArtifact job.id step artifact).completed job.id other = some uri := by
  rw [Store.completed_setArtifact_of_ne, completed]
  rintro rfl
  rw [incomplete] at completed
  cases completed

theorem recorded (consistent : Consistent settings answers job s) {step : Step}
    {artifact : RemediationArtifact} (incomplete : s.completed job.id step = none)
    (evidence : MayRecord settings answers job s step artifact) :
    Consistent settings answers job (s.setArtifact job.id step artifact) where
  described := consistent.described
  verdicts := consistent.verdicts
  enabled other uri completed := by
    -- Its own step: what it may record is what its evidence says; any other: as before.
    by_cases same : other = step
    · subst same
      rw [Store.completed_setArtifact] at completed
      cases evidence with
      | incomplete notCompleted =>
          rw [notCompleted] at completed
          cases completed
      | transformed enabled _ _ _ _ => exact enabled
      | judged enabled _ _ _ => exact enabled
      | scored enabled _ => exact enabled
    · rw [Store.completed_setArtifact_of_ne _ same] at completed
      exact consistent.enabled other uri completed
  rooted other uri completed := by
    -- A chain of completed steps stays one, as the step that is recorded had not completed.
    have kept : ∀ {uri}, Rooted job s uri → Rooted job (s.setArtifact job.id step artifact) uri :=
      fun rooted => rooted.mono fun _ _ => completed_recorded incomplete
    by_cases same : other = step
    · subst same
      have isOutput := completed
      rw [Store.completed_setArtifact] at completed
      cases evidence with
      | incomplete notCompleted =>
          rw [notCompleted] at completed
          cases completed
      | transformed _ _ _ _ _ =>
          cases completed
          exact .inr ⟨other, _, isOutput, rfl⟩
      | judged _ _ _ _ =>
          cases completed
          exact kept (consistent.pdfUri_rooted _)
      | scored _ _ =>
          cases completed
          exact kept (consistent.pdfUri_rooted _)
    · rw [Store.completed_setArtifact_of_ne _ same] at completed
      exact kept (consistent.rooted other uri completed)
  precheck uri completed := by
    -- Of the checks, only a judged one can be `PRECHECK`, and it hands its input on.
    by_cases same : Step.precheck = step
    · subst same
      rw [Store.completed_setArtifact] at completed
      cases evidence with
      | incomplete notCompleted =>
          rw [notCompleted] at completed
          cases completed
      | transformed _ member isStep _ _ =>
          have other := isStep ▸ transform_isCheck member
          cases other
      | judged _ _ _ _ =>
          cases completed
          rfl
      | scored _ isScoring => cases isScoring
    · rw [Store.completed_setArtifact_of_ne _ same] at completed
      exact consistent.precheck uri completed
  checked other uri isCheck completed := by
    by_cases same : other = step
    · subst same
      rw [Store.completed_setArtifact] at completed
      cases evidence with
      | incomplete notCompleted =>
          rw [notCompleted] at completed
          cases completed
      | transformed _ member isStep _ _ =>
          subst isStep
          rw [transform_isCheck member] at isCheck
          cases isCheck
      | @judged result _ _ stored judged =>
          cases completed
          exact ⟨result, stored, judged⟩
      | scored _ isScoring =>
          subst isScoring
          cases isCheck
    · rw [Store.completed_setArtifact_of_ne _ same] at completed
      exact consistent.checked other uri isCheck completed

theorem judged (consistent : Consistent settings answers job s) {step : Step}
    {result : VerificationResult} (absent : s.results job.id step = none)
    (isVerdict : result.IsVerdict answers) :
    Consistent settings answers job (s.setResult job.id step result) where
  described := consistent.described
  enabled := consistent.enabled
  rooted := consistent.rooted
  precheck := consistent.precheck
  checked other uri isCheck completed := by
    obtain ⟨previous, stored, judged⟩ := consistent.checked other uri isCheck completed
    refine ⟨previous, ?_, judged⟩
    rw [Store.setResult_results_of_ne, stored]
    rintro rfl
    rw [absent] at stored
    cases stored
  verdicts other previous stored := by
    by_cases same : other = step
    · subst same
      rw [Store.setResult_results] at stored
      cases stored
      exact isVerdict
    · rw [Store.setResult_results_of_ne _ same] at stored
      exact consistent.verdicts other previous stored

theorem scored (consistent : Consistent settings answers job s) (score : RemediationScore) :
    Consistent settings answers job (s.setScore job.id score) where
  described := consistent.described
  enabled := consistent.enabled
  rooted := consistent.rooted
  precheck := consistent.precheck
  checked := consistent.checked
  verdicts := consistent.verdicts

theorem wrote (consistent : Consistent settings answers job s) {step : Step}
    (incomplete : s.completed job.id step = none) (name : String) (content : Option Bytes) :
    Consistent settings answers job (s.setObject (job.output step name) content) where
  described := consistent.described
  enabled := consistent.enabled
  rooted := consistent.rooted
  precheck := consistent.precheck
  checked other uri isCheck completed := by
    obtain ⟨result, stored, judged⟩ := consistent.checked other uri isCheck completed
    refine ⟨result, stored, ?_⟩
    rw [Store.setObject_objects_of_ne, judged]
    exact (consistent.rooted other uri completed).ne_output incomplete name
  verdicts := consistent.verdicts

theorem saved (consistent : Consistent settings answers job s) (fields : RemediationUpdate) :
    Consistent settings answers job (s.updateRow job.id fields.apply) where
  described := by
    obtain ⟨row, found, describes⟩ := consistent.described
    exact ⟨_, Store.row_updateRow_self (fun _ => rfl) found, describes.apply fields⟩
  enabled := consistent.enabled
  rooted := consistent.rooted
  precheck := consistent.precheck
  checked := consistent.checked
  verdicts := consistent.verdicts

/-- **Every move keeps the invariant.** -/
theorem move (consistent : Consistent settings answers job s)
    (move : Move settings answers admitted job s t) : Consistent settings answers job t := by
  cases move with
  | idle leftAlone => exact consistent.leftAlone leftAlone
  | recorded _ _ incomplete evidence => exact consistent.recorded incomplete evidence
  | judged _ absent isVerdict => exact consistent.judged absent isVerdict
  | scored _ => exact consistent.scored _
  | wrote _ incomplete => exact consistent.wrote incomplete _ _
  | saved _ _ _ => exact consistent.saved _

end Consistent

/-! ## Claims about a finished attempt -/

/-- What is claimed of every attempt whose status is `status`. -/
def Concluded (job : Job) (status : JobStatus) (claim : Store → Remediation → Prop) (s : Store) :
    Prop :=
  ∀ row, s.row job.id = some row → row.status = status → claim s row

/-- **A claim about a final status is a claim about the save that writes it.** -/
theorem Concluded.move {status : JobStatus} {claim : Store → Remediation → Prop}
    (concluded : Concluded job status claim s) (isFinished : status.isFinished = true)
    (row : ∃ row, s.row job.id = some row)
    (stays : ∀ {t row} enqueued, LeftAlone job s t → s.row job.id = some row → claim s row →
      claim t { row with lastEnqueuedAt := enqueued })
    (saves : ∀ {row fields}, s.row job.id = some row → MaySave job s fields →
      fields.status = status → claim (s.updateRow job.id fields.apply) (fields.apply row))
    (move : Move settings answers admitted job s t) : Concluded job status claim t := by
  -- While anything but the row is written, the attempt is unfinished.
  have open_ : ∀ {u}, Unfinished job s → u.row job.id = s.row job.id →
      Concluded job status claim u := by
    rintro u ⟨row, found, unfinished⟩ same row' found' isStatus
    rw [same, found] at found'
    cases found'
    rw [isStatus, JobStatus.isUnfinished_eq, isFinished] at unfinished
    cases unfinished
  cases move with
  | idle leftAlone =>
      obtain ⟨row, found⟩ := row
      obtain ⟨enqueued, foundT⟩ := leftAlone.row row found
      intro row' found' isStatus
      rw [foundT] at found'
      cases found'
      exact stays enqueued leftAlone found (concluded row found isStatus)
  | recorded unfinished => exact open_ unfinished rfl
  | judged unfinished => exact open_ unfinished rfl
  | scored unfinished => exact open_ unfinished rfl
  | wrote unfinished => exact open_ unfinished rfl
  | @saved row fields found _ evidence =>
      intro row' found' isStatus
      rw [Store.row_updateRow_self fields.apply_id found] at found'
      cases found'
      exact saves found evidence isStatus

end DicePipeline
