import Mathlib.Tactic.SplitIfs
import DicePipeline.Attempt.State

/-!
# What an uninterrupted run leaves

With the settings fixed, and adapters that are functions of what they are
called with, everything a run of `process_remediation` stores about its attempt
is determined by the original it starts from.  `Plan` holds these givens, and
this module computes from them, without a store and without a program:

* `Plan.stepOutcome`: what one step leaves of the object it is handed, that is
  its artifact, its verdict or score, the object it writes, and how it ends;
* `Plan.progress`: where the run is after some of the steps, that is whether an
  exception has ended them, the `pdf_uri`, and the content found there;
* `Plan.ending`: the columns the attempt's row ends with.

A redelivered run recomputes some of it and finds the rest stored.  That both
come to the same is what the later modules prove.
-/

namespace DicePipeline

open Interaction

/-- The adapters and the vision client, as functions of what they are called with. -/
abbrev Adapters := (call : AdapterCall) → Except String call.Result

/-- What an adapter call ends in: a failing adapter raises an `AdapterError`. -/
def Adapters.ask (adapters : Adapters) (call : AdapterCall) : Except Exn call.Result :=
  (adapters call).mapError .other

/-- The same for every operation; only adapter calls are asked. -/
def Adapters.answer (adapters : Adapters) : (op : Op) → Except Exn op.Ans
  | .adapter call => adapters.ask call
  | _ => .error (.other "not an adapter call")

/-- How a program ends that only calls adapters. -/
def Adapters.evaluate (adapters : Adapters) {α : Type} : Py α → Except Exn α
  | .done result => result
  | .call op next => adapters.evaluate (next (adapters.answer op))

/-! ## One step -/

/-- What a step leaves.  `artifact` is `none` if the step ends before it is
marked, and `written` is the object of a COMPLETED transform. -/
structure StepOutcome where
  artifact : Option RemediationArtifact := none
  result : Option VerificationResult := none
  score : Option RemediationScore := none
  written : Option (String × Bytes) := none
  ended : Except Exn Uri

namespace StepOutcome

/-- `mark_failed`, and then however the step ends. -/
def failed (exc : Exn) (ended : Except Exn Uri) : StepOutcome where
  artifact := some { status := .failed, error := exc.message }
  ended := ended

/-- `record_skip`. -/
def skipped (step : Step) (pdfUri : Uri) : StepOutcome where
  artifact := some
    { status := .skipped, error := ArtifactService.settingName step ++ " is disabled" }
  ended := .ok pdfUri

/-- `mark_completed`, which raises if the storage name does not fit its column. -/
def complete (outcome : StepOutcome) (outputUri : Uri) : StepOutcome :=
  if outputUri.fits then
    { outcome with artifact := some { status := .completed, outputUri := outputUri } }
  else { outcome with artifact := none, written := none, ended := .error (.tooLong uriMaxLength) }

end StepOutcome

/-- `local_input_copy` of an object with that content. -/
def readInput (pdfUri : Uri) : Option Bytes → Except Exn LocalFile
  | some bytes => .ok ⟨pdfUri.filename, bytes⟩
  | none => .error (.other ("No such file or directory: " ++ pdfUri.text))

/-- A row of the attempt. -/
def Job.asRow (job : Job) : Remediation where
  id := job.id
  serviceAccount := job.serviceAccount
  status := .queued
  sourcePdfUri := job.source
  contentHash := job.contentHash
  originalFilename := job.originalFilename
  error := ""
  finalOutputUri := .blank
  pipelineVersion := ""
  createdAt := 0
  lastEnqueuedAt := none
  startedAt := none
  completedAt := none

/-- Everything a run of one attempt depends on. -/
structure Plan where
  settings : Settings
  adapters : Adapters
  job : Job
  /-- The content of the uploaded original, if it is there. -/
  content : Option Bytes
  /-- The `error` of the row before the first run. -/
  error : String

namespace Plan

variable (plan : Plan)

/-- A transform step. -/
def transformOutcome (service : TransformService) (pdfUri : Uri) (content : Option Bytes) :
    StepOutcome :=
  match readInput pdfUri content >>= fun file =>
    plan.adapters.evaluate (service.work plan.job.asRow file) with
  | .error exc => .failed exc (.ok pdfUri)
  | .ok output =>
      StepOutcome.complete
        { written := some (output.name, output.bytes)
          ended := .ok (plan.job.output service.step output.name) }
        (plan.job.output service.step output.name)

/-- The `try` block of a verification step. -/
def validated (pdfUri : Uri) (content : Option Bytes) :
    Except Exn (LocalFile × VerificationOutcome) := do
  let file ← readInput pdfUri content
  let outcome ← plan.adapters.ask (.validate file)
  return (file, outcome)

/-- How `handle_result` ends a verification step. -/
def handled (service : VerificationService) (pdfUri : Uri) (isCompliant : Bool)
    (failedRules : List FailedRule) : Except Exn Uri :=
  plan.adapters.evaluate ((service.handleResult isCompliant failedRules).bind fun _ =>
    pure pdfUri)

/-- A verification step. -/
def checkOutcome (service : VerificationService) (pdfUri : Uri) (content : Option Bytes) :
    StepOutcome :=
  match plan.validated pdfUri content with
  | .error exc =>
      .failed exc (plan.adapters.evaluate
        ((service.handleVerificationError exc.message).bind fun _ => pure pdfUri))
  | .ok (file, outcome) =>
      if verapdfVersionMaxLength < outcome.verapdfVersion.length then
        { ended := .error (.tooLong verapdfVersionMaxLength) }
      else
        StepOutcome.complete
          { result := some (VerificationService.resultOf file outcome)
            ended := plan.handled service pdfUri outcome.isCompliant outcome.failedRules }
          pdfUri

/-- The scoring step. -/
def scoreOutcome (pdfUri : Uri) (content : Option Bytes) : StepOutcome :=
  match readInput pdfUri content >>= fun file => plan.adapters.ask (.score file) with
  | .error exc => .failed exc (.ok pdfUri)
  | .ok result =>
      if scoreMax < result.score then { ended := .error (.dataError "smallint out of range") }
      else
        StepOutcome.complete
          { score := some ⟨result.score, result.grade, result.manualReviewItems⟩
            ended := .ok pdfUri }
          pdfUri

/-- **What a step leaves** that is handed `pdfUri` with that content. -/
def stepOutcome (step : Step) (pdfUri : Uri) (content : Option Bytes) : StepOutcome :=
  if plan.settings.run step then
    match step with
    | .precheck => plan.checkOutcome PrecheckService pdfUri content
    | .ocr => plan.transformOutcome OCRService pdfUri content
    | .fontRepair => plan.transformOutcome FontRepairService pdfUri content
    | .finalizeMetadata => plan.transformOutcome (MetadataService plan.settings) pdfUri content
    | .linkTag => plan.transformOutcome LinkService pdfUri content
    | .altText => plan.transformOutcome AltTextService pdfUri content
    | .scoring => plan.scoreOutcome pdfUri content
    | .postcheck => plan.checkOutcome PostCheckService pdfUri content
  else .skipped step pdfUri

/-! ## All steps -/

/-- Where a run is between two steps. -/
structure Progress where
  /-- Whether an exception has ended the steps. -/
  ended : Except Exn Unit
  pdfUri : Uri
  /-- What is stored at `pdfUri`. -/
  content : Option Bytes

/-- One step further. -/
def advance (progress : Progress) (step : Step) : Progress :=
  match progress.ended with
  | .error _ => progress
  | .ok () =>
      let outcome := plan.stepOutcome step progress.pdfUri progress.content
      match outcome.ended with
      | .error exc => { progress with ended := .error exc }
      | .ok pdfUri => ⟨.ok (), pdfUri, (outcome.written.map (·.2)) <|> progress.content⟩

/-- **Where an uninterrupted run is after those steps.** -/
def progress (steps : List Step) : Progress :=
  steps.foldl plan.advance ⟨.ok (), plan.job.source, plan.content⟩

/-- What an uninterrupted run leaves of a step, if it gets that far. -/
def outcome (step : Step) : Option StepOutcome :=
  match (plan.progress step.earlier).ended with
  | .error _ => none
  | .ok () =>
      some (plan.stepOutcome step (plan.progress step.earlier).pdfUri
        (plan.progress step.earlier).content)

/-- The step's artifact row. -/
def artifact (step : Step) : Option RemediationArtifact := (plan.outcome step).bind (·.artifact)

/-- The step's verdict row. -/
def result (step : Step) : Option VerificationResult := (plan.outcome step).bind (·.result)

/-- The score, if the step is the one that scores. -/
def score (step : Step) : Option RemediationScore := (plan.outcome step).bind (·.score)

/-- The object the step wrote. -/
def written (step : Step) : Option (String × Bytes) := (plan.outcome step).bind (·.written)

/-! ## The end -/

/-- The columns a finished row is given. -/
structure Ending where
  status : JobStatus
  finalOutputUri : Uri
  /-- `none`: the column is not written. -/
  error : Option String := none

/-- The `except` and `else` clauses of `process_remediation`. -/
def concluding : Except Exn Unit × Uri → Ending
  | (.error .alreadyCompliant, _) =>
      { status := .compliant, finalOutputUri := plan.job.source }
  | (.error (.notCompliant failedRules), pdfUri) =>
      { status := .noncompliant
        finalOutputUri := pdfUri
        error := some ("postcheck: " ++ (Exn.notCompliant failedRules).message) }
  | (.error (.postCheckUnavailable message), pdfUri) =>
      { status := .error, finalOutputUri := pdfUri, error := some ("postcheck: " ++ message) }
  | (.error exc, pdfUri) =>
      { status := .error, finalOutputUri := pdfUri, error := some exc.message }
  | (.ok (), pdfUri) =>
      { status := if plan.settings.run .postcheck then .compliant else .skipped
        finalOutputUri := pdfUri }

/-- **How the attempt's row ends.** -/
def ending : Ending :=
  plan.concluding ((plan.progress Step.order).ended, (plan.progress Step.order).pdfUri)

/-! ## Facts about the plan -/

variable {plan : Plan} {step : Step} {before : List Step} {uri pdfUri : Uri}
variable {content : Option Bytes}

theorem progress_append (before : List Step) (step : Step) :
    plan.progress (before ++ [step]) = plan.advance (plan.progress before) step := by
  simp [progress]

/-- A step whose turn comes has its outcome. -/
theorem outcome_of_ok (ok : (plan.progress step.earlier).ended = .ok ()) :
    plan.outcome step = some (plan.stepOutcome step (plan.progress step.earlier).pdfUri
      (plan.progress step.earlier).content) := by
  simp [outcome, ok]

/-- A step whose turn does not come leaves nothing. -/
theorem outcome_of_error {exc : Exn} (ended : (plan.progress step.earlier).ended = .error exc) :
    plan.outcome step = none := by
  simp [outcome, ended]

/-- After an exception the run goes no further. -/
theorem advance_of_error {progress : Progress} {exc : Exn} (ended : progress.ended = .error exc) :
    plan.advance progress step = progress := by
  simp [advance, ended]

/-- A step that raises ends the steps, and `pdf_uri` keeps its value. -/
theorem advance_raised {progress : Progress} {exc : Exn} (ok : progress.ended = .ok ())
    (raised : (plan.stepOutcome step progress.pdfUri progress.content).ended = .error exc) :
    plan.advance progress step = { progress with ended := .error exc } := by
  simp [advance, ok, raised]

/-- A step that returns hands on what it returned. -/
theorem advance_returned {progress : Progress} (ok : progress.ended = .ok ())
    (returned : (plan.stepOutcome step progress.pdfUri progress.content).ended = .ok uri) :
    plan.advance progress step = ⟨.ok (), uri,
      ((plan.stepOutcome step progress.pdfUri progress.content).written.map (·.2)) <|>
        progress.content⟩ := by
  simp [advance, ok, returned]

end Plan

/-! ## The shape of an outcome -/

section Shape

variable {adapters : Adapters} {α β : Type}

/-- A program that only calls adapters ends as its parts do. -/
theorem Adapters.evaluate_bind (p : Py α) (f : α → Py β) :
    adapters.evaluate (p.bind f) = (adapters.evaluate p).bind fun value =>
      adapters.evaluate (f value) := by
  induction p with
  | done result => cases result <;> rfl
  | call op next ih => exact ih (adapters.answer op)

/-- A program followed by `return value` returns nothing else. -/
theorem Adapters.evaluate_bind_pure {p : Py Unit} {uri pdfUri : Uri}
    (returned : adapters.evaluate (p.bind fun _ => pure pdfUri) = .ok uri) : uri = pdfUri := by
  rw [Adapters.evaluate_bind] at returned
  cases ended : adapters.evaluate p with
  | ok _ =>
      rw [ended] at returned
      exact (Except.ok.inj returned).symm
  | error exc =>
      rw [ended] at returned
      cases returned

namespace StepOutcome

variable {outcome : StepOutcome} {artifact : RemediationArtifact} {output pdfUri uri : Uri}
variable {job : Job} {step : Step}

/-- What a step hands on: its input, unless it has written an object of its own. -/
def HandsOn (job : Job) (step : Step) (pdfUri : Uri) (outcome : StepOutcome) : Prop :=
  ∀ uri, outcome.ended = .ok uri →
    uri = (outcome.written.map fun output => job.output step output.1).getD pdfUri

/-- A completed step hands on what it would hand on if every name fitted. -/
theorem HandsOn.complete (handsOn : outcome.HandsOn job step pdfUri) :
    (outcome.complete output).HandsOn job step pdfUri := by
  intro uri returned
  unfold StepOutcome.complete at returned ⊢
  split_ifs at returned ⊢
  exact handsOn uri returned

@[simp] theorem complete_artifact : (outcome.complete output).artifact =
    if output.fits then some { status := .completed, outputUri := output } else none := by
  unfold StepOutcome.complete
  split_ifs <;> rfl

@[simp] theorem complete_result : (outcome.complete output).result = outcome.result := by
  unfold StepOutcome.complete
  split_ifs <;> rfl

@[simp] theorem complete_score : (outcome.complete output).score = outcome.score := by
  unfold StepOutcome.complete
  split_ifs <;> rfl

@[simp] theorem complete_written : (outcome.complete output).written =
    if output.fits then outcome.written else none := by
  unfold StepOutcome.complete
  split_ifs <;> rfl

@[simp] theorem complete_ended : (outcome.complete output).ended =
    if output.fits then outcome.ended else .error (.tooLong uriMaxLength) := by
  unfold StepOutcome.complete
  split_ifs <;> rfl

end StepOutcome

namespace Plan

variable {plan : Plan} {step : Step} {pdfUri : Uri} {content : Option Bytes}

private theorem transformOutcome_handsOn (service : TransformService) :
    (plan.transformOutcome service pdfUri content).HandsOn plan.job service.step pdfUri := by
  unfold transformOutcome
  split
  · exact fun uri returned => (Except.ok.inj returned).symm
  · refine StepOutcome.HandsOn.complete fun uri returned => ?_
    exact (Except.ok.inj returned).symm

private theorem checkOutcome_handsOn (service : VerificationService) :
    (plan.checkOutcome service pdfUri content).HandsOn plan.job step pdfUri := by
  unfold checkOutcome
  split
  · exact fun uri returned => Adapters.evaluate_bind_pure returned
  · split_ifs
    · exact fun uri raised => nomatch raised
    · refine StepOutcome.HandsOn.complete fun uri returned => ?_
      exact Adapters.evaluate_bind_pure returned

private theorem scoreOutcome_handsOn :
    (plan.scoreOutcome pdfUri content).HandsOn plan.job step pdfUri := by
  unfold scoreOutcome
  split
  · exact fun uri returned => (Except.ok.inj returned).symm
  · split_ifs
    · exact fun uri raised => nomatch raised
    · refine StepOutcome.HandsOn.complete fun uri returned => ?_
      exact (Except.ok.inj returned).symm

/-- **Every step hands on its input or its own output.** -/
theorem stepOutcome_handsOn :
    (plan.stepOutcome step pdfUri content).HandsOn plan.job step pdfUri := by
  unfold stepOutcome
  split_ifs
  · cases step with
    | precheck => exact checkOutcome_handsOn PrecheckService
    | ocr => exact transformOutcome_handsOn OCRService
    | fontRepair => exact transformOutcome_handsOn FontRepairService
    | finalizeMetadata => exact transformOutcome_handsOn (MetadataService plan.settings)
    | linkTag => exact transformOutcome_handsOn LinkService
    | altText => exact transformOutcome_handsOn AltTextService
    | scoring => exact scoreOutcome_handsOn
    | postcheck => exact checkOutcome_handsOn PostCheckService
  · exact fun uri returned => (Except.ok.inj returned).symm

end Plan

end Shape

end DicePipeline
