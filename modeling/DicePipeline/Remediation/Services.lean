import DicePipeline.Remediation.Database

/-!
# The step services (`remediation/services.py`)

Each pipeline step is an `ArtifactService`: it runs at most once to completion
for an attempt, records how it ended on its own `RemediationArtifact`, and
hands a storage name to the next step.  `PIPELINE_STEPS` is the list of them.

The two verification services share one body and differ in what they make of a
verdict.  The five transform services share another and differ in the adapter
work between reading the input and storing the output.
-/

namespace DicePipeline

open Interaction

/-- `common.db.retry_on_lost_connection`.  A worker's writes are never inside a
transaction, so the connection can always be dropped and the write tried once
more. -/
def retryOnLostConnection {α : Type} (func : Py α) : Py α :=
  func.handle fun
    | .operationalError _ => func
    | exc => Program.raise exc

/-- A pipeline step's service.  `resumeCompleted` stands in for `_run` when the
step already completed for the attempt. -/
structure ArtifactService where
  step : Step
  _run : Remediation → Uri → Py Uri
  resumeCompleted : Remediation → Uri → Py Uri := fun _ outputUri => pure outputUri

namespace ArtifactService

/-- `setting_name`. -/
def settingName (step : Step) : String := "RUN_" ++ step.name

/-- `is_disabled`. -/
def isDisabled (settings : Settings) (step : Step) : Bool := !settings.run step

/-- `construct_output_dir`. -/
def constructOutputDir (remediation : Remediation) (step : Step) : String :=
  "remediations/" ++ toString remediation.serviceAccount ++ "/" ++
    remediation.contentHash ++ "/" ++ toString remediation.id ++ "/" ++ step.value ++ "/"

/-- `construct_output_dir(remediation) + os.path.basename(output_path)`. -/
def destUri (remediation : Remediation) (step : Step) (name : String) : Uri :=
  .output remediation.serviceAccount remediation.contentHash remediation.id step name

/-- The destination is the step's directory followed by the file name. -/
theorem destUri_text (remediation : Remediation) (step : Step) (name : String) :
    (destUri remediation step name).text = constructOutputDir remediation step ++ name := by
  rfl

/-- `local_input_copy`. -/
def localInputCopy (pdfUri : Uri) : Py LocalFile := do
  let bytes : Bytes ← issue (.storageOpen pdfUri)
  return ⟨pdfUri.filename, bytes⟩

/-- `persist_output`: deletes what is at the destination, then saves. -/
def persistOutput (output : LocalFile) (dest : Uri) : Py Uri := do
  let taken : Bool ← issue (.storageExists dest)
  if taken then
    issue (.storageDelete dest)
  issue (.storageSave dest output.bytes)

/-- `completed_output_uri`. -/
def completedOutputUri (remediation : Remediation) (step : Step) : Py (Option Uri) :=
  issue (.completedOutputUri remediation.id step)

/-- `_mark_status`. -/
def markStatus (remediation : Remediation) (step : Step)
    (artifact : RemediationArtifact) : Py Unit :=
  retryOnLostConnection (issue (.upsertArtifact remediation.id step artifact))

/-- `mark_completed`. -/
def markCompleted (remediation : Remediation) (step : Step) (outputUri : Uri) : Py Unit :=
  markStatus remediation step { status := .completed, outputUri := outputUri }

/-- `mark_skipped`. -/
def markSkipped (remediation : Remediation) (step : Step) (reason : String) : Py Unit :=
  markStatus remediation step { status := .skipped, error := reason }

/-- `mark_failed`. -/
def markFailed (remediation : Remediation) (step : Step) (error : String) : Py Unit :=
  markStatus remediation step { status := .failed, error := error }

/-- `record_skip`. -/
def recordSkip (remediation : Remediation) (step : Step) : Py Unit :=
  markSkipped remediation step (settingName step ++ " is disabled")

/-- `run`: the step's work, unless it already completed for this attempt. -/
def run (service : ArtifactService) (remediation : Remediation) (pdfUri : Uri) : Py Uri := do
  let existing ← completedOutputUri remediation service.step
  match existing with
  | some outputUri => service.resumeCompleted remediation outputUri
  | none => service._run remediation pdfUri

end ArtifactService

open ArtifactService

/-! ## Verification -/

/-- What the two verification services fix. -/
structure VerificationService where
  step : Step
  handleResult : Bool → List FailedRule → Py Unit
  handleVerificationError : String → Py Unit := fun _ => pure ()

namespace VerificationService

/-- `resume_completed`: replays the stored verdict. -/
def resumeCompleted (service : VerificationService) (remediation : Remediation)
    (outputUri : Uri) : Py Uri := do
  let previous : VerificationResult ← issue (.getVerificationResult remediation.id service.step)
  match previous.failedRules.mapM FailedRuleDict.toRule with
  | none => Program.raise (.other "not a valid Severity")
  | some failedRules =>
      service.handleResult previous.isCompliant failedRules
      return outputUri

/-- The `try` block: read the input and validate it.  The file is returned
along with the outcome so that the result row can remember it. -/
def validate (pdfUri : Uri) : Py (LocalFile × VerificationOutcome) := do
  let pdfPath ← localInputCopy pdfUri
  let outcome : VerificationOutcome ← issue (.adapter (.validate pdfPath))
  return (pdfPath, outcome)

/-- The `VerificationResult` row of an outcome. -/
def resultOf (file : LocalFile) (outcome : VerificationOutcome) : VerificationResult where
  isCompliant := outcome.isCompliant
  verapdfVersion := outcome.verapdfVersion
  failedRules := outcome.failedRules.map FailedRule.toDict
  validated := file

/-- `_run`. -/
def _run (service : VerificationService) (remediation : Remediation)
    (pdfUri : Uri) : Py Uri := do
  let validated ← (validate pdfUri).attempt
  match validated with
  | .error exc =>
      markFailed remediation service.step exc.message
      service.handleVerificationError exc.message
      return pdfUri
  | .ok (file, outcome) =>
      issue (.createVerificationResult remediation.id service.step (resultOf file outcome))
      markCompleted remediation service.step pdfUri
      service.handleResult outcome.isCompliant outcome.failedRules
      return pdfUri

/-- The service as a pipeline step. -/
def toStep (service : VerificationService) : ArtifactService where
  step := service.step
  _run := service._run
  resumeCompleted := service.resumeCompleted

end VerificationService

/-- `PrecheckService`. -/
def PrecheckService : VerificationService where
  step := .precheck
  handleResult isCompliant _ :=
    if isCompliant then Program.raise .alreadyCompliant else pure ()

/-- `PostCheckService`. -/
def PostCheckService : VerificationService where
  step := .postcheck
  handleResult isCompliant failedRules :=
    if isCompliant then pure () else Program.raise (.notCompliant failedRules)
  handleVerificationError error :=
    Program.raise (.postCheckUnavailable ("postcheck could not run: " ++ error))

/-! ## Transforms -/

/-- What the five transform services fix: the step, and what is done with the
local copy of the input to get a local output file. -/
structure TransformService where
  step : Step
  work : Remediation → LocalFile → Py LocalFile

namespace TransformService

/-- The `try` block: read the input, let the adapter work on it, store the
output. -/
def transform (service : TransformService) (remediation : Remediation) (pdfUri : Uri) :
    Py Uri := do
  let pdfPath ← localInputCopy pdfUri
  let output ← service.work remediation pdfPath
  persistOutput output (destUri remediation service.step output.name)

/-- `_run`. -/
def _run (service : TransformService) (remediation : Remediation) (pdfUri : Uri) :
    Py Uri := do
  let outcome ← (service.transform remediation pdfUri).attempt
  match outcome with
  | .error exc =>
      markFailed remediation service.step exc.message
      return pdfUri
  | .ok outputUri =>
      markCompleted remediation service.step outputUri
      return outputUri

/-- The service as a pipeline step. -/
def toStep (service : TransformService) : ArtifactService where
  step := service.step
  _run := service._run

end TransformService

/-- `OCRService`. -/
def OCRService : TransformService where
  step := .ocr
  work _ file := issue (.adapter (.extract file))

/-- `FontRepairService`. -/
def FontRepairService : TransformService where
  step := .fontRepair
  work _ file := issue (.adapter (.repairFonts file))

/-- `DEFAULT_TITLE`. -/
def defaultTitle : String := "Untitled document"

/-- `os.path.splitext(name)[0]`: the name up to its last dot, except that dots
the name starts with do not open an extension. -/
def splitextRoot (name : String) : String :=
  let leading := name.toList.takeWhile (· = '.')
  let rest := name.toList.dropWhile (· = '.')
  match (rest.reverse.dropWhile (· ≠ '.')) with
  | [] => name
  | _ :: root => String.ofList (leading ++ root.reverse)

/-- `_derive_title`. -/
def deriveTitle (remediation : Remediation) : String :=
  let stem := splitextRoot remediation.originalFilename
  if stem = "" then defaultTitle else stem

/-- `MetadataService`. -/
def MetadataService (settings : Settings) : TransformService where
  step := .finalizeMetadata
  work remediation file :=
    issue (.adapter (.finalize file (deriveTitle remediation) settings.languageCode))

/-- `LinkService`. -/
def LinkService : TransformService where
  step := .linkTag
  work _ file := issue (.adapter (.repairLinks file))

/-- The loop of `AltTextService._run` over the candidates. -/
def describeCandidates (documentTitle : String) :
    List FigureCandidate → AltByRef → Py AltByRef
  | [], altByRef => pure altByRef
  | candidate :: rest, altByRef =>
      if candidate.decorative then
        describeCandidates documentTitle rest (altByRef.set candidate.ref "")
      else do
        let text : String ← issue (.adapter (.describe candidate.imageBytes
          candidate.mediaType documentTitle candidate.pageNumber))
        describeCandidates documentTitle rest (altByRef.set candidate.ref text)

/-- `AltTextService`. -/
def AltTextService : TransformService where
  step := .altText
  work remediation file := do
    let candidates : List FigureCandidate ← issue (.adapter (.collectFigures file))
    let altByRef ← describeCandidates (deriveTitle remediation) candidates []
    issue (.adapter (.writeAltText file altByRef))

/-- The transform services, in pipeline order. -/
def transformServices (settings : Settings) : List TransformService :=
  [OCRService, FontRepairService, MetadataService settings, LinkService, AltTextService]

/-! ## Scoring, and the pipeline -/

/-- The `try` block of `ScoringService._run`. -/
def scoreFile (pdfUri : Uri) : Py ScoringResult := do
  let pdfPath ← localInputCopy pdfUri
  issue (.adapter (.score pdfPath))

/-- `ScoringService`. -/
def ScoringService : ArtifactService where
  step := .scoring
  _run remediation pdfUri := do
    let outcome ← (scoreFile pdfUri).attempt
    match outcome with
    | .error exc =>
        markFailed remediation .scoring exc.message
        return pdfUri
    | .ok result =>
        issue (.createScore remediation.id
          ⟨result.score, result.grade, result.manualReviewItems⟩)
        markCompleted remediation .scoring pdfUri
        return pdfUri

/-- `tasks.PIPELINE_STEPS`. -/
def pipelineSteps (settings : Settings) : List ArtifactService :=
  [PrecheckService.toStep, OCRService.toStep, FontRepairService.toStep,
    (MetadataService settings).toStep, LinkService.toStep, AltTextService.toStep,
    ScoringService, PostCheckService.toStep]

/-- Precheck, the transforms, scoring, postcheck. -/
theorem pipelineSteps_eq (settings : Settings) :
    pipelineSteps settings = PrecheckService.toStep ::
      (transformServices settings).map TransformService.toStep ++
        [ScoringService, PostCheckService.toStep] := rfl

end DicePipeline
