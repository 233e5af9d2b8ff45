import Mathlib.Data.Nat.Notation

/-!
# The records of the pipeline

The rows of `remediation/models.py`, the values the adapters exchange
(`remediation/adapters/base.py`), and the names storage objects have.

Every row keeps the columns a modelled function reads or writes.  A time is a
natural number: microseconds, the resolution of the database's timestamps.  A storage name is a
`Uri`: the code only ever builds three kinds of them, so the kinds are
constructors and `Uri.text` is the text the code writes.
-/

namespace DicePipeline

/-- The content of a file. -/
abbrev Bytes := List UInt8

/-- `models.JobStatus`. -/
inductive JobStatus where
  | queued
  | running
  | compliant
  | noncompliant
  | error
  | skipped
  deriving DecidableEq, Repr

/-- `models.FINISHED_STATUSES`: every status a job can end in. -/
def finishedStatuses : List JobStatus := [.compliant, .noncompliant, .error, .skipped]

/-- `models.UNFINISHED_STATUSES`: waiting or being worked on. -/
def unfinishedStatuses : List JobStatus := [.queued, .running]

/-- `status in FINISHED_STATUSES`. -/
def JobStatus.isFinished (status : JobStatus) : Bool := status ∈ finishedStatuses

/-- `status in UNFINISHED_STATUSES`. -/
def JobStatus.isUnfinished (status : JobStatus) : Bool := status ∈ unfinishedStatuses

/-- Every status is on exactly one of the two lists. -/
theorem JobStatus.isUnfinished_eq (status : JobStatus) :
    status.isUnfinished = !status.isFinished := by
  cases status <;> decide

/-- `RemediationArtifact.Step`. -/
inductive Step where
  | precheck
  | ocr
  | fontRepair
  | finalizeMetadata
  | linkTag
  | altText
  | scoring
  | postcheck
  deriving DecidableEq, Repr

/-- The stored text of a step, which is also its storage directory. -/
def Step.value : Step → String
  | .precheck => "precheck"
  | .ocr => "ocr"
  | .fontRepair => "font_repair"
  | .finalizeMetadata => "finalize_metadata"
  | .linkTag => "link_tag"
  | .altText => "alt_text"
  | .scoring => "scoring"
  | .postcheck => "postcheck"

/-- The enumeration name of a step, which names its setting. -/
def Step.name : Step → String
  | .precheck => "PRECHECK"
  | .ocr => "OCR"
  | .fontRepair => "FONT_REPAIR"
  | .finalizeMetadata => "FINALIZE_METADATA"
  | .linkTag => "LINK_TAG"
  | .altText => "ALT_TEXT"
  | .scoring => "SCORING"
  | .postcheck => "POSTCHECK"

/-- `RemediationArtifact.StepStatus`. -/
inductive StepStatus where
  | completed
  | skipped
  | failed
  deriving DecidableEq, Repr

/-! ## Storage names -/

/-- The names of storage objects. -/
inductive Uri where
  /-- The empty text, the default of a `CharField(blank=True)`. -/
  | blank
  /-- An uploaded original. -/
  | original (account : ℕ) (contentHash filename : String)
  /-- What one step of one attempt stored. -/
  | output (account : ℕ) (contentHash : String) (remediation : ℕ) (step : Step)
      (filename : String)
  deriving DecidableEq, Repr

namespace Uri

/-- The text the code writes for a storage name (ADR 0008). -/
def text : Uri → String
  | .blank => ""
  | .original account hash name =>
      "remediations/" ++ toString account ++ "/" ++ hash ++ "/" ++ name
  | .output account hash remediation step name =>
      "remediations/" ++ toString account ++ "/" ++ hash ++ "/" ++
        toString remediation ++ "/" ++ step.value ++ "/" ++ name

/-- `os.path.basename`. -/
def filename : Uri → String
  | .blank => ""
  | .original _ _ name => name
  | .output _ _ _ _ name => name

/-- The same directory, another file name. -/
def withFilename : Uri → String → Uri
  | .blank, _ => .blank
  | .original account hash _, name => .original account hash name
  | .output account hash remediation step _, name =>
      .output account hash remediation step name

end Uri

/-! ## What adapters exchange -/

/-- A local temporary file: its base name and its content. -/
structure LocalFile where
  name : String
  bytes : Bytes
  deriving DecidableEq, Repr

/-- `severity.Severity`. -/
inductive Severity where
  | critical
  | major
  | minor
  | unclassified
  deriving DecidableEq, Repr

namespace Severity

/-- The stored text of a severity. -/
def value : Severity → String
  | .critical => "critical"
  | .major => "major"
  | .minor => "minor"
  | .unclassified => "unclassified"

/-- The human-readable text of a severity. -/
def label : Severity → String
  | .critical => "Critical"
  | .major => "Major"
  | .minor => "Minor"
  | .unclassified => "Unclassified"

/-- The position in `severity.SEVERITY_RANK`, worst first. -/
def rank : Severity → ℕ
  | .critical => 0
  | .major => 1
  | .minor => 2
  | .unclassified => 3

/-- `Severity(text)`, `none` where Python raises `ValueError`. -/
def ofValue (text : String) : Option Severity :=
  [critical, major, minor, unclassified].find? fun severity => severity.value = text

@[simp] theorem ofValue_value (severity : Severity) :
    ofValue severity.value = some severity := by
  cases severity <;> decide

end Severity

/-- `adapters.base.FailedRule`. -/
structure FailedRule where
  clause : String
  testNumber : String
  description : String
  failedChecks : ℕ
  severity : Severity
  deriving DecidableEq, Repr

/-- `adapters.base.FailedRuleDict`, the JSON shape of a failed rule. -/
structure FailedRuleDict where
  clause : String
  testNumber : String
  description : String
  failedChecks : ℕ
  severity : String
  deriving DecidableEq, Repr

/-- The dict `VerificationService._run` stores for a rule. -/
def FailedRule.toDict (rule : FailedRule) : FailedRuleDict where
  clause := rule.clause
  testNumber := rule.testNumber
  description := rule.description
  failedChecks := rule.failedChecks
  severity := rule.severity.value

/-- The rule `resume_completed` rebuilds from a stored dict. -/
def FailedRuleDict.toRule (dict : FailedRuleDict) : Option FailedRule :=
  (Severity.ofValue dict.severity).map fun severity =>
    { clause := dict.clause
      testNumber := dict.testNumber
      description := dict.description
      failedChecks := dict.failedChecks
      severity }

/-- A stored rule reads back as itself. -/
@[simp] theorem FailedRule.toRule_toDict (rule : FailedRule) :
    rule.toDict.toRule = some rule := by
  simp [toDict, FailedRuleDict.toRule]

/-- So does a stored list of rules. -/
@[simp] theorem FailedRule.mapM_toRule_toDict (rules : List FailedRule) :
    (rules.map toDict).mapM FailedRuleDict.toRule = some rules := by
  induction rules with
  | nil => rfl
  | cons rule rules ih => simp [ih]

/-- `adapters.base.VerificationOutcome`. -/
structure VerificationOutcome where
  isCompliant : Bool
  failedRules : List FailedRule
  verapdfVersion : String
  deriving DecidableEq, Repr

/-- `adapters.base.ImageMediaType`. -/
inductive ImageMediaType where
  | jpeg
  | png
  | gif
  | webp
  deriving DecidableEq, Repr

/-- `adapters.base.FigureCandidate`. -/
structure FigureCandidate where
  ref : ℕ × ℕ
  pageNumber : ℕ
  imageBytes : Bytes
  mediaType : ImageMediaType
  decorative : Bool
  deriving DecidableEq, Repr

/-- The dict `alt_by_ref`, in insertion order. -/
abbrev AltByRef := List ((ℕ × ℕ) × String)

/-- `alt_by_ref[ref] = text`: a present key keeps its place. -/
def AltByRef.set (dict : AltByRef) (ref : ℕ × ℕ) (text : String) : AltByRef :=
  if dict.any (·.1 = ref) then
    dict.map fun entry => if entry.1 = ref then (ref, text) else entry
  else dict ++ [(ref, text)]

/-- `RemediationScore.Grade`. -/
inductive Grade where
  | a
  | b
  | c
  | d
  | f
  deriving DecidableEq, Repr

/-- `adapters.base.ScoringResult`. -/
structure ScoringResult where
  score : ℕ
  grade : Grade
  manualReviewItems : List String
  deriving DecidableEq, Repr

/-! ## Rows -/

/-- `models.Remediation`, one attempt at one document. -/
structure Remediation where
  id : ℕ
  serviceAccount : ℕ
  status : JobStatus
  sourcePdfUri : Uri
  contentHash : String
  originalFilename : String
  error : String
  finalOutputUri : Uri
  pipelineVersion : String
  createdAt : ℕ
  lastEnqueuedAt : Option ℕ
  startedAt : Option ℕ
  completedAt : Option ℕ
  deriving DecidableEq, Repr

/-- Whether the attempt is at that document of that account. -/
def Remediation.isFor (row : Remediation) (account : ℕ) (contentHash : String) : Bool :=
  row.serviceAccount = account ∧ row.contentHash = contentHash

/-- What `save(update_fields=...)` writes: the status always, another column
only where it is `some`. -/
structure RemediationUpdate where
  status : JobStatus
  startedAt : Option ℕ := none
  completedAt : Option ℕ := none
  finalOutputUri : Option Uri := none
  error : Option String := none
  deriving DecidableEq, Repr

/-- The row after the update. -/
def RemediationUpdate.apply (fields : RemediationUpdate) (row : Remediation) :
    Remediation :=
  { row with
    status := fields.status
    startedAt := fields.startedAt <|> row.startedAt
    completedAt := fields.completedAt <|> row.completedAt
    finalOutputUri := fields.finalOutputUri.getD row.finalOutputUri
    error := fields.error.getD row.error }

/-- The columns an update never writes. -/
@[simp] theorem RemediationUpdate.apply_id (fields : RemediationUpdate)
    (row : Remediation) : (fields.apply row).id = row.id := rfl

@[simp] theorem RemediationUpdate.apply_createdAt (fields : RemediationUpdate)
    (row : Remediation) : (fields.apply row).createdAt = row.createdAt := rfl

@[simp] theorem RemediationUpdate.apply_status (fields : RemediationUpdate)
    (row : Remediation) : (fields.apply row).status = fields.status := rfl

@[simp] theorem RemediationUpdate.apply_isFor (fields : RemediationUpdate)
    (row : Remediation) (account : ℕ) (contentHash : String) :
    (fields.apply row).isFor account contentHash = row.isFor account contentHash := rfl

/-- The columns `RemediationService.create` sets. -/
structure NewRemediation where
  serviceAccount : ℕ
  sourcePdfUri : Uri
  contentHash : String
  originalFilename : String
  pipelineVersion : String
  createdAt : ℕ
  deriving DecidableEq, Repr

/-- The inserted row, with the column defaults. -/
def NewRemediation.toRow (new : NewRemediation) (id : ℕ) : Remediation where
  id := id
  serviceAccount := new.serviceAccount
  status := .queued
  sourcePdfUri := new.sourcePdfUri
  contentHash := new.contentHash
  originalFilename := new.originalFilename
  error := ""
  finalOutputUri := .blank
  pipelineVersion := new.pipelineVersion
  createdAt := new.createdAt
  lastEnqueuedAt := none
  startedAt := none
  completedAt := none

/-- `models.RemediationArtifact`, keyed by its attempt and step. -/
structure RemediationArtifact where
  status : StepStatus
  outputUri : Uri := .blank
  error : String := ""
  deriving DecidableEq, Repr

/-- `models.VerificationResult`, keyed by its attempt and step.  `validated` is
not a column: it is a history variable, the local file the adapter judged. -/
structure VerificationResult where
  isCompliant : Bool
  verapdfVersion : String
  failedRules : List FailedRuleDict
  validated : LocalFile
  deriving DecidableEq, Repr

/-- `models.RemediationScore`, keyed by its attempt. -/
structure RemediationScore where
  score : ℕ
  grade : Grade
  manualReviewItems : List String
  deriving DecidableEq, Repr

/-- `models.RemediationCallback`. -/
structure RemediationCallback where
  id : ℕ
  remediation : ℕ
  callbackUrl : String
  deriving DecidableEq, Repr

/-- `services.SubmissionUsage`. -/
structure SubmissionUsage where
  count : ℕ
  oldest : Option ℕ
  deriving DecidableEq, Repr

end DicePipeline
