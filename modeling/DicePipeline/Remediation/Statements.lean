import Mathlib.Algebra.GroupWithZero.Nat
import DicePipeline.Interaction.Program
import DicePipeline.Remediation.Models

/-!
# What the pipeline's programs may do, and what they may raise

`Op` lists the atomic operations of the modelled code: one database statement,
one call of the storage backend, one call of an adapter or of the vision
client, one reading of the clock, or one task put on the queue.  `Query` is
the signature they form, and `Py` a program over it that raises `Exn`.

A statement's arguments are what the Python call passes, and its answer is what
the call returns.  `get_or_create` and `update_or_create` are one statement
each: Django retries the losing side of a concurrent insert as a read, so
either is as atomic as the unique constraint it rests on.
-/

namespace DicePipeline

open Interaction

/-! ## Exceptions -/

/-- `text.ljust(width)`, the format `:<width`. -/
def padRight (width : ℕ) (text : String) : String :=
  text ++ String.ofList (List.replicate (width - text.length) ' ')

/-- One line of the failure summary. -/
def failureLine (rule : FailedRule) : String :=
  "  - " ++ padRight 12 rule.severity.label.toUpper ++ " " ++ rule.clause ++ " " ++
    rule.description ++ " (" ++ toString rule.failedChecks ++ " checks)"

/-- `services._format_failure_summary`: worst severity first, and the order of
the report within one severity. -/
def formatFailureSummary (failedRules : List FailedRule) : String :=
  let totalChecks := (failedRules.map (·.failedChecks)).sum
  let header := toString failedRules.length ++ " rules failed, " ++
    toString totalChecks ++ " checks"
  let ordered := failedRules.mergeSort fun left right =>
    left.severity.rank ≤ right.severity.rank
  "\n".intercalate (header :: ordered.map failureLine)

/-- The exceptions the modelled code tells apart. -/
inductive Exn where
  /-- `AlreadyCompliant`: precheck passed. -/
  | alreadyCompliant
  /-- `NotCompliant`: postcheck failed these rules. -/
  | notCompliant (failedRules : List FailedRule)
  /-- `PostCheckUnavailable`: postcheck produced no verdict. -/
  | postCheckUnavailable (message : String)
  /-- `SubmissionLimitReached`, a 429 with the seconds to wait. -/
  | throttled (wait : ℕ)
  /-- `IncompleteLimitsError`, answered with a 403. -/
  | incompleteLimits
  /-- `ValidationError` of the upload serializer, a 400. -/
  | invalid (message : String)
  /-- `IntegrityError` on the named constraint. -/
  | integrityError (constraint : String)
  /-- `DataError`: a value its column cannot hold. -/
  | dataError (message : String)
  /-- `OperationalError`: the statement did not reach the database. -/
  | operationalError (message : String)
  /-- `Model.DoesNotExist`. -/
  | doesNotExist (model : String)
  /-- Anything else: an `AdapterError`, a storage error, a `ValueError`. -/
  | other (message : String)
  deriving DecidableEq, Repr

/-- `str(exc)`.  A database error shows the first line of PostgreSQL's report. -/
def Exn.message : Exn → String
  | .alreadyCompliant => ""
  | .notCompliant failedRules => formatFailureSummary failedRules
  | .postCheckUnavailable message => message
  | .throttled wait =>
      "Request was throttled. Expected available in " ++ toString wait ++ " seconds."
  | .incompleteLimits => ""
  | .invalid message => message
  | .integrityError constraint =>
      "duplicate key value violates unique constraint \"" ++ constraint ++ "\""
  | .dataError message => message
  | .operationalError message => message
  | .doesNotExist model => model ++ " matching query does not exist."
  | .other message => message

/-- The `DataError` of a text longer than its column. -/
def Exn.tooLong (width : ℕ) : Exn :=
  .dataError ("value too long for type character varying(" ++ toString width ++ ")")

/-- Exceptions only the modelled code raises: no database, storage or adapter
error is one of them. -/
def Exn.isRaisedByCode : Exn → Bool
  | .alreadyCompliant => true
  | .notCompliant _ => true
  | .postCheckUnavailable _ => true
  | .throttled _ => true
  | .incompleteLimits => true
  | .invalid _ => true
  | _ => false

/-! ## Operations -/

/-- One call of an adapter or of the vision client. -/
inductive AdapterCall where
  /-- `VerificationAdapter.validate`. -/
  | validate (file : LocalFile)
  /-- `OCRAdapter.extract`. -/
  | extract (file : LocalFile)
  /-- `FontRepairAdapter.repair`. -/
  | repairFonts (file : LocalFile)
  /-- `MetadataAdapter.finalize`. -/
  | finalize (file : LocalFile) (title lang : String)
  /-- `LinkAdapter.repair`. -/
  | repairLinks (file : LocalFile)
  /-- `AltTextAdapter.collect_figures`. -/
  | collectFigures (file : LocalFile)
  /-- `AltTextClient.describe`. -/
  | describe (imageBytes : Bytes) (mediaType : ImageMediaType)
      (documentTitle : String) (pageNumber : ℕ)
  /-- `AltTextAdapter.write_alt_text`. -/
  | writeAltText (file : LocalFile) (altByRef : AltByRef)
  /-- `ScoringAdapter.score`. -/
  | score (file : LocalFile)
  deriving DecidableEq, Repr

/-- What a call returns.  A transforming adapter returns its output file. -/
def AdapterCall.Result : AdapterCall → Type
  | .validate _ => VerificationOutcome
  | .extract _ => LocalFile
  | .repairFonts _ => LocalFile
  | .finalize _ _ _ => LocalFile
  | .repairLinks _ => LocalFile
  | .collectFigures _ => List FigureCandidate
  | .describe _ _ _ _ => String
  | .writeAltText _ _ => LocalFile
  | .score _ => ScoringResult

/-- The atomic operations. -/
inductive Op where
  /-- `timezone.now()`. -/
  | now
  /-- `Remediation.objects.get(pk=id)`, also `refresh_from_db`. -/
  | getRemediation (id : ℕ)
  /-- `remediation.save(update_fields=...)`. -/
  | saveRemediation (id : ℕ) (fields : RemediationUpdate)
  /-- The newest attempt at a document. -/
  | latestForDocument (account : ℕ) (contentHash : String)
  /-- `PipelineConfig.objects.first()`, its `retry_floor_version`. -/
  | pipelineConfig
  /-- `ServiceAccount.objects.select_for_update().get(pk=account)`. -/
  | lockAccount (account : ℕ)
  /-- Counts the account's attempts with `created_at >= since`. -/
  | recentSubmissions (account : ℕ) (since : ℕ)
  /-- `Remediation.objects.create(...)`. -/
  | insertRemediation (new : NewRemediation)
  /-- The end of the outermost `transaction.atomic()`. -/
  | commit
  /-- Leaving the outermost `transaction.atomic()` by an exception. -/
  | rollback
  /-- The conditional update of `claim_enqueue`. -/
  | claimEnqueue (id : ℕ) (lastEnqueuedAt : Option ℕ) (now : ℕ)
  /-- The `output_uri` of the step's artifact if it is COMPLETED. -/
  | completedOutputUri (id : ℕ) (step : Step)
  /-- `RemediationArtifact.objects.update_or_create(...)`. -/
  | upsertArtifact (id : ℕ) (step : Step) (artifact : RemediationArtifact)
  /-- `VerificationResult.objects.create(...)`. -/
  | createVerificationResult (id : ℕ) (step : Step) (result : VerificationResult)
  /-- `VerificationResult.objects.get(remediation=..., step=...)`. -/
  | getVerificationResult (id : ℕ) (step : Step)
  /-- `RemediationScore.objects.create(...)`. -/
  | createScore (id : ℕ) (score : RemediationScore)
  /-- `RemediationCallback.objects.get_or_create(remediation=..., callback_url=...)`,
  with the instance the call passes. -/
  | getOrCreateCallback (remediation : Remediation) (callbackUrl : String)
  /-- `remediation.callbacks.values_list("id", flat=True)`. -/
  | callbackIds (id : ℕ)
  /-- `process_remediation.enqueue(id)`. -/
  | enqueueProcess (id : ℕ)
  /-- `send_webhook_notification.enqueue(callback)`. -/
  | enqueueWebhook (callback : ℕ)
  /-- `default_storage.exists`. -/
  | storageExists (uri : Uri)
  /-- `default_storage.delete`. -/
  | storageDelete (uri : Uri)
  /-- `default_storage.save`. -/
  | storageSave (uri : Uri) (bytes : Bytes)
  /-- `default_storage.open(uri).read()`. -/
  | storageOpen (uri : Uri)
  /-- An adapter or client call. -/
  | adapter (call : AdapterCall)
  deriving DecidableEq, Repr

/-- What an operation returns. -/
def Op.Ans : Op → Type
  | .now => ℕ
  | .getRemediation _ => Remediation
  | .saveRemediation _ _ => Unit
  | .latestForDocument _ _ => Option Remediation
  | .pipelineConfig => Option String
  | .lockAccount _ => Unit
  | .recentSubmissions _ _ => SubmissionUsage
  | .insertRemediation _ => Remediation
  | .commit => Unit
  | .rollback => Unit
  | .claimEnqueue _ _ _ => Bool
  | .completedOutputUri _ _ => Option Uri
  | .upsertArtifact _ _ _ => Unit
  | .createVerificationResult _ _ _ => Unit
  | .getVerificationResult _ _ => VerificationResult
  | .createScore _ _ => Unit
  | .getOrCreateCallback _ _ => RemediationCallback × Bool
  | .callbackIds _ => List ℕ
  | .enqueueProcess _ => Unit
  | .enqueueWebhook _ => Unit
  | .storageExists _ => Bool
  | .storageDelete _ => Unit
  | .storageSave _ _ => Uri
  | .storageOpen _ => Bytes
  | .adapter call => call.Result

/-- The signature of the pipeline's operations. -/
def Query : Signature := ⟨Op, Op.Ans⟩

/-- A piece of the modelled code. -/
abbrev Py (α : Type) := Program Query Exn α

/-- Issues one operation. -/
def issue (op : Op) : Py op.Ans := Program.perform (S := Query) op

end DicePipeline
