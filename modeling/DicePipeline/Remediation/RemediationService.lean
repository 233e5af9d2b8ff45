import DicePipeline.Remediation.Services

/-!
# `RemediationService` (`remediation/services.py`)

The attempts at one document: looking the newest one up, deciding whether it is
reused, making another one inside a transaction, claiming the right to queue
it, and the status writes of a worker.
-/

namespace DicePipeline

open Interaction

/-- `datetime.timedelta(minutes=...)`. -/
def minutes (n : ℕ) : ℕ := n * 60000000

/-- `datetime.timedelta(seconds=...)`. -/
def seconds (n : ℕ) : ℕ := n * 1000000

/-- `transaction.atomic()`, used as the outermost one. -/
def atomic {α : Type} (body : Py α) : Py α := do
  let outcome ← body.attempt
  match outcome with
  | .ok value =>
      issue .commit
      return value
  | .error exc =>
      issue .rollback
      Program.raise exc

/-- The text `_parse_version` parses: a blank or unparseable version counts as
`0.0.0`. -/
def parseVersion (settings : Settings) (value : String) : String :=
  if value ≠ "" ∧ settings.validVersion value then value else "0.0.0"

/-- `_parse_version(left) < _parse_version(right)`. -/
def versionLt (settings : Settings) (left right : String) : Bool :=
  settings.versionLt (parseVersion settings left) (parseVersion settings right)

/-- What a submit uploads. -/
structure Upload where
  filename : String
  bytes : Bytes
  force : Bool
  callbackUrl : String
  deriving DecidableEq, Repr

/-- `_hash_file`. -/
def Upload.contentHash (settings : Settings) (upload : Upload) : String :=
  settings.sha256 upload.bytes

namespace RemediationService

variable (settings : Settings)

/-- `get`. -/
def get (remediationId : ℕ) : Py Remediation := issue (.getRemediation remediationId)

/-- `latest_for_document`. -/
def latestForDocument (account : ℕ) (contentHash : String) : Py (Option Remediation) :=
  issue (.latestForDocument account contentHash)

/-- `_retry_floor_version`. -/
def retryFloorVersion : Py String := do
  let config : Option String ← issue .pipelineConfig
  return config.getD ""

/-- The decision of `_should_retry` once the retry floor is known. -/
def isOutdated (existing : Remediation) (floor : String) : Bool :=
  if floor = "" then false else versionLt settings existing.pipelineVersion floor

/-- `_should_retry`. -/
def shouldRetry (existing : Remediation) (force : Bool) : Py Bool :=
  if force then pure true
  else if existing.status ≠ .noncompliant ∧ existing.status ≠ .error then pure false
  else do
    let floor ← retryFloorVersion
    return isOutdated settings existing floor

/-- `_reusable_attempt`. -/
def reusableAttempt (account : ℕ) (contentHash : String) (force : Bool) :
    Py (Option Remediation) := do
  let existing ← latestForDocument account contentHash
  match existing with
  | none => return none
  | some existing =>
      if existing.status.isUnfinished then return some existing
      else do
        let retry ← shouldRetry settings existing force
        return if retry then none else some existing

/-- `_store_original`. -/
def storeOriginal (account : ℕ) (contentHash originalFilename : String)
    (bytes : Bytes) : Py Uri := do
  let originalPath := Uri.original account contentHash originalFilename
  let stored : Bool ← issue (.storageExists originalPath)
  if stored then return originalPath
  else do
    let _ : Uri ← issue (.storageSave originalPath bytes)
    return originalPath

/-- `create`: `auto_now_add` stamps the row just before the `INSERT`. -/
def create (account : ℕ) (sourcePdfUri : Uri) (contentHash originalFilename : String) :
    Py Remediation := do
  let createdAt : ℕ ← issue .now
  issue (.insertRemediation
    { serviceAccount := account
      sourcePdfUri := sourcePdfUri
      contentHash := contentHash
      originalFilename := originalFilename
      pipelineVersion := settings.pipelineVersion
      createdAt := createdAt })

/-- `_create_or_reuse_unfinished`.  The savepoint undoes a clash, which has
inserted nothing. -/
def createOrReuseUnfinished (account : ℕ) (contentHash : String) (originalPath : Uri)
    (originalFilename : String) : Py (Remediation × Bool) := do
  let made ← (create settings account originalPath contentHash originalFilename).attempt
  match made with
  | .ok remediation => return (remediation, true)
  | .error (.integrityError constraint) => do
      let current ← latestForDocument account contentHash
      match current with
      | none => Program.raise (.integrityError constraint)
      | some current =>
          if current.status.isUnfinished then return (current, false)
          else Program.raise (.integrityError constraint)
  | .error exc => Program.raise exc

/-- The last two statements of `get_or_create_from_upload`. -/
def makeAttempt (account : ℕ) (upload : Upload) : Py (Remediation × Bool) := do
  let contentHash := upload.contentHash settings
  let originalPath ← storeOriginal account contentHash upload.filename upload.bytes
  createOrReuseUnfinished settings account contentHash originalPath upload.filename

/-- The body of `get_or_create_from_upload`'s transaction. -/
def decide (account : ℕ) (upload : Upload) (beforeCreate : Option (Py Unit)) :
    Py (Remediation × Bool) := do
  let contentHash := upload.contentHash settings
  let reusable ← reusableAttempt settings account contentHash upload.force
  match reusable, beforeCreate with
  | some reusable, _ => return (reusable, false)
  | none, none => makeAttempt settings account upload
  | none, some beforeCreate => do
      beforeCreate
      let reusable ← reusableAttempt settings account contentHash upload.force
      match reusable with
      | some reusable => return (reusable, false)
      | none => makeAttempt settings account upload

/-- `get_or_create_from_upload`. -/
def getOrCreateFromUpload (account : ℕ) (upload : Upload)
    (beforeCreate : Option (Py Unit) := none) : Py (Remediation × Bool) :=
  atomic (decide settings account upload beforeCreate)

/-- When the attempt last made progress, as `_is_stuck` reckons it, and how
many minutes without any it allows. -/
def lastProgress (remediation : Remediation) : Option (ℕ × ℕ) :=
  let unlessEnqueuedLater (time : ℕ) : ℕ :=
    match remediation.lastEnqueuedAt with
    | none => time
    | some enqueued => max time enqueued
  match remediation.status with
  | .queued =>
      some (unlessEnqueuedLater remediation.createdAt, settings.stuckQueuedMinutes)
  | .running =>
      some (unlessEnqueuedLater (remediation.startedAt.getD remediation.createdAt),
        settings.stuckRunningMinutes)
  | _ => none

/-- `_is_stuck`. -/
def isStuck (remediation : Remediation) : Py Bool :=
  match lastProgress settings remediation with
  | none => pure false
  | some (progress, allowed) => do
      let now : ℕ ← issue .now
      return minutes allowed < now - progress

/-- `claim_enqueue`. -/
def claimEnqueue (remediation : Remediation) (created : Bool) : Py Bool :=
  if created then pure true
  else do
    let stuck ← isStuck settings remediation
    if stuck then do
      let now : ℕ ← issue .now
      issue (.claimEnqueue remediation.id remediation.lastEnqueuedAt now)
    else return false

/-- `recent_submissions`. -/
def recentSubmissions (account windowSeconds : ℕ) (lock : Bool) : Py SubmissionUsage := do
  if lock then
    issue (.lockAccount account)
  let now : ℕ ← issue .now
  issue (.recentSubmissions account (now - seconds windowSeconds))

/-- `mark_running`. -/
def markRunning (remediation : Remediation) : Py Unit := do
  let now : ℕ ← issue .now
  issue (.saveRemediation remediation.id { status := .running, startedAt := some now })

/-- `_mark_finished`. -/
def markFinished (remediation : Remediation) (status : JobStatus) (finalOutputUri : Uri)
    (error : Option String := none) : Py Unit :=
  retryOnLostConnection do
    let now : ℕ ← issue .now
    issue (.saveRemediation remediation.id
      { status := status
        completedAt := some now
        finalOutputUri := some finalOutputUri
        error := error })

/-- `mark_compliant`. -/
def markCompliant (remediation : Remediation) (finalOutputUri : Uri) : Py Unit :=
  markFinished remediation .compliant finalOutputUri

/-- `mark_skipped`. -/
def markSkipped (remediation : Remediation) (finalOutputUri : Uri) : Py Unit :=
  markFinished remediation .skipped finalOutputUri

/-- `mark_noncompliant`. -/
def markNoncompliant (remediation : Remediation) (error : String) (finalOutputUri : Uri) :
    Py Unit :=
  markFinished remediation .noncompliant finalOutputUri (some error)

/-- `mark_error`. -/
def markError (remediation : Remediation) (error : String) (finalOutputUri : Uri) : Py Unit :=
  markFinished remediation .error finalOutputUri (some error)

/-- `register_callback`. -/
def registerCallback (remediation : Remediation) (callbackUrl : String) :
    Py (RemediationCallback × Bool) :=
  issue (.getOrCreateCallback remediation callbackUrl)

end RemediationService

end DicePipeline
