import Mathlib.Data.List.MinMax
import DicePipeline.Remediation.Statements

/-!
# The database, the storage, and what an operation does to them

`Store` is the shared state: the tables (PostgreSQL at READ COMMITTED), the
objects of `default_storage`, the task queue and the clock.  `execute` is the
meaning of one operation issued by one connection.  It is a function of a
`World`, which supplies what the code cannot decide: an adapter's result, and
whether the storage backend or the database fails.

Transactions appear where the code opens them.  A row inserted inside one is
`pending` until its connection commits, and a `select_for_update` lock is held
until then.  No query of the code reads `Remediation` between its own insert
and the commit, so only the constraint has to see a connection's own rows.
An operation that has to wait for another connection (a held lock, or a
uniqueness check against a pending row) has no outcome yet.

Keying a table by what its unique constraint names (an artifact by attempt and
step, a score by attempt) makes a second row unrepresentable, and inserting one
is the `IntegrityError`.
-/

namespace DicePipeline

open Interaction

/-- The deployment: environment variables, the pipeline version, and the
library functions whose own code is not part of the repository. -/
structure Settings where
  /-- `RUN_<STEP>`. -/
  run : Step → Bool
  stuckQueuedMinutes : ℕ
  stuckRunningMinutes : ℕ
  pipelineVersion : String
  languageCode : String
  /-- Whether saving to a taken name overwrites it (`S3Storage`) or picks
  another name (`FileSystemStorage`). -/
  fileOverwrite : Bool
  /-- `hashlib.sha256(...).hexdigest()`. -/
  sha256 : Bytes → String
  /-- Whether `packaging.version.Version` accepts a text. -/
  validVersion : String → Bool
  /-- `Version(left) < Version(right)`. -/
  versionLt : String → String → Bool

/-- What the outside world answers to one operation. -/
structure World where
  /-- The adapters and the vision client: a result, or the text of an error. -/
  adapter : (call : AdapterCall) → Except String call.Result
  /-- The error the storage backend raises, if it does. -/
  storage : Option String := none
  /-- The `OperationalError` of a statement that does not reach the database. -/
  database : Option String := none
  /-- The file name the storage backend picks when a name is taken. -/
  alternative : String := ""

/-- Everything the programs share. -/
structure Store where
  clock : ℕ
  /-- Committed attempts, in insertion order. -/
  remediations : List Remediation
  /-- Attempts inserted and not yet committed, each with its connection. -/
  pending : List (ℕ × Remediation)
  /-- The connection holding an account's row lock. -/
  locks : ℕ → Option ℕ
  /-- The next primary key, of attempts and of callbacks. -/
  nextId : ℕ
  artifacts : ℕ → Step → Option RemediationArtifact
  results : ℕ → Step → Option VerificationResult
  scores : ℕ → Option RemediationScore
  callbacks : List RemediationCallback
  pipelineConfig : Option String
  objects : Uri → Option Bytes
  /-- `process_remediation` tasks put on the queue, newest first. -/
  processTasks : List ℕ
  /-- `send_webhook_notification` tasks (first attempts), newest first. -/
  webhookTasks : List ℕ
  /-- A history variable: what each connection's last `latest_for_document`
  answered. -/
  lookups : ℕ → Option Remediation

namespace Store

/-- Empty tables, but for the retry floor an administrator has set. -/
def empty (retryFloor : Option String) : Store where
  clock := 0
  remediations := []
  pending := []
  locks := fun _ => none
  nextId := 0
  artifacts := fun _ _ => none
  results := fun _ _ => none
  scores := fun _ => none
  callbacks := []
  pipelineConfig := retryFloor
  objects := fun _ => none
  processTasks := []
  webhookTasks := []
  lookups := fun _ => none

/-- The committed attempt with that primary key. -/
def row (s : Store) (id : ℕ) : Option Remediation :=
  s.remediations.find? fun row => row.id = id

/-- Rewrites the attempt with that primary key. -/
def updateRow (s : Store) (id : ℕ) (f : Remediation → Remediation) : Store :=
  { s with remediations := s.remediations.map fun row => if row.id = id then f row else row }

/-- The committed attempts at one document. -/
def attempts (s : Store) (account : ℕ) (contentHash : String) : List Remediation :=
  s.remediations.filter fun row => row.isFor account contentHash

/-- `filter(service_account, content_hash).order_by("-created_at").first()`. -/
def latest (s : Store) (account : ℕ) (contentHash : String) : Option Remediation :=
  (s.attempts account contentHash).argmax fun row => row.createdAt

/-- The account's committed attempts made at `since` or later. -/
def recent (s : Store) (account : ℕ) (since : ℕ) : List Remediation :=
  s.remediations.filter fun row => row.serviceAccount = account ∧ since ≤ row.createdAt

/-- The rows connection `i` has inserted and not committed yet. -/
def uncommitted (s : Store) (i : ℕ) : List Remediation :=
  (s.pending.filter fun entry => entry.1 = i).map (·.2)

/-- `one_unfinished_attempt_per_document`, against the rows connection `i` can
see: another attempt than `id` at the document is unfinished. -/
def clashes (s : Store) (i id account : ℕ) (contentHash : String) : Bool :=
  (s.remediations ++ s.uncommitted i).any fun row =>
    row.isFor account contentHash ∧ row.id ≠ id ∧ row.status.isUnfinished

/-- The same against the rows other connections have not committed yet: the
check waits for them. -/
def awaits (s : Store) (i account : ℕ) (contentHash : String) : Bool :=
  s.pending.any fun entry => entry.1 ≠ i ∧ entry.2.isFor account contentHash

/-- Ends connection `i`'s transaction, keeping what it inserted or not. -/
def endTransaction (s : Store) (i : ℕ) (keep : Bool) : Store :=
  { s with
    remediations := if keep then s.remediations ++ s.uncommitted i else s.remediations
    pending := s.pending.filter fun entry => entry.1 ≠ i
    locks := fun account => if s.locks account = some i then none else s.locks account }

end Store

/-- `max_length` of the columns that hold a storage name. -/
def uriMaxLength : ℕ := 500

/-- `RemediationCallback.callback_url` is a `URLField()`: 200 characters. -/
def callbackUrlMaxLength : ℕ := 200

/-- `VerificationResult.verapdf_version`. -/
def verapdfVersionMaxLength : ℕ := 20

/-- The largest `PositiveSmallIntegerField`. -/
def scoreMax : ℕ := 32767

/-- Whether a storage name fits its column. -/
def Uri.fits (uri : Uri) : Bool := uri.text.length ≤ uriMaxLength

/-- Whether a new attempt fits the columns. -/
def NewRemediation.fits (new : NewRemediation) : Except Exn Unit :=
  if !new.sourcePdfUri.fits then .error (.tooLong uriMaxLength)
  else if 64 < new.contentHash.length then .error (.tooLong 64)
  else if 255 < new.originalFilename.length then .error (.tooLong 255)
  else if 20 < new.pipelineVersion.length then .error (.tooLong 20)
  else .ok ()

/-- Whether an update fits the columns. -/
def RemediationUpdate.fits (fields : RemediationUpdate) : Bool :=
  fields.finalOutputUri.all Uri.fits

/-- The error the outside world lets an operation raise before it does
anything.  Reading the clock cannot fail, and neither can a rollback: Django
drops the connection when the `ROLLBACK` itself does not go through. -/
def World.failure (world : World) : Op → Option Exn
  | .now => none
  | .rollback => none
  | .adapter _ => none
  | .storageExists _ => world.storage.map .other
  | .storageDelete _ => world.storage.map .other
  | .storageSave _ _ => world.storage.map .other
  | .storageOpen _ => world.storage.map .other
  | _ => world.database.map .operationalError

/-- What a failed operation leaves behind.  A failed `COMMIT` is a rollback. -/
def Op.abandon (i : ℕ) : Op → Store → Store
  | .commit, s => s.endTransaction i false
  | _, s => s

section Execute

variable (settings : Settings) (world : World) (i : ℕ)

/-- **What an operation of connection `i` answers and does**, when nothing
outside fails.  `none`: it waits for another connection. -/
def perform : (op : Op) → Store → Option (Except Exn op.Ans × Store)
  | .now, s => some (.ok s.clock, s)
  | .getRemediation id, s =>
      match s.row id with
      | some row => some (.ok row, s)
      | none => some (.error (.doesNotExist "Remediation"), s)
  | .saveRemediation id fields, s =>
      match s.row id with
      | none =>
          some (.error (.other "Save with update_fields did not affect any rows."), s)
      | some row =>
          if !fields.fits then some (.error (.tooLong uriMaxLength), s)
          -- Only a row that enters the partial unique index is checked.
          else if fields.status.isUnfinished && row.status.isFinished then
            if s.clashes i id row.serviceAccount row.contentHash then
              some (.error (.integrityError "one_unfinished_attempt_per_document"), s)
            else if s.awaits i row.serviceAccount row.contentHash then none
            else some (.ok (), s.updateRow id fields.apply)
          else some (.ok (), s.updateRow id fields.apply)
  | .latestForDocument account contentHash, s =>
      some (.ok (s.latest account contentHash),
        { s with
          lookups := Function.update s.lookups i (s.latest account contentHash) })
  | .pipelineConfig, s => some (.ok s.pipelineConfig, s)
  | .lockAccount account, s =>
      match s.locks account with
      | none => some (.ok (), { s with locks := Function.update s.locks account (some i) })
      | some holder => if holder = i then some (.ok (), s) else none
  | .recentSubmissions account since, s =>
      some (.ok
        { count := (s.recent account since).length
          oldest := ((s.recent account since).map (·.createdAt)).min? }, s)
  | .insertRemediation new, s =>
      match new.fits with
      | .error exc => some (.error exc, s)
      | .ok () =>
          if s.clashes i s.nextId new.serviceAccount new.contentHash then
            some (.error (.integrityError "one_unfinished_attempt_per_document"), s)
          else if s.awaits i new.serviceAccount new.contentHash then none
          else
            some (.ok (new.toRow s.nextId),
              { s with
                pending := s.pending ++ [(i, new.toRow s.nextId)]
                nextId := s.nextId + 1 })
  | .commit, s => some (.ok (), s.endTransaction i true)
  | .rollback, s => some (.ok (), s.endTransaction i false)
  | .claimEnqueue id lastEnqueuedAt now, s =>
      match s.row id with
      | none => some (.ok false, s)
      | some row =>
          if row.status.isUnfinished && row.lastEnqueuedAt = lastEnqueuedAt then
            some (.ok true,
              s.updateRow id fun row => { row with lastEnqueuedAt := some now })
          else some (.ok false, s)
  | .completedOutputUri id step, s =>
      match s.artifacts id step with
      | some artifact =>
          if artifact.status = .completed then some (.ok (some artifact.outputUri), s)
          else some (.ok none, s)
      | none => some (.ok none, s)
  | .upsertArtifact id step artifact, s =>
      if !artifact.outputUri.fits then some (.error (.tooLong uriMaxLength), s)
      else
        some (.ok (),
          { s with
            artifacts := Function.update s.artifacts id
              (Function.update (s.artifacts id) step (some artifact)) })
  | .createVerificationResult id step result, s =>
      if verapdfVersionMaxLength < result.verapdfVersion.length then
        some (.error (.tooLong verapdfVersionMaxLength), s)
      else
        match s.results id step with
        | some _ =>
            some (.error (.integrityError "one_verification_result_per_step"), s)
        | none =>
            some (.ok (),
              { s with
                results := Function.update s.results id
                  (Function.update (s.results id) step (some result)) })
  | .getVerificationResult id step, s =>
      match s.results id step with
      | some result => some (.ok result, s)
      | none => some (.error (.doesNotExist "VerificationResult"), s)
  | .createScore id score, s =>
      if scoreMax < score.score then
        some (.error (.dataError "smallint out of range"), s)
      else
        match s.scores id with
        | some _ =>
            some (.error
              (.integrityError "remediation_remediationscore_remediation_id_key"), s)
        | none => some (.ok (), { s with scores := Function.update s.scores id (some score) })
  | .getOrCreateCallback remediation callbackUrl, s =>
      match s.callbacks.find? fun callback =>
        callback.remediation = remediation.id ∧ callback.callbackUrl = callbackUrl with
      | some callback => some (.ok (callback, false), s)
      | none =>
          if callbackUrlMaxLength < callbackUrl.length then
            some (.error (.tooLong callbackUrlMaxLength), s)
          else
            some (.ok (⟨s.nextId, remediation.id, callbackUrl⟩, true),
              { s with
                callbacks := s.callbacks ++ [⟨s.nextId, remediation.id, callbackUrl⟩]
                nextId := s.nextId + 1 })
  | .callbackIds id, s =>
      some (.ok ((s.callbacks.filter fun callback => callback.remediation = id).map (·.id)), s)
  | .enqueueProcess id, s => some (.ok (), { s with processTasks := id :: s.processTasks })
  | .enqueueWebhook callback, s =>
      some (.ok (), { s with webhookTasks := callback :: s.webhookTasks })
  | .storageExists uri, s => some (.ok (s.objects uri).isSome, s)
  | .storageDelete uri, s =>
      some (.ok (), { s with objects := Function.update s.objects uri none })
  | .storageSave uri bytes, s =>
      if (s.objects uri).isNone || settings.fileOverwrite then
        some (.ok uri, { s with objects := Function.update s.objects uri (some bytes) })
      else
        -- `get_available_name`: another name in the same directory that is free.
        if (s.objects (uri.withFilename world.alternative)).isNone then
          some (.ok (uri.withFilename world.alternative),
            { s with
              objects := Function.update s.objects (uri.withFilename world.alternative)
                (some bytes) })
        else none
  | .storageOpen uri, s =>
      match s.objects uri with
      | some bytes => some (.ok bytes, s)
      | none => some (.error (.other ("No such file or directory: " ++ uri.text)), s)
  | .adapter call, s => some ((world.adapter call).mapError .other, s)

/-- **One operation of connection `i`.** -/
def execute (op : Op) (s : Store) : Option (Except Exn op.Ans × Store) :=
  match world.failure op with
  | some exc => some (.error exc, op.abandon i s)
  | none => perform settings world i op s

end Execute

end DicePipeline
