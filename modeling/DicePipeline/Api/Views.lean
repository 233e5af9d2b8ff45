import DicePipeline.Api.SubmissionLimits

/-!
# Submitting a document (`api/views.py`, `remediation/serializers.py`)

`CreateRemediationView.post`: validate the upload, resolve it to an attempt,
register the callback, and queue the attempt's task.  The statements commit one
by one, since requests are not wrapped in a transaction.
-/

namespace DicePipeline

open Interaction

/-- `value.name.lower().endswith(".pdf")`. -/
def isPdfName (name : String) : Bool :=
  ['.', 'p', 'd', 'f'].isSuffixOf (name.toList.map Char.toLower)

/-- `RemediationUploadSerializer.is_valid(raise_exception=True)`.  A `FileField`
refuses a nameless and an empty file by itself.  `acceptsUrl` says which texts
the serializer's `URLField` and `check_webhook_url` accept. -/
def RemediationUploadSerializer.isValid (acceptsUrl : String → Bool) (upload : Upload) :
    Except Exn Unit :=
  if upload.filename = "" then
    .error (.invalid "No filename could be determined.")
  else if upload.bytes = [] then
    .error (.invalid "The submitted file is empty.")
  else if !isPdfName upload.filename then .error (.invalid "file must be a PDF.")
  else if upload.callbackUrl ≠ "" ∧ !acceptsUrl upload.callbackUrl then
    .error (.invalid "Enter a valid URL.")
  else .ok ()

/-- The answer to a submit. -/
structure Response where
  statusCode : ℕ
  remediation : Remediation
  deriving DecidableEq, Repr

namespace CreateRemediationView

variable (settings : Settings) (acceptsUrl : String → Bool)

/-- The middle of `post`: a callback is registered, and notified at once if the
attempt was finished when it was read. -/
def subscribe (remediation : Remediation) (callbackUrl : String) : Py Unit :=
  if callbackUrl = "" then pure ()
  else do
    let (callback, callbackCreated) ←
      RemediationService.registerCallback remediation callbackUrl
    if callbackCreated && remediation.status.isFinished then
      issue (.enqueueWebhook callback.id)
    else return ()

/-- The end of `post`: the attempt's task is queued if this request may. -/
def queue (remediation : Remediation) (created : Bool) : Py Remediation := do
  let claimed ← RemediationService.claimEnqueue settings remediation created
  if claimed then do
    issue (.enqueueProcess remediation.id)
    issue (.getRemediation remediation.id)
  else return remediation

/-- `post` of a request that passed `initial`. -/
def submit (account : ServiceAccount) (limit : Option SubmissionLimit) (upload : Upload) :
    Py Response := do
  match RemediationUploadSerializer.isValid acceptsUrl upload with
  | .error exc => Program.raise exc
  | .ok () => do
      let (remediation, created) ← RemediationService.getOrCreateFromUpload settings
        account.id upload (some (checkLimit limit))
      subscribe remediation upload.callbackUrl
      let remediation ← queue settings remediation created
      return { statusCode := if created then 201 else 200, remediation := remediation }

/-- `EnforceAccountLimitsMixin.initial` and `post`. -/
def post (account : ServiceAccount) (upload : Upload) : Py Response :=
  match limitFor account with
  | .error exc => Program.raise exc
  | .ok limit => submit settings acceptsUrl account limit upload

end CreateRemediationView

end DicePipeline
