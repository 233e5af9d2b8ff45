import DicePipeline.System
import DicePipeline.Webhook.Check

/-!
# The service around the pipeline (`remediation/tasks.py`, `api/views.py`)

`send_webhook_notification` describes an attempt to one subscriber, and queues itself
again if the delivery fails.  `DocumentStatusView` describes the newest attempt at a
document to its account, and `DocumentDownloadView` serves its file.  All three read
what submits and runs of the pipeline are writing meanwhile, one statement at a time.

`service` is that system: its store holds a configuration of the pipeline's `system`,
and an environment move is one choice of the scheduler of that system, or an
administrator who gives an account another webhook secret.  Nothing here writes what
the pipeline reads.
-/

namespace DicePipeline

open Interaction

/-! ## What is said about an attempt -/

/-- The data of `VerificationResultSerializer`. -/
structure VerificationResultData where
  step : Step
  isCompliant : Bool
  verapdfVersion : String
  failedRules : List FailedRuleDict
  deriving DecidableEq, Repr

/-- `VerificationResultSerializer(result).data`. -/
def VerificationResultSerializer.data (step : Step) (result : VerificationResult) :
    VerificationResultData where
  step := step
  isCompliant := result.isCompliant
  verapdfVersion := result.verapdfVersion
  failedRules := result.failedRules

/-- What a notification says: the JSON object of `send_webhook_notification`. -/
structure Payload where
  remediationId : ℕ
  documentId : String
  status : JobStatus
  pipelineVersion : String
  verificationResults : List VerificationResultData
  downloadUrl : Option String
  error : Option String
  deriving DecidableEq, Repr

/-- The data of `RemediationSerializer`. -/
structure RemediationData where
  id : ℕ
  documentId : String
  originalFilename : String
  status : JobStatus
  pipelineVersion : String
  error : String
  createdAt : ℕ
  startedAt : Option ℕ
  completedAt : Option ℕ
  verificationResults : List VerificationResultData
  downloadUrl : Option String
  deriving DecidableEq, Repr

/-- The settings of the deliveries. -/
structure WebhookSettings where
  /-- `MAX_WEBHOOK_ATTEMPTS`. -/
  maxAttempts : ℕ
  /-- `WEBHOOK_BACKOFF_BASE_SECONDS`. -/
  backoffBaseSeconds : ℕ
  /-- `WEBHOOK_ALLOW_PRIVATE_URLS`. -/
  allowPrivateUrls : Bool
  /-- The scheme and the host of `PUBLIC_BASE_URL`, all that `urljoin` keeps of it before
  an absolute path. -/
  publicOrigin : String
  /-- Whether the task backend can hold a task back (`supports_defer`). -/
  supportsDefer : Bool
  /-- `hmac.new(secret, json.dumps(payload).encode(), hashlib.sha256).hexdigest()`. -/
  hmac : String → Payload → String

/-- `build_download_url`. -/
def buildDownloadUrl (webhooks : WebhookSettings) (remediation : Remediation) : String :=
  webhooks.publicOrigin ++ "/api/document-download/" ++ remediation.contentHash ++ "/"

/-- `final_output_uri`, as a truth value. -/
def Remediation.hasFinalOutput (remediation : Remediation) : Bool :=
  remediation.finalOutputUri ≠ .blank

/-- The payload of `send_webhook_notification`. -/
def Payload.of (webhooks : WebhookSettings) (remediation : Remediation)
    (results : List VerificationResultData) : Payload where
  remediationId := remediation.id
  documentId := remediation.contentHash
  status := remediation.status
  pipelineVersion := remediation.pipelineVersion
  verificationResults := results
  downloadUrl :=
    if remediation.hasFinalOutput then some (buildDownloadUrl webhooks remediation) else none
  error :=
    if remediation.status = .noncompliant ∨ remediation.status = .error then some remediation.error
    else none

/-- `RemediationSerializer(remediation).data`. -/
def RemediationSerializer.data (webhooks : WebhookSettings) (remediation : Remediation)
    (results : List VerificationResultData) : RemediationData where
  id := remediation.id
  documentId := remediation.contentHash
  originalFilename := remediation.originalFilename
  status := remediation.status
  pipelineVersion := remediation.pipelineVersion
  error := remediation.error
  createdAt := remediation.createdAt
  startedAt := remediation.startedAt
  completedAt := remediation.completedAt
  verificationResults := results
  downloadUrl :=
    if remediation.hasFinalOutput then some (buildDownloadUrl webhooks remediation) else none

/-! ## The statements -/

/-- A run of `send_webhook_notification`: the callback, and the number of the attempt. -/
structure Notification where
  callback : ℕ
  attempt : ℕ
  deriving DecidableEq, Repr

/-- The operations of the tasks and the views. -/
inductive ServiceOp where
  /-- `timezone.now()`. -/
  | now
  /-- `RemediationCallback.objects.select_related("remediation__service_account").get(pk=id)`:
  one query for the callback, its attempt, and the webhook secret of its account. -/
  | getCallback (id : ℕ)
  /-- `remediation.verification_results.all()`, through the serializer. -/
  | verificationResults (remediation : ℕ)
  /-- `WebhookClient().notify(...)`, and the names its log line has for the task. -/
  | notify (task : Notification) (callbackUrl secret : String) (payload : Payload)
  /-- `retry_task.enqueue(callback_id, attempt=...)`, held back until `run_after`. -/
  | enqueueRetry (task : Notification) (runAfter : Option ℕ)
  /-- The newest attempt at a document. -/
  | latestForDocument (account : ℕ) (contentHash : String)
  /-- `default_storage.open(uri).read()`. -/
  | storageOpen (uri : Uri)
  deriving DecidableEq, Repr

/-- What an operation returns. -/
def ServiceOp.Ans : ServiceOp → Type
  | .now => ℕ
  | .getCallback _ => RemediationCallback × Remediation × String
  | .verificationResults _ => List VerificationResultData
  | .notify _ _ _ _ => Unit
  | .enqueueRetry _ _ => Unit
  | .latestForDocument _ _ => Option Remediation
  | .storageOpen _ => Bytes

/-- What a task or a view raises. -/
inductive ServiceExn where
  /-- `WebhookDeliveryError`, or what `notify` lets through. -/
  | notify (error : NotifyError)
  | raised (exc : Exn)
  deriving DecidableEq, Repr

/-- The signature of the service's operations. -/
def ServiceQuery : Signature := ⟨ServiceOp, ServiceOp.Ans⟩

/-- A piece of the tasks and the views. -/
abbrev ServicePy (α : Type) := Program ServiceQuery ServiceExn α

/-- Issues one operation. -/
def ask (op : ServiceOp) : ServicePy op.Ans := Program.perform (S := ServiceQuery) op

/-! ## The programs -/

/-- What a task or a view ends with. -/
inductive Reply where
  /-- A task returns nothing. -/
  | nothing
  /-- `PermissionDenied`, a 403. -/
  | forbidden
  /-- `Http404`. -/
  | notFound
  | status (data : RemediationData)
  | file (filename : String) (bytes : Bytes)
  deriving DecidableEq, Repr

section Programs

variable (webhooks : WebhookSettings)

/-- The seconds before attempt `attempt + 1`. -/
def backoffSeconds (attempt : ℕ) : ℕ := webhooks.backoffBaseSeconds * 2 ^ (attempt - 1)

/-- The `except` clause of `send_webhook_notification`. -/
def retryLater (task : Notification) (error : NotifyError) : ServicePy Reply :=
  if webhooks.maxAttempts ≤ task.attempt then Program.raise (.notify error)
  else if webhooks.supportsDefer then do
    let now : ℕ ← ask .now
    ask (.enqueueRetry ⟨task.callback, task.attempt + 1⟩
      (some (now + seconds (backoffSeconds webhooks task.attempt))))
    return .nothing
  else do
    ask (.enqueueRetry ⟨task.callback, task.attempt + 1⟩ none)
    return .nothing

/-- `send_webhook_notification`. -/
def sendWebhookNotification (task : Notification) : ServicePy Reply := do
  let read : RemediationCallback × Remediation × String ← ask (.getCallback task.callback)
  let results : List VerificationResultData ← ask (.verificationResults read.2.1.id)
  let delivered ← (ask (.notify task read.1.callbackUrl read.2.2
    (.of webhooks read.2.1 results))).attempt
  match delivered with
  | .ok _ => return .nothing
  | .error (.notify (.webhookDelivery message)) =>
      retryLater webhooks task (.webhookDelivery message)
  | .error exc => Program.raise exc

/-- `DocumentStatusView.get`, behind `EnforceAccountLimitsMixin.initial`. -/
def DocumentStatusView.get (account : ServiceAccount) (contentHash : String) : ServicePy Reply :=
  match limitFor account with
  | .error _ => pure .forbidden
  | .ok _ => do
      let remediation : Option Remediation ← ask (.latestForDocument account.id contentHash)
      match remediation with
      | none => return .notFound
      | some remediation => do
          let results : List VerificationResultData ← ask (.verificationResults remediation.id)
          return .status (RemediationSerializer.data webhooks remediation results)

/-- `DocumentDownloadView.get`, behind `EnforceAccountLimitsMixin.initial`. -/
def DocumentDownloadView.get (account : ServiceAccount) (contentHash : String) : ServicePy Reply :=
  match limitFor account with
  | .error _ => pure .forbidden
  | .ok _ => do
      let remediation : Option Remediation ← ask (.latestForDocument account.id contentHash)
      match remediation with
      | none => return .notFound
      | some remediation =>
          if remediation.hasFinalOutput then do
            let bytes : Bytes ← ask (.storageOpen remediation.finalOutputUri)
            return .file
              (if remediation.originalFilename = "" then "document.pdf"
                else remediation.originalFilename) bytes
          else return .notFound

end Programs

/-! ## The machine -/

/-- One call of `WebhookClient.notify`.  It is `posted` unless the check of the URL refused
it. -/
structure Delivery where
  /-- The worker's thread. -/
  thread : ℕ
  task : Notification
  callbackUrl : String
  signature : String
  payload : Payload
  sentAt : ℕ
  posted : Bool
  outcome : Except NotifyError Unit
  deriving DecidableEq

/-- The check refused the URL, or the POST did not go through. -/
def Delivery.failed (delivery : Delivery) : Bool :=
  match delivery.outcome with
  | .error (.webhookDelivery _) => true
  | _ => false

/-- The receiver has answered with a 2xx. -/
def Delivery.succeeded (delivery : Delivery) : Bool := delivery.outcome.isOk

/-- A task in the queue, and the thread that put it there. -/
structure Retry where
  thread : ℕ
  task : Notification
  runAfter : Option ℕ
  deriving DecidableEq, Repr

/-- Everything the tasks and the views share. -/
structure ServiceStore where
  cluster : Cluster
  /-- The webhook secrets of an account, newest first. -/
  secrets : ℕ → List String
  /-- The `send_webhook_notification` tasks after first attempts, newest first. -/
  retries : List Retry
  /-- A history variable: every call of `notify`, newest first. -/
  deliveries : List Delivery

/-- What the outside world answers to one operation. -/
structure Surroundings where
  internet : Internet
  /-- The text of the `HTTPError` a POST ends with, if it does. -/
  post : Text → Option Text
  database : Option String := none
  storage : Option String := none

/-- The kinds of threads. -/
inductive ServiceRole where
  | notify (task : Notification)
  | status (account : ServiceAccount) (contentHash : String)
  | download (account : ServiceAccount) (contentHash : String)
  deriving DecidableEq, Repr

/-- What else happens. -/
inductive ServiceMove where
  /-- The pipeline moves on. -/
  | pipeline (choice : Choice)
  /-- `regenerate_webhook_secret`. -/
  | regenerateSecret (account : ℕ) (secret : String)

section Machine

variable (settings : Settings) (acceptsUrl : String → Bool) (webhooks : WebhookSettings)

/-- What a call of `notify` by thread `i` is recorded as. -/
def Delivery.of (surroundings : Surroundings) (i sentAt : ℕ) (task : Notification)
    (callbackUrl secret : String) (payload : Payload) : Delivery where
  thread := i
  task := task
  callbackUrl := callbackUrl
  signature := "sha256=" ++ webhooks.hmac secret payload
  payload := payload
  sentAt := sentAt
  posted :=
    checkWebhookUrl surroundings.internet webhooks.allowPrivateUrls callbackUrl.toList = .ok ()
  outcome := notify surroundings.internet webhooks.allowPrivateUrls surroundings.post
    callbackUrl.toList

/-- The verdicts stored for an attempt.  The query has no order. -/
def Store.verificationResults (s : Store) (remediation : ℕ) : List VerificationResultData :=
  [Step.precheck, .ocr, .fontRepair, .finalizeMetadata, .linkTag, .altText, .scoring,
    .postcheck].filterMap fun step =>
      (s.results remediation step).map (VerificationResultSerializer.data step)

/-- What one operation of thread `i` answers and does when the database and the storage
work. -/
def ServiceStore.perform (surroundings : Surroundings) (i : ℕ) :
    (op : ServiceOp) → ServiceStore → Except ServiceExn op.Ans × ServiceStore
  | .now, s => (.ok s.cluster.store.clock, s)
  | .getCallback id, s =>
      match s.cluster.store.callbacks.find? fun callback => callback.id = id with
      | none => (.error (.raised (.doesNotExist "RemediationCallback")), s)
      | some callback =>
          match s.cluster.store.row callback.remediation with
          | none => (.error (.raised (.doesNotExist "RemediationCallback")), s)
          | some remediation =>
              (.ok (callback, remediation, (s.secrets remediation.serviceAccount).headD ""), s)
  | .verificationResults id, s => (.ok (s.cluster.store.verificationResults id), s)
  | .notify task callbackUrl secret payload, s =>
      let delivery := Delivery.of webhooks surroundings i s.cluster.store.clock task callbackUrl
        secret payload
      (delivery.outcome.mapError .notify, { s with deliveries := delivery :: s.deliveries })
  | .enqueueRetry task runAfter, s =>
      (.ok (), { s with retries := ⟨i, task, runAfter⟩ :: s.retries })
  | .latestForDocument account contentHash, s =>
      (.ok (s.cluster.store.latest account contentHash), s)
  | .storageOpen uri, s =>
      match s.cluster.store.objects uri with
      | some bytes => (.ok bytes, s)
      | none => (.error (.raised (.other ("No such file or directory: " ++ uri.text))), s)

/-- The error the outside world lets an operation raise before it does anything. -/
def Surroundings.failure (surroundings : Surroundings) : ServiceOp → Option Exn
  | .now => none
  | .notify _ _ _ _ => none
  | .storageOpen _ => surroundings.storage.map .other
  | _ => surroundings.database.map .operationalError

/-- One operation of thread `i`. -/
def ServiceStore.execute (surroundings : Surroundings) (i : ℕ) (op : ServiceOp)
    (s : ServiceStore) : Except ServiceExn op.Ans × ServiceStore :=
  match surroundings.failure op with
  | some exc => (.error (.raised exc), s)
  | none => s.perform webhooks surroundings i op

/-- The queue holds the task, and it may be run. -/
def ServiceStore.Ready (s : ServiceStore) (task : Notification) : Prop :=
  (task.attempt = 1 ∧ task.callback ∈ s.cluster.store.webhookTasks) ∨
    ∃ retry ∈ s.retries, retry.task = task ∧
      ∀ runAfter, retry.runAfter = some runAfter → runAfter ≤ s.cluster.store.clock

instance (s : ServiceStore) (task : Notification) : Decidable (s.Ready task) :=
  inferInstanceAs (Decidable (_ ∨ _))

/-- How often the queue holds the task. -/
def ServiceStore.queued (s : ServiceStore) (task : Notification) : ℕ :=
  (if task.attempt = 1 then s.cluster.store.webhookTasks.count task.callback else 0) +
    s.retries.countP fun retry => retry.task = task

/-- The program of a role. -/
def ServiceRole.program : ServiceRole → ServicePy Reply
  | .notify task => sendWebhookNotification webhooks task
  | .status account contentHash => DocumentStatusView.get webhooks account contentHash
  | .download account contentHash => DocumentDownloadView.get account contentHash

/-- What the pipeline is after one choice of its scheduler, if that can be taken. -/
def ServiceStore.move : ServiceMove → ServiceStore → ServiceStore
  | .pipeline choice, s =>
      { s with cluster := ((system settings acceptsUrl).next s.cluster choice).getD s.cluster }
  | .regenerateSecret account secret, s =>
      { s with secrets := Function.update s.secrets account (secret :: s.secrets account) }

/-- **The service.**  A queued task is never used up: the backend redelivers. -/
def service : Machine ServiceQuery ServiceExn Reply ServiceStore ServiceRole Surroundings
    ServiceMove where
  exec := fun surroundings i op s => some (s.execute webhooks surroundings i op)
  start := fun role s =>
    match role with
    | .notify task => if s.Ready task then some (role.program webhooks) else none
    | _ => some (role.program webhooks)
  crash := fun _ s => s
  env := fun move s => s.move settings acceptsUrl move

end Machine

/-- A configuration of the service. -/
abbrev ServiceCluster := Config ServiceQuery ServiceExn Reply ServiceStore ServiceRole

/-- A choice of the scheduler of the service. -/
abbrev ServiceChoice := Label ServiceRole Surroundings ServiceMove

/-- The service before its first submit: every account has one secret. -/
def ServiceStore.initial (retryFloor : Option String) (secret : ℕ → String) : ServiceStore where
  cluster := deployed retryFloor
  secrets := fun account => [secret account]
  retries := []
  deliveries := []

/-- The service before its first submit. -/
def launched (retryFloor : Option String) (secret : ℕ → String) : ServiceCluster :=
  .initial (.initial retryFloor secret)

/-! ## A service to replay schedules on -/

/-- The default settings of the deliveries. -/
def WebhookSettings.default : WebhookSettings where
  maxAttempts := 5
  backoffBaseSeconds := 30
  allowPrivateUrls := false
  publicOrigin := "https://api.example"
  supportsDefer := true
  hmac := fun secret _ => secret

/-- Every host is one public address, and a POST ends as given. -/
def Surroundings.answering (error : Option Text) : Surroundings where
  internet := oneHost
  post := fun _ => error

/-- The pipeline moves on by these choices. -/
def meanwhile (choices : List Choice) : List ServiceChoice := choices.map fun choice =>
  .env (.pipeline choice)

end DicePipeline
