import DicePipeline.Api.Views
import DicePipeline.Remediation.Effects
import DicePipeline.Remediation.Tasks

/-!
# Which operations a program can issue

A run of `process_remediation` writes only what belongs to its own attempt, and
a submit only what belongs to its own account and document.  Both facts are
about the shape of the code: they use of the store only what every answer
satisfies (`answered`).
-/

namespace DicePipeline

open Interaction Program

/-- The operations the pipeline of a run for attempt `id` may issue. -/
def OfPipeline (id : ℕ) : Op → Prop
  | .now => True
  | .saveRemediation other _ => other = id
  | .completedOutputUri other _ => other = id
  | .upsertArtifact other _ _ => other = id
  | .createVerificationResult other _ _ => other = id
  | .getVerificationResult other _ => other = id
  | .createScore other _ => other = id
  | .storageExists _ => True
  | .storageDelete uri => ∃ account hash step name, uri = .output account hash id step name
  | .storageSave uri _ => ∃ account hash step name, uri = .output account hash id step name
  | .storageOpen _ => True
  | .adapter _ => True
  | _ => False

/-- The operations the steps of the pipeline may issue: they write no status of the
attempt. -/
def OfStep (id : ℕ) : Op → Prop
  | .now => False
  | .saveRemediation _ _ => False
  | op => OfPipeline id op

/-- The operations a run of the task for attempt `id` may issue. -/
def OfRun (id : ℕ) : Op → Prop
  | .getRemediation other => other = id
  | .callbackIds other => other = id
  | .enqueueWebhook _ => True
  | op => OfPipeline id op

section Run

variable {settings : Settings} {id : ℕ} {remediation : Remediation}

private theorem retry_only {P : Op → Prop} {α : Type} {func : Py α}
    (h : func.Only answered P) : (retryOnLostConnection func).Only answered P := by
  refine h.handle fun exc => ?_
  cases exc <;> first | exact h | trivial

theorem markStatus_only (own : remediation.id = id) (step : Step)
    (artifact : RemediationArtifact) :
    (ArtifactService.markStatus remediation step artifact).Only answered (OfStep id) :=
  retry_only ((only_perform _).mpr own)

private theorem localInputCopy_only (pdfUri : Uri) :
    (ArtifactService.localInputCopy pdfUri).Only answered (OfStep id) :=
  Only.bind ((only_perform _).mpr trivial) fun _ => trivial

private theorem persistOutput_only (own : remediation.id = id) (output : LocalFile)
    (step : Step) (name : String) :
    (ArtifactService.persistOutput output
      (ArtifactService.destUri remediation step name)).Only answered (OfStep id) := by
  have mine : ∃ account hash step' name', ArtifactService.destUri remediation step name =
      .output account hash id step' name' := by
    subst own
    exact ⟨_, _, _, _, rfl⟩
  refine Only.bind ((only_perform _).mpr trivial) fun taken => ?_
  cases taken with
  | true =>
      refine Only.bind ((only_perform _).mpr mine) fun _ => ?_
      exact (only_perform _).mpr mine
  | false => exact (only_perform _).mpr mine

/-- The operation is a call of an adapter or of the vision client. -/
def IsAdapterCall (op : Op) : Prop := ∃ call, op = .adapter call

/-- The work of a transform step only calls adapters. -/
def AdapterOnly (p : Py LocalFile) : Prop := p.Only answered IsAdapterCall

private theorem transformRun_only (own : remediation.id = id) (service : TransformService)
    (adapters : ∀ file, AdapterOnly (service.work remediation file)) (pdfUri : Uri) :
    (service.toStep.run remediation pdfUri).Only answered (OfStep id) := by
  refine Only.bind ((only_perform _).mpr own) fun existing => ?_
  cases existing with
  | some outputUri => trivial
  | none =>
      refine Only.attempt_bind ?_ fun outcome => ?_
      · refine Only.bind (localInputCopy_only pdfUri) fun file => ?_
        refine Only.bind ((adapters file).mono ?_) fun output => persistOutput_only own _ _ _
        rintro op ⟨call, rfl⟩
        trivial
      · cases outcome with
        | error exc => exact Only.bind (markStatus_only own _ _) fun _ => trivial
        | ok outputUri => exact Only.bind (markStatus_only own _ _) fun _ => trivial

private theorem issue_only {P : Op → Prop} {op : Op} (h : P op) :
    (issue op).Only answered P := (only_perform _).mpr h

private theorem adapter_only (call : AdapterCall) {α : Type} {f : call.Result → Py α}
    (rest : ∀ result, (f result).Only answered IsAdapterCall) :
    ((issue (.adapter call)).bind f).Only answered IsAdapterCall :=
  Only.bind (issue_only ⟨call, rfl⟩) rest

private theorem describeCandidates_only (title : String) (candidates : List FigureCandidate)
    (altByRef : AltByRef) :
    (describeCandidates title candidates altByRef).Only answered IsAdapterCall := by
  induction candidates generalizing altByRef with
  | nil => trivial
  | cons candidate rest ih =>
      rw [describeCandidates]
      split
      · exact ih _
      · exact adapter_only _ fun text => ih _

/-- No transform service does anything but call adapters. -/
theorem work_adapterOnly {service : TransformService}
    (member : service ∈ transformServices settings) (remediation : Remediation)
    (file : LocalFile) : AdapterOnly (service.work remediation file) := by
  simp only [transformServices, List.mem_cons, List.not_mem_nil, or_false] at member
  rcases member with rfl | rfl | rfl | rfl | rfl
  · exact issue_only ⟨_, rfl⟩
  · exact issue_only ⟨_, rfl⟩
  · exact issue_only ⟨_, rfl⟩
  · exact issue_only ⟨_, rfl⟩
  · exact adapter_only (.collectFigures file) fun candidates =>
      Only.bind (describeCandidates_only _ candidates []) fun _ => issue_only ⟨_, rfl⟩

private theorem verification_only (own : remediation.id = id) (service : VerificationService)
    (result : ∀ isCompliant rules, (service.handleResult isCompliant rules).Only answered (OfStep id))
    (unavailable : ∀ error, (service.handleVerificationError error).Only answered (OfStep id))
    (pdfUri : Uri) :
    (ArtifactService.run service.toStep remediation pdfUri).Only answered (OfStep id) := by
  refine Only.bind ((only_perform _).mpr own) fun existing => ?_
  cases existing with
  | some outputUri =>
      refine Only.bind ((only_perform _).mpr own) fun previous => ?_
      split
      · trivial
      · exact Only.bind (result _ _) fun _ => trivial
  | none =>
      refine Only.attempt_bind ?_ fun validated => ?_
      · refine Only.bind (localInputCopy_only pdfUri) fun file => ?_
        exact Only.bind ((only_perform _).mpr trivial) fun _ => trivial
      · cases validated with
        | error exc =>
            refine Only.bind (markStatus_only own _ _) fun _ => ?_
            exact Only.bind (unavailable _) fun _ => trivial
        | ok judged =>
            refine Only.bind ((only_perform _).mpr own) fun _ => ?_
            refine Only.bind (markStatus_only own _ _) fun _ => ?_
            exact Only.bind (result _ _) fun _ => trivial

private theorem scoring_only (own : remediation.id = id) (pdfUri : Uri) :
    (ScoringService.run remediation pdfUri).Only answered (OfStep id) := by
  refine Only.bind ((only_perform _).mpr own) fun existing => ?_
  cases existing with
  | some outputUri => trivial
  | none =>
      refine Only.attempt_bind ?_ fun outcome => ?_
      · exact Only.bind (localInputCopy_only pdfUri) fun file => issue_only trivial
      · cases outcome with
        | error exc => exact Only.bind (markStatus_only own _ _) fun _ => trivial
        | ok result =>
            refine Only.bind ((only_perform _).mpr own) fun _ => ?_
            exact Only.bind (markStatus_only own _ _) fun _ => trivial

/-- A step writes no status of the attempt. -/
theorem run_only (own : remediation.id = id) (service : ArtifactService)
    (member : service ∈ pipelineSteps settings) (pdfUri : Uri) :
    (service.run remediation pdfUri).Only answered (OfStep id) := by
  simp only [pipelineSteps_eq, List.mem_append, List.mem_cons, List.mem_map, List.not_mem_nil,
    or_false] at member
  rcases member with (rfl | ⟨transform, isTransform, rfl⟩) | rfl | rfl
  · refine verification_only own PrecheckService (fun isCompliant _ => ?_)
      (fun _ => trivial) pdfUri
    cases isCompliant <;> trivial
  · exact transformRun_only own transform (work_adapterOnly isTransform remediation) pdfUri
  · exact scoring_only own pdfUri
  · refine verification_only own PostCheckService (fun isCompliant _ => ?_)
      (fun _ => trivial) pdfUri
    cases isCompliant <;> trivial

private theorem runSteps_only (own : remediation.id = id) (services : List ArtifactService)
    (members : ∀ service ∈ services, service ∈ pipelineSteps settings) (pdfUri : Uri) :
    (runSteps settings remediation services pdfUri).Only answered (OfStep id) := by
  induction services generalizing pdfUri with
  | nil => trivial
  | cons service rest ih =>
      have later : ∀ service ∈ rest, service ∈ pipelineSteps settings :=
        fun other member => members other (List.mem_cons_of_mem _ member)
      rw [runSteps]
      split
      · refine Only.attempt_bind (markStatus_only own _ _) fun ended => ?_
        cases ended with
        | ok _ => exact ih later pdfUri
        | error exc => trivial
      · refine Only.attempt_bind (run_only own service (members _ List.mem_cons_self) pdfUri)
          fun ended => ?_
        cases ended with
        | ok output => exact ih later output
        | error exc => trivial

theorem OfStep.ofPipeline {op : Op} (h : OfStep id op) : OfPipeline id op := by
  cases op <;> first | exact h | exact h.elim

private theorem markFinished_only (own : remediation.id = id) (status : JobStatus) (uri : Uri)
    (error : Option String) :
    (RemediationService.markFinished remediation status uri error).Only answered (OfPipeline id) :=
  retry_only (Only.bind ((only_perform _).mpr trivial) fun _ => (only_perform _).mpr own)

private theorem conclude_only (own : remediation.id = id) (ended : Except Exn Unit × Uri) :
    (conclude settings remediation ended).Only answered (OfPipeline id) := by
  obtain ⟨result, pdfUri⟩ := ended
  cases result with
  | ok _ =>
      rw [conclude]
      split <;> exact markFinished_only own _ _ _
  | error exc =>
      cases exc <;> first
        | exact markFinished_only own _ _ _
        | exact Only.bind (markFinished_only own _ _ _) fun _ => trivial

/-- The pipeline of a run touches its own attempt only, and no callback. -/
theorem runPipeline_only (own : remediation.id = id) :
    (runPipeline settings remediation).Only answered (OfPipeline id) :=
  Only.bind ((runSteps_only own _ (fun _ member => member) _).mono fun _ => OfStep.ofPipeline)
    fun ended => conclude_only own ended

theorem OfPipeline.ofRun {op : Op} (h : OfPipeline id op) : OfRun id op := by
  cases op <;> first | exact h | exact h.elim

private theorem enqueueWebhooks_only (callbacks : List ℕ) :
    (enqueueWebhooks callbacks).Only answered (OfRun id) := by
  induction callbacks with
  | nil => trivial
  | cons callback rest ih => exact Only.bind ((only_perform _).mpr trivial) fun _ => ih

/-- **A run of the task touches its own attempt only.** -/
theorem processRemediation_only (settings : Settings) (id : ℕ) :
    (processRemediation settings id).Only answered (OfRun id) := by
  refine Only.perform_bind (S := Query) rfl fun remediation own => ?_
  split
  · trivial
  · refine Only.bind (Only.bind ((only_perform _).mpr trivial) fun _ =>
      (only_perform _).mpr own) fun _ => ?_
    refine Only.ensure ?_ ?_
    · exact (runPipeline_only own).mono fun _ => OfPipeline.ofRun
    · exact Only.bind ((only_perform _).mpr own) fun ids => enqueueWebhooks_only ids

end Run

/-- The operations `get_or_create_from_upload` may issue for an upload. -/
def OfUpload (settings : Settings) (account : ℕ) (upload : Upload) : Op → Prop
  | .now => True
  | .latestForDocument other contentHash =>
      other = account ∧ contentHash = upload.contentHash settings
  | .pipelineConfig => True
  | .lockAccount other => other = account
  | .recentSubmissions other _ => other = account
  | .insertRemediation new =>
      new.serviceAccount = account ∧ new.contentHash = upload.contentHash settings
  | .commit => True
  | .rollback => True
  | .storageExists uri =>
      uri = .original account (upload.contentHash settings) upload.filename
  | .storageSave uri bytes =>
      uri = .original account (upload.contentHash settings) upload.filename ∧
        bytes = upload.bytes
  | _ => False

/-- The operations a submit of `upload` by `account` may issue. -/
def OfSubmit (settings : Settings) (account : ℕ) (upload : Upload) : Op → Prop
  | .claimEnqueue _ _ _ => True
  | .getOrCreateCallback _ callbackUrl => callbackUrl = upload.callbackUrl
  | .enqueueWebhook _ => True
  | .enqueueProcess _ => True
  | .getRemediation _ => True
  | op => OfUpload settings account upload op

section Submit

variable {settings : Settings} {account : ℕ} {upload : Upload}

/-- What `_reusable_attempt` issues. -/
theorem reusableAttempt_only {P : Op → Prop} {contentHash : String}
    (look : P (.latestForDocument account contentHash)) (config : P .pipelineConfig)
    (force : Bool) :
    (RemediationService.reusableAttempt settings account contentHash force).Only answered P := by
  refine Only.bind (issue_only look) fun existing => ?_
  cases existing with
  | none => trivial
  | some existing =>
      simp only
      split
      · trivial
      · refine Only.bind ?_ fun _ => trivial
        rw [RemediationService.shouldRetry]
        split
        · trivial
        · split
          · trivial
          · exact Only.bind (Only.bind (issue_only config) fun _ => trivial) fun _ => trivial

private theorem makeAttempt_only :
    (RemediationService.makeAttempt settings account upload).Only answered
      (OfUpload settings account upload) := by
  refine Only.bind ?_ fun originalPath => ?_
  · refine Only.bind (issue_only rfl) fun stored => ?_
    cases stored with
    | true => trivial
    | false => exact Only.bind (issue_only ⟨rfl, rfl⟩) fun _ => trivial
  · refine Only.attempt_bind ?_ fun made => ?_
    · exact Only.bind (issue_only trivial) fun createdAt => issue_only ⟨rfl, rfl⟩
    · cases made with
      | ok remediation => trivial
      | error exc =>
          cases exc with
          | integrityError constraint =>
              refine Only.bind (issue_only ⟨rfl, rfl⟩) fun current => ?_
              cases current with
              | none => trivial
              | some current => exact Only.ite trivial trivial
          | _ => trivial

/-- What the limit check issues. -/
theorem checkLimit_only {P : Op → Prop} {limit : Option SubmissionLimit}
    (lock : ∀ l, limit = some l → P (.lockAccount l.account))
    (count : ∀ l since, limit = some l → P (.recentSubmissions l.account since))
    (now : P .now) : (checkLimit limit).Only answered P := by
  cases limit with
  | none => trivial
  | some l =>
      refine Only.bind ?_ fun usage => ?_
      · refine Only.bind (issue_only (lock l rfl)) fun _ => ?_
        exact Only.bind (issue_only now) fun _ => issue_only (count l _ rfl)
      · refine Only.ite trivial (Only.bind ?_ fun wait => ?_)
        · obtain ⟨count, oldest⟩ := usage
          cases oldest with
          | none => trivial
          | some oldest => exact Only.bind (issue_only now) fun _ => trivial
        · exact Only.bind (issue_only now) fun _ => trivial

/-- What `get_or_create_from_upload` issues. -/
theorem getOrCreate_only (limit : Option SubmissionLimit)
    (own : ∀ l, limit = some l → l.account = account) :
    (RemediationService.getOrCreateFromUpload settings account upload
      (some (checkLimit limit))).Only answered (OfUpload settings account upload) := by
  refine Only.attempt_bind ?_ fun outcome => ?_
  · refine Only.bind (reusableAttempt_only ⟨rfl, rfl⟩ trivial _) fun reusable => ?_
    cases reusable with
    | some reusable => trivial
    | none =>
        refine Only.bind (checkLimit_only own (fun l _ => own l) trivial) fun _ => ?_
        refine Only.bind (reusableAttempt_only ⟨rfl, rfl⟩ trivial _) fun reusable => ?_
        cases reusable with
        | some reusable => trivial
        | none => exact makeAttempt_only
  · cases outcome with
    | ok value => exact Only.bind (issue_only trivial) fun _ => trivial
    | error exc => exact Only.bind (issue_only trivial) fun _ => trivial

theorem OfUpload.ofSubmit {op : Op} (h : OfUpload settings account upload op) :
    OfSubmit settings account upload op := by
  cases op <;> first | exact h | exact h.elim

/-- What `subscribe` issues. -/
theorem subscribe_only {P : Op → Prop} {remediation : Remediation} {callbackUrl : String}
    (register : P (.getOrCreateCallback remediation callbackUrl))
    (notify : ∀ callback, P (.enqueueWebhook callback)) :
    (CreateRemediationView.subscribe remediation callbackUrl).Only answered P := by
  rw [CreateRemediationView.subscribe]
  split
  · trivial
  · exact Only.bind (issue_only register) fun made =>
      Only.ite (issue_only (notify _)) trivial

/-- What `queue` issues. -/
theorem queue_only {P : Op → Prop} (now : P .now)
    (claim : ∀ id lastEnqueuedAt now, P (.claimEnqueue id lastEnqueuedAt now))
    (enqueue : ∀ id, P (.enqueueProcess id)) (refresh : ∀ id, P (.getRemediation id))
    (remediation : Remediation) (created : Bool) :
    (CreateRemediationView.queue settings remediation created).Only answered P := by
  refine Only.bind ?_ fun claimed => ?_
  · rw [RemediationService.claimEnqueue]
    split
    · trivial
    · refine Only.bind ?_ fun stuck => ?_
      · rw [RemediationService.isStuck]
        split
        · trivial
        · exact Only.bind (issue_only now) fun _ => trivial
      · cases stuck with
        | true => exact Only.bind (issue_only now) fun _ => issue_only (claim _ _ _)
        | false => trivial
  · cases claimed with
    | true => exact Only.bind (issue_only (enqueue _)) fun _ => issue_only (refresh _)
    | false => trivial

/-- The limit of an account is its own. -/
theorem limitFor_account {account : ServiceAccount} {limit : Option SubmissionLimit}
    (found : limitFor account = .ok limit) : ∀ l, limit = some l → l.account = account.id := by
  rintro l rfl
  rw [limitFor] at found
  cases rate : account.rateLimit with
  | error exc =>
      rw [rate] at found
      cases found
  | ok rate' =>
      rw [rate] at found
      cases rate' with
      | none => cases found
      | some pair =>
          cases found
          rfl

/-- **A submit touches its own account and document only.** -/
theorem post_only (settings : Settings) (acceptsUrl : String → Bool) (account : ServiceAccount)
    (upload : Upload) :
    (CreateRemediationView.post settings acceptsUrl account upload).Only answered
      (OfSubmit settings account.id upload) := by
  rw [CreateRemediationView.post]
  cases found : limitFor account with
  | error exc => trivial
  | ok limit =>
      simp only [CreateRemediationView.submit]
      cases RemediationUploadSerializer.isValid acceptsUrl upload with
      | error exc => trivial
      | ok _ =>
          refine Only.bind ((getOrCreate_only limit (limitFor_account found)).mono
            fun _ => OfUpload.ofSubmit) fun made => ?_
          refine Only.bind (subscribe_only rfl fun _ => trivial) fun _ => ?_
          exact Only.bind (queue_only trivial (fun _ _ _ => trivial) (fun _ => trivial)
            (fun _ => trivial) _ _) fun _ => trivial

end Submit

end DicePipeline
