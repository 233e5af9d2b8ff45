import DicePipeline.Attempt.Moves

/-!
# Every operation of a run is a move

`Worker` is what a run of `process_remediation` lives in: every adapter, storage
and database operation may fail, adapters answer as `answers` allows, and between
two operations the others leave the attempt alone.  Steps of the history that a
theorem excludes are not `admitted`.

There is one triple for each function of the services and the task, following its
code; `process_spec` assembles them.  `Deliveries.kept` is what they are for: an
invariant of moves holds of an attempt after any number of kills, at any point,
and redeliveries.
-/

namespace DicePipeline

open Interaction Program Environment

section Worker

variable (settings : Settings) (answers : Answers) (admitted : Store → Op → Prop) (job : Job)

/-- The environment of the runs of one attempt, one active at a time. -/
def Worker : Environment Query Exn Store where
  step := fun op s r t => admitted s op ∧ ∃ (world : World) (i : ℕ),
    (∀ call result, world.adapter call = .ok result → answers call result) ∧
      execute settings world i op s = some (r, t)
  rely := LeftAlone job
  guarantee := Move settings answers admitted job
  rely_refl := LeftAlone.refl job
  rely_trans := LeftAlone.trans

/-- A run has gone through `before`, and holds `pdfUri`. -/
structure At (before : List Step) (pdfUri : Uri) (s : Store) : Prop where
  consistent : Consistent settings answers job s
  unfinished : Unfinished job s
  pdfUri : s.pdfUri job.id before job.source = pdfUri
  goesOn : .precheck ∈ before → GoesOn job s

/-- A run is about to do a step that is not COMPLETED. -/
def Pending (step : Step) (pdfUri : Uri) (s : Store) : Prop :=
  At settings answers job step.earlier pdfUri s ∧ s.completed job.id step = none

/-- Postcheck is COMPLETED, and its verdict is compliant. -/
def Passed (s : Store) : Prop :=
  ∃ uri result, s.completed job.id .postcheck = some uri ∧
    s.results job.id .postcheck = some result ∧ VerificationResult.isCompliant result = true

/-- What a check that raised nothing says about the store. -/
def Accepted (step : Step) (s : Store) : Prop :=
  (step = .precheck → GoesOn job s) ∧ (step = .postcheck → Passed job s)

/-- What an exception that ended the steps says about the store. -/
def Raised (pdfUri : Uri) (s : Store) : Exn → Prop
  | .alreadyCompliant => ∃ uri result, s.completed job.id .precheck = some uri ∧
      s.results job.id .precheck = some result ∧ VerificationResult.isCompliant result = true
  | .notCompliant failedRules => pdfUri = s.input job .postcheck ∧
      ∃ uri result, s.completed job.id .postcheck = some uri ∧
        s.results job.id .postcheck = some result ∧
        VerificationResult.isCompliant result = false ∧
        (VerificationResult.failedRules result).mapM FailedRuleDict.toRule = some failedRules
  | _ => True

/-- How a step ended that was handed `pdfUri`. -/
def Ran (step : Step) (pdfUri : Uri) : Except Exn Uri → Store → Prop
  | .ok output, s => At settings answers job step.earlier pdfUri s ∧
      (s.completed job.id step).getD pdfUri = output ∧ Accepted job step s
  | .error exc, s => At settings answers job step.earlier pdfUri s ∧ Raised job pdfUri s exc

/-- How the steps ended. -/
def Ended : Except Exn (Except Exn Unit × Uri) → Store → Prop
  | .ok (.ok (), pdfUri), s => At settings answers job Step.order pdfUri s ∧
      (settings.run .postcheck = true → Passed job s)
  | .ok (.error exc, pdfUri), s => Consistent settings answers job s ∧ Unfinished job s ∧
      Raised job pdfUri s exc
  | .error _, _ => False

/-- The assertion still holds, and a value that was returned is known to satisfy `φ`;
an exception was none of the code's own. -/
def Known {α : Type} (P : Store → Prop) (φ : α → Store → Prop) : Except Exn α → Store → Prop
  | .ok value, s => P s ∧ φ value s
  | .error exc, s => P s ∧ exc.isRaisedByCode = false

end Worker

variable {settings : Settings} {answers : Answers} {admitted : Store → Op → Prop} {job : Job}
variable {s t : Store} {step : Step} {pdfUri : Uri} {P : Store → Prop}

/-! ## Stable assertions -/

theorem Unfinished.leftAlone (unfinished : Unfinished job s) (leftAlone : LeftAlone job s t) :
    Unfinished job t := by
  obtain ⟨row, found, status⟩ := unfinished
  obtain ⟨enqueued, foundT⟩ := leftAlone.row row found
  exact ⟨_, foundT, status⟩

theorem GoesOn.leftAlone (goesOn : GoesOn job s) (leftAlone : LeftAlone job s t) :
    GoesOn job t := by
  intro uri result completed stored
  rw [leftAlone.completed] at completed
  rw [leftAlone.results] at stored
  exact goesOn uri result completed stored

theorem stable_at (before : List Step) :
    (Worker settings answers admitted job).Stable (At settings answers job before pdfUri) :=
  fun _ _ holds leftAlone => ⟨holds.consistent.leftAlone leftAlone,
    holds.unfinished.leftAlone leftAlone, (leftAlone.pdfUri _ _).trans holds.pdfUri,
    fun isBefore => (holds.goesOn isBefore).leftAlone leftAlone⟩

theorem stable_completed (step : Step) (output : Option Uri) :
    (Worker settings answers admitted job).Stable fun s => s.completed job.id step = output :=
  fun _ _ holds leftAlone => (leftAlone.completed step).trans holds

theorem stable_result (step : Step) (result : Option VerificationResult) :
    (Worker settings answers admitted job).Stable fun s => s.results job.id step = result :=
  fun _ _ holds leftAlone => (congrFun leftAlone.results step).trans holds

theorem stable_object {uri : Uri} (owned : job.Owns uri) (content : Option Bytes) :
    (Worker settings answers admitted job).Stable fun s => s.objects uri = content :=
  fun _ _ holds leftAlone => (leftAlone.objects uri owned).trans holds

theorem stable_pending (step : Step) :
    (Worker settings answers admitted job).Stable (Pending settings answers job step pdfUri) :=
  (stable_at _).and (stable_completed step none)

/-- The input of a step is the original or an output of the attempt. -/
theorem At.owns {before : List Step} (holds : At settings answers job before pdfUri s) :
    job.Owns pdfUri := by
  rw [← holds.pdfUri]
  exact (holds.consistent.pdfUri_rooted before).owns

theorem MadeFrom.leftAlone {service : TransformService} {input output : Uri}
    (made : MadeFrom answers job service s input output) (leftAlone : LeftAlone job s t)
    (ownsInput : job.Owns input) (ownsOutput : job.Owns output) :
    MadeFrom answers job service t input output := by
  obtain ⟨bytes, file, read, stored, yields⟩ := made
  exact ⟨bytes, file, (leftAlone.objects _ ownsInput).trans read,
    (leftAlone.objects _ ownsOutput).trans stored, yields⟩

theorem MayRecord.leftAlone {artifact : RemediationArtifact}
    (evidence : MayRecord settings answers job s step artifact)
    (consistent : Consistent settings answers job s) (leftAlone : LeftAlone job s t) :
    MayRecord settings answers job t step artifact := by
  have owned : job.Owns (s.input job step) := (consistent.pdfUri_rooted _).owns
  have input := leftAlone.input step
  cases evidence with
  | incomplete notCompleted => exact .incomplete notCompleted
  | transformed enabled member isStep made goesOn =>
      refine .transformed enabled member isStep ?_ (goesOn.leftAlone leftAlone)
      rw [input]
      exact made.leftAlone leftAlone owned (.inr ⟨_, _, rfl⟩)
  | judged enabled isCheck stored judged =>
      rw [← input]
      refine .judged enabled isCheck ((congrFun leftAlone.results step).trans stored) ?_
      rw [input]
      exact (leftAlone.objects _ owned).trans judged
  | scored enabled isScoring =>
      rw [← input]
      exact .scored enabled isScoring

theorem MaySave.leftAlone {fields : RemediationUpdate} (evidence : MaySave job s fields)
    (leftAlone : LeftAlone job s t) : MaySave job t fields := by
  have results := congrFun leftAlone.results
  cases evidence with
  | began isRunning => exact .began isRunning
  | compliant isStatus final isCheck completed stored isCompliant =>
      exact .compliant isStatus final isCheck ((leftAlone.completed _).trans completed)
        ((results _).trans stored) isCompliant
  | noncompliant isStatus final error completed stored isCompliant rules =>
      rw [← leftAlone.input] at final
      exact .noncompliant isStatus final error ((leftAlone.completed _).trans completed)
        ((results _).trans stored) isCompliant rules
  | ended isStatus => exact .ended isStatus

/-! ## Rules -/

/-- The rule of one operation. -/
theorem worker_issue {op : Op} {Q : Except Exn op.Ans → Store → Prop}
    (stable : (Worker settings answers admitted job).Stable P)
    (outcome : ∀ s r t world i, P s → admitted s op →
      (∀ call result, world.adapter call = .ok result → answers call result) →
      execute settings world i op s = some (r, t) →
      Move settings answers admitted job s t ∧ Q r t) :
    Triple (Worker settings answers admitted job) P (issue op) Q := by
  refine Triple.perform stable ?_
  rintro s r t holds ⟨isAdmitted, world, i, answering, executed⟩
  exact outcome s r t world i holds isAdmitted answering executed

/-- The operations of a run that write nothing. -/
def IsReading : Op → Prop
  | .now => True
  | .getRemediation _ => True
  | .completedOutputUri _ _ => True
  | .getVerificationResult _ _ => True
  | .callbackIds _ => True
  | .storageExists _ => True
  | .storageOpen _ => True
  | .adapter _ => True
  | _ => False

theorem Effect.reading {i : ℕ} {op : Op} (effect : Effect i s op t) (reads : IsReading op) :
    t = s := by
  cases effect <;> first | rfl | exact reads.elim

/-- The rule of an operation that writes nothing. -/
theorem worker_read {op : Op} {φ : op.Ans → Store → Prop} (reads : IsReading op)
    (stable : (Worker settings answers admitted job).Stable P)
    (answer : ∀ s t world i value, P s →
      (∀ call result, world.adapter call = .ok result → answers call result) →
      perform settings world i op s = some (.ok value, t) → φ value s) :
    Triple (Worker settings answers admitted job) P (issue op) (Known P φ) := by
  refine worker_issue stable fun s r t world i holds _ answering executed => ?_
  obtain rfl := (execute_effect executed).reading reads
  refine ⟨.idle (.refl job t), ?_⟩
  cases r with
  | ok value => exact ⟨holds, answer t t world i value holds answering (execute_ok executed)⟩
  | error exc =>
      have foreign := execute_answered executed
      exact ⟨holds, by cases op <;> exact foreign⟩

theorem Known.bind {α β : Type} {p : Py α} {f : α → Py β} {φ : α → Store → Prop}
    {P' : Store → Prop} {Q : Except Exn β → Store → Prop}
    (first : Triple (Worker settings answers admitted job) P' p (Known P φ))
    (returned : ∀ value,
      Triple (Worker settings answers admitted job) (fun s => P s ∧ φ value s) (f value) Q)
    (raised : ∀ exc s, P s → exc.isRaisedByCode = false → Q (.error exc) s) :
    Triple (Worker settings answers admitted job) P' (p.bind f) Q :=
  Triple.bind first returned fun exc s known => raised exc s known.1 known.2

/-- A function tried again on a lost connection. -/
theorem retry_spec {α : Type} {func : Py α} {Q : Except Exn α → Store → Prop}
    (spec : Triple (Worker settings answers admitted job) P func Q)
    (again : ∀ exc s, Q (.error exc) s → P s) :
    Triple (Worker settings answers admitted job) P (retryOnLostConnection func) Q := by
  refine Triple.handle spec (fun _ _ holds => holds) fun exc => ?_
  cases exc with
  | operationalError message => exact spec.pre (again _)
  | _ => exact Triple.done fun s holds => holds

/-- What an adapter call answered is what the adapter returned. -/
theorem adapter_answer {call : AdapterCall} {world : World} {i : ℕ} {result : call.Result}
    (performed : perform settings world i (.adapter call) s = some (.ok result, t)) :
    world.adapter call = .ok result := by
  simp only [perform] at performed
  cases answer : world.adapter call with
  | error message =>
      rw [answer] at performed
      cases performed
  | ok other =>
      rw [answer] at performed
      cases performed
      rfl

/-- Work that only calls adapters ends in what they may answer. -/
theorem adapters_spec {α : Type} (stable : (Worker settings answers admitted job).Stable P)
    {p : Py α} (only : p.Only answered IsAdapterCall) :
    Triple (Worker settings answers admitted job) P p fun r s =>
      match r with
      | .ok value => P s ∧ Yields answers p value
      | .error _ => P s := by
  induction p with
  | done result =>
      cases result with
      | ok value => exact Triple.done fun s holds => ⟨holds, .done value⟩
      | error exc => exact Triple.done fun s holds => holds
  | call op next ih =>
      obtain ⟨⟨call, rfl⟩, later⟩ := only
      intro s holds t leftAlone r u ⟨_, world, i, answering, executed⟩
      have holdsT := stable s t holds leftAlone
      obtain rfl := (execute_effect executed).reading trivial
      refine ⟨.idle (.refl job u), ?_⟩
      have rest := ih r (later r (execute_answered executed)) u holdsT
      refine rest.mono fun result v post => ?_
      cases result with
      | error exc => exact post
      | ok value =>
          refine ⟨post.1, ?_⟩
          cases r with
          | error exc => exact .caught post.2
          | ok answer => exact .call (answering call answer (adapter_answer (execute_ok executed))) post.2

/-! ## Reading the input, writing the output -/

variable {remediation : Remediation}

/-- `local_input_copy`. -/
theorem localInputCopy_spec (stable : (Worker settings answers admitted job).Stable P)
    (pdfUri : Uri) :
    Triple (Worker settings answers admitted job) P (ArtifactService.localInputCopy pdfUri)
      (Known P fun file s => s.objects pdfUri = some (LocalFile.bytes file) ∧
        file.name = pdfUri.filename) := by
  have reading : Triple (Worker settings answers admitted job) P (issue (.storageOpen pdfUri))
      (Known P fun (bytes : Bytes) s => s.objects pdfUri = some bytes) := by
    refine worker_read trivial stable fun s t world i bytes _ _ performed => ?_
    simp only [perform] at performed
    split at performed
    · cases performed
      assumption
    · cases performed
  exact Triple.bind reading (fun bytes => Triple.done fun s holds => ⟨holds.1, holds.2, rfl⟩)
    fun _ _ holds => holds

/-- Where a save puts the object. -/
theorem storageSave_ok {world : World} {i : ℕ} {name : String} {bytes : Bytes} {dest : Uri}
    (performed : perform settings world i (.storageSave (job.output step name) bytes) s =
      some (.ok dest, t)) :
    ∃ stored, dest = job.output step stored ∧ t = s.setObject dest (some bytes) := by
  simp only [perform] at performed
  split at performed
  · cases performed
    exact ⟨name, rfl, rfl⟩
  · split at performed
    · cases performed
      exact ⟨world.alternative, rfl, rfl⟩
    · cases performed

/-- What is known once an output is stored. -/
def Persisted (settings : Settings) (answers : Answers) (job : Job) (step : Step) (pdfUri : Uri)
    (output : LocalFile) (R : Store → Prop) : Except Exn Uri → Store → Prop
  | .ok dest, s => (Pending settings answers job step pdfUri s ∧ R s) ∧
      ∃ name, dest = job.output step name ∧ s.objects dest = some output.bytes
  | .error _, s => Pending settings answers job step pdfUri s

/-- `persist_output` puts the output into the directory of the step. -/
theorem persistOutput_spec (describes : job.Describes remediation) (output : LocalFile)
    {R : Store → Prop} (stableR : (Worker settings answers admitted job).Stable R)
    (elsewhere : ∀ s name content, Pending settings answers job step pdfUri s → R s →
      R (s.setObject (job.output step name) content)) :
    Triple (Worker settings answers admitted job)
      (fun s => Pending settings answers job step pdfUri s ∧ R s)
      (ArtifactService.persistOutput output
        (ArtifactService.destUri remediation step output.name))
      (Persisted settings answers job step pdfUri output R) := by
  rw [describes.destUri]
  have stable : (Worker settings answers admitted job).Stable fun s =>
      Pending settings answers job step pdfUri s ∧ R s := (stable_pending step).and stableR
  -- Writing into the directory of the step is a move that keeps the assertion.
  have write : ∀ s name content, Pending settings answers job step pdfUri s ∧ R s →
      Move settings answers admitted job s (s.setObject (job.output step name) content) ∧
        (Pending settings answers job step pdfUri (s.setObject (job.output step name) content) ∧
          R (s.setObject (job.output step name) content)) := by
    intro s name content ⟨pending, holds⟩
    refine ⟨.wrote pending.1.unfinished pending.2, ⟨⟨?_, pending.1.unfinished, pending.1.pdfUri,
      pending.1.goesOn⟩, pending.2⟩, elsewhere s name content pending holds⟩
    exact pending.1.consistent.wrote pending.2 name content
  refine Known.bind (worker_read (φ := fun _ _ => True) trivial stable fun _ _ _ _ _ _ _ _ =>
    trivial) (fun taken => ?_) fun _ _ holds _ => holds.1
  have deleting : Triple (Worker settings answers admitted job)
      (fun s => Pending settings answers job step pdfUri s ∧ R s)
      (issue (.storageDelete (job.output step output.name)))
      (fun _ s => Pending settings answers job step pdfUri s ∧ R s) := by
    refine worker_issue stable fun s r t world i holds _ _ executed => ?_
    cases execute_effect executed with
    | unchanged => exact ⟨.idle (.refl job _), holds⟩
    | deleted => exact write s output.name none holds
  have saving : Triple (Worker settings answers admitted job)
      (fun s => Pending settings answers job step pdfUri s ∧ R s)
      (issue (.storageSave (job.output step output.name) output.bytes))
      (Persisted settings answers job step pdfUri output R) := by
    refine worker_issue stable fun s r t world i holds _ _ executed => ?_
    cases r with
    | error exc =>
        obtain rfl | impossible := execute_error executed
        · exact ⟨.idle (.refl job t), holds.1⟩
        · cases impossible
    | ok dest =>
        obtain ⟨name, rfl, rfl⟩ := storageSave_ok (execute_ok executed)
        obtain ⟨move, kept⟩ := write s name (some output.bytes) holds
        exact ⟨move, kept, name, rfl, Store.setObject_objects _ _⟩
  cases taken with
  | true =>
      exact Triple.bind (deleting.pre fun _ holds => holds.1) (fun _ => saving)
        fun _ _ holds => holds.1
  | false => exact saving.pre fun _ holds => holds.1

/-! ## Recording how a step ended -/

theorem upsertArtifact_ok {world : World} {i : ℕ} {artifact : RemediationArtifact} {answer : Unit}
    (performed : perform settings world i (.upsertArtifact job.id step artifact) s =
      some (.ok answer, t)) : t = s.setArtifact job.id step artifact := by
  simp only [perform] at performed
  split at performed
  · cases performed
  · cases performed
    rfl

/-- What is known once a step is recorded. -/
def Marked (settings : Settings) (answers : Answers) (job : Job) (step : Step) (pdfUri : Uri)
    (artifact : RemediationArtifact) (R : Store → Prop) : Except Exn Unit → Store → Prop
  | .ok (), s => At settings answers job step.earlier pdfUri s ∧
      s.completed job.id step = artifact.completedUri ∧ R s
  | .error exc, s => At settings answers job step.earlier pdfUri s ∧ exc.isRaisedByCode = false

/-- `_mark_status`. -/
theorem markStatus_spec (describes : job.Describes remediation) (artifact : RemediationArtifact)
    {R : Store → Prop} (stableR : (Worker settings answers admitted job).Stable R)
    (kept : ∀ s, R s → R (s.setArtifact job.id step artifact)) :
    Triple (Worker settings answers admitted job)
      (fun s => (Pending settings answers job step pdfUri s ∧
        MayRecord settings answers job s step artifact) ∧ R s)
      (ArtifactService.markStatus remediation step artifact)
      (Marked settings answers job step pdfUri artifact R) := by
  have stable : (Worker settings answers admitted job).Stable fun s =>
      (Pending settings answers job step pdfUri s ∧
        MayRecord settings answers job s step artifact) ∧ R s := by
    refine Stable.and (fun s t holds leftAlone => ⟨?_, ?_⟩) stableR
    · exact ⟨stable_at _ s t holds.1.1 leftAlone, (leftAlone.completed step).trans holds.1.2⟩
    · exact holds.2.leftAlone holds.1.1.consistent leftAlone
  rw [ArtifactService.markStatus, describes.id]
  refine (retry_spec (Q := fun r s => (∃ value, r = .ok value) ∧
      At settings answers job step.earlier pdfUri s ∧
        s.completed job.id step = artifact.completedUri ∧ R s ∨
    ∃ exc, r = .error exc ∧ exc.isRaisedByCode = false ∧
      (Pending settings answers job step pdfUri s ∧
        MayRecord settings answers job s step artifact) ∧ R s) ?_ ?_).post ?_
  · refine worker_issue stable fun s r t world i holds isAdmitted _ executed => ?_
    cases r with
    | error exc =>
        have foreign := execute_answered executed
        obtain rfl | impossible := execute_error executed
        · exact ⟨.idle (.refl job t), .inr ⟨exc, rfl, foreign, holds⟩⟩
        · cases impossible
    | ok answer =>
        obtain ⟨⟨pending, evidence⟩, others⟩ := holds
        obtain rfl := upsertArtifact_ok (execute_ok executed)
        refine ⟨.recorded pending.1.unfinished isAdmitted pending.2 evidence,
          .inl ⟨⟨answer, rfl⟩, ⟨pending.1.consistent.recorded pending.2 evidence,
            pending.1.unfinished, ?_, fun isBefore uri result completed stored => ?_⟩,
            Store.completed_setArtifact artifact, kept s others⟩⟩
        · exact (Store.input_setArtifact job artifact).trans pending.1.pdfUri
        · rw [Store.completed_setArtifact_of_ne _
            (ne_of_mem_of_not_mem isBefore step.not_mem_earlier)] at completed
          exact pending.1.goesOn isBefore uri result completed stored
  · rintro exc s (⟨⟨_, impossible⟩, -⟩ | ⟨_, -, -, holds⟩)
    · cases impossible
    · exact holds
  · rintro r s (⟨⟨value, rfl⟩, post⟩ | ⟨exc, rfl, foreign, holds⟩)
    · exact post
    · exact ⟨holds.1.1.1, foreign⟩

/-- A step that fails or is skipped hands on its input. -/
theorem markIncomplete_spec (describes : job.Describes remediation)
    {artifact : RemediationArtifact} (incomplete : artifact.completedUri = none) :
    Triple (Worker settings answers admitted job) (Pending settings answers job step pdfUri)
      (ArtifactService.markStatus remediation step artifact)
      (Marked settings answers job step pdfUri artifact fun _ => True) :=
  (markStatus_spec describes artifact (.const True) fun _ _ => trivial).pre
    fun _ pending => ⟨⟨pending, .incomplete incomplete⟩, trivial⟩

/-! ## The steps -/

/-- A database or storage error says nothing about the store. -/
theorem Raised.foreign {exc : Exn} (foreign : exc.isRaisedByCode = false) :
    Raised job pdfUri s exc := by
  cases exc <;> first | exact trivial | cases foreign

/-- `run`: a COMPLETED step is resumed, and any other runs. -/
theorem run_spec (service : ArtifactService) (own : remediation.id = job.id)
    (resumed : ∀ output, Triple (Worker settings answers admitted job)
      (fun s => At settings answers job service.step.earlier pdfUri s ∧
        s.completed job.id service.step = some output)
      (service.resumeCompleted remediation output)
      (Ran settings answers job service.step pdfUri))
    (runs : Triple (Worker settings answers admitted job)
      (Pending settings answers job service.step pdfUri) (service._run remediation pdfUri)
      (Ran settings answers job service.step pdfUri)) :
    Triple (Worker settings answers admitted job)
      (At settings answers job service.step.earlier pdfUri) (service.run remediation pdfUri)
      (Ran settings answers job service.step pdfUri) := by
  have reading : Triple (Worker settings answers admitted job)
      (At settings answers job service.step.earlier pdfUri)
      (ArtifactService.completedOutputUri remediation service.step)
      (Known (At settings answers job service.step.earlier pdfUri)
        fun (existing : Option Uri) s => s.completed job.id service.step = existing) := by
    rw [ArtifactService.completedOutputUri, own]
    refine worker_read trivial (stable_at _) fun s t world i existing _ _ performed => ?_
    rw [Store.completed]
    simp only [perform] at performed
    split at performed
    · rename_i artifact found
      rw [found]
      change artifact.completedUri = existing
      rw [RemediationArtifact.completedUri]
      split at performed
      · rename_i isCompleted
        cases performed
        rw [if_pos isCompleted]
      · rename_i notCompleted
        cases performed
        rw [if_neg notCompleted]
    · rename_i absent
      cases performed
      rw [absent]
      rfl
  refine Known.bind reading (fun existing => ?_) fun exc s holds foreign =>
    ⟨holds, .foreign foreign⟩
  cases existing with
  | some output => exact resumed output
  | none => exact runs

/-- The work of a transform service reads no more of the attempt than its file name. -/
theorem work_congr {service : TransformService} (member : service ∈ transformServices settings)
    {row other : Remediation} (same : row.originalFilename = other.originalFilename) :
    service.work row = service.work other := by
  have title : ∀ {α : Type} (f : String → α), f (deriveTitle row) = f (deriveTitle other) := by
    intro α f
    rw [deriveTitle, deriveTitle, same]
  simp only [transformServices, List.mem_cons, List.not_mem_nil, or_false] at member
  rcases member with rfl | rfl | rfl | rfl | rfl
  · rfl
  · rfl
  · funext file
    exact title (α := Py LocalFile) fun title =>
      issue (.adapter (.finalize file title settings.languageCode))
  · rfl
  · funext file
    exact title fun title => (issue (.adapter (.collectFigures file))).bind fun candidates =>
      (describeCandidates title candidates []).bind fun altByRef =>
        issue (.adapter (.writeAltText file altByRef))

/-- Precheck comes before every transform. -/
theorem transform_after_precheck {service : TransformService}
    (member : service ∈ transformServices settings) : .precheck ∈ service.step.earlier := by
  simp only [transformServices, List.mem_cons, List.not_mem_nil, or_false] at member
  rcases member with rfl | rfl | rfl | rfl | rfl <;> exact List.mem_cons_self

/-- What is known once a transform has stored its output, or has failed. -/
def Transformed (settings : Settings) (answers : Answers) (job : Job) (service : TransformService)
    (pdfUri : Uri) : Except Exn Uri → Store → Prop
  | .ok dest, s => Pending settings answers job service.step pdfUri s ∧
      ∃ name, dest = job.output service.step name ∧ MadeFrom answers job service s pdfUri dest
  | .error _, s => Pending settings answers job service.step pdfUri s

/-- The `try` block of a transform step. -/
theorem transform_spec (describes : job.Describes remediation) {service : TransformService}
    (member : service ∈ transformServices settings) (owned : job.Owns pdfUri) :
    Triple (Worker settings answers admitted job) (Pending settings answers job service.step pdfUri)
      (service.transform remediation pdfUri)
      (Transformed settings answers job service pdfUri) := by
  have pending : (Worker settings answers admitted job).Stable
      (Pending settings answers job service.step pdfUri) := stable_pending _
  refine Known.bind (localInputCopy_spec pending pdfUri) (fun file => ?_) fun _ _ holds _ => holds
  have stable : (Worker settings answers admitted job).Stable fun s =>
      Pending settings answers job service.step pdfUri s ∧
        s.objects pdfUri = some file.bytes ∧ file.name = pdfUri.filename :=
    pending.and ((stable_object owned _).and (.const _))
  refine Triple.bind (adapters_spec stable (work_adapterOnly member remediation file))
    (fun output => ?_) fun _ _ holds => holds.1
  have persisting : Triple (Worker settings answers admitted job)
      (fun s => Pending settings answers job service.step pdfUri s ∧
        s.objects pdfUri = some file.bytes ∧ file.name = pdfUri.filename ∧
          Yields answers (service.work remediation file) output)
      (ArtifactService.persistOutput output
        (ArtifactService.destUri remediation service.step output.name))
      (Persisted settings answers job service.step pdfUri output fun s =>
        s.objects pdfUri = some file.bytes ∧ file.name = pdfUri.filename ∧
          Yields answers (service.work remediation file) output) := by
    refine persistOutput_spec describes output ((stable_object owned _).and (.const _)) ?_
    intro s name content holds ⟨read, known⟩
    refine ⟨?_, known⟩
    rw [Store.setObject_objects_of_ne, read]
    have rooted := holds.1.consistent.pdfUri_rooted service.step.earlier
    rw [holds.1.pdfUri] at rooted
    exact rooted.ne_output holds.2 name
  refine (persisting.pre ?_).post ?_
  · rintro s ⟨⟨holds, read, isName⟩, yields⟩
    exact ⟨holds, read, isName, yields⟩
  · intro r s post
    cases r with
    | error exc => exact post
    | ok dest =>
        obtain ⟨⟨holds, read, isName, yields⟩, name, isDest, stored⟩ := post
        refine ⟨holds, name, isDest, file.bytes, output, read, stored, fun row describesRow => ?_⟩
        have sameWork := work_congr member
          (describesRow.originalFilename.trans describes.originalFilename.symm)
        rw [sameWork, ← isName]
        exact yields

/-- A transform step. -/
theorem transformRun_spec (describes : job.Describes remediation) {service : TransformService}
    (member : service ∈ transformServices settings)
    (enabled : settings.run service.step = true) :
    Triple (Worker settings answers admitted job)
      (At settings answers job service.step.earlier pdfUri)
      (service.toStep.run remediation pdfUri)
      (Ran settings answers job service.step pdfUri) := by
  have accepted : ∀ s, Accepted job service.step s := by
    have noCheck := transform_isCheck member
    intro s
    constructor <;> (intro same; rw [same] at noCheck; cases noCheck)
  refine run_spec service.toStep describes.id (fun output => ?_) ?_
  · refine Triple.done fun s holds => ⟨holds.1, ?_, accepted s⟩
    exact (congrArg (·.getD pdfUri) holds.2).trans rfl
  · intro s holds
    have owned := holds.1.owns
    refine Triple.attempt_bind (transform_spec describes member owned) (fun outcome => ?_) s holds
    cases outcome with
    | error exc =>
        refine Triple.bind (markIncomplete_spec describes rfl) (fun _ => ?_)
          fun exc s post => ⟨post.1, .foreign post.2⟩
        refine Triple.done ?_
        rintro s ⟨kept, incomplete, -⟩
        refine ⟨kept, ?_, accepted s⟩
        exact (congrArg (·.getD pdfUri) incomplete).trans rfl
    | ok dest =>
        have marking : Triple (Worker settings answers admitted job)
            (Transformed settings answers job service pdfUri (.ok dest))
            (ArtifactService.markCompleted remediation service.step dest)
            (Marked settings answers job service.step pdfUri
              { status := .completed, outputUri := dest } fun _ => True) := by
          refine (markStatus_spec describes _ (.const True) fun _ _ => trivial).pre ?_
          rintro s ⟨kept, name, rfl, made⟩
          refine ⟨⟨kept, .transformed enabled member rfl ?_ ?_⟩, trivial⟩
          swap
          · exact kept.1.goesOn (transform_after_precheck member)
          rw [show s.input job service.step = pdfUri from kept.1.pdfUri]
          exact made
        refine Triple.bind marking (fun _ => ?_) fun exc s post => ⟨post.1, .foreign post.2⟩
        refine Triple.done ?_
        rintro s ⟨kept, completed, -⟩
        refine ⟨kept, ?_, accepted s⟩
        exact (congrArg (·.getD pdfUri) completed).trans rfl

/-- What a verdict that is about to be acted on says. -/
def Judged (settings : Settings) (answers : Answers) (job : Job) (step : Step) (pdfUri : Uri)
    (isCompliant : Bool) (failedRules : List FailedRule) (output : Uri) (s : Store) : Prop :=
  At settings answers job step.earlier pdfUri s ∧ s.completed job.id step = some output ∧
    ∃ result, s.results job.id step = some result ∧
      VerificationResult.isCompliant result = isCompliant ∧
      (VerificationResult.failedRules result).mapM FailedRuleDict.toRule = some failedRules

/-- How `handle_result` or `handle_verification_error` ended. -/
def Handled (settings : Settings) (answers : Answers) (job : Job) (step : Step) (pdfUri : Uri)
    (output : Option Uri) : Except Exn Unit → Store → Prop
  | .ok (), s => At settings answers job step.earlier pdfUri s ∧
      s.completed job.id step = output ∧ Accepted job step s
  | .error exc, s => At settings answers job step.earlier pdfUri s ∧ Raised job pdfUri s exc

section Verification

variable {service : VerificationService}

/-- `resume_completed` replays the stored verdict. -/
theorem resumeCompleted_spec (own : remediation.id = job.id) (output : Uri)
    (handle : ∀ isCompliant failedRules, Triple (Worker settings answers admitted job)
      (Judged settings answers job service.step pdfUri isCompliant failedRules output)
      (service.handleResult isCompliant failedRules)
      (Handled settings answers job service.step pdfUri (some output))) :
    Triple (Worker settings answers admitted job)
      (fun s => At settings answers job service.step.earlier pdfUri s ∧
        s.completed job.id service.step = some output)
      (service.resumeCompleted remediation output)
      (Ran settings answers job service.step pdfUri) := by
  have reading : Triple (Worker settings answers admitted job)
      (fun s => At settings answers job service.step.earlier pdfUri s ∧
        s.completed job.id service.step = some output)
      (issue (.getVerificationResult remediation.id service.step))
      (Known (fun s => At settings answers job service.step.earlier pdfUri s ∧
        s.completed job.id service.step = some output)
        fun (previous : VerificationResult) s =>
          s.results job.id service.step = some previous) := by
    rw [own]
    refine worker_read trivial ((stable_at _).and (stable_completed _ _)) ?_
    intro s t world i previous _ _ performed
    simp only [perform] at performed
    split at performed
    · cases performed
      assumption
    · cases performed
  refine Known.bind reading (fun previous => ?_) fun exc s holds foreign =>
    ⟨holds.1, .foreign foreign⟩
  cases rules : VerificationResult.failedRules previous |>.mapM FailedRuleDict.toRule with
  | none =>
      simp only
      exact Triple.done fun s holds => ⟨holds.1.1, trivial⟩
  | some failedRules =>
      simp only
      refine Triple.bind ((handle previous.isCompliant failedRules).pre ?_) (fun _ => ?_)
        fun exc s post => post
      · rintro s ⟨⟨holds, completed⟩, stored⟩
        exact ⟨holds, completed, previous, stored, rfl, rules⟩
      · refine Triple.done ?_
        rintro s ⟨holds, completed, passed⟩
        refine ⟨holds, ?_, passed⟩
        exact (congrArg (·.getD pdfUri) completed).trans rfl

/-- What is known once a file has been validated. -/
def Validated (settings : Settings) (answers : Answers) (job : Job) (step : Step) (pdfUri : Uri) :
    Except Exn (LocalFile × VerificationOutcome) → Store → Prop
  | .ok (file, outcome), s => (Pending settings answers job step pdfUri s ∧
      s.objects pdfUri = some file.bytes) ∧ answers (.validate file) outcome
  | .error _, s => Pending settings answers job step pdfUri s

/-- The `try` block of a verification step. -/
theorem validate_spec (owned : job.Owns pdfUri) :
    Triple (Worker settings answers admitted job) (Pending settings answers job step pdfUri)
      (VerificationService.validate pdfUri)
      (Validated settings answers job step pdfUri) := by
  refine Known.bind (localInputCopy_spec (stable_pending step) pdfUri) (fun file => ?_)
    fun _ _ holds _ => holds
  have validating : Triple (Worker settings answers admitted job)
      (fun s => Pending settings answers job step pdfUri s ∧ s.objects pdfUri = some file.bytes)
      (issue (.adapter (.validate file)))
      (Known (fun s => Pending settings answers job step pdfUri s ∧
        s.objects pdfUri = some file.bytes)
        fun (outcome : VerificationOutcome) _ => answers (.validate file) outcome) := by
    refine worker_read trivial ((stable_pending step).and (stable_object owned _)) ?_
    intro s t world i outcome _ answering performed
    exact answering _ _ (adapter_answer performed)
  have validatingFile : Triple (Worker settings answers admitted job)
      (fun s => Pending settings answers job step pdfUri s ∧ _ ∧ file.name = pdfUri.filename) _ _ :=
    validating.pre fun s holds => ⟨holds.1, holds.2.1⟩
  refine Known.bind validatingFile (fun outcome => ?_) fun _ _ holds _ => holds.1
  exact Triple.done fun s holds => holds

theorem createVerificationResult_ok {world : World} {i : ℕ} {result : VerificationResult}
    {answer : Unit}
    (performed : perform settings world i (.createVerificationResult job.id step result) s =
      some (.ok answer, t)) :
    s.results job.id step = none ∧ t = s.setResult job.id step result := by
  simp only [perform] at performed
  split at performed
  · cases performed
  · split at performed
    · cases performed
    · cases performed
      exact ⟨‹_›, rfl⟩

/-- The verdict row is stored. -/
theorem createVerificationResult_spec (own : remediation.id = job.id) (owned : job.Owns pdfUri)
    (file : LocalFile) (outcome : VerificationOutcome) :
    Triple (Worker settings answers admitted job)
      (Validated settings answers job step pdfUri (.ok (file, outcome)))
      (issue (.createVerificationResult remediation.id step
        (VerificationService.resultOf file outcome)))
      (Known (fun s => Pending settings answers job step pdfUri s ∧
          s.objects pdfUri = some file.bytes)
        fun _ s => s.results job.id step = some (VerificationService.resultOf file outcome)) := by
  have stable : (Worker settings answers admitted job).Stable
      (Validated settings answers job step pdfUri (.ok (file, outcome))) :=
    ((stable_pending step).and (stable_object owned _)).and (.const _)
  rw [own]
  refine worker_issue stable ?_
  rintro s r t world i ⟨holds, answered⟩ - - executed
  cases r with
  | error exc =>
      have foreign := execute_answered executed
      obtain rfl | impossible := execute_error executed
      · exact ⟨.idle (.refl job t), holds, foreign⟩
      · cases impossible
  | ok value =>
      have isVerdict : (VerificationService.resultOf file outcome).IsVerdict answers :=
        ⟨outcome, answered, rfl⟩
      obtain ⟨absent, rfl⟩ := createVerificationResult_ok (execute_ok executed)
      refine ⟨.judged holds.1.1.unfinished absent isVerdict, ⟨⟨⟨?_, holds.1.1.unfinished,
        holds.1.1.pdfUri, fun isBefore uri result completed stored => ?_⟩, holds.1.2⟩, holds.2⟩,
        Store.setResult_results _⟩
      · exact holds.1.1.consistent.judged absent isVerdict
      · rw [Store.setResult_results_of_ne _
          (ne_of_mem_of_not_mem isBefore step.not_mem_earlier)] at stored
        exact holds.1.1.goesOn isBefore uri result completed stored

/-- A verification step, given what it makes of a verdict and of an error. -/
theorem verificationRun_spec (describes : job.Describes remediation)
    (service : VerificationService) (isCheck : service.step.isCheck = true)
    (enabled : settings.run service.step = true)
    (handle : ∀ isCompliant failedRules output, Triple (Worker settings answers admitted job)
      (Judged settings answers job service.step pdfUri isCompliant failedRules output)
      (service.handleResult isCompliant failedRules)
      (Handled settings answers job service.step pdfUri (some output)))
    (unavailable : ∀ error, Triple (Worker settings answers admitted job)
      (Pending settings answers job service.step pdfUri)
      (service.handleVerificationError error)
      (Handled settings answers job service.step pdfUri none)) :
    Triple (Worker settings answers admitted job)
      (At settings answers job service.step.earlier pdfUri)
      (service.toStep.run remediation pdfUri)
      (Ran settings answers job service.step pdfUri) := by
  refine run_spec service.toStep describes.id
    (fun output => resumeCompleted_spec describes.id output fun _ _ => handle _ _ output) ?_
  intro s holds
  have owned := holds.1.owns
  refine Triple.attempt_bind (validate_spec owned) (fun validated => ?_) s holds
  cases validated with
  -- No verdict: the step is marked incomplete, and the service decides what that means.
  | error exc =>
      refine Triple.bind (markIncomplete_spec describes rfl) (fun _ => ?_)
        fun exc s post => ⟨post.1, .foreign post.2⟩
      refine Triple.bind ((unavailable exc.message).pre fun s post => ⟨post.1, post.2.1⟩)
        (fun _ => ?_) fun exc s post => post
      refine Triple.done ?_
      rintro s ⟨kept, incomplete, passed⟩
      refine ⟨kept, ?_, passed⟩
      exact (congrArg (·.getD pdfUri) incomplete).trans rfl
  | ok judged =>
      obtain ⟨file, outcome⟩ := judged
      refine Known.bind (createVerificationResult_spec describes.id owned file outcome)
        (fun _ => ?_) fun exc s post foreign => ⟨post.1.1, .foreign foreign⟩
      -- The mark is recorded while the verdict is stored and the file is the one that was judged.
      have marking : Triple (Worker settings answers admitted job)
          (fun s => (Pending settings answers job service.step pdfUri s ∧
            s.objects pdfUri = some file.bytes) ∧
            s.results job.id service.step = some (VerificationService.resultOf file outcome))
          (ArtifactService.markCompleted remediation service.step pdfUri)
          (Marked settings answers job service.step pdfUri
            { status := .completed, outputUri := pdfUri } fun s =>
              s.results job.id service.step =
                some (VerificationService.resultOf file outcome)) := by
        refine (markStatus_spec describes _ (stable_result _ _) fun _ stored => stored).pre ?_
        rintro s ⟨⟨pending, read⟩, stored⟩
        have isInput : s.input job service.step = pdfUri := pending.1.pdfUri
        refine ⟨⟨pending, ?_⟩, stored⟩
        rw [← isInput] at read ⊢
        exact .judged enabled isCheck stored read
      refine Triple.bind marking (fun _ => ?_) fun exc s post => ⟨post.1, .foreign post.2⟩
      refine Triple.bind ((handle outcome.isCompliant outcome.failedRules pdfUri).pre ?_)
        (fun _ => ?_) fun exc s post => post
      · rintro s ⟨kept, completed, stored⟩
        exact ⟨kept, completed, _, stored, rfl, FailedRule.mapM_toRule_toDict _⟩
      · refine Triple.done ?_
        rintro s ⟨kept, completed, passed⟩
        refine ⟨kept, ?_, passed⟩
        exact (congrArg (·.getD pdfUri) completed).trans rfl

end Verification

end DicePipeline
