import DicePipeline.Attempt.Connection
import DicePipeline.Attempt.Verdicts

/-!
# A step that fails is the only one to fail

`process_remediation` runs every step even when one before it has failed: a step
catches what its work raises, records it on its own artifact, and hands its input on
(ADR 0013).  `steps_fail_alone` says what one undisturbed run of a new attempt leaves
behind, whatever the settings are and whichever operations of the steps raise.

What the steps do is read off the operations of the run.  A `Logbook` has one
`Sighting` for each step whose service ran: the file it opened, whether an operation
of it raised, what it saved, and how veraPDF judged the file.  `handedOn`, `recordedAs`
and `ending` say what follows from the sightings by the design, and mention no state of
the program.  `Isolated` compares the two.
-/

namespace DicePipeline

open Interaction Program

/-! ## What a run shows -/

/-- What the operations of one step's run show. -/
structure Sighting where
  /-- The file the step opened. -/
  input : Option Uri := none
  /-- An operation of the step raised. -/
  raised : Bool := false
  /-- The name under which the storage keeps what the step saved. -/
  saved : Option Uri := none
  /-- Whether veraPDF called the file compliant. -/
  verdict : Option Bool := none
  deriving DecidableEq, Repr

namespace Sighting

/-- An operation raised, or did not. -/
def mark {α : Type} (seen : Sighting) : Except Exn α → Sighting
  | .ok _ => seen
  | .error _ => { seen with raised := true }

/-- One operation later. -/
def after (seen : Sighting) : (op : Op) → Except Exn op.Ans → Sighting
  | .storageOpen uri, r => { seen with input := some uri }.mark r
  | .storageSave _ _, .ok uri => { seen with saved := some uri }
  | .adapter (.validate _), .ok outcome => { seen with verdict := some outcome.isCompliant }
  | _, r => seen.mark r

end Sighting

/-- What has been seen of a run: the steps whose service ran, in that order, and what each of
them did. -/
structure Logbook where
  ran : List Step := []
  sighting : Step → Sighting := fun _ => {}

/-- One operation later.  A service starts by asking for its artifact; from then on the
clock, the storage and the adapters work for that step. -/
def Logbook.after (x : Logbook) : (op : Op) → Except Exn op.Ans → Logbook
  | .completedOutputUri _ step, _ =>
      ⟨x.ran ++ [step], Function.update x.sighting step {}⟩
  | op, r =>
      if op.isStatement then x
      else x.ran.getLast?.elim x fun step =>
        { x with sighting := Function.update x.sighting step ((x.sighting step).after op r) }

/-- **A run of the task while no other run of the attempt is active**, with a logbook.
Storage, adapters and the vision client may raise, and the database does not. -/
def Observer (settings : Settings) (job : Job) : Environment Query Exn (Store × Logbook) where
  step op before r after :=
    (∃ world i, execute settings world i op before.1 = some (r, after.1)) ∧
      (op.isStatement = true → ∃ value, r = .ok value) ∧ after.2 = before.2.after op r
  rely before after := LeftAlone job before.1 after.1 ∧ after.2 = before.2
  guarantee _ _ := True
  rely_refl before := ⟨.refl job before.1, rfl⟩
  rely_trans first second := ⟨first.1.trans second.1, second.2.trans first.2⟩

/-! ## What the design says about it -/

section Design

variable (settings : Settings) (seen : Step → Sighting)

/-- What a step hands on: its output if it changes files and its work did not raise, and
its input otherwise. -/
def handsOn (pdfUri : Uri) (step : Step) : Uri :=
  if settings.run step && step.isTransform && !(seen step).raised then
    (seen step).saved.getD pdfUri
  else pdfUri

/-- The output of the last of these steps that changed the file, or the original. -/
def handedOn (steps : List Step) (source : Uri) : Uri :=
  steps.foldl (handsOn settings seen) source

/-- Precheck was on and found the original compliant. -/
def alreadyCompliant : Bool :=
  settings.run .precheck && (seen .precheck).verdict = some true

/-- The steps the run comes to. -/
def reachedSteps : List Step :=
  if alreadyCompliant settings seen then [.precheck] else Step.order

/-- How a step is recorded. -/
def recordedAs (step : Step) : StepStatus :=
  if !settings.run step then .skipped
  else if (seen step).raised then .failed
  else .completed

/-- What postcheck made of the attempt. -/
def postcheckOutcome : JobStatus :=
  if !settings.run .postcheck then .skipped
  else match (seen .postcheck).verdict with
    | some true => .compliant
    | some false => .noncompliant
    | none => .error

/-- The status and the final output of the attempt. -/
def attemptEnding (source : Uri) : JobStatus × Uri :=
  if alreadyCompliant settings seen then (.compliant, source)
  else (postcheckOutcome settings seen, handedOn settings seen Step.order source)

end Design

/-- **What a run has to leave behind**, when it was seen to do `x`. -/
structure Isolated (settings : Settings) (job : Job) (s : Store) (x : Logbook) : Prop where
  /-- The enabled steps ran once each, in the order of the pipeline. -/
  ran : x.ran = (reachedSteps settings x.sighting).filter settings.run
  /-- Each was given the output of the last transform before it that succeeded. -/
  input : ∀ step ∈ x.ran, (x.sighting step).input =
    some (handedOn settings x.sighting step.earlier job.source)
  /-- Each step is recorded as skipped, failed or completed. -/
  recorded : ∀ step ∈ reachedSteps settings x.sighting, ∃ artifact,
    s.artifacts job.id step = some artifact ∧
      artifact.status = recordedAs settings x.sighting step ∧
      (artifact.status = .completed →
        (if step.isTransform then (x.sighting step).saved else (x.sighting step).input) =
          some artifact.outputUri)
  /-- Nothing is recorded about a step the run did not come to. -/
  unreached : ∀ step ∉ reachedSteps settings x.sighting, s.artifacts job.id step = none
  /-- Postcheck is reached. -/
  postcheck : settings.run .postcheck = true →
    .postcheck ∈ x.ran ∨ alreadyCompliant settings x.sighting = true
  /-- A check gives no verdict if and only if its work raised. -/
  verdict : ∀ step ∈ x.ran, Step.isCheck step = true →
    ((x.sighting step).verdict = none ↔ (x.sighting step).raised = true)
  /-- The attempt ends as postcheck says. -/
  ending : ∃ row, s.row job.id = some row ∧
    (row.status, row.finalOutputUri) = attemptEnding settings x.sighting job.source

variable {settings : Settings} {job : Job} {remediation : Remediation} {pdfUri : Uri}
variable {A : Step → Option RemediationArtifact} {x : Logbook} {step : Step} {seen : Sighting}
variable {ran : List Step} {sighting : Step → Sighting}

/-! ## One operation -/

/-- The artifacts of the attempt, and what has been seen of the run. -/
def Stands (job : Job) (A : Step → Option RemediationArtifact) (x : Logbook)
    (p : Store × Logbook) : Prop :=
  p.1.artifacts job.id = A ∧ p.2 = x

theorem stable_stands : (Observer settings job).Stable (Stands job A x) :=
  fun _ _ holds rely => ⟨rely.1.artifacts.trans holds.1, rely.2.trans holds.2⟩

/-- The rule of one operation. -/
theorem observer_issue {op : Op} {P : Store × Logbook → Prop}
    {Q : Except Exn op.Ans → Store × Logbook → Prop}
    (stable : (Observer settings job).Stable P)
    (outcome : ∀ s x r t world i, P (s, x) → (op.isStatement = true → ∃ value, r = .ok value) →
      execute settings world i op s = some (r, t) → Q r (t, x.after op r)) :
    Triple (Observer settings job) P (issue op) Q := by
  refine Triple.perform stable ?_
  rintro ⟨s, x⟩ r ⟨t, y⟩ holds ⟨⟨world, i, executed⟩, answers, rfl⟩
  exact ⟨trivial, outcome s x r t world i holds answers executed⟩

/-- The rule of a statement: the database answers, and the logbook is as it was. -/
theorem statement_spec {op : Op} {P : Store × Logbook → Prop}
    {M : op.Ans → Store × Logbook → Prop} (stable : (Observer settings job).Stable P)
    (isStatement : op.isStatement = true) (unseen : ∀ (x : Logbook) r, x.after op r = x)
    (outcome : ∀ s x t world i value, P (s, x) →
      perform settings world i op s = some (.ok value, t) → M value (t, x)) :
    Triple (Observer settings job) P (issue op) fun r p => ∃ value, r = .ok value ∧ M value p := by
  refine observer_issue stable fun s x r t world i holds answers executed => ?_
  obtain ⟨value, rfl⟩ := answers isStatement
  rw [unseen]
  exact ⟨value, rfl, outcome s x t world i value holds (execute_ok executed)⟩

/-! ## Inside a step -/

/-- The last step that has started is `step`, and this is what it did. -/
def Logbook.inside (ran : List Step) (sighting : Step → Sighting) (step : Step)
    (seen : Sighting) : Logbook :=
  ⟨ran ++ [step], Function.update sighting step seen⟩

theorem Logbook.inside_after (op : Op) (r : Except Exn op.Ans)
    (isWork : op.isStatement = false) :
    (Logbook.inside ran sighting step seen).after op r =
      .inside ran sighting step (seen.after op r) := by
  cases op <;> first
    | (simp [Op.isStatement] at isWork; done)
    | simp [Logbook.after, Logbook.inside, Op.isStatement]

/-- Storage, adapters and the clock leave the artifacts alone. -/
theorem Effect.artifacts_of_work {i : ℕ} {op : Op} {s t : Store} (effect : Effect i s op t)
    (isWork : op.isStatement = false) : t.artifacts = s.artifacts := by
  cases effect <;> first | rfl | cases isWork

/-- **The work of a step**: one operation of it. -/
theorem work_spec {op : Op} (isWork : op.isStatement = false) :
    Triple (Observer settings job) (Stands job A (.inside ran sighting step seen)) (issue op)
      fun r => Stands job A (.inside ran sighting step (seen.after op r)) := by
  refine observer_issue stable_stands fun s x r t world i holds _ executed => ?_
  obtain ⟨artifacts, rfl⟩ := holds
  refine ⟨?_, Logbook.inside_after op r isWork⟩
  rw [(execute_effect executed).artifacts_of_work isWork]
  exact artifacts

/-- A part of a step's work of which only an exception is seen. -/
def Quiet (settings : Settings) (job : Job) {α : Type} (p : Py α) : Prop :=
  ∀ A ran sighting step seen,
    Triple (Observer settings job) (Stands job A (.inside ran sighting step seen)) p
      fun r => Stands job A (.inside ran sighting step (seen.mark r))

namespace Quiet

variable {α β : Type}

theorem pure (value : α) : Quiet settings job (.done (.ok value) : Py α) :=
  fun _ _ _ _ _ => Triple.done fun _ holds => holds

theorem bind {p : Py α} {f : α → Py β} (first : Quiet settings job p)
    (rest : ∀ value, Quiet settings job (f value)) : Quiet settings job (p.bind f) :=
  fun A ran sighting step seen => Triple.bind (first A ran sighting step seen)
    (fun value => rest value A ran sighting step seen) fun _ _ holds => holds

theorem adapter (call : AdapterCall) (notValidate : ∀ file, call ≠ .validate file) :
    Quiet settings job (issue (.adapter call)) := by
  intro A ran sighting step seen
  refine (work_spec rfl).post fun r p holds => ?_
  have same : seen.after (.adapter call) r = seen.mark r := by
    cases call <;> first | rfl | exact absurd rfl (notValidate _)
  rwa [same] at holds

theorem describeCandidates (title : String) (candidates : List FigureCandidate)
    (altByRef : AltByRef) :
    Quiet settings job (DicePipeline.describeCandidates title candidates altByRef) := by
  induction candidates generalizing altByRef with
  | nil => exact pure altByRef
  | cons candidate rest ih =>
      rw [DicePipeline.describeCandidates]
      split
      · exact ih _
      · exact bind (adapter _ (by simp)) fun text => ih _

/-- What a transform does between reading its input and storing its output. -/
theorem work {service : TransformService} (member : service ∈ transformServices settings)
    (remediation : Remediation) (file : LocalFile) :
    Quiet settings job (service.work remediation file) := by
  simp only [transformServices, List.mem_cons, List.not_mem_nil, or_false] at member
  rcases member with rfl | rfl | rfl | rfl | rfl
  · exact adapter _ (by simp)
  · exact adapter _ (by simp)
  · exact adapter _ (by simp)
  · exact adapter _ (by simp)
  · refine bind (adapter _ (by simp)) fun candidates => ?_
    exact bind (describeCandidates _ _ _) fun altByRef => adapter _ (by simp)

end Quiet

/-- What is seen of a step that was given `pdfUri`: an exception, or what `ok` says. -/
def Sighting.Worked {α : Type} (pdfUri : Uri) (ok : α → Sighting → Prop) (r : Except Exn α)
    (seen : Sighting) : Prop :=
  seen.input = some pdfUri ∧
    match r with
    | .ok value => seen.raised = false ∧ ok value seen
    | .error _ => seen.raised = true ∧ seen.verdict = none

/-- The work of a step, seen to its end. -/
def Learns (job : Job) (A : Step → Option RemediationArtifact) (ran : List Step)
    (sighting : Step → Sighting) (step : Step) (pdfUri : Uri) {α : Type}
    (ok : α → Sighting → Prop) (r : Except Exn α) (p : Store × Logbook) : Prop :=
  ∃ seen, Stands job A (.inside ran sighting step seen) p ∧ seen.Worked pdfUri ok r

/-- A step starts with a local copy of its input. -/
theorem localInputCopy_seen :
    Triple (Observer settings job) (Stands job A (.inside ran sighting step {}))
      (ArtifactService.localInputCopy pdfUri)
      fun r => Stands job A (.inside ran sighting step
        (({ input := some pdfUri } : Sighting).mark r)) :=
  Triple.bind (work_spec rfl) (fun _ => Triple.done fun _ holds => holds) fun _ _ holds => holds

/-- `persist_output`: what is saved is seen. -/
theorem persistOutput_seen (output : LocalFile) (dest : Uri) (input : seen.input = some pdfUri)
    (quiet : seen.raised = false) (unjudged : seen.verdict = none) :
    Triple (Observer settings job) (Stands job A (.inside ran sighting step seen))
      (ArtifactService.persistOutput output dest)
      (Learns job A ran sighting step pdfUri fun uri seen =>
        seen.saved = some uri ∧ seen.verdict = none) := by
  have saving : Triple (Observer settings job) (Stands job A (.inside ran sighting step seen))
      (issue (.storageSave dest output.bytes))
      (Learns job A ran sighting step pdfUri fun uri seen =>
        seen.saved = some uri ∧ seen.verdict = none) := by
    refine (work_spec rfl).post fun r p holds => ⟨_, holds, ?_⟩
    cases r with
    | ok uri => exact ⟨input, quiet, rfl, unjudged⟩
    | error exc => exact ⟨input, rfl, unjudged⟩
  refine Triple.bind (work_spec rfl) (fun taken => ?_) fun exc p holds => ?_
  · cases taken with
    | false => exact saving
    | true =>
        exact Triple.bind (work_spec rfl) (fun _ => saving)
          fun exc p holds => ⟨_, holds, input, rfl, unjudged⟩
  · exact ⟨_, holds, input, rfl, unjudged⟩

/-- The `try` block of a transform. -/
theorem transform_seen {service : TransformService}
    (member : service ∈ transformServices settings) :
    Triple (Observer settings job) (Stands job A (.inside ran sighting step {}))
      (service.transform remediation pdfUri)
      (Learns job A ran sighting step pdfUri fun uri seen =>
        seen.saved = some uri ∧ seen.verdict = none) := by
  refine Triple.bind localInputCopy_seen (fun file => ?_)
    fun exc p holds => ⟨_, holds, rfl, rfl, rfl⟩
  refine Triple.bind (Quiet.work member remediation file A ran sighting step _)
    (fun output => ?_) fun exc p holds => ⟨_, holds, rfl, rfl, rfl⟩
  exact persistOutput_seen output _ rfl rfl rfl

/-- The `try` block of a check. -/
theorem validate_seen :
    Triple (Observer settings job) (Stands job A (.inside ran sighting step {}))
      (VerificationService.validate pdfUri)
      (Learns job A ran sighting step pdfUri fun judged seen =>
        seen.verdict = some judged.2.isCompliant) := by
  refine Triple.bind localInputCopy_seen (fun file => ?_)
    fun exc p holds => ⟨_, holds, rfl, rfl, rfl⟩
  refine Triple.bind (work_spec rfl) (fun outcome => ?_)
    fun exc p holds => ⟨_, holds, rfl, rfl, rfl⟩
  exact Triple.done fun p holds => ⟨_, holds, rfl, rfl, rfl⟩

/-- The `try` block of scoring. -/
theorem scoreFile_seen :
    Triple (Observer settings job) (Stands job A (.inside ran sighting step {}))
      (scoreFile pdfUri)
      (Learns job A ran sighting step pdfUri fun _ seen => seen.verdict = none) := by
  refine Triple.bind localInputCopy_seen (fun file => ?_)
    fun exc p holds => ⟨_, holds, rfl, rfl, rfl⟩
  refine (work_spec rfl).post fun r p holds => ⟨_, holds, ?_⟩
  cases r with
  | ok result => exact ⟨rfl, rfl, rfl⟩
  | error exc => exact ⟨rfl, rfl, rfl⟩

/-! ## Recording a step -/

/-- `_mark_status`: the artifact is recorded. -/
theorem markStatus_seen (own : remediation.id = job.id) (artifact : RemediationArtifact) :
    Triple (Observer settings job) (Stands job A x)
      (ArtifactService.markStatus remediation step artifact)
      fun r p => r = .ok () ∧ Stands job (Function.update A step (some artifact)) x p := by
  rw [ArtifactService.markStatus, own]
  have writing : Triple (Observer settings job) (Stands job A x)
      (issue (.upsertArtifact job.id step artifact)) fun r p => ∃ value, r = .ok value ∧
        Stands job (Function.update A step (some artifact)) x p := by
    refine statement_spec stable_stands rfl (fun _ _ => rfl) ?_
    rintro s x' t world i value ⟨artifacts, rfl⟩ performed
    obtain rfl := upsertArtifact_ok performed
    refine ⟨?_, rfl⟩
    rw [← artifacts]
    exact Function.update_self _ _ _
  refine Triple.handle writing ?_ fun exc => ?_
  · rintro _ p ⟨value, -, holds⟩
    exact ⟨rfl, holds⟩
  · rintro p ⟨value, impossible, -⟩
    cases impossible

/-- A row of a verdict or a score is written, and leaves the artifacts alone. -/
theorem record_bind {α : Type} {op : Op} {f : op.Ans → Py α}
    {Q : Except Exn α → Store × Logbook → Prop}
    (isRecord :
      (∃ step result, op = .createVerificationResult remediation.id step result) ∨
        ∃ score, op = .createScore remediation.id score)
    (rest : ∀ value, Triple (Observer settings job) (Stands job A x) (f value) Q) :
    Triple (Observer settings job) (Stands job A x) ((issue op).bind f) Q := by
  refine Triple.bind_ok (M := fun _ => Stands job A x) ?_ rest
  rcases isRecord with ⟨step, result, rfl⟩ | ⟨score, rfl⟩
  · refine statement_spec stable_stands rfl (fun _ _ => rfl) ?_
    rintro s x' t world i value ⟨artifacts, rfl⟩ performed
    refine ⟨?_, rfl⟩
    cases perform_effect performed <;> exact artifacts
  · refine statement_spec stable_stands rfl (fun _ _ => rfl) ?_
    rintro s x' t world i value ⟨artifacts, rfl⟩ performed
    refine ⟨?_, rfl⟩
    cases perform_effect performed <;> exact artifacts

/-! ## One step -/

/-- What the record of a step says, next to what was seen of the step. -/
structure Sighting.Tells (seen : Sighting) (step : Step) (pdfUri : Uri)
    (artifact : RemediationArtifact) : Prop where
  input : seen.input = some pdfUri
  status : artifact.status = if seen.raised then .failed else .completed
  output : artifact.status = .completed →
    (if step.isTransform then seen.saved else seen.input) = some artifact.outputUri
  verdict : step.isCheck = true → (seen.verdict = none ↔ seen.raised = true)

/-- How the service of a step ends, next to what was seen of the step. -/
def Sighting.Ends (seen : Sighting) (step : Step) (pdfUri : Uri) : Except Exn Uri → Prop
  | .ok uri =>
      uri = (if step.isTransform && !seen.raised then seen.saved.getD pdfUri else pdfUri) ∧
        (step = .precheck → seen.verdict ≠ some true) ∧
        (step = .postcheck → seen.verdict = some true)
  | .error .alreadyCompliant => step = .precheck ∧ seen.verdict = some true
  | .error (.notCompliant _) => step = .postcheck ∧ seen.verdict = some false
  | .error (.postCheckUnavailable _) => step = .postcheck ∧ seen.verdict = none
  | .error _ => False

/-- What is known once a service has run. -/
def Serviced (job : Job) (A : Step → Option RemediationArtifact) (ran : List Step)
    (sighting : Step → Sighting) (step : Step) (pdfUri : Uri) (r : Except Exn Uri)
    (p : Store × Logbook) : Prop :=
  ∃ seen artifact, Stands job (Function.update A step (some artifact))
      (.inside ran sighting step seen) p ∧
    seen.Tells step pdfUri artifact ∧ seen.Ends step pdfUri r

/-- `run`: nothing is recorded about the step yet, so its work is done. -/
theorem run_seen {Q : Except Exn Uri → Store × Logbook → Prop} (service : ArtifactService)
    (own : remediation.id = job.id) (unrecorded : A service.step = none)
    (work : Triple (Observer settings job) (Stands job A (.inside ran sighting service.step {}))
      (service._run remediation pdfUri) Q) :
    Triple (Observer settings job) (Stands job A ⟨ran, sighting⟩)
      (service.run remediation pdfUri) Q := by
  have asking : Triple (Observer settings job) (Stands job A ⟨ran, sighting⟩)
      (ArtifactService.completedOutputUri remediation service.step) fun r p =>
        ∃ value, r = .ok value ∧ value = none ∧
          Stands job A (.inside ran sighting service.step {}) p := by
    rw [ArtifactService.completedOutputUri, own]
    refine observer_issue stable_stands fun s x r t world i holds answers executed => ?_
    obtain ⟨artifacts, rfl⟩ := holds
    obtain ⟨value, rfl⟩ := answers rfl
    have performed := execute_ok executed
    have absent : s.artifacts job.id service.step = none := by
      rw [← unrecorded, ← artifacts]
    simp only [perform, absent] at performed
    cases performed
    exact ⟨none, rfl, rfl, artifacts, rfl⟩
  refine Triple.bind_ok asking fun value => ?_
  rintro p ⟨rfl, holds⟩
  exact work p holds

/-- What a step did, once it is recorded. -/
theorem marked_seen {Q : Except Exn Uri → Store × Logbook → Prop} {rest : Py Uri}
    {φ : Sighting → Prop} (own : remediation.id = job.id) (artifact : RemediationArtifact)
    (after : ∀ seen, φ seen → Triple (Observer settings job)
      (Stands job (Function.update A step (some artifact)) (.inside ran sighting step seen))
      rest Q) :
    Triple (Observer settings job)
      (fun p => ∃ seen, Stands job A (.inside ran sighting step seen) p ∧ φ seen)
      ((ArtifactService.markStatus remediation step artifact).bind fun _ => rest) Q := by
  rintro p ⟨seen, stands, holds⟩
  exact Triple.bind_ok ((markStatus_seen own artifact).post fun r p marked =>
    ⟨(), marked.1, marked.2⟩) (fun _ => after seen holds) p stands

namespace Sighting.Worked

variable {α : Type} {ok : α → Sighting → Prop}

/-- A step whose work raised is recorded as failed. -/
theorem tells_failed {exc : Exn} (worked : seen.Worked pdfUri ok (.error exc)) (message : String) :
    seen.Tells step pdfUri { status := .failed, error := message } := by
  obtain ⟨input, raised, unjudged⟩ := worked
  refine ⟨input, ?_, ?_, ?_⟩
  · simp [raised]
  · simp
  · simp [raised, unjudged]

/-- Another is recorded as completed. -/
theorem tells_completed {value : α} {outputUri : Uri} (worked : seen.Worked pdfUri ok (.ok value))
    (output : (if step.isTransform then seen.saved else seen.input) = some outputUri)
    (judged : step.isCheck = true → seen.verdict ≠ none) :
    seen.Tells step pdfUri { status := .completed, outputUri := outputUri } := by
  obtain ⟨input, quiet, -⟩ := worked
  refine ⟨input, ?_, fun _ => output, ?_⟩
  · simp [quiet]
  · simpa [quiet] using judged

end Sighting.Worked

/-- A step that is no check goes on, with its output if it is a transform. -/
theorem Sighting.ends_ok {uri : Uri} (noCheck : step.isCheck = false)
    (handsOn : uri = if step.isTransform && !seen.raised then seen.saved.getD pdfUri
      else pdfUri) : seen.Ends step pdfUri (.ok uri) := by
  refine ⟨handsOn, ?_, ?_⟩
  · rintro rfl
    cases noCheck
  · rintro rfl
    cases noCheck

theorem isCheck_of_isTransform (changes : step.isTransform = true) : step.isCheck = false := by
  cases step <;> first | rfl | cases changes

/-- A transform. -/
theorem transformRun_seen {service : TransformService}
    (member : service ∈ transformServices settings) (own : remediation.id = job.id)
    (unrecorded : A service.step = none) :
    Triple (Observer settings job) (Stands job A ⟨ran, sighting⟩)
      (service.toStep.run remediation pdfUri)
      (Serviced job A ran sighting service.step pdfUri) := by
  have changes : service.step.isTransform = true := transform_isTransform member
  have noCheck : service.step.isCheck = false := isCheck_of_isTransform changes
  refine run_seen service.toStep own unrecorded ?_
  refine Triple.attempt_bind (transform_seen member) fun outcome => ?_
  cases outcome with
  | error exc =>
      refine marked_seen own _ fun seen worked => Triple.done fun p stands => ?_
      refine ⟨seen, _, stands, worked.tells_failed _, Sighting.ends_ok noCheck ?_⟩
      simp [worked.2.1]
  | ok outputUri =>
      refine marked_seen own _ fun seen worked => Triple.done fun p stands => ?_
      have ⟨_, quiet, saved, _⟩ := worked
      refine ⟨seen, _, stands, worked.tells_completed ?_ ?_, Sighting.ends_ok noCheck ?_⟩
      · rw [if_pos changes, saved]
      · simp [noCheck]
      · simp [changes, quiet, saved]

/-- Scoring. -/
theorem scoringRun_seen (own : remediation.id = job.id) (unrecorded : A .scoring = none) :
    Triple (Observer settings job) (Stands job A ⟨ran, sighting⟩)
      (ScoringService.run remediation pdfUri) (Serviced job A ran sighting .scoring pdfUri) := by
  refine run_seen ScoringService own unrecorded ?_
  refine Triple.attempt_bind scoreFile_seen fun outcome => ?_
  cases outcome with
  | error exc =>
      refine marked_seen own _ fun seen worked => Triple.done fun p stands => ?_
      exact ⟨seen, _, stands, worked.tells_failed _, Sighting.ends_ok rfl rfl⟩
  | ok result =>
      rintro p ⟨seen, stands, worked⟩
      refine record_bind (.inr ⟨_, rfl⟩) (fun _ => ?_) p stands
      refine (marked_seen own _ fun seen worked => Triple.done fun p stands => ?_).pre
        fun p stands => ⟨seen, stands, worked⟩
      refine ⟨seen, _, stands, worked.tells_completed worked.1 ?_, Sighting.ends_ok rfl rfl⟩
      intro impossible
      cases impossible

/-- The two checks, given how each of them ends with a verdict and without one. -/
theorem verificationRun_seen (service : VerificationService) (own : remediation.id = job.id)
    (unrecorded : A service.step = none) (isCheck : service.step.isCheck = true)
    (handled : ∀ isCompliant failedRules, ∃ result : Except Exn Uri,
      (service.handleResult isCompliant failedRules).bind (fun _ => .done (.ok pdfUri)) =
          .done result ∧
        ∀ seen : Sighting, seen.verdict = some isCompliant →
          seen.Ends service.step pdfUri result)
    (unavailable : ∀ message, ∃ result : Except Exn Uri,
      (service.handleVerificationError message).bind (fun _ => .done (.ok pdfUri)) =
          .done result ∧
        ∀ seen : Sighting, seen.verdict = none → seen.Ends service.step pdfUri result) :
    Triple (Observer settings job) (Stands job A ⟨ran, sighting⟩)
      (service.toStep.run remediation pdfUri)
      (Serviced job A ran sighting service.step pdfUri) := by
  have changes : service.step.isTransform = false := by
    cases isTransform : service.step.isTransform with
    | false => rfl
    | true => cases (isCheck_of_isTransform isTransform).symm.trans isCheck
  refine run_seen service.toStep own unrecorded ?_
  refine Triple.attempt_bind validate_seen fun outcome => ?_
  cases outcome with
  | error exc =>
      obtain ⟨result, isResult, ends⟩ := unavailable exc.message
      refine marked_seen own _ fun seen worked => ?_
      rw [Program.bind_eq, Program.pure_eq, isResult]
      exact Triple.done fun p stands =>
        ⟨seen, _, stands, worked.tells_failed _, ends seen worked.2.2⟩
  | ok judged =>
      obtain ⟨file, outcome⟩ := judged
      obtain ⟨result, isResult, ends⟩ := handled outcome.isCompliant outcome.failedRules
      rintro p ⟨seen, stands, worked⟩
      refine record_bind (.inl ⟨_, _, rfl⟩) (fun _ => ?_) p stands
      refine (marked_seen own _ fun seen worked => ?_).pre
        fun p stands => ⟨seen, stands, worked⟩
      rw [Program.bind_eq, Program.pure_eq, isResult]
      refine Triple.done fun p stands =>
        ⟨seen, _, stands, worked.tells_completed ?_ ?_, ends seen worked.2.2⟩
      · rw [if_neg (by simp [changes])]
        exact worked.1
      · intro _ unjudged
        cases worked.2.2.symm.trans unjudged

/-- **Every step of the pipeline.** -/
theorem stepRun_seen {service : ArtifactService} (member : service ∈ pipelineSteps settings)
    (own : remediation.id = job.id) (unrecorded : A service.step = none) :
    Triple (Observer settings job) (Stands job A ⟨ran, sighting⟩)
      (service.run remediation pdfUri)
      (Serviced job A ran sighting service.step pdfUri) := by
  simp only [pipelineSteps_eq, List.mem_append, List.mem_cons, List.mem_map, List.not_mem_nil,
    or_false] at member
  rcases member with (rfl | ⟨transform, isTransform, rfl⟩) | rfl | rfl
  · refine verificationRun_seen PrecheckService own unrecorded rfl ?_ ?_
    · intro isCompliant failedRules
      cases isCompliant with
      | true => exact ⟨_, rfl, fun seen verdict => ⟨rfl, verdict⟩⟩
      | false =>
          refine ⟨_, rfl, fun seen verdict => ⟨rfl, fun _ => ?_, fun impossible => ?_⟩⟩
          · simp [verdict]
          · cases impossible
    · refine fun message => ⟨_, rfl, fun seen verdict => ⟨rfl, fun _ => ?_, fun impossible => ?_⟩⟩
      · simp [verdict]
      · cases impossible
  · exact transformRun_seen isTransform own unrecorded
  · exact scoringRun_seen own unrecorded
  · refine verificationRun_seen PostCheckService own unrecorded rfl ?_ ?_
    · intro isCompliant failedRules
      cases isCompliant with
      | true =>
          refine ⟨_, rfl, fun seen verdict => ⟨rfl, fun impossible => ?_, fun _ => verdict⟩⟩
          cases impossible
      | false => exact ⟨_, rfl, fun seen verdict => ⟨rfl, verdict⟩⟩
    · exact fun message => ⟨_, rfl, fun seen verdict => ⟨rfl, verdict⟩⟩

/-! ## The loop over the steps -/

section Loop

variable (settings : Settings) (job : Job)

/-- What is recorded of a step is what the design says. -/
def Told (A : Step → Option RemediationArtifact) (sighting : Step → Sighting) (step : Step) :
    Prop :=
  ∃ artifact, A step = some artifact ∧ artifact.status = recordedAs settings sighting step ∧
    (settings.run step = true →
      (sighting step).Tells step (handedOn settings sighting step.earlier job.source) artifact)

/-- The loop has gone through the steps of `before`. -/
structure Sofar (before : List Step) (pdfUri : Uri) (A : Step → Option RemediationArtifact)
    (sighting : Step → Sighting) : Prop where
  pdfUri : handedOn settings sighting before job.source = pdfUri
  told : ∀ step ∈ before, Told settings job A sighting step
  rest : ∀ step ∉ before, A step = none
  goesOn : .precheck ∈ before → alreadyCompliant settings sighting = false

/-- The status the `except` and `else` clauses give an attempt. -/
def endStatus : Except Exn Unit → JobStatus
  | .ok () => if ArtifactService.isDisabled settings .postcheck then .skipped else .compliant
  | .error .alreadyCompliant => .compliant
  | .error (.notCompliant _) => .noncompliant
  | .error _ => .error

/-- The final output they give it. -/
def endUri : Except Exn Unit → Uri → Uri
  | .error .alreadyCompliant, _ => job.source
  | _, pdfUri => pdfUri

/-- What is known when the `try` block has ended. -/
structure RunsTo (A : Step → Option RemediationArtifact) (sighting : Step → Sighting)
    (ended : Except Exn Unit) (pdfUri : Uri) : Prop where
  told : ∀ step ∈ reachedSteps settings sighting, Told settings job A sighting step
  rest : ∀ step ∉ reachedSteps settings sighting, A step = none
  ending : (endStatus settings ended, endUri job ended pdfUri) =
    attemptEnding settings sighting job.source

/-- The loop returns, and the logbook has the enabled steps it came to. -/
def Looped : Except Exn (Except Exn Unit × Uri) → Store × Logbook → Prop
  | .ok (ended, pdfUri), p => ∃ A sighting,
      Stands job A ⟨(reachedSteps settings sighting).filter settings.run, sighting⟩ p ∧
        RunsTo settings job A sighting ended pdfUri
  | .error _, _ => False

end Loop

variable {later : Step → Sighting}

theorem handedOn_congr {steps : List Step} (same : ∀ step ∈ steps, later step = sighting step)
    (uri : Uri) : handedOn settings later steps uri = handedOn settings sighting steps uri := by
  induction steps generalizing uri with
  | nil => rfl
  | cons step rest ih =>
      have first : handsOn settings later uri step = handsOn settings sighting uri step := by
        rw [handsOn, handsOn, same step List.mem_cons_self]
      rw [handedOn, handedOn, List.foldl_cons, List.foldl_cons, first]
      exact ih (fun other member => same other (List.mem_cons_of_mem _ member)) _

theorem handedOn_append (before : List Step) (uri : Uri) :
    handedOn settings sighting (before ++ [step]) uri =
      handsOn settings sighting (handedOn settings sighting before uri) step :=
  List.foldl_concat _ _ _ _

/-- What is earlier than an earlier step is earlier. -/
theorem Step.earlier_subset {other : Step} (isEarlier : other ∈ step.earlier) :
    other.earlier ⊆ step.earlier := by
  rw [Step.earlier_split isEarlier]
  exact List.subset_append_left _ _

namespace Sofar

variable {artifact : RemediationArtifact}

/-- **One step more.** -/
theorem append (sofar : Sofar settings job step.earlier pdfUri A sighting)
    (same : ∀ other, other ≠ step → later other = sighting other)
    (status : artifact.status = recordedAs settings later step)
    (tells : settings.run step = true → (later step).Tells step pdfUri artifact)
    (goesOn : step = .precheck → alreadyCompliant settings later = false) :
    Sofar settings job (step.earlier ++ [step]) (handsOn settings later pdfUri step)
      (Function.update A step (some artifact)) later := by
  have before : ∀ other ∈ step.earlier, later other = sighting other := fun other isEarlier =>
    same other (ne_of_mem_of_not_mem isEarlier step.not_mem_earlier)
  have input : handedOn settings later step.earlier job.source = pdfUri :=
    (handedOn_congr before _).trans sofar.pdfUri
  refine ⟨?_, fun other member => ?_, fun other outside => ?_, fun member => ?_⟩
  · rw [handedOn_append, input]
  · rcases List.mem_append.mp member with isEarlier | isStep
    · obtain ⟨artifact', recorded, status', tells'⟩ := sofar.told other isEarlier
      have different := ne_of_mem_of_not_mem isEarlier step.not_mem_earlier
      refine ⟨artifact', (Function.update_of_ne different _ _).trans recorded, ?_, ?_⟩
      · rw [status', recordedAs, recordedAs, same other different]
      · rw [same other different, handedOn_congr fun earlier isBefore =>
          before earlier (Step.earlier_subset isEarlier isBefore)]
        exact tells'
    · obtain rfl := List.mem_singleton.mp isStep
      refine ⟨artifact, Function.update_self _ _ _, status, ?_⟩
      rw [input]
      exact tells
  · rw [List.mem_append, List.mem_singleton, not_or] at outside
    rw [Function.update_of_ne outside.2]
    exact sofar.rest other outside.1
  · rcases List.mem_append.mp member with isEarlier | isStep
    · rw [← sofar.goesOn isEarlier, alreadyCompliant, alreadyCompliant, before _ isEarlier]
    · exact goesOn (List.mem_singleton.mp isStep).symm

/-- The steps are done, and the run goes on to the clauses. -/
theorem outcome {ended : Except Exn Unit} (sofar : Sofar settings job Step.order pdfUri A sighting)
    (isEnd : endStatus settings ended = postcheckOutcome settings sighting)
    (uri : endUri job ended pdfUri = pdfUri) : RunsTo settings job A sighting ended pdfUri ∧
      reachedSteps settings sighting = Step.order := by
  have goesOn := sofar.goesOn (by decide)
  have all : reachedSteps settings sighting = Step.order := by
    rw [reachedSteps, goesOn]
    rfl
  refine ⟨⟨?_, ?_, ?_⟩, all⟩
  · rw [all]
    exact sofar.told
  · rw [all]
    exact sofar.rest
  · rw [attemptEnding, goesOn, isEnd, uri, sofar.pdfUri]
    rfl

end Sofar

/-- A step that ran is recorded as its sighting says. -/
theorem Sighting.Tells.recordedAs {artifact : RemediationArtifact}
    (tells : seen.Tells step pdfUri artifact) (enabled : settings.run step = true) :
    artifact.status = DicePipeline.recordedAs settings (Function.update sighting step seen) step := by
  rw [tells.status, DicePipeline.recordedAs, enabled, Function.update_self]
  rfl

/-- Precheck has ended the run. -/
theorem outcome_of_precheck {artifact : RemediationArtifact}
    (enabled : settings.run .precheck = true)
    (sofar : Sofar settings job [] pdfUri A sighting)
    (tells : seen.Tells .precheck pdfUri artifact) (compliant : seen.verdict = some true) :
    RunsTo settings job (Function.update A .precheck (some artifact))
        (Function.update sighting .precheck seen) (.error .alreadyCompliant) pdfUri ∧
      reachedSteps settings (Function.update sighting .precheck seen) = [.precheck] := by
  have stops : alreadyCompliant settings (Function.update sighting .precheck seen) = true := by
    simp [alreadyCompliant, enabled, compliant]
  have only : reachedSteps settings (Function.update sighting .precheck seen) = [.precheck] := by
    rw [reachedSteps, stops]
    rfl
  refine ⟨⟨?_, ?_, ?_⟩, only⟩
  · rw [only]
    intro step member
    obtain rfl := List.mem_singleton.mp member
    refine ⟨artifact, Function.update_self _ _ _, tells.recordedAs enabled, fun _ => ?_⟩
    have input : job.source = pdfUri := sofar.pdfUri
    rw [Function.update_self]
    exact input ▸ tells
  · rw [only]
    intro step outside
    rw [Function.update_of_ne (fun same => outside (List.mem_singleton.mpr same))]
    exact sofar.rest step List.not_mem_nil
  · rw [attemptEnding, stops]
    rfl

/-- A step that ran, and did not end the run. -/
theorem Sofar.serviced {artifact : RemediationArtifact}
    (sofar : Sofar settings job step.earlier pdfUri A sighting)
    (enabled : settings.run step = true) (tells : seen.Tells step pdfUri artifact)
    (goesOn : step = .precheck → seen.verdict ≠ some true) :
    Sofar settings job (step.earlier ++ [step])
      (if step.isTransform && !seen.raised then seen.saved.getD pdfUri else pdfUri)
      (Function.update A step (some artifact)) (Function.update sighting step seen) := by
  have handed : handsOn settings (Function.update sighting step seen) pdfUri step =
      if step.isTransform && !seen.raised then seen.saved.getD pdfUri else pdfUri := by
    rw [handsOn, enabled, Function.update_self]
    rfl
  rw [← handed]
  refine sofar.append (fun other different => Function.update_of_ne different _ _)
    (tells.recordedAs enabled) (fun _ => ?_) ?_
  · rw [Function.update_self]
    exact tells
  · rintro rfl
    have verdict := goesOn rfl
    simp [alreadyCompliant, verdict]

/-- What a logbook says of the steps that ran. -/
theorem filter_ran (before : List Step) (enabled : settings.run step = true) :
    (before ++ [step]).filter settings.run = before.filter settings.run ++ [step] := by
  rw [List.filter_append, List.filter_cons_of_pos enabled, List.filter_nil]

/-- A check has ended the run. -/
theorem looped_of_raised {artifact : RemediationArtifact} {exc : Exn} {p : Store × Logbook}
    (sofar : Sofar settings job step.earlier pdfUri A sighting)
    (enabled : settings.run step = true) (tells : seen.Tells step pdfUri artifact)
    (ends : seen.Ends step pdfUri (.error exc))
    (stands : Stands job (Function.update A step (some artifact))
      (.inside (step.earlier.filter settings.run) sighting step seen) p) :
    Looped settings job (.ok (.error exc, pdfUri)) p := by
  have atPostcheck : step = .postcheck →
      endStatus settings (.error exc) = postcheckOutcome settings
        (Function.update sighting step seen) →
      endUri job (.error exc) pdfUri = pdfUri →
        Looped settings job (.ok (.error exc, pdfUri)) p := by
    rintro rfl isEnd uri
    have all := sofar.serviced enabled tells (by simp)
    obtain ⟨outcome, reached⟩ := Sofar.outcome all isEnd uri
    refine ⟨_, _, ?_, outcome⟩
    rw [reached, show Step.order = Step.postcheck.earlier ++ [.postcheck] from rfl,
      filter_ran _ enabled]
    exact stands
  cases exc with
  | alreadyCompliant =>
      obtain ⟨rfl, verdict⟩ := ends
      obtain ⟨outcome, reached⟩ := outcome_of_precheck enabled sofar tells verdict
      refine ⟨_, _, ?_, outcome⟩
      rw [reached, show [Step.precheck] = Step.precheck.earlier ++ [.precheck] from rfl,
        filter_ran _ enabled]
      exact stands
  | notCompliant failedRules =>
      obtain ⟨rfl, verdict⟩ := ends
      refine atPostcheck rfl ?_ rfl
      simp [endStatus, postcheckOutcome, enabled, verdict]
  | postCheckUnavailable message =>
      obtain ⟨rfl, verdict⟩ := ends
      refine atPostcheck rfl ?_ rfl
      simp [endStatus, postcheckOutcome, enabled, verdict]
  | _ => exact ends.elim

/-- **The loop over `PIPELINE_STEPS`**, with the steps of `before` done. -/
theorem runSteps_seen (own : remediation.id = job.id) (services : List ArtifactService)
    (members : ∀ service ∈ services, service ∈ pipelineSteps settings) (before : List Step)
    (order : before ++ services.map (·.step) = Step.order)
    (sofar : Sofar settings job before pdfUri A sighting)
    (passed : services = [] → settings.run .postcheck = true →
      (sighting .postcheck).verdict = some true) :
    Triple (Observer settings job) (Stands job A ⟨before.filter settings.run, sighting⟩)
      (runSteps settings remediation services pdfUri) (Looped settings job) := by
  induction services generalizing before pdfUri A sighting with
  -- Induction on the steps that are left; `before` is what is earlier in `Step.order`, and the
  -- sighting is what an observer has seen of it.
  | nil =>
      rw [List.map_nil, List.append_nil] at order
      subst order
      refine Triple.done fun p stands => ?_
      have isEnd : endStatus settings (.ok ()) = postcheckOutcome settings sighting := by
        rw [endStatus, postcheckOutcome, ArtifactService.isDisabled]
        cases enabled : settings.run .postcheck with
        | false => rfl
        | true => simp [passed rfl enabled]
      obtain ⟨outcome, all⟩ := sofar.outcome isEnd rfl
      refine ⟨A, sighting, ?_, outcome⟩
      rw [all]
      exact stands
  | cons service rest ih =>
      obtain rfl : before = service.step.earlier := Step.earlier_eq order
      have later : ∀ other ∈ rest, other ∈ pipelineSteps settings :=
        fun other member => members other (List.mem_cons_of_mem _ member)
      have order' : (service.step.earlier ++ [service.step]) ++ rest.map (·.step) =
          Step.order := by
        rw [List.append_assoc]
        exact order
      -- What is left is a tail of the order, so its last service is postcheck.
      have isLast : rest = [] → service.step = .postcheck := by
        rintro rfl
        exact last_step ((List.append_nil _).symm.trans order')
      have unrecorded : A service.step = none :=
        sofar.rest _ service.step.not_mem_earlier
      rw [runSteps, ArtifactService.isDisabled]
      cases enabled : settings.run service.step with
      -- A step that is off is recorded as skipped and hands on the file it was given.
      | false =>
          refine Triple.attempt_bind (markStatus_seen own _) fun ended => ?_
          rintro p ⟨rfl, stands⟩
          have skipped : handsOn settings sighting pdfUri service.step = pdfUri := by
            simp [handsOn, enabled]
          have next : Sofar settings job (service.step.earlier ++ [service.step])
              (handsOn settings sighting pdfUri service.step)
              (Function.update A service.step (some ⟨.skipped, .blank,
                ArtifactService.settingName service.step ++ " is disabled"⟩)) sighting := by
            refine sofar.append (fun _ _ => rfl) ?_ ?_ ?_
            · simp [recordedAs, enabled]
            · simp [enabled]
            · intro isPrecheck
              rw [isPrecheck] at enabled
              simp [alreadyCompliant, enabled]
          rw [skipped] at next
          refine ih later _ order' next (fun isNil isOn => ?_) p ?_
          · rw [← isLast isNil, enabled] at isOn
            cases isOn
          · rw [List.filter_append, List.filter_cons_of_neg (by simp [enabled]), List.filter_nil,
              List.append_nil]
            exact stands
      | true =>
          refine Triple.attempt_bind
            (stepRun_seen (members _ List.mem_cons_self) own unrecorded) fun ended => ?_
          rintro p ⟨seen, artifact, stands, tells, ends⟩
          cases ended with
          -- A step that did not raise hands its output on; every raise ends the loop, the one of a
          -- compliant precheck too.
          | ok output =>
              obtain ⟨rfl, goesOn, passes⟩ := ends
              refine ih later _ order' (sofar.serviced enabled tells goesOn) (fun isNil _ => ?_) p ?_
              · rw [← isLast isNil, Function.update_self]
                exact passes (isLast isNil)
              · rw [filter_ran _ enabled]
                exact stands
          | error exc => exact looped_of_raised sofar enabled tells ends stands

/-! ## The end of the run -/

/-- The attempt has that status and that final output. -/
def Closed (job : Job) (A : Step → Option RemediationArtifact) (x : Logbook)
    (closing : JobStatus × Uri) (p : Store × Logbook) : Prop :=
  Stands job A x p ∧ ∃ row, p.1.row job.id = some row ∧
    (row.status, row.finalOutputUri) = closing

variable {closing : JobStatus × Uri}

theorem stable_closed : (Observer settings job).Stable (Closed job A x closing) := by
  rintro ⟨s, x⟩ ⟨t, y⟩ ⟨stands, row, found, isClosing⟩ rely
  obtain ⟨enqueued, foundT⟩ := rely.1.row row found
  exact ⟨stable_stands _ _ stands rely, _, foundT, isClosing⟩

/-- Reading the clock is not seen. -/
theorem Logbook.after_now (x : Logbook) (now : ℕ) : x.after .now (.ok now) = x := by
  have working : x.after .now (.ok now) = x.ran.getLast?.elim x fun step =>
      ⟨x.ran, Function.update x.sighting step
        ((x.sighting step).after .now (.ok now))⟩ := rfl
  rw [working]
  cases x.ran.getLast? with
  | none => rfl
  | some step =>
      have quiet : (x.sighting step).after .now (.ok now) = x.sighting step := rfl
      rw [Option.elim_some, quiet, Function.update_eq_self]

theorem saveRemediation_row {world : World} {i id : ℕ} {fields : RemediationUpdate}
    {s t : Store} {answer : Unit}
    (performed : perform settings world i (.saveRemediation id fields) s = some (.ok answer, t)) :
    ∃ row, t.row id = some (fields.apply row) := by
  cases found : s.row id with
  | none =>
      simp only [perform, found] at performed
      cases performed
  | some row =>
      obtain rfl := saveRemediation_ok performed
      exact ⟨row, Store.row_updateRow_self fields.apply_id found⟩

/-- The attempt's row is stamped and saved. -/
theorem save_seen (fields : ℕ → RemediationUpdate) :
    Triple (Observer settings job) (Stands job A x)
      ((issue .now).bind fun now => issue (.saveRemediation job.id (fields now)))
      fun r p => r = .ok () ∧ Stands job A x p ∧
        ∃ now row, p.1.row job.id = some ((fields now).apply row) := by
  have reading : Triple (Observer settings job) (Stands job A x) (issue .now) fun r p =>
      ∃ now, r = .ok now ∧ Stands job A x p := by
    refine observer_issue stable_stands fun s x' r t world i holds _ executed => ?_
    obtain ⟨artifacts, rfl⟩ := holds
    cases executed
    exact ⟨s.clock, rfl, artifacts, Logbook.after_now _ _⟩
  refine Triple.bind_ok reading fun now => ?_
  have saving : Triple (Observer settings job) (Stands job A x)
      (issue (.saveRemediation job.id (fields now))) fun r p => ∃ value, r = .ok value ∧
        Stands job A x p ∧ ∃ row, p.1.row job.id = some ((fields now).apply row) := by
    refine statement_spec stable_stands rfl (fun _ _ => rfl) ?_
    rintro s x' t world i value ⟨artifacts, rfl⟩ performed
    obtain ⟨row, saved⟩ := saveRemediation_row performed
    obtain rfl := saveRemediation_ok performed
    exact ⟨⟨artifacts, rfl⟩, row, saved⟩
  refine saving.post ?_
  rintro r p ⟨value, rfl, stands, row, saved⟩
  exact ⟨rfl, stands, now, row, saved⟩

/-- `_mark_finished`. -/
theorem markFinished_seen (own : remediation.id = job.id) (status : JobStatus) (uri : Uri)
    (error : Option String) :
    Triple (Observer settings job) (Stands job A x)
      (RemediationService.markFinished remediation status uri error)
      fun r p => r = .ok () ∧ Closed job A x (status, uri) p := by
  rw [RemediationService.markFinished, own]
  refine Triple.handle (save_seen fun now =>
    { status := status, completedAt := some now, finalOutputUri := some uri, error := error })
    ?_ fun exc => ?_
  · rintro value p ⟨isOk, stands, now, row, saved⟩
    exact ⟨isOk, stands, _, saved, rfl⟩
  · rintro p ⟨impossible, -⟩
    cases impossible

/-- The `except` and `else` clauses. -/
theorem conclude_seen (own : remediation.id = job.id)
    (source : remediation.sourcePdfUri = job.source) (ended : Except Exn Unit) (pdfUri : Uri) :
    Triple (Observer settings job) (Stands job A x)
      (conclude settings remediation (ended, pdfUri))
      fun _ => Closed job A x (endStatus settings ended, endUri job ended pdfUri) := by
  have closing : ∀ status uri error, Triple (Observer settings job) (Stands job A x)
      (RemediationService.markFinished remediation status uri error)
      fun _ => Closed job A x (status, uri) :=
    fun status uri error => (markFinished_seen own status uri error).post fun _ _ h => h.2
  have failing : ∀ exc : Exn, Triple (Observer settings job) (Stands job A x)
      ((RemediationService.markError remediation exc.message pdfUri).bind fun _ =>
        (Program.raise exc : Py Unit)) fun _ => Closed job A x (.error, pdfUri) :=
    fun exc => Triple.bind (closing .error pdfUri _) (fun _ => Triple.done fun _ h => h)
      fun _ _ h => h
  cases ended with
  | ok _ =>
      rw [conclude, endStatus]
      split
      · exact closing .skipped pdfUri none
      · exact closing .compliant pdfUri none
  | error exc =>
      cases exc with
      | alreadyCompliant =>
          rw [conclude, source]
          exact closing .compliant job.source none
      | notCompliant failedRules => exact closing .noncompliant pdfUri _
      | postCheckUnavailable message => exact closing .error pdfUri _
      | _ => exact failing _

/-- The `finally` clause. -/
theorem notifyCallbacks_seen :
    Triple (Observer settings job) (Closed job A x closing) (notifyCallbacks remediation)
      fun _ => Closed job A x closing := by
  have enqueuing : ∀ callbacks : List ℕ, Triple (Observer settings job)
      (Closed job A x closing) (enqueueWebhooks callbacks) fun _ => Closed job A x closing := by
    intro callbacks
    induction callbacks with
    | nil => exact Triple.done fun _ holds => holds
    | cons callback rest ih =>
        refine Triple.bind_ok (M := fun _ => Closed job A x closing) ?_ fun _ => ih
        refine statement_spec stable_closed rfl (fun _ _ => rfl) ?_
        intro s x' t world i value holds performed
        cases performed
        exact holds
  refine Triple.bind_ok (M := fun _ => Closed job A x closing) ?_ enqueuing
  refine statement_spec stable_closed rfl (fun _ _ => rfl) ?_
  intro s x' t world i value holds performed
  cases performed
  exact holds

/-- What the run leaves behind is what the design says. -/
theorem RunsTo.isolated {ended : Except Exn Unit} {p : Store × Logbook}
    (outcome : RunsTo settings job A sighting ended pdfUri)
    (closed : Closed job A ⟨(reachedSteps settings sighting).filter settings.run, sighting⟩
      (endStatus settings ended, endUri job ended pdfUri) p) :
    Isolated settings job p.1 p.2 := by
  obtain ⟨⟨rfl, isBook⟩, row, found, closing⟩ := closed
  rw [isBook]
  have tells : ∀ step ∈ (reachedSteps settings sighting).filter settings.run, ∃ artifact,
      (sighting step).Tells step (handedOn settings sighting step.earlier job.source)
        artifact := by
    intro step member
    obtain ⟨isReached, enabled⟩ := List.mem_filter.mp member
    obtain ⟨artifact, -, -, tells⟩ := outcome.told step isReached
    exact ⟨artifact, tells enabled⟩
  refine ⟨rfl, ?_, ?_, outcome.rest, ?_, ?_, row, found, closing.trans outcome.ending⟩
  · intro step member
    obtain ⟨artifact, told⟩ := tells step member
    exact told.input
  · intro step isReached
    obtain ⟨artifact, recorded, status, tells⟩ := outcome.told step isReached
    refine ⟨artifact, recorded, status, fun completed => ?_⟩
    have enabled : settings.run step = true := by
      by_contra disabled
      rw [status, recordedAs, Bool.eq_false_iff.mpr disabled] at completed
      cases completed
    exact (tells enabled).output completed
  · intro enabled
    cases isCompliant : alreadyCompliant settings sighting with
    | true => exact .inr rfl
    | false =>
        refine .inl (List.mem_filter.mpr ⟨?_, enabled⟩)
        rw [reachedSteps, isCompliant]
        decide
  · intro step member isCheck
    obtain ⟨artifact, told⟩ := tells step member
    exact told.verdict isCheck

/-- **The task**, for a new attempt. -/
theorem process_seen {s : Store} (fresh : job.Fresh s) :
    (processRemediation settings job.id).Safe (Observer settings job)
      (fun _ p => Isolated settings job p.1 p.2) (s, {}) := by
  have getting : Triple (Observer settings job)
      (fun p => Stands job (fun _ => none) {} p ∧ ∃ row, p.1.row job.id = some row ∧
        job.Describes row ∧ row.status = .queued)
      (RemediationService.get job.id) fun r p => ∃ row, r = .ok row ∧
        (job.Describes row ∧ row.status = .queued) ∧ Stands job (fun _ => none) {} p := by
    refine statement_spec ?_ rfl (fun _ _ => rfl) ?_
    · rintro p q ⟨stands, row, found, describes, queued⟩ rely
      obtain ⟨enqueued, foundT⟩ := rely.1.row row found
      exact ⟨stable_stands _ _ stands rely, _, foundT, describes.requeued enqueued, queued⟩
    · rintro s x t world i value ⟨stands, row, found, describes, queued⟩ performed
      simp only [perform, found] at performed
      cases performed
      exact ⟨⟨describes, queued⟩, stands⟩
  -- Nothing is done and nothing has been seen before the first step.
  have start : Sofar settings job [] job.source (fun _ => none) fun _ => {} :=
    ⟨rfl, fun step member => absurd member List.not_mem_nil, fun _ _ => rfl,
      fun member => absurd member List.not_mem_nil⟩
  have running : Triple (Observer settings job)
      (fun p => Stands job (fun _ => none) {} p ∧ ∃ row, p.1.row job.id = some row ∧
        job.Describes row ∧ row.status = .queued)
      (processRemediation settings job.id) fun _ p => Isolated settings job p.1 p.2 := by
    refine Triple.bind_ok getting fun remediation => ?_
    rintro p ⟨⟨describes, queued⟩, stands⟩
    rw [if_neg (by rw [queued]; decide)]
    have marking : Triple (Observer settings job) (Stands job (fun _ => none) {})
        (RemediationService.markRunning remediation) fun r p => ∃ value, r = .ok value ∧
          Stands job (fun _ => none) {} p := by
      rw [RemediationService.markRunning, describes.id]
      exact (save_seen fun now => { status := .running, startedAt := some now }).post
        fun r p saved => ⟨(), saved.1, saved.2.1⟩
    -- The steps, and then the final status by what they ended with.
    have piping : Triple (Observer settings job) (Stands job (fun _ => none) {})
        (runPipeline settings remediation) fun _ p => ∃ A sighting ended pdfUri,
          RunsTo settings job A sighting ended pdfUri ∧
            Closed job A ⟨(reachedSteps settings sighting).filter settings.run, sighting⟩
              (endStatus settings ended, endUri job ended pdfUri) p := by
      rw [runPipeline, describes.sourcePdfUri]
      refine Triple.bind (runSteps_seen describes.id _ (fun _ member => member) [] rfl start
        fun impossible => by cases impossible) ?_ fun exc p impossible => impossible.elim
      rintro ⟨ended, pdfUri⟩ p ⟨A, sighting, stands, outcome⟩
      exact (conclude_seen describes.id describes.sourcePdfUri ended pdfUri p stands).mono
        fun _ q closed => ⟨A, sighting, ended, pdfUri, outcome, closed⟩
    refine Triple.bind_ok marking (fun _ => Triple.ensure piping fun r => ?_) p stands
    rintro p ⟨A, sighting, ended, pdfUri, outcome, closed⟩
    -- The notifications write nothing that the conclusion reads.
    refine (notifyCallbacks_seen p closed).mono fun result q closed => ?_
    have isolated := outcome.isolated closed
    cases result <;> exact isolated
  exact running (s, {}) ⟨⟨fresh.artifacts, rfl⟩, fresh.described⟩

theorem stable_isolated :
    (Observer settings job).Stable fun p => Isolated settings job p.1 p.2 := by
  rintro ⟨s, x⟩ ⟨t, y⟩ isolated ⟨leftAlone, same⟩
  obtain rfl : y = x := same
  have artifacts := congrFun leftAlone.artifacts
  obtain ⟨row, found, ending⟩ := isolated.ending
  obtain ⟨enqueued, foundT⟩ := leftAlone.row row found
  refine { isolated with
    recorded := fun step isReached => ?_
    unreached := fun step outside => (artifacts step).trans (isolated.unreached step outside)
    ending := ⟨_, foundT, ending⟩ }
  obtain ⟨artifact, recorded, told⟩ := isolated.recorded step isReached
  exact ⟨artifact, (artifacts step).trans recorded, told⟩

/-- **A step that fails is the only one to fail.**  Whatever the settings are, and whichever
operations of the storage, the adapters and the vision client raise in a run of a new
attempt that no other run disturbs, the run leaves behind what the design says. -/
theorem steps_fail_alone (settings : Settings) (job : Job) (s t : Store) (x : Logbook)
    (result : Except Exn Unit) (fresh : job.Fresh s)
    (returns : (Observer settings job).Returns (processRemediation settings job.id) (s, {})
      result (t, x)) : Isolated settings job t x :=
  Environment.Returns.safe returns (process_seen fresh) fun _ => stable_isolated

/-- One operation in a world, and in the logbook. -/
def executeSeen (settings : Settings) (world : World) (op : Op) (p : Store × Logbook) :
    Option (Except Exn op.Ans × (Store × Logbook)) :=
  match execute settings world 0 op p.1 with
  | some (.ok value, t) => some (.ok value, t, p.2.after op (.ok value))
  | some (.error exc, t) =>
      if op.isStatement then none else some (.error exc, t, p.2.after op (.error exc))
  | none => none

theorem executeSeen_step {world : World} {op : Op} {p q : Store × Logbook}
    {r : Except Exn op.Ans} (executed : executeSeen settings world op p = some (r, q)) :
    (Observer settings job).step op p r q := by
  rw [executeSeen] at executed
  split at executed
  · rename_i isAnswer
    cases executed
    exact ⟨⟨world, 0, isAnswer⟩, fun _ => ⟨_, rfl⟩, rfl⟩
  · rename_i isAnswer
    split at executed
    · cases executed
    · rename_i noStatement
      cases executed
      exact ⟨⟨world, 0, isAnswer⟩, fun isStatement => absurd isStatement noStatement, rfl⟩
  · cases executed

/-- The first operations of the task in a world. -/
def Job.observed (settings : Settings) (world : World) (n : ℕ) (job : Job) (s : Store) :
    Py Unit × Store × Logbook :=
  Environment.runFor (S := Query) (executeSeen settings world) n
    (processRemediation settings job.id) (s, {})

theorem Job.observed_returns {world : World} {n : ℕ} {s : Store}
    (ended : hasEnded (job.observed settings world n s).1 = true) :
    ∃ result, (Observer settings job).Returns (processRemediation settings job.id) (s, {}) result
      (job.observed settings world n s).2 := by
  have reaches : (Observer settings job).Reaches (processRemediation settings job.id) (s, {})
      (job.observed settings world n s).1 (job.observed settings world n s).2 :=
    Environment.reaches_runFor (fun _ _ _ _ executed => executeSeen_step executed) n _ _
  cases isResult : (job.observed settings world n s).1 with
  | done result =>
      rw [isResult] at reaches
      exact ⟨result, reaches⟩
  | call op next =>
      rw [isResult] at ended
      cases ended

/-- A run in which OCR raises, and font repair changes the original. -/
def ocrFails : Py Unit × Store × Logbook :=
  Job.example.observed (.stepsOn [.precheck, .ocr, .fontRepair, .postcheck])
    (.judging false [.fontRepair]) 60 (Job.example.deployed [1])

theorem steps_fail_alone_ocr_fails :
    ∃ t x, x.ran = [.precheck, .ocr, .fontRepair, .postcheck] ∧ (x.sighting .ocr).raised = true ∧
      Isolated (.stepsOn [.precheck, .ocr, .fontRepair, .postcheck]) .example t x := by
  have checked : (hasEnded ocrFails.1 &&
      ocrFails.2.2.ran = [.precheck, .ocr, .fontRepair, .postcheck] &&
        (ocrFails.2.2.sighting .ocr).raised) = true := by decide +kernel
  simp only [Bool.and_eq_true, decide_eq_true_eq] at checked
  obtain ⟨⟨ended, ran⟩, raised⟩ := checked
  obtain ⟨result, returns⟩ : ∃ result, (Observer (.stepsOn [.precheck, .ocr, .fontRepair,
      .postcheck]) .example).Returns (processRemediation (.stepsOn [.precheck, .ocr, .fontRepair,
        .postcheck]) 0) (Job.example.deployed [1], {}) result ocrFails.2 :=
    Job.observed_returns ended
  generalize ocrFails.2 = left at ran raised returns
  obtain ⟨t, x⟩ := left
  exact ⟨t, x, ran, raised,
    steps_fail_alone _ .example _ _ _ result (Job.example.deployed_fresh [1]) returns⟩

end DicePipeline
