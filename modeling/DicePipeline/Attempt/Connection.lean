import DicePipeline.Attempt.Verdicts
import DicePipeline.Interaction.Masking

/-!
# Runs that lose their database connection

A step's adapter can work for so long that the database closes the idle
connection of the worker.  `common/db.py` has two remedies.  The loop over the
steps calls `drop_connection_if_safe` before each step, so the first statement
of a step never meets a closed connection (`Op.opensStep`).  And `_mark_status`
and `_mark_finished` are wrapped in `retry_on_lost_connection`, which drops the
connection of a failed write and tries it again (`Op.isRetried`).

`workerLink` says so, and `JobRun` is a run of `process_remediation` whose
connection is closed during the adapter work of at most one step.  Others may
change the database between any two of its operations.

Most steps write their artifact first after the adapter's work, and that write
is retried.  A verification step that got a verdict, and the scoring step that
got a score, first insert the row of the verdict or the score, and nothing
retries that.  `noRecordDue` is what is left: no verdict and no score came back
from the call during which the connection was closed.  Then the run ends with
the result, and in the database, of the run in which it stayed open.
-/

namespace DicePipeline

open Interaction Program

/-- Database statements: all but the clock, the storage backend and the adapters. -/
def Op.isStatement : Op → Bool
  | .now => false
  | .storageExists _ => false
  | .storageDelete _ => false
  | .storageSave _ _ => false
  | .storageOpen _ => false
  | .adapter _ => false
  | _ => true

/-- Calls of an adapter or of the vision client. -/
def Op.isAdapterCall : Op → Bool
  | .adapter _ => true
  | _ => false

/-- The first statement of a step, just after `drop_connection_if_safe`: `run`
reads the step's artifact, and `record_skip` writes it. -/
def Op.opensStep : Op → Bool
  | .completedOutputUri _ _ => true
  | .upsertArtifact _ _ artifact => artifact.status = .skipped
  | _ => false

/-- The statements of functions wrapped in `retry_on_lost_connection`: the
upsert of `_mark_status` and the save of `_mark_finished`. -/
def Op.isRetried : Op → Bool
  | .upsertArtifact _ _ _ => true
  | .saveRemediation _ fields => fields.completedAt.isSome
  | _ => false

/-- How a worker uses its connection.  A refused statement raises
`OperationalError` with that text. -/
def workerLink (report : String) : Link Query Exn where
  carried := Op.isStatement
  fresh := Op.opensStep
  renews := Op.isRetried
  idle := Op.isAdapterCall
  refusal := .operationalError report

/-- One operation of connection `i` that the database has not refused. -/
def Reached (settings : Settings) (i : ℕ) (op : Op) (s : Store) (answer : Except Exn op.Ans)
    (t : Store) : Prop :=
  ∃ world, World.database world = none ∧ execute settings world i op s = some (answer, t)

/-- **A run of `process_remediation`** whose connection is closed during the
adapter work of at most one step. -/
def JobRun (settings : Settings) (report : String) (i id : ℕ) (s : Store)
    (trace : List (Happening Query Exn Store)) (result : Except Exn Unit) (t : Store) : Prop :=
  (workerLink report).Run (Reached settings i) (processRemediation settings id) .sound s trace
    result t

/-- No row of a verdict or a score is due after the operation. -/
def noRecordDue : (op : Op) → Except Exn op.Ans → Bool
  | .adapter (.validate _), .ok _ => false
  | .adapter (.score _), .ok _ => false
  | _, _ => true

/-- The same, as a condition on where a connection may be lost. -/
def NoRecordDue (op : Op) (answer : Except Exn op.Ans) : Prop := noRecordDue op answer = true

/-- The answer of an operation that reached the database. -/
def Connected (op : Op) (answer : Except Exn op.Ans) : Prop :=
  ∀ message, answer ≠ .error (.operationalError message)

variable {settings : Settings} {report : String} {i id : ℕ} {s t : Store}

private theorem perform_connected {world : World} {op : Op} {message : String} :
    perform settings world i op s ≠ some (.error (.operationalError message), t) := by
  intro h
  cases op with
  | insertRemediation new =>
      simp only [perform] at h
      split at h
      · rename_i exc refused
        obtain ⟨raised, -⟩ := Prod.mk.inj (Option.some.inj h)
        obtain rfl := Except.error.inj raised
        simp only [NewRemediation.fits] at refused
        repeat' split at refused
        all_goals cases refused
      · repeat' split at h
        all_goals cases h
  | adapter call =>
      obtain ⟨raised, -⟩ := Prod.mk.inj (Option.some.inj h)
      cases answer : world.adapter call <;> rw [answer] at raised <;> cases raised
  | _ =>
      simp only [perform] at h
      repeat' split at h
      all_goals cases h

theorem Reached.connected (op : Op) (s : Store) (answer : Except Exn op.Ans) (t : Store)
    (reached : Reached settings i op s answer t) : Connected op answer := by
  obtain ⟨world, isUp, executed⟩ := reached
  rintro message rfl
  unfold execute at executed
  split at executed
  · rename_i exc failed
    obtain ⟨raised, -⟩ := Prod.mk.inj (Option.some.inj executed)
    obtain rfl := Except.error.inj raised
    have statement : world.database.map Exn.operationalError ≠
        some (.operationalError message) := by simp [isUp]
    have storage : world.storage.map Exn.other ≠ some (.operationalError message) := by simp
    cases op <;> first | exact statement failed | exact storage failed | cases failed
  · exact perform_connected executed

/-! ## The connection is usable after every step -/

/-- The program, started over a usable connection, leaves one. -/
def Recovers (report : String) {α : Type} (p : Py α) : Prop :=
  ∀ line, line ≠ Line.lost →
    p.Masks (workerLink report) Connected NoRecordDue (fun line _ => line ≠ .lost) line

namespace Recovers

variable {α β : Type}

theorem done (result : Except Exn α) : Recovers report (.done result : Py α) :=
  fun _ usable => Masks.of_done usable

theorem bind {p : Py α} {f : α → Py β} (first : Recovers report p)
    (second : ∀ value, Recovers report (f value)) : Recovers report (p.bind f) := by
  intro line usable
  refine Masks.bind ((first line usable).mono fun line result usable => ?_)
  cases result with
  | ok value => exact second value line usable
  | error exc => exact usable

theorem attempt_bind {p : Py α} {f : Except Exn α → Py β} (first : Recovers report p)
    (second : ∀ result, Recovers report (f result)) : Recovers report (p.attempt.bind f) := by
  intro line usable
  refine Masks.attempt_bind ((first line usable).mono fun line result usable => ?_)
  exact second result line usable

theorem ensure {p : Py α} {final : Py Unit} (body : Recovers report p)
    (last : Recovers report final) : Recovers report (p.ensure final) :=
  body.attempt_bind fun result => last.bind fun _ => done result

theorem ite {c : Prop} [Decidable c] {p q : Py α} (yes : Recovers report p)
    (no : Recovers report q) : Recovers report (if c then p else q) := by
  split
  · exact yes
  · exact no

/-- No connection is lost during a statement. -/
theorem issue {op : Op} (notIdle : op.isAdapterCall = false) : Recovers report (issue op) :=
  fun _ usable => Only.masks ((only_perform _).mpr notIdle) usable fun _ => usable

/-- A retried program recovers if it does. -/
theorem retry {func : Py α} (recovers : Recovers report func) :
    Recovers report (retryOnLostConnection func) := by
  refine recovers.attempt_bind fun result => ?_
  cases result with
  | ok value => exact done _
  | error exc => cases exc <;> first | exact recovers | exact done _

end Recovers

/-- What `retry_on_lost_connection` makes of a statement's first answer. -/
private def tryAgain (op : Op) : Except Exn op.Ans → Py op.Ans
  | .ok value => .done (.ok value)
  | .error (.operationalError _) => issue op
  | .error exc => .done (.error exc)

private theorem retry_issue (op : Op) :
    retryOnLostConnection (issue op) = Program.call (S := Query) op (tryAgain op) := by
  refine congrArg (Program.call (S := Query) op) (funext fun answer => ?_)
  cases answer with
  | ok _ => rfl
  | error exc => cases exc <;> rfl

/-- An answer that reached the database is passed on. -/
private theorem tryAgain_connected {op : Op} {answer : Except Exn op.Ans}
    (connected : Connected op answer) : .done answer = tryAgain op answer := by
  cases answer with
  | ok _ => rfl
  | error exc => cases exc <;> first | rfl | exact absurd rfl (connected _)

/-- **`_mark_status` replaces a lost connection.** -/
theorem markStatus_masks (remediation : Remediation) (step : Step)
    (artifact : RemediationArtifact) (line : Line) :
    (ArtifactService.markStatus remediation step artifact).Masks (workerLink report) Connected
      NoRecordDue (fun line _ => line ≠ .lost) line := by
  have statement : Recovers report (issue (.upsertArtifact remediation.id step artifact)) :=
    .issue rfl
  cases line with
  | sound => exact statement.retry .sound nofun
  | renewed => exact statement.retry .renewed nofun
  | lost =>
      have isCall : ArtifactService.markStatus remediation step artifact =
          Program.call (S := Query) (.upsertArtifact remediation.id step artifact)
            (tryAgain (.upsertArtifact remediation.id step artifact)) := retry_issue _
      rw [isCall]
      refine Masks.retried rfl rfl .done rfl fun answer connected => ?_
      have passedOn := tryAgain_connected connected
      refine ⟨passedOn, ?_⟩
      rw [← passedOn]
      exact .of_done nofun

/-- What follows `_mark_status` meets a usable connection. -/
private theorem markStatus_bind {α : Type} {remediation : Remediation} {step : Step}
    {artifact : RemediationArtifact} {f : Unit → Py α} (rest : ∀ value, Recovers report (f value))
    (line : Line) :
    ((ArtifactService.markStatus remediation step artifact).bind f).Masks (workerLink report)
      Connected NoRecordDue (fun line _ => line ≠ .lost) line := by
  refine Masks.bind ((markStatus_masks remediation step artifact line).mono ?_)
  intro line result usable
  cases result with
  | ok value => exact rest value line usable
  | error exc => exact usable

private theorem localInputCopy_recovers (pdfUri : Uri) :
    Recovers report (ArtifactService.localInputCopy pdfUri) :=
  .bind (.issue rfl) fun _ => .done _

/-- An adapter call, then something. -/
private theorem adapter_masks (call : AdapterCall) {line : Line} (usable : line ≠ .lost)
    {K : Line → Except Exn call.Result → Prop} (held : ∀ line result, line ≠ .lost → K line result)
    (lost : ∀ result, NoRecordDue (.adapter call) result → K .lost result) :
    (issue (.adapter call)).Masks (workerLink report) Connected NoRecordDue K line := by
  cases line with
  | lost => exact absurd rfl usable
  | renewed => exact fun answer _ => .of_done (held .renewed answer nofun)
  | sound =>
      intro answer _
      exact ⟨.of_done (held .sound answer nofun), fun _ due => .of_done (lost answer due)⟩

/-! ## One lemma for each step -/

private theorem issue_free {op : Op} (free : op.isStatement = false) :
    (issue op).Only Connected fun op : Op => op.isStatement = false :=
  (only_perform _).mpr free

/-- A transform's work and its storage calls use no connection. -/
private theorem transform_free {service : TransformService}
    (adapters : ∀ row file, (service.work row file).Only Connected fun op : Op => op.isStatement = false)
    (remediation : Remediation) (pdfUri : Uri) :
    (service.transform remediation pdfUri).Only Connected fun op : Op => op.isStatement = false := by
  refine Only.bind (Only.bind (issue_free rfl) fun _ => trivial) fun file => ?_
  refine Only.bind (adapters remediation file) fun output => ?_
  refine Only.bind (issue_free rfl) fun taken => ?_
  cases taken with
  | true => exact Only.bind (issue_free rfl) fun _ => issue_free rfl
  | false => exact issue_free rfl

private theorem describeCandidates_free (title : String) (candidates : List FigureCandidate)
    (altByRef : AltByRef) :
    (describeCandidates title candidates altByRef).Only Connected
      fun op : Op => op.isStatement = false := by
  induction candidates generalizing altByRef with
  | nil => trivial
  | cons candidate rest ih =>
      unfold describeCandidates
      split
      · exact ih _
      · exact Only.bind (issue_free rfl) fun text => ih _

private theorem work_free {service : TransformService}
    (member : service ∈ transformServices settings) (remediation : Remediation)
    (file : LocalFile) :
    (service.work remediation file).Only Connected fun op : Op => op.isStatement = false := by
  simp only [transformServices, List.mem_cons, List.not_mem_nil, or_false] at member
  rcases member with rfl | rfl | rfl | rfl | rfl
  · exact issue_free rfl
  · exact issue_free rfl
  · exact issue_free rfl
  · exact issue_free rfl
  · exact Only.bind (issue_free rfl) fun candidates =>
      Only.bind (describeCandidates_free _ candidates []) fun _ => issue_free rfl

/-- Whether or not a transform step worked, it marks its artifact next. -/
private theorem transformRun_recovers {service : TransformService}
    (member : service ∈ transformServices settings) (remediation : Remediation) (pdfUri : Uri) :
    Recovers report (service._run remediation pdfUri) := by
  intro line usable
  refine Masks.attempt_bind (Only.masks_of_free (transform_free (work_free member) _ _) ?_)
  intro line outcome
  cases outcome with
  | error exc => exact markStatus_bind (fun _ => .done _) line
  | ok outputUri => exact markStatus_bind (fun _ => .done _) line

/-- A verdict comes back over a usable connection. -/
private theorem validate_masks (pdfUri : Uri) {line : Line} (usable : line ≠ .lost) :
    (VerificationService.validate pdfUri).Masks (workerLink report) Connected NoRecordDue
      (fun line result => line ≠ .lost ∨ ∃ exc, result = .error exc) line := by
  refine Masks.bind ((localInputCopy_recovers pdfUri line usable).mono ?_)
  intro line result usable
  cases result with
  | error exc => exact .inl usable
  | ok file =>
      refine Masks.bind (adapter_masks (.validate file) usable (fun line outcome usable => ?_) fun outcome due => ?_)
      · cases outcome with
        | ok _ => exact .of_done (.inl usable)
        | error exc => exact .inl usable
      · cases outcome with
        | ok _ => exact nomatch due
        | error exc => exact .inr ⟨exc, rfl⟩

private theorem verificationRun_recovers {service : VerificationService}
    (replays : ∀ isCompliant rules, Recovers report (service.handleResult isCompliant rules))
    (reports : ∀ error, Recovers report (service.handleVerificationError error))
    (remediation : Remediation) (pdfUri : Uri) :
    Recovers report (service._run remediation pdfUri) := by
  intro line usable
  refine Masks.attempt_bind ((validate_masks pdfUri usable).mono fun line validated ends => ?_)
  cases validated with
  | error exc =>
      exact markStatus_bind (fun _ => (reports exc.message).bind fun _ => .done _) line
  | ok judged =>
      have usable : line ≠ .lost := ends.resolve_right nofun
      have rest : Recovers report ((issue (.createVerificationResult remediation.id service.step
          (VerificationService.resultOf judged.1 judged.2))).bind fun _ =>
            (ArtifactService.markCompleted remediation service.step pdfUri).bind fun _ =>
              (service.handleResult judged.2.isCompliant judged.2.failedRules).bind fun _ =>
                .done (.ok pdfUri)) := by
        refine .bind (.issue rfl) fun _ => .bind (fun line _ => markStatus_masks _ _ _ line) ?_
        exact fun _ => .bind (replays _ _) fun _ => .done _
      exact rest line usable

private theorem resumeCompleted_recovers {service : VerificationService}
    (replays : ∀ isCompliant rules, Recovers report (service.handleResult isCompliant rules))
    (remediation : Remediation) (outputUri : Uri) :
    Recovers report (service.resumeCompleted remediation outputUri) := by
  refine .bind (.issue rfl) fun previous => ?_
  split
  · exact .done _
  · exact .bind (replays _ _) fun _ => .done _

/-- A score comes back over a usable connection, too. -/
private theorem scoringRun_recovers (remediation : Remediation) (pdfUri : Uri) :
    Recovers report (ScoringService._run remediation pdfUri) := by
  intro line usable
  refine Masks.attempt_bind (Masks.bind ((localInputCopy_recovers pdfUri line usable).mono ?_))
  intro line file usable
  cases file with
  | error exc => exact markStatus_bind (fun _ => .done _) line
  | ok file =>
      refine adapter_masks (.score file) usable (fun line outcome usable => ?_) fun outcome due => ?_
      · cases outcome with
        | error exc => exact markStatus_bind (fun _ => .done _) line
        | ok result =>
            have rest : Recovers report ((issue (.createScore remediation.id
                ⟨result.score, result.grade, result.manualReviewItems⟩)).bind fun _ =>
                  (ArtifactService.markCompleted remediation .scoring pdfUri).bind fun _ =>
                    .done (.ok pdfUri)) :=
              .bind (.issue rfl) fun _ =>
                .bind (fun line _ => markStatus_masks _ _ _ line) fun _ => .done _
            exact rest line usable
      · cases outcome with
        | error exc => exact markStatus_bind (fun _ => .done _) .lost
        | ok _ => exact nomatch due

/-- **Every step leaves a usable connection.** -/
private theorem stepRun_recovers {service : ArtifactService}
    (member : service ∈ pipelineSteps settings) (remediation : Remediation) (pdfUri : Uri) :
    Recovers report (service.run remediation pdfUri) := by
  have run : (∀ outputUri, Recovers report (service.resumeCompleted remediation outputUri)) →
      Recovers report (service._run remediation pdfUri) →
      Recovers report (service.run remediation pdfUri) := by
    intro resumes works
    refine .bind (.issue rfl) fun existing => ?_
    cases existing with
    | some outputUri => exact resumes outputUri
    | none => exact works
  have precheck : ∀ isCompliant rules,
      Recovers report (PrecheckService.handleResult isCompliant rules) := by
    intro isCompliant _
    cases isCompliant <;> exact .done _
  have postcheck : ∀ isCompliant rules,
      Recovers report (PostCheckService.handleResult isCompliant rules) := by
    intro isCompliant _
    cases isCompliant <;> exact .done _
  simp only [pipelineSteps_eq, List.mem_append, List.mem_cons, List.mem_map, List.not_mem_nil,
    or_false] at member
  rcases member with (rfl | ⟨transform, isTransform, rfl⟩) | rfl | rfl
  · exact run (resumeCompleted_recovers precheck remediation)
      (verificationRun_recovers precheck (fun _ => .done _) remediation pdfUri)
  · exact run (fun _ => .done _) (transformRun_recovers isTransform remediation pdfUri)
  · exact run (fun _ => .done _) (scoringRun_recovers remediation pdfUri)
  · exact run (resumeCompleted_recovers postcheck remediation)
      (verificationRun_recovers postcheck (fun _ => .done _) remediation pdfUri)

/-! ## The whole run -/

private theorem runSteps_recovers {services : List ArtifactService}
    (members : ∀ service ∈ services, service ∈ pipelineSteps settings)
    (remediation : Remediation) (pdfUri : Uri) :
    Recovers report (runSteps settings remediation services pdfUri) := by
  induction services generalizing pdfUri with
  | nil => exact .done _
  | cons service rest ih =>
      have later : ∀ service ∈ rest, service ∈ pipelineSteps settings :=
        fun other member => members other (List.mem_cons_of_mem _ member)
      unfold runSteps
      refine .ite ?_ ?_
      · refine .attempt_bind (fun line _ => markStatus_masks _ _ _ line) fun ended => ?_
        cases ended with
        | ok _ => exact ih later pdfUri
        | error exc => exact .done _
      · refine .attempt_bind (stepRun_recovers (members _ List.mem_cons_self) remediation pdfUri)
          fun ended => ?_
        cases ended with
        | ok output => exact ih later output
        | error exc => exact .done _

private theorem conclude_recovers (remediation : Remediation) (ended : Except Exn Unit × Uri) :
    Recovers report (conclude settings remediation ended) := by
  have finishes : ∀ status uri error,
      Recovers report (RemediationService.markFinished remediation status uri error) :=
    fun _ _ _ => .retry (.bind (.issue rfl) fun _ => .issue rfl)
  obtain ⟨result, pdfUri⟩ := ended
  cases result with
  | ok _ => exact .ite (finishes _ _ _) (finishes _ _ _)
  | error exc =>
      cases exc <;> first
        | exact finishes _ _ _
        | exact .bind (finishes _ _ _) fun _ => .done _

private theorem notifyCallbacks_recovers (remediation : Remediation) :
    Recovers report (notifyCallbacks remediation) := by
  refine .bind (.issue rfl) fun callbacks => ?_
  induction callbacks with
  | nil => exact .done _
  | cons callback rest ih => exact .bind (.issue rfl) fun _ => ih

/-- A run of the task masks a lost connection. -/
theorem processRemediation_recovers (settings : Settings) (report : String) (id : ℕ) :
    Recovers report (processRemediation settings id) := by
  refine .bind (.issue rfl) fun remediation => ?_
  refine .ite (.done _) (.bind (.bind (.issue rfl) fun _ => .issue rfl) fun _ => ?_)
  refine .ensure (.bind ?_ fun ended => conclude_recovers remediation ended)
    (notifyCallbacks_recovers remediation)
  exact runSteps_recovers (fun _ member => member) remediation _

/-- **A dropped idle connection fails no job** whose adapter call, during which it was
closed, brought no verdict and no score.  Without the refused statements, the trace is that
of a run whose connection stayed open, with the same result and the same database. -/
theorem dropped_connection_fails_no_job (settings : Settings) (report : String) (i id : ℕ)
    (s t : Store) (trace : List (Happening Query Exn Store)) (result : Except Exn Unit)
    (run : JobRun settings report i id s trace result t)
    (spared : ∀ event ∈ trace, Link.Spared NoRecordDue event) :
    JobRun settings report i id s (undisturbed trace) result t :=
  Link.Run.masked Reached.connected run
    (processRemediation_recovers settings report id .sound nofun) spared

/-! ## Two runs of one job -/

/-- The task of the example attempt, running alone in one world.  The connection is closed
during the first adapter call that `strikes` accepts. -/
def Job.replayed (settings : Settings) (strikes : Op → Bool) (world : World) :
    Option (List (Happening Query Exn Store) × Except Exn Unit × Store) :=
  (workerLink "server closed the connection unexpectedly").runAlone (execute settings world 0)
    strikes 60 (processRemediation settings Job.example.id) .sound (Job.example.deployed [1])

/-- A replay is a run of the task. -/
private theorem Job.jobRun_of_replayed {strikes : Op → Bool} {world : World}
    {trace : List (Happening Query Exn Store)} {result : Except Exn Unit}
    (isUp : world.database = none)
    (replayed : Job.replayed settings strikes world = some (trace, result, t)) :
    JobRun settings "server closed the connection unexpectedly" 0 0 (Job.example.deployed [1])
      trace result t :=
  Link.run_of_runAlone (fun _ _ _ _ executed => ⟨world, isUp, executed⟩) replayed

/-- The connection is closed during OCR, which works. -/
theorem dropped_connection_fails_no_job_in_ocr :
    ∃ trace result t, trace.any Happening.isStruck = true ∧
      JobRun (.stepsOn [.ocr]) "server closed the connection unexpectedly" 0 0
        (Job.example.deployed [1]) (undisturbed trace) result t ∧
      (t.row 0).any (fun row => row.finalOutputUri = Job.example.output .ocr "a.pdf") = true := by
  have checked : (Job.replayed (.stepsOn [.ocr]) (fun _ => true) (.judging true [.ocr])).any
      (fun (trace, _, t) => trace.any Happening.isStruck &&
        trace.all (fun event => Link.spares noRecordDue event) &&
        (t.row 0).any fun row => row.finalOutputUri = Job.example.output .ocr "a.pdf") = true := by
    decide +kernel
  obtain ⟨⟨trace, result, t⟩, replayed, facts⟩ := (Option.any_eq_true _ _).mp checked
  simp only [Bool.and_eq_true, List.all_eq_true] at facts
  obtain ⟨⟨struck, spared⟩, final⟩ := facts
  have run := Job.jobRun_of_replayed rfl replayed
  refine ⟨trace, result, t, struck, ?_, final⟩
  exact dropped_connection_fails_no_job _ _ _ _ _ _ _ _ run fun event member =>
    Link.spared_of_spares (spared event member)

/-- Precheck finds the file compliant.  If the connection is closed while it does, the row of
the verdict is refused and the attempt ends in ERROR; otherwise it ends COMPLIANT. -/
theorem dropped_connection_fails_job_in_precheck :
    ∃ dropped kept : List (Happening Query Exn Store) × Except Exn Unit × Store,
      Job.replayed (.stepsOn [.precheck]) (fun _ => true) (.judging true []) = some dropped ∧
      Job.replayed (.stepsOn [.precheck]) (fun _ => false) (.judging true []) = some kept ∧
      JobRun (.stepsOn [.precheck]) "server closed the connection unexpectedly" 0 0
        (Job.example.deployed [1]) dropped.1 dropped.2.1 dropped.2.2 ∧
      JobRun (.stepsOn [.precheck]) "server closed the connection unexpectedly" 0 0
        (Job.example.deployed [1]) kept.1 kept.2.1 kept.2.2 ∧
      (dropped.2.2.row 0).any (·.status = .error) = true ∧
      (kept.2.2.row 0).any (·.status = .compliant) = true := by
  have checkedDropped : (Job.replayed (.stepsOn [.precheck]) (fun _ => true)
      (.judging true [])).any (fun run => (run.2.2.row 0).any (·.status = .error)) = true := by
    decide +kernel
  have checkedKept : (Job.replayed (.stepsOn [.precheck]) (fun _ => false)
      (.judging true [])).any (fun run => (run.2.2.row 0).any (·.status = .compliant)) = true := by
    decide +kernel
  obtain ⟨dropped, replayedDropped, isError⟩ := (Option.any_eq_true _ _).mp checkedDropped
  obtain ⟨kept, replayedKept, isCompliant⟩ := (Option.any_eq_true _ _).mp checkedKept
  exact ⟨dropped, kept, replayedDropped, replayedKept,
    Job.jobRun_of_replayed rfl replayedDropped, Job.jobRun_of_replayed rfl replayedKept, isError,
    isCompliant⟩

end DicePipeline
