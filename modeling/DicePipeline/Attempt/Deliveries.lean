import DicePipeline.Attempt.Runs

/-!
# A whole run, and any number of them

The steps of `Attempt.Runs` are put together as the code puts them together: the
loop over `PIPELINE_STEPS`, the clauses of the `try` statement, and the task.
What the loop knows after `before` is `At before pdfUri`, and by the end of it
`before` is all of `Step.order`.

`Deliveries.kept` leaves programs behind.  Whatever holds of a new attempt and is
kept by every move holds after any history of kills and redeliveries.
-/

namespace DicePipeline

open Interaction Program Environment

variable {settings : Settings} {answers : Answers} {admitted : Store → Op → Prop} {job : Job}
variable {s t : Store} {step : Step} {pdfUri : Uri} {remediation : Remediation}

/-! ## The remaining steps -/

/-- The scoring step. -/
theorem scoringRun_spec (describes : job.Describes remediation)
    (enabled : settings.run .scoring = true) :
    Triple (Worker settings answers admitted job)
      (At settings answers job Step.scoring.earlier pdfUri)
      (ScoringService.run remediation pdfUri)
      (Ran settings answers job .scoring pdfUri) := by
  have accepted : ∀ s, Accepted job .scoring s := fun _ =>
    ⟨fun impossible => (by cases impossible), fun impossible => by cases impossible⟩
  refine run_spec ScoringService describes.id (fun output => ?_) ?_
  · refine Triple.done fun s holds => ⟨holds.1, ?_, accepted s⟩
    exact (congrArg (·.getD pdfUri) holds.2).trans rfl
  -- Up to the score nothing is written, so the attempt is pending throughout.
  have scoring : Triple (Worker settings answers admitted job)
      (Pending settings answers job .scoring pdfUri) (scoreFile pdfUri)
      (fun _ => Pending settings answers job .scoring pdfUri) := by
    refine Known.bind (localInputCopy_spec (stable_pending _) pdfUri) (fun file => ?_)
      fun _ _ holds _ => holds
    refine worker_issue ?_ fun s r t world i holds _ _ executed => ?_
    · intro s t holds leftAlone
      refine ⟨stable_pending _ s t holds.1 leftAlone, ?_, holds.2.2⟩
      exact (leftAlone.objects _ holds.1.1.owns).trans holds.2.1
    · obtain rfl := (execute_effect executed).reading trivial
      exact ⟨.idle (.refl job t), holds.1⟩
  refine Triple.attempt_bind scoring fun outcome => ?_
  cases outcome with
  -- A score that could not be computed does not fail the job: the step is marked incomplete.
  | error exc =>
      refine Triple.bind (markIncomplete_spec describes rfl) (fun _ => ?_)
        fun exc s post => ⟨post.1, .foreign post.2⟩
      refine Triple.done ?_
      rintro s ⟨kept, incomplete, -⟩
      refine ⟨kept, ?_, accepted s⟩
      exact (congrArg (·.getD pdfUri) incomplete).trans rfl
  | ok result =>
      -- A second score for the attempt is refused by its one-to-one column: a foreign error, and
      -- nothing is written.
      have creating : Triple (Worker settings answers admitted job)
          (Pending settings answers job .scoring pdfUri)
          (issue (.createScore remediation.id
            ⟨result.score, result.grade, result.manualReviewItems⟩))
          (Known (Pending settings answers job .scoring pdfUri) fun _ _ => True) := by
        rw [describes.id]
        refine worker_issue (stable_pending _) fun s r t world i holds _ _ executed => ?_
        cases r with
        | error exc =>
            have foreign := execute_answered executed
            obtain rfl | impossible := execute_error executed
            · exact ⟨.idle (.refl job t), holds, foreign⟩
            · cases impossible
        | ok value =>
            have performed := execute_ok executed
            simp only [perform] at performed
            split at performed
            · cases performed
            · split at performed
              · cases performed
              · cases performed
                refine ⟨.scored holds.1.unfinished, ⟨⟨?_, holds.1.unfinished, holds.1.pdfUri,
                  holds.1.goesOn⟩, holds.2⟩, trivial⟩
                exact holds.1.consistent.scored _
      refine Known.bind creating (fun _ => ?_) fun exc s post foreign => ⟨post.1, .foreign foreign⟩
      -- The mark is recorded for the input itself, as scoring makes no file.
      have marking : Triple (Worker settings answers admitted job)
          (fun s => Pending settings answers job .scoring pdfUri s ∧ True)
          (ArtifactService.markCompleted remediation .scoring pdfUri)
          (Marked settings answers job .scoring pdfUri
            { status := .completed, outputUri := pdfUri } fun _ => True) := by
        refine (markStatus_spec describes _ (.const True) fun _ _ => trivial).pre ?_
        rintro s ⟨pending, _⟩
        refine ⟨⟨pending, ?_⟩, trivial⟩
        rw [← show s.input job .scoring = pdfUri from pending.1.pdfUri]
        exact .scored enabled rfl
      refine Triple.bind marking (fun _ => ?_) fun exc s post => ⟨post.1, .foreign post.2⟩
      refine Triple.done ?_
      rintro s ⟨kept, completed, -⟩
      refine ⟨kept, ?_, accepted s⟩
      exact (congrArg (·.getD pdfUri) completed).trans rfl

/-- Precheck: a compliant verdict ends the steps. -/
theorem precheckRun_spec (describes : job.Describes remediation)
    (enabled : settings.run .precheck = true) :
    Triple (Worker settings answers admitted job)
      (At settings answers job Step.precheck.earlier pdfUri)
      (PrecheckService.toStep.run remediation pdfUri)
      (Ran settings answers job .precheck pdfUri) := by
  refine verificationRun_spec describes PrecheckService rfl enabled ?_ ?_
  · intro isCompliant failedRules output
    cases isCompliant with
    | true =>
        refine Triple.done ?_
        rintro s ⟨holds, completed, result, stored, isCompliant, -⟩
        exact ⟨holds, output, result, completed, stored, isCompliant⟩
    | false =>
        refine Triple.done ?_
        rintro s ⟨holds, completed, result, stored, isCompliant, -⟩
        refine ⟨holds, completed, fun _ _ other _ stored' => ?_,
          fun impossible => by cases impossible⟩
        obtain rfl := Option.some.inj (stored.symm.trans stored')
        exact isCompliant
  · refine fun error => Triple.done fun s holds => ⟨holds.1, holds.2, fun _ _ _ completed => ?_,
      fun impossible => by cases impossible⟩
    cases holds.2.symm.trans completed

/-- Postcheck: a noncompliant verdict, or none, ends the steps. -/
theorem postcheckRun_spec (describes : job.Describes remediation)
    (enabled : settings.run .postcheck = true) :
    Triple (Worker settings answers admitted job)
      (At settings answers job Step.postcheck.earlier pdfUri)
      (PostCheckService.toStep.run remediation pdfUri)
      (Ran settings answers job .postcheck pdfUri) := by
  refine verificationRun_spec describes PostCheckService rfl enabled ?_ ?_
  · intro isCompliant failedRules output
    cases isCompliant with
    | true =>
        refine Triple.done ?_
        rintro s ⟨holds, completed, result, stored, isCompliant, -⟩
        exact ⟨holds, completed, fun impossible => (by cases impossible),
          fun _ => ⟨output, result, completed, stored, isCompliant⟩⟩
    | false =>
        refine Triple.done ?_
        rintro s ⟨holds, completed, result, stored, isCompliant, rules⟩
        exact ⟨holds, holds.pdfUri.symm, output, result, completed, stored, isCompliant, rules⟩
  · exact fun error => Triple.done fun s holds => ⟨holds.1, trivial⟩

/-- **Every step of the pipeline.** -/
theorem stepRun_spec (describes : job.Describes remediation) {service : ArtifactService}
    (member : service ∈ pipelineSteps settings) (enabled : settings.run service.step = true) :
    Triple (Worker settings answers admitted job)
      (At settings answers job service.step.earlier pdfUri)
      (service.run remediation pdfUri)
      (Ran settings answers job service.step pdfUri) := by
  simp only [pipelineSteps_eq, List.mem_append, List.mem_cons, List.mem_map, List.not_mem_nil,
    or_false] at member
  rcases member with (rfl | ⟨transform, isTransform, rfl⟩) | rfl | rfl
  · exact precheckRun_spec describes enabled
  · exact transformRun_spec describes isTransform enabled
  · exact scoringRun_spec describes enabled
  · exact postcheckRun_spec describes enabled

/-! ## The loop over the steps -/

theorem At.append {before : List Step} {output : Uri} (holds : At settings answers job before pdfUri s)
    (handedOn : (s.completed job.id step).getD pdfUri = output)
    (goesOn : step = .precheck → GoesOn job s) :
    At settings answers job (before ++ [step]) output s := by
  refine ⟨holds.consistent, holds.unfinished, ?_, fun member => ?_⟩
  · rw [Store.pdfUri_append, holds.pdfUri, Store.pdfUri_singleton, handedOn]
  · rcases List.mem_append.mp member with isBefore | isStep
    · exact holds.goesOn isBefore
    · exact goesOn (List.mem_singleton.mp isStep).symm

/-- A disabled step is recorded as skipped. -/
theorem recordSkip_spec (describes : job.Describes remediation)
    (disabled : settings.run step = false) :
    Triple (Worker settings answers admitted job) (At settings answers job step.earlier pdfUri)
      (ArtifactService.recordSkip remediation step)
      (Marked settings answers job step pdfUri
        { status := .skipped, error := ArtifactService.settingName step ++ " is disabled" }
        fun _ => True) := by
  refine (markIncomplete_spec describes rfl).pre fun s holds => ⟨holds, ?_⟩
  cases found : s.completed job.id step with
  | none => rfl
  | some uri =>
      have enabled := holds.consistent.enabled step uri found
      rw [disabled] at enabled
      cases enabled

/-- Postcheck comes last. -/
theorem last_step {before : List Step} (complete : before ++ [step] = Step.order) :
    step = .postcheck := by
  have last := congrArg List.getLast? complete
  rw [List.getLast?_concat] at last
  exact Option.some.inj last

/-- **The loop over `PIPELINE_STEPS`**, with the steps of `before` done. -/
theorem runSteps_spec (describes : job.Describes remediation) (services : List ArtifactService)
    (members : ∀ service ∈ services, service ∈ pipelineSteps settings) (before : List Step)
    (order : before ++ services.map (·.step) = Step.order) :
    Triple (Worker settings answers admitted job)
      (fun s => At settings answers job before pdfUri s ∧
        (services = [] → settings.run .postcheck = true → Passed job s))
      (runSteps settings remediation services pdfUri) (Ended settings answers job) := by
  induction services generalizing before pdfUri with
  -- Induction on the services that are left; `before` is what the loop has done, by `order` all
  -- that is earlier.
  | nil =>
      refine Triple.done ?_
      rintro s ⟨holds, passed⟩
      rw [List.map_nil, List.append_nil] at order
      subst order
      exact ⟨holds, passed rfl⟩
  | cons service rest ih =>
      have isBefore : before = service.step.earlier := Step.earlier_eq order
      have later : ∀ other ∈ rest, other ∈ pipelineSteps settings :=
        fun other member => members other (List.mem_cons_of_mem _ member)
      have order' : (before ++ [service.step]) ++ rest.map (·.step) = Step.order := by
        rw [List.append_assoc]
        exact order
      have isLast : rest = [] → service.step = .postcheck := by
        rintro rfl
        exact last_step ((List.append_nil _).symm.trans order')
      have starts : ∀ s, At settings answers job before pdfUri s ∧
          (service :: rest = [] → settings.run .postcheck = true → Passed job s) →
            At settings answers job service.step.earlier pdfUri s := by
        intro s holds
        rw [← isBefore]
        exact holds.1
      rw [runSteps, ArtifactService.isDisabled]
      cases enabled : settings.run service.step with
      -- A step that is off is recorded as skipped and hands its input on.
      | false =>
          refine Triple.attempt_bind ((recordSkip_spec describes enabled).pre starts)
            fun ended => ?_
          cases ended with
          | error exc =>
              exact Triple.done fun s post => ⟨post.1.consistent, post.1.unfinished,
                .foreign post.2⟩
          | ok _ =>
              refine (ih later _ order').pre ?_
              rintro s ⟨holds, incomplete, -⟩
              refine ⟨?_, ?_⟩
              · rw [isBefore]
                refine holds.append ((congrArg (·.getD pdfUri) incomplete).trans rfl) ?_
                rintro isPrecheck _ _ completed
                rw [← isPrecheck, incomplete] at completed
                cases completed
              -- Where it is the last one, postcheck is off and nothing is to be shown of a verdict.
              · intro isNil postcheck
                rw [isLast isNil, postcheck] at enabled
                cases enabled
      | true =>
          refine Triple.attempt_bind
            ((stepRun_spec describes (members _ List.mem_cons_self) enabled).pre starts)
            fun ended => ?_
          cases ended with
          -- A raise ends the loop.
          | error exc =>
              refine Triple.done ?_
              rintro s ⟨holds, raised⟩
              exact ⟨holds.consistent, holds.unfinished,
                raised⟩
          | ok output =>
              refine (ih later _ order').pre ?_
              rintro s ⟨holds, handedOn, accepted⟩
              refine ⟨?_, ?_⟩
              · rw [isBefore]
                exact holds.append handedOn accepted.1
              · exact fun isNil _ => accepted.2 (isLast isNil)

/-! ## The end of a run -/

theorem saveRemediation_ok {world : World} {i id : ℕ} {fields : RemediationUpdate} {answer : Unit}
    (performed : perform settings world i (.saveRemediation id fields) s = some (.ok answer, t)) :
    t = s.updateRow id fields.apply := by
  simp only [perform] at performed
  repeat' split at performed
  all_goals first | (cases performed; rfl) | cases performed

/-- A save of the attempt's row. -/
theorem save_spec {P : Store → Prop} {fields : RemediationUpdate}
    (stable : (Worker settings answers admitted job).Stable P)
    (unfinished : ∀ s, P s → Unfinished job s) (evidence : ∀ s, P s → MaySave job s fields) :
    Triple (Worker settings answers admitted job) P (issue (.saveRemediation job.id fields))
      fun r s => (∃ value, r = .ok value) ∧ (∃ u, P u ∧ s = u.updateRow job.id fields.apply) ∨
        (∃ exc, r = .error exc) ∧ P s := by
  refine worker_issue stable fun s r t world i holds _ _ executed => ?_
  cases r with
  | error exc =>
      obtain rfl | impossible := execute_error executed
      · exact ⟨.idle (.refl job t), .inr ⟨⟨exc, rfl⟩, holds⟩⟩
      · cases impossible
  | ok value =>
      obtain rfl := saveRemediation_ok (execute_ok executed)
      obtain ⟨row, found, isUnfinished⟩ := unfinished s holds
      exact ⟨.saved found isUnfinished (evidence s holds), .inl ⟨⟨value, rfl⟩, s, holds, rfl⟩⟩

/-- `_mark_finished`. -/
theorem markFinished_spec {P : Store → Prop} (own : remediation.id = job.id)
    (stable : (Worker settings answers admitted job).Stable P)
    (unfinished : ∀ s, P s → Unfinished job s) (status : JobStatus) (uri : Uri)
    (error : Option String)
    (evidence : ∀ s now, P s → MaySave job s
      { status := status, completedAt := some now, finalOutputUri := some uri, error := error }) :
    Triple (Worker settings answers admitted job) P
      (RemediationService.markFinished remediation status uri error) fun _ _ => True := by
  refine (retry_spec (Q := fun r s => ∀ exc, r = .error exc → P s) ?_ ?_).post fun _ _ _ => trivial
  · have reading : Triple (Worker settings answers admitted job) P (issue .now)
        (Known P fun (_ : ℕ) _ => True) :=
      worker_read trivial stable fun _ _ _ _ _ _ _ _ => trivial
    refine Known.bind reading (fun now => ?_) fun exc s holds _ _ _ => holds
    rw [own]
    refine ((save_spec stable unfinished fun s => evidence s now).pre fun s holds =>
      holds.1).post ?_
    rintro r s (⟨⟨value, rfl⟩, -⟩ | ⟨-, holds⟩) exc isError
    · cases isError
    · exact holds
  · exact fun exc s holds => holds exc rfl

/-- **The `except` and `else` clauses.** -/
theorem conclude_spec (describes : job.Describes remediation) (ended : Except Exn Unit × Uri) :
    Triple (Worker settings answers admitted job) (Ended settings answers job (.ok ended))
      (conclude settings remediation ended) fun _ _ => True := by
  obtain ⟨result, pdfUri⟩ := ended
  -- The assertion about an exception is stable, since it reads only stored rows.
  have stableRaised : ∀ exc, (Worker settings answers admitted job).Stable
      (Ended settings answers job (.ok (.error exc, pdfUri))) := by
    intro exc s t holds leftAlone
    refine ⟨holds.1.leftAlone leftAlone, holds.2.1.leftAlone leftAlone, ?_⟩
    have results := congrFun leftAlone.results
    have raised := holds.2.2
    cases exc <;> first
      | trivial
      | (obtain ⟨uri, result, completed, stored, compliant⟩ := raised
         exact ⟨uri, result, (leftAlone.completed _).trans completed,
           (results _).trans stored, compliant⟩)
      | (obtain ⟨isInput, uri, result, completed, stored, noncompliant⟩ := raised
         exact ⟨isInput.trans (leftAlone.input _).symm, uri, result,
           (leftAlone.completed _).trans completed, (results _).trans stored, noncompliant⟩)
  have failing : ∀ exc message, Triple (Worker settings answers admitted job)
      (Ended settings answers job (.ok (.error exc, pdfUri)))
      (RemediationService.markError remediation message pdfUri) fun _ _ => True :=
    fun exc message => markFinished_spec describes.id (stableRaised exc)
      (fun _ holds => holds.2.1) _ _ _ fun _ _ _ => .ended (.inl rfl)
  have failingAgain : ∀ exc, Triple (Worker settings answers admitted job)
      (Ended settings answers job (.ok (.error exc, pdfUri)))
      ((RemediationService.markError remediation exc.message pdfUri).bind fun _ =>
        (Program.raise exc : Py Unit)) fun _ _ => True :=
    fun exc => Triple.bind (failing exc exc.message) (fun _ => Triple.done fun _ _ => trivial)
      fun _ _ _ => trivial
  cases result with
  | ok _ =>
      have stable : (Worker settings answers admitted job).Stable
          (Ended settings answers job (.ok (.ok (), pdfUri))) := by
        intro s t holds leftAlone
        refine ⟨stable_at _ s t holds.1 leftAlone, fun enabled => ?_⟩
        obtain ⟨uri, result, completed, stored, compliant⟩ := holds.2 enabled
        exact ⟨uri, result, (leftAlone.completed _).trans completed,
          (congrFun leftAlone.results _).trans stored, compliant⟩
      rw [conclude, ArtifactService.isDisabled]
      cases enabled : settings.run .postcheck with
      | false =>
          exact markFinished_spec describes.id stable (fun _ holds => holds.1.unfinished) _ _ _
            fun _ _ _ => .ended (.inr rfl)
      | true =>
          refine markFinished_spec describes.id stable (fun _ holds => holds.1.unfinished) _ _ _
            fun s now holds => ?_
          obtain ⟨uri, result, completed, stored, compliant⟩ := holds.2 enabled
          -- The last step hands on its stored output.
          have handedOn : uri = pdfUri := by
            have ends := holds.1.pdfUri
            rw [show Step.order = Step.postcheck.earlier ++ [.postcheck] from rfl,
              Store.pdfUri_append, Store.pdfUri_singleton, completed] at ends
            exact ends
          subst handedOn
          exact .compliant rfl rfl rfl completed stored compliant
  | error exc =>
      cases exc with
      | alreadyCompliant =>
          refine markFinished_spec describes.id (stableRaised .alreadyCompliant)
            (fun _ holds => holds.2.1) _ _ _ ?_
          rintro s now ⟨consistent, -, raised⟩
          obtain ⟨uri, result, completed, stored, compliant⟩ := raised
          rw [describes.sourcePdfUri, ← consistent.precheck uri completed]
          exact .compliant rfl rfl rfl completed stored compliant
      | notCompliant failedRules =>
          refine markFinished_spec describes.id (stableRaised (.notCompliant failedRules))
            (fun _ holds => holds.2.1) _ _ _ ?_
          rintro s now ⟨consistent, -, raised⟩
          obtain ⟨rfl, uri, result, completed, stored, noncompliant, rules⟩ := raised
          exact .noncompliant rfl rfl rfl completed stored noncompliant rules
      | postCheckUnavailable message => exact failing (.postCheckUnavailable message) _
      | _ => exact failingAgain _

/-- The `finally` clause leaves the attempt alone. -/
theorem notifyCallbacks_spec (remediation : Remediation) :
    Triple (Worker settings answers admitted job) (fun _ => True)
      (notifyCallbacks remediation) fun _ _ => True := by
  have enqueuing : ∀ callbacks : List ℕ, Triple (Worker settings answers admitted job) (fun _ => True)
      (enqueueWebhooks callbacks) fun _ _ => True := by
    intro callbacks
    induction callbacks with
    | nil => exact Triple.done fun _ _ => trivial
    | cons callback rest ih =>
        have first : Triple (Worker settings answers admitted job) (fun _ => True)
            (issue (.enqueueWebhook callback)) fun _ _ => True := by
          refine worker_issue (.const True) fun s r t world i _ _ _ executed => ?_
          refine ⟨.idle ?_, trivial⟩
          cases execute_effect executed with
          | unchanged => exact .refl job s
          | notified => exact ⟨fun row found => ⟨_, found⟩, rfl, rfl, rfl, fun _ _ => rfl⟩
        exact Triple.bind first (fun _ => ih) fun _ _ _ => trivial
  have listing : Triple (Worker settings answers admitted job) (fun _ => True)
      (issue (.callbackIds remediation.id)) (Known (fun _ => True) fun _ _ => True) :=
    worker_read trivial (.const True) fun _ _ _ _ _ _ _ _ => trivial
  exact Known.bind listing (fun callbacks => (enqueuing callbacks).pre fun _ _ => trivial)
    fun _ _ _ _ => trivial

/-- **Every operation of a run of `process_remediation` is a move.** -/
theorem process_spec : Triple (Worker settings answers admitted job) (Consistent settings answers job)
    (processRemediation settings job.id) fun _ _ => True := by
  have getting : Triple (Worker settings answers admitted job) (Consistent settings answers job)
      (RemediationService.get job.id) (Known (Consistent settings answers job)
        fun (remediation : Remediation) s => job.Describes remediation ∧
          (remediation.status.isFinished = false → Unfinished job s)) := by
    refine worker_read trivial (fun s t holds leftAlone => holds.leftAlone leftAlone) ?_
    intro s t world i remediation consistent _ performed
    obtain ⟨row, found, describes⟩ := consistent.described
    simp only [perform, found] at performed
    cases performed
    refine ⟨describes, fun notFinished => ⟨_, found, ?_⟩⟩
    rw [JobStatus.isUnfinished_eq, notFinished]
    rfl
  refine Known.bind getting (fun remediation => ?_) fun _ _ _ _ => trivial
  rintro s ⟨consistent, describes, isOpen⟩
  split
  · exact safe_done.mpr trivial
  -- The row that was read was not final, and a job of one run at a time has kept it so.
  · rename_i notFinished
    have unfinished := isOpen (by simpa using notFinished)
    have stable : (Worker settings answers admitted job).Stable fun s =>
        Consistent settings answers job s ∧ Unfinished job s :=
      fun s t holds leftAlone => ⟨holds.1.leftAlone leftAlone, holds.2.leftAlone leftAlone⟩
    have marking : Triple (Worker settings answers admitted job)
        (fun s => Consistent settings answers job s ∧ Unfinished job s)
        (RemediationService.markRunning remediation) fun r s =>
          ∀ value, r = .ok value → At settings answers job [] job.source s := by
      have reading : Triple (Worker settings answers admitted job)
          (fun s => Consistent settings answers job s ∧ Unfinished job s) (issue .now)
          (Known (fun s => Consistent settings answers job s ∧ Unfinished job s)
            fun (_ : ℕ) _ => True) :=
        worker_read trivial stable fun _ _ _ _ _ _ _ _ => trivial
      refine Known.bind reading (fun now => ?_) fun _ _ _ _ _ impossible => by cases impossible
      rw [describes.id]
      refine ((save_spec stable (fun s holds => holds.2) fun _ _ => .began rfl).pre
        fun s holds => holds.1).post ?_
      rintro r s (⟨-, u, ⟨consistent, row, found, -⟩, rfl⟩ | ⟨⟨exc, rfl⟩, -⟩) value isOk
      · refine ⟨consistent.saved _, ⟨_, Store.row_updateRow_self (fun _ => rfl) found, ?_⟩, rfl,
          fun impossible => absurd impossible List.not_mem_nil⟩
        rfl
      · cases isOk
    refine Triple.bind marking (fun _ => ?_) (fun _ _ _ => trivial) s ⟨consistent, unfinished⟩
    refine Triple.ensure (M := fun _ _ => True) ?_ fun _ => ?_
    -- The loop starts at the source with no step done.
    · have running : Triple (Worker settings answers admitted job)
          (At settings answers job [] job.source)
          (runSteps settings remediation (pipelineSteps settings) remediation.sourcePdfUri)
          (Ended settings answers job) := by
        rw [describes.sourcePdfUri]
        exact (runSteps_spec describes _ (fun _ member => member) [] rfl).pre
          fun s holds => ⟨holds, fun impossible => by cases impossible⟩
      exact Triple.bind (running.pre fun s starts => starts _ rfl)
        (fun ended => conclude_spec describes ended) fun _ _ _ => trivial
    · refine (notifyCallbacks_spec remediation).post fun r s _ => ?_
      cases r with
      | ok _ => trivial
      | error exc => trivial

/-! ## Histories -/

/-- A new attempt: nothing is stored about it but its row. -/
structure Job.Fresh (job : Job) (s : Store) : Prop where
  described : ∃ row, s.row job.id = some row ∧ job.Describes row ∧ row.status = .queued
  artifacts : s.artifacts job.id = fun _ => none
  results : s.results job.id = fun _ => none
  scores : s.scores job.id = none

namespace Job.Fresh

theorem completed (fresh : job.Fresh s) (step : Step) : s.completed job.id step = none := by
  rw [Store.completed, fresh.artifacts]
  rfl

theorem consistent (fresh : job.Fresh s) : Consistent settings answers job s where
  described := by
    obtain ⟨row, found, describes, -⟩ := fresh.described
    exact ⟨row, found, describes⟩
  enabled step uri completed := by
    rw [fresh.completed] at completed
    cases completed
  rooted step uri completed := by
    rw [fresh.completed] at completed
    cases completed
  precheck uri completed := by
    rw [fresh.completed] at completed
    cases completed
  checked step uri _ completed := by
    rw [fresh.completed] at completed
    cases completed
  verdicts step result stored := by
    rw [fresh.results] at stored
    cases stored

theorem concluded (fresh : job.Fresh s) {status : JobStatus} (isFinished : status.isFinished = true)
    (claim : Store → Remediation → Prop) : Concluded job status claim s := by
  intro row found isStatus
  obtain ⟨row', found', -, isQueued⟩ := fresh.described
  rw [found] at found'
  cases found'
  rw [← isStatus, isQueued] at isFinished
  cases isFinished

end Job.Fresh

/-- **Invariants of an attempt.**  What holds of a new attempt, and is kept by
every move, holds after any number of kills, at any point, and redeliveries. -/
theorem Deliveries.kept (Inv : Store → Prop) {origin : Store} {stops : List Store}
    (deliveries : (Worker settings answers admitted job).Deliveries
      (processRemediation settings job.id) origin stops s)
    (fresh : job.Fresh origin) (initial : Inv origin)
    (move : ∀ s t, Consistent settings answers job s → Inv s →
      Move settings answers admitted job s t → Inv t) :
    Consistent settings answers job s ∧ Inv s := by
  have moved : ∀ s t, Consistent settings answers job s ∧ Inv s →
      Move settings answers admitted job s t → Consistent settings answers job t ∧ Inv t :=
    fun s t holds isMove => ⟨holds.1.move isMove, move s t holds.1 holds.2 isMove⟩
  refine Environment.Deliveries.invariant (Q := fun (_ : Except Exn Unit) (_ : Store) => True)
    (fun s : Store => Consistent settings answers job s ∧ Inv s)
    (fun s : Store => Consistent settings answers job s ∧ Inv s) deliveries
    (fun s holds => process_spec s holds.1) (fun _ => .const True) ?_ ?_ moved
    (fun _ holds => holds) (fun _ _ holds => holds) ⟨fresh.consistent, initial⟩
  · exact fun s t holds leftAlone => moved s t holds (.idle leftAlone)
  · exact fun s t holds leftAlone => moved s t holds (.idle leftAlone)

/-! ## Schedules -/

/-- The database after the submit that made an attempt, and nothing else. -/
def Job.deployed (job : Job) (bytes : Bytes) : Store :=
  { Store.empty none with
    remediations := [
      { id := job.id
        serviceAccount := job.serviceAccount
        status := .queued
        sourcePdfUri := job.source
        contentHash := job.contentHash
        originalFilename := job.originalFilename
        error := ""
        finalOutputUri := .blank
        pipelineVersion := "1.0.0"
        createdAt := 0
        lastEnqueuedAt := none
        startedAt := none
        completedAt := none }]
    nextId := job.id + 1
    objects := Function.update (fun _ => none) job.source (some bytes) }

theorem Job.deployed_fresh (job : Job) (bytes : Bytes) : job.Fresh (job.deployed bytes) where
  described := ⟨_, List.find?_cons_of_pos (decide_eq_true rfl), ⟨rfl, rfl, rfl, rfl, rfl⟩, rfl⟩
  artifacts := rfl
  results := rfl
  scores := rfl

/-- What the adapters answer in some of these worlds. -/
def Answers.ofWorlds (worlds : List World) : Answers :=
  fun call result => ∃ world ∈ worlds, world.adapter call = .ok result

/-- An operation that passes a check, on the one connection of a worker. -/
def executeChecked (settings : Settings) (checked : Store → Op → Bool) (world : World) (op : Op)
    (s : Store) : Option (Except Exn op.Ans × Store) :=
  if checked s op then execute settings world 0 op s else none

theorem executeChecked_eq {checked : Store → Op → Bool} {world : World} {op : Op}
    {r : Except Exn op.Ans} (executed : executeChecked settings checked world op s = some (r, t)) :
    checked s op = true ∧ execute settings world 0 op s = some (r, t) := by
  rw [executeChecked] at executed
  split at executed
  · exact ⟨‹_›, executed⟩
  · cases executed

/-- Deliveries of the task: each in one world, stopped after so many operations. -/
def Job.delivered (settings : Settings) (checked : Store → Op → Bool) (job : Job)
    (schedule : List (World × ℕ)) (origin : Store) : Store :=
  Environment.deliver (processRemediation settings job.id)
    (schedule.map fun run => (executeChecked settings checked run.1, run.2)) origin

theorem Job.exists_deliveries (settings : Settings) (admitted : Store → Op → Prop)
    (checked : Store → Op → Bool)
    (sound : ∀ s op, checked s op = true → admitted s op) (job : Job)
    (schedule : List (World × ℕ)) (origin : Store) :
    ∃ stops, (Worker settings (.ofWorlds (schedule.map (·.1))) admitted job).Deliveries
      (processRemediation settings job.id) origin stops
        (job.delivered settings checked schedule origin) := by
  refine Environment.exists_deliveries _ fun run member op s r t executed => ?_
  obtain ⟨⟨world, n⟩, isRun, rfl⟩ := List.mem_map.mp member
  obtain ⟨ok, performed⟩ := executeChecked_eq executed
  refine ⟨sound s op ok, world, 0, fun call result answered => ⟨world, ?_, answered⟩, performed⟩
  exact List.mem_map.mpr ⟨_, isRun, rfl⟩

end DicePipeline
