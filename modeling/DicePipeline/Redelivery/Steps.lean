import DicePipeline.Redelivery.Steady

/-!
# A step leaves what is planned

A run comes to a step either because it is marked COMPLETED, and then it has
left everything already, or with no verdict and no score of it stored
(`Plan.Opened`).  Either way everything the plan has of the step is stored when
it ends, and it ends as the plan says (`Plan.Ran`).

The mark is the last write.  `Plan.Unmarked` is the state just before it, in
which a kill is the one that matters.
-/

namespace DicePipeline

open Interaction Program Environment

namespace Plan

section Assertions

variable (plan : Plan)

/-- A run is at a step of which neither a verdict nor a score is stored. -/
structure Opened (step : Step) (s : Store) : Prop where
  turn : plan.Turn step s
  result : s.results plan.job.id step = none
  score : step = .scoring → s.scores plan.job.id = none

/-- Everything a step leaves is stored but its mark. -/
structure Unmarked (step : Step) (s : Store) : Prop where
  turn : plan.Turn step s
  result : s.results plan.job.id step = plan.result step
  score : step = .scoring → s.scores plan.job.id = plan.score step
  written : ∀ output, plan.written step = some output →
    s.objects (plan.job.output step output.1) = some output.2

/-- A step is behind the run, and has ended as planned. -/
def Ran (step : Step) (ended : Except Exn Uri) (s : Store) : Prop :=
  plan.Past (step.earlier ++ [step]) s ∧ (plan.outcome step).map (·.ended) = some ended

/-- How the `try` block of a transform has ended. -/
def Produced (step : Step) (produced : Except Exn LocalFile) (r : Except Exn Uri) (s : Store) :
    Prop :=
  plan.Opened step s ∧ r = produced.map (fun output => plan.job.output step output.name) ∧
    ∀ output, produced = .ok output →
      s.objects (plan.job.output step output.name) = some output.bytes

end Assertions

variable {plan : Plan} {step : Step} {before after : List Step} {s t : Store}
variable {remediation : Remediation} {outcome : StepOutcome} {content : Option Bytes}
variable {pdfUri uri : Uri}

/-! ## Stable assertions -/

theorem stable_opened (step : Step) : plan.environment.Stable (plan.Opened step) := by
  intro s t opened leftAlone
  refine ⟨opened.turn.leftAlone leftAlone, ?_, fun isScoring => ?_⟩
  · exact (congrFun leftAlone.results step).trans opened.result
  · exact leftAlone.scores.trans (opened.score isScoring)

theorem stable_unmarked (step : Step) : plan.environment.Stable (plan.Unmarked step) := by
  intro s t unmarked leftAlone
  refine ⟨unmarked.turn.leftAlone leftAlone, ?_, fun isScoring => ?_, fun output planned => ?_⟩
  · exact (congrFun leftAlone.results step).trans unmarked.result
  · exact leftAlone.scores.trans (unmarked.score isScoring)
  · exact (leftAlone.objects _ (.inr ⟨step, output.1, rfl⟩)).trans
      (unmarked.written output planned)

/-- A run opens a step that is not COMPLETED. -/
theorem Past.opened (past : plan.Past step.earlier s)
    (incomplete : s.completed plan.job.id step = none) : plan.Opened step s := by
  obtain ⟨result, score⟩ := past.marked step step.not_mem_earlier incomplete
  exact ⟨past.turn incomplete, result, score⟩

/-- Before a step has stored anything, everything the plan has of it but the mark
is stored if there is nothing else. -/
theorem Opened.unmarked (opened : plan.Opened step s) (result : plan.result step = none)
    (score : plan.score step = none) (written : plan.written step = none) :
    plan.Unmarked step s := by
  refine ⟨opened.turn, opened.result.trans result.symm, fun isScoring => ?_, ?_⟩
  · exact (opened.score isScoring).trans score.symm
  · intro output planned
    rw [written] at planned
    cases planned

/-- Writing into the directory of the step keeps it open. -/
theorem Opened.setObject (opened : plan.Opened step s) (name : String)
    (content : Option Bytes) :
    plan.Opened step (s.setObject (plan.job.output step name) content) := by
  refine ⟨opened.turn.write (.setObject plan.job step name content s) rfl ?_ ?_, opened.result,
    opened.score⟩
  · intro result found
    exact absurd (opened.result.symm.trans found) (by simp)
  · intro isScoring score found
    exact absurd ((opened.score isScoring).symm.trans found) (by simp)

/-! ## The content of the input -/

/-- **A run finds at its `pdf_uri` what the plan has there.** -/
theorem content_found (split : before ++ after = Step.order)
    (original : s.objects plan.job.source = plan.content)
    (stored : ∀ step ∈ before, plan.Stored step s) :
    s.objects (plan.progress before).pdfUri = (plan.progress before).content := by
  induction before using List.reverseRecOn generalizing after with
  | nil => exact original
  | append_singleton before step ih =>
      rw [List.append_assoc, List.singleton_append] at split
      have found := ih split fun other member => stored other (List.mem_append_left _ member)
      obtain rfl := Step.earlier_eq split
      rw [progress_append]
      cases ended : (plan.progress step.earlier).ended with
      | error exc =>
          rw [advance_of_error ended]
          exact found
      | ok _ =>
          have planned := outcome_of_ok ended
          cases result : (plan.stepOutcome step (plan.progress step.earlier).pdfUri
              (plan.progress step.earlier).content).ended with
          | error exc =>
              rw [advance_raised ended result]
              exact found
          | ok uri =>
              rw [advance_returned ended result]
              have handsOn := stepOutcome_handsOn uri result
              cases written : (plan.stepOutcome step (plan.progress step.earlier).pdfUri
                  (plan.progress step.earlier).content).written with
              | none =>
                  rw [written] at handsOn
                  subst handsOn
                  exact found
              | some output =>
                  rw [written] at handsOn
                  subst handsOn
                  refine (stored step (by simp)).written output ?_
                  rw [Plan.written, planned]
                  exact written

theorem Turn.content_found (turn : plan.Turn step s) :
    s.objects (plan.progress step.earlier).pdfUri = (plan.progress step.earlier).content :=
  Plan.content_found List.takeWhile_append_dropWhile turn.recorded.original turn.stored

/-! ## Marking a step -/

/-- **`_mark_status` writes the planned mark last**, or raises where its storage
name does not fit and the plan has no mark. -/
theorem markStatus_spec (describes : plan.job.Describes remediation)
    (artifact : RemediationArtifact)
    (planned : plan.artifact step = if artifact.outputUri.fits then some artifact else none) :
    Triple plan.environment (plan.Unmarked step)
      (ArtifactService.markStatus remediation step artifact) fun r s =>
        plan.Past (step.earlier ++ [step]) s ∧
          r = if artifact.outputUri.fits then .ok () else .error (.tooLong uriMaxLength) := by
  rw [ArtifactService.markStatus, describes.id]
  refine retry_spec (issue_spec (stable_unmarked step) fun s r t world i unmarked _ performed => ?_)
    fun message s post => ?_
  · simp only [perform] at performed
    cases fits : artifact.outputUri.fits with
    | true =>
        rw [fits] at performed planned
        obtain ⟨rfl, rfl⟩ := Prod.mk.inj (Option.some.inj performed)
        have past := unmarked.turn.past (.setArtifact plan.job step artifact s)
          ⟨by simpa [Store.setArtifact] using planned.symm, unmarked.result, unmarked.score,
            unmarked.written⟩
        exact ⟨past.recorded, past, rfl⟩
    | false =>
        rw [fits] at performed planned
        obtain ⟨rfl, rfl⟩ := Prod.mk.inj (Option.some.inj performed)
        have absent : s.artifacts plan.job.id step = none := by
          rw [Option.eq_none_iff_forall_not_mem]
          intro value found
          rw [unmarked.turn.recorded.artifact step value found] at planned
          cases planned
        have past := unmarked.turn.past (.refl plan.job step s)
          ⟨absent.trans planned.symm, unmarked.result, unmarked.score, unmarked.written⟩
        exact ⟨past.recorded, past, rfl⟩
  · have raised := post.2
    split at raised <;> cases raised

/-- A mark without a storage name. -/
theorem markIncomplete_spec (describes : plan.job.Describes remediation)
    {artifact : RemediationArtifact} (blank : artifact.outputUri = .blank)
    (planned : plan.artifact step = some artifact) :
    Triple plan.environment (plan.Unmarked step)
      (ArtifactService.markStatus remediation step artifact) fun r s =>
        plan.Past (step.earlier ++ [step]) s ∧ r = .ok () := by
  have fits : artifact.outputUri.fits = true := by
    rw [blank]
    decide
  have marking := markStatus_spec describes artifact (planned.trans (if_pos fits).symm)
  rwa [if_pos fits] at marking

/-- `mark_failed`, where the plan has the step fail. -/
theorem markFailed_spec (describes : plan.job.Describes remediation) {exc : Exn}
    {ended : Except Exn Uri} (planned : plan.outcome step = some (.failed exc ended)) :
    Triple plan.environment (plan.Opened step)
      (ArtifactService.markFailed remediation step exc.message) fun r s =>
        plan.Past (step.earlier ++ [step]) s ∧ r = .ok () := by
  have marked : plan.artifact step = some { status := .failed, error := exc.message } := by
    rw [Plan.artifact, planned]
    rfl
  refine (markIncomplete_spec describes rfl marked).pre fun s opened => opened.unmarked ?_ ?_ ?_
  · simp [Plan.result, planned, StepOutcome.failed]
  · simp [Plan.score, planned, StepOutcome.failed]
  · simp [Plan.written, planned, StepOutcome.failed]

/-- `mark_completed`, where the plan has the step complete. -/
theorem markCompleted_spec (describes : plan.job.Describes remediation)
    (planned : plan.outcome step = some (outcome.complete uri)) :
    Triple plan.environment
      (fun s => plan.Turn step s ∧ s.results plan.job.id step = outcome.result ∧
        (step = .scoring → s.scores plan.job.id = outcome.score) ∧
        ∀ output, outcome.written = some output →
          s.objects (plan.job.output step output.1) = some output.2)
      (ArtifactService.markCompleted remediation step uri) fun r s =>
        plan.Past (step.earlier ++ [step]) s ∧
          r = if uri.fits then .ok () else .error (.tooLong uriMaxLength) := by
  refine (markStatus_spec describes _ ?_).pre ?_
  · simp [Plan.artifact, planned]
  · rintro s ⟨turn, result, score, written⟩
    refine ⟨turn, ?_, fun isScoring => ?_, fun output isWritten => written output ?_⟩
    · simp [Plan.result, planned, result]
    · simp [Plan.score, planned, score isScoring]
    · simp only [Plan.written, planned, Option.bind_some, StepOutcome.complete_written] at isWritten
      split at isWritten
      · exact isWritten
      · cases isWritten

/-! ## Running a step -/

/-- A plain `return` asks nobody. -/
theorem only_return (uri : Uri) : (pure uri : Py Uri).Only answered IsAdapterCall := trivial

/-- What follows the mark only calls adapters, and ends as the plan evaluates it. -/
theorem ending_spec {rest : Py Uri} (only : rest.Only answered IsAdapterCall)
    (planned : (plan.outcome step).map (·.ended) = some (plan.adapters.evaluate rest)) :
    Triple plan.environment (plan.Past (step.earlier ++ [step])) rest (plan.Ran step) := by
  refine (adapters_spec (stable_past _) (fun s past => past.recorded) only).post ?_
  rintro r s ⟨past, rfl⟩
  exact ⟨past, planned⟩

/-- A step that fails. -/
theorem failed_spec (describes : plan.job.Describes remediation) {exc : Exn} {rest : Py Uri}
    (only : rest.Only answered IsAdapterCall)
    (planned : plan.outcome step = some (.failed exc (plan.adapters.evaluate rest))) :
    Triple plan.environment (plan.Opened step)
      ((ArtifactService.markFailed remediation step exc.message).bind fun _ => rest)
      (plan.Ran step) := by
  refine Triple.bind (markFailed_spec describes planned) (fun _ => ?_) ?_
  · refine (ending_spec only ?_).pre fun s marked => marked.1
    rw [planned]
    rfl
  · exact fun exc s marked => absurd marked.2 (by simp)

/-- A step that completes, unless its output has too long a name. -/
theorem completed_spec (describes : plan.job.Describes remediation) {rest : Py Uri}
    (only : rest.Only answered IsAdapterCall)
    (planned : plan.outcome step = some (outcome.complete uri))
    (ends : outcome.ended = plan.adapters.evaluate rest) :
    Triple plan.environment
      (fun s => plan.Turn step s ∧ s.results plan.job.id step = outcome.result ∧
        (step = .scoring → s.scores plan.job.id = outcome.score) ∧
        ∀ output, outcome.written = some output →
          s.objects (plan.job.output step output.1) = some output.2)
      ((ArtifactService.markCompleted remediation step uri).bind fun _ => rest)
      (plan.Ran step) := by
  refine Triple.bind (markCompleted_spec describes planned) (fun _ => ?_) ?_
  · rintro s ⟨past, marked⟩
    refine ending_spec only ?_ s past
    rw [planned, Option.map_some, StepOutcome.complete_ended]
    split at marked
    · rename_i fits
      rw [if_pos fits, ends]
    · cases marked
  · rintro exc s ⟨past, raised⟩
    refine ⟨past, ?_⟩
    rw [planned, Option.map_some, StepOutcome.complete_ended]
    split at raised
    · cases raised
    · rename_i tooLong
      rw [if_neg tooLong, Except.error.inj raised]

/-- The mark of a step that completes. -/
theorem outputUri_of_complete {artifact : RemediationArtifact}
    (planned : plan.outcome step = some (outcome.complete uri))
    (found : plan.artifact step = some artifact) :
    artifact.outputUri = uri ∧ uri.fits = true := by
  rw [Plan.artifact, planned, Option.bind_some, StepOutcome.complete_artifact] at found
  split at found
  · rename_i fits
    obtain rfl := Option.some.inj found
    exact ⟨rfl, fits⟩
  · cases found

/-- A step that has completed before. -/
theorem resumed_spec {rest : Py Uri} (only : rest.Only answered IsAdapterCall)
    (planned : plan.outcome step = some (outcome.complete uri))
    (ends : outcome.ended = plan.adapters.evaluate rest) (fits : uri.fits = true) :
    Triple plan.environment (plan.Past (step.earlier ++ [step])) rest (plan.Ran step) := by
  refine ending_spec only ?_
  rw [planned, Option.map_some, StepOutcome.complete_ended, if_pos fits, ends]

/-- A step that raises because a row does not fit its columns. -/
theorem refused_spec {op : Op} {exc : Exn} {rest : op.Ans → Py Uri}
    (refuses : ∀ s world i, perform plan.settings world i op s = some (.error exc, s))
    (planned : plan.outcome step = some { ended := .error exc }) :
    Triple plan.environment (plan.Opened step) ((issue op).bind rest) (plan.Ran step) := by
  refine Triple.bind (M := fun r s => r = .error exc ∧ plan.Opened step s)
    (issue_spec (stable_opened step) fun s r t world i opened _ performed => ?_) ?_ ?_
  · rw [refuses] at performed
    obtain ⟨rfl, rfl⟩ := Prod.mk.inj (Option.some.inj performed)
    exact ⟨opened.turn.recorded, rfl, opened⟩
  · exact fun value s raised => absurd raised.1 (by simp)
  · rintro other s ⟨raised, opened⟩
    obtain rfl := Except.error.inj raised
    refine ⟨opened.turn.past (.refl _ _ s) (opened.turn.recorded.stored_of_nothing ?_ ?_ ?_ ?_),
      by rw [planned]; rfl⟩
    · simp [Plan.artifact, planned]
    · simp [Plan.result, planned]
    · simp [Plan.score, planned]
    · simp [Plan.written, planned]

/-- `run`: a COMPLETED step is resumed, and any other runs. -/
theorem run_spec (service : ArtifactService) (describes : plan.job.Describes remediation)
    (resumed : ∀ artifact, plan.artifact service.step = some artifact →
      artifact.status = .completed →
      Triple plan.environment (plan.Past (service.step.earlier ++ [service.step]))
        (service.resumeCompleted remediation artifact.outputUri) (plan.Ran service.step))
    (runs : Triple plan.environment (plan.Opened service.step)
      (service._run remediation pdfUri) (plan.Ran service.step)) :
    Triple plan.environment (plan.Past service.step.earlier) (service.run remediation pdfUri)
      (plan.Ran service.step) := by
  -- The mark that is read is the mark that is recorded: no other run of the job is about.
  have reading : Triple plan.environment (plan.Past service.step.earlier)
      (ArtifactService.completedOutputUri remediation service.step) fun r s =>
        plan.Past service.step.earlier s ∧
          r = .ok (s.completed plan.job.id service.step) := by
    rw [ArtifactService.completedOutputUri, describes.id]
    refine read_spec trivial (stable_past _) (fun s past => past.recorded) ?_
    intro s world i r t _ _ performed
    rw [Store.completed]
    simp only [perform] at performed
    cases found : s.artifacts plan.job.id service.step with
    -- No mark, so the step runs from scratch.
    | none =>
        rw [found] at performed
        exact (Prod.mk.inj (Option.some.inj performed)).1.symm
    | some artifact =>
        rw [found] at performed
        rw [Option.bind_some, RemediationArtifact.completedUri]
        by_cases isCompleted : artifact.status = .completed
        · rw [if_pos isCompleted]
          simp only [if_pos isCompleted] at performed
          exact (Prod.mk.inj (Option.some.inj performed)).1.symm
        · rw [if_neg isCompleted]
          simp only [if_neg isCompleted] at performed
          exact (Prod.mk.inj (Option.some.inj performed)).1.symm
  refine Triple.bind reading (fun existing => ?_) fun exc s holds => absurd holds.2 (by simp)
  cases existing with
  | none =>
      refine runs.pre ?_
      rintro s ⟨past, absent⟩
      exact past.opened (Except.ok.inj absent).symm
  -- A mark, which only a COMPLETED artifact has: the step is resumed.
  | some output =>
      rintro s ⟨past, existing⟩
      have completed := (Except.ok.inj existing).symm
      have stored := past.recorded.completed service.step output completed
      rw [Store.completed] at completed
      obtain ⟨artifact, found, isUri⟩ := Option.bind_eq_some_iff.mp completed
      rw [RemediationArtifact.completedUri] at isUri
      split at isUri
      · rename_i isCompleted
        obtain rfl := Option.some.inj isUri
        exact resumed artifact (past.recorded.artifact _ _ found) isCompleted s
          (past.resumed stored)
      · cases isUri

/-- `record_skip`. -/
theorem recordSkip_spec (describes : plan.job.Describes remediation)
    (planned : plan.outcome step = some (.skipped step pdfUri)) :
    Triple plan.environment (plan.Past step.earlier)
      (ArtifactService.recordSkip remediation step) fun r s =>
        plan.Past (step.earlier ++ [step]) s ∧ r = .ok () := by
  have marked : plan.artifact step = some
      { status := .skipped, error := ArtifactService.settingName step ++ " is disabled" } := by
    rw [Plan.artifact, planned]
    rfl
  refine (markIncomplete_spec describes rfl marked).pre fun s past =>
    (past.opened ?_).unmarked ?_ ?_ ?_
  · rw [Option.eq_none_iff_forall_not_mem]
    intro uri completed
    have stored := (past.recorded.completed step uri completed).artifact
    rw [Plan.artifact, planned] at stored
    rw [Option.mem_def, Store.completed, stored] at completed
    cases completed
  · simp [Plan.result, planned, StepOutcome.skipped]
  · simp [Plan.score, planned, StepOutcome.skipped]
  · simp [Plan.written, planned, StepOutcome.skipped]

/-! ## Transforms -/

/-- `persist_output` stores the output at its destination, which it has emptied. -/
theorem persistOutput_spec (describes : plan.job.Describes remediation) (output : LocalFile) :
    Triple plan.environment (plan.Opened step)
      (ArtifactService.persistOutput output
        (ArtifactService.destUri remediation step output.name))
      (plan.Produced step (.ok output)) := by
  rw [describes.destUri]
  have owned : plan.job.Owns (plan.job.output step output.name) := .inr ⟨step, _, rfl⟩
  have recorded : ∀ s, plan.Opened step s → plan.Recorded s :=
    fun _ opened => opened.turn.recorded
  have checking : Triple plan.environment (plan.Opened step)
      (issue (.storageExists (plan.job.output step output.name))) fun r s =>
        plan.Opened step s ∧
          r = .ok (s.objects (plan.job.output step output.name)).isSome := by
    refine read_spec trivial (stable_opened step) recorded fun s world i r t _ _ performed => ?_
    exact (Prod.mk.inj (Option.some.inj performed)).1.symm
  have deleting : Triple plan.environment (plan.Opened step)
      (issue (.storageDelete (plan.job.output step output.name))) fun r s => r = .ok () ∧
        plan.Opened step s ∧ s.objects (plan.job.output step output.name) = none := by
    refine issue_spec (stable_opened step) fun s r t world i opened _ performed => ?_
    obtain ⟨rfl, rfl⟩ := Prod.mk.inj (Option.some.inj performed)
    have emptied := opened.setObject output.name none
    exact ⟨emptied.turn.recorded, rfl, emptied, Store.setObject_objects _ _⟩
  have saving : Triple plan.environment
      (fun s => plan.Opened step s ∧ s.objects (plan.job.output step output.name) = none)
      (issue (.storageSave (plan.job.output step output.name) output.bytes))
      (plan.Produced step (.ok output)) := by
    refine issue_spec ((stable_opened step).and (stable_content owned none)) ?_
    intro s r t world i ⟨opened, free⟩ _ performed
    rw [perform, if_pos (by simp [free])] at performed
    obtain ⟨rfl, rfl⟩ := Prod.mk.inj (Option.some.inj performed)
    have saved := opened.setObject output.name (some output.bytes)
    refine ⟨saved.turn.recorded, saved, rfl, fun other isOutput => ?_⟩
    cases isOutput
    exact Store.setObject_objects _ _
  refine Triple.bind checking (fun taken => ?_) ?_
  · cases taken with
    | true =>
        refine Triple.bind (deleting.pre fun s holds => holds.1) (fun _ => saving.pre ?_) ?_
        · exact fun s holds => holds.2
        · exact fun exc s holds => absurd holds.1 (by simp)
    | false =>
        refine saving.pre fun s holds => ⟨holds.1, ?_⟩
        exact Option.not_isSome_iff_eq_none.mp (by simp [← Except.ok.inj holds.2])
  · exact fun exc s holds => absurd holds.2 (by simp)

/-- The `try` block of a transform step. -/
theorem transform_spec (describes : plan.job.Describes remediation) {service : TransformService}
    (member : service ∈ transformServices plan.settings) :
    Triple plan.environment (plan.Opened service.step)
      (service.transform remediation (plan.progress service.step.earlier).pdfUri)
      (plan.Produced service.step
        (readInput (plan.progress service.step.earlier).pdfUri
            (plan.progress service.step.earlier).content >>= fun file =>
          plan.adapters.evaluate (service.work plan.job.asRow file))) := by
  have recorded : ∀ s, plan.Opened service.step s → plan.Recorded s :=
    fun _ opened => opened.turn.recorded
  have sameWork : service.work remediation = service.work plan.job.asRow :=
    work_congr member describes.originalFilename
  rw [TransformService.transform, sameWork]
  refine Triple.bind (localInputCopy_spec (stable_opened _) recorded fun s opened =>
    opened.turn.content_found) (fun file => ?_) ?_
  · rintro s ⟨opened, read⟩
    rw [← read]
    refine Triple.bind (adapters_spec (stable_opened _) recorded
      (work_adapterOnly member plan.job.asRow file)) (fun output => ?_) ?_ s opened
    · rintro u ⟨openedU, worked⟩
      refine (persistOutput_spec describes output u openedU).mono fun r v produced => ?_
      change plan.Produced service.step (plan.adapters.evaluate _) r v
      rwa [← worked]
    · rintro exc u ⟨openedU, worked⟩
      change plan.Produced service.step (plan.adapters.evaluate _) _ u
      rw [← worked]
      exact ⟨openedU, rfl, fun output impossible => by cases impossible⟩
  · rintro exc s ⟨opened, read⟩
    rw [← read]
    exact ⟨opened, rfl, fun output impossible => by cases impossible⟩

/-- A transform step. -/
theorem transformRun_spec (describes : plan.job.Describes remediation)
    {service : TransformService} (member : service ∈ transformServices plan.settings)
    (planned : plan.outcome service.step = some (plan.transformOutcome service
      (plan.progress service.step.earlier).pdfUri (plan.progress service.step.earlier).content)) :
    Triple plan.environment (plan.Past service.step.earlier)
      (service.toStep.run remediation (plan.progress service.step.earlier).pdfUri)
      (plan.Ran service.step) := by
  have transforming := transform_spec describes member
  rw [transformOutcome] at planned
  generalize (readInput (plan.progress service.step.earlier).pdfUri
      (plan.progress service.step.earlier).content >>= fun file =>
    plan.adapters.evaluate (service.work plan.job.asRow file)) = produced at planned transforming
  have runs : Triple plan.environment (plan.Opened service.step)
      (service._run remediation (plan.progress service.step.earlier).pdfUri)
      (plan.Ran service.step) := by
    refine Triple.attempt_bind transforming fun r => ?_
    cases produced with
    | error exc =>
        rintro s ⟨opened, rfl, -⟩
        exact failed_spec describes (only_return _) planned s opened
    | ok output =>
        rintro s ⟨opened, rfl, stored⟩
        refine completed_spec describes (only_return _) planned rfl s
          ⟨opened.turn, opened.result, opened.score, fun written isWritten => ?_⟩
        obtain rfl := Option.some.inj isWritten
        exact stored output rfl
  refine run_spec service.toStep describes (fun artifact found isCompleted => ?_) runs
  cases produced with
  | error exc =>
      rw [Plan.artifact, show plan.outcome service.toStep.step = _ from planned] at found
      cases found
      cases isCompleted
  | ok output =>
      obtain ⟨isOutput, fits⟩ := outputUri_of_complete planned found
      rw [show service.toStep.resumeCompleted = fun _ outputUri => pure outputUri from rfl,
        isOutput]
      exact resumed_spec (only_return _) planned rfl fits

/-! ## Checks -/

/-- The `try` block of a verification step. -/
theorem validate_spec (plan : Plan) (step : Step) : Triple plan.environment (plan.Opened step)
    (VerificationService.validate (plan.progress step.earlier).pdfUri) fun r s =>
      plan.Opened step s ∧ r = plan.validated (plan.progress step.earlier).pdfUri
        (plan.progress step.earlier).content := by
  have recorded : ∀ s, plan.Opened step s → plan.Recorded s :=
    fun _ opened => opened.turn.recorded
  refine Triple.bind (localInputCopy_spec (stable_opened _) recorded fun s opened =>
    opened.turn.content_found) (fun file => ?_) ?_
  · rintro s ⟨opened, read⟩
    rw [validated, ← read]
    refine (adapters_spec (stable_opened step) recorded
      (p := (issue (.adapter (.validate file))).bind fun outcome => pure (file, outcome))
      ⟨⟨_, rfl⟩, fun answer _ => by cases answer <;> trivial⟩ s opened).mono ?_
    rintro r u ⟨openedU, rfl⟩
    refine ⟨openedU, ?_⟩
    rw [Adapters.evaluate_bind]
    rfl
  · rintro exc s ⟨opened, read⟩
    rw [validated, ← read]
    exact ⟨opened, rfl⟩

/-- The verdict row is stored before the mark. -/
theorem createVerificationResult_spec (describes : plan.job.Describes remediation)
    {result : VerificationResult} (planned : plan.result step = some result)
    (fits : ¬verapdfVersionMaxLength < result.verapdfVersion.length) :
    Triple plan.environment (plan.Opened step)
      (issue (.createVerificationResult remediation.id step result)) fun r s => r = .ok () ∧
        plan.Turn step s ∧ s.results plan.job.id step = some result ∧
          (step = .scoring → s.scores plan.job.id = none) := by
  rw [describes.id]
  refine issue_spec (stable_opened step) fun s r t world i opened _ performed => ?_
  rw [perform, if_neg fits, opened.result] at performed
  obtain ⟨rfl, rfl⟩ := Prod.mk.inj (Option.some.inj performed)
  have turn := opened.turn.write (.setResult plan.job step result s) rfl
    (fun other found => ?_) fun isScoring score found => ?_
  · exact ⟨turn.recorded, rfl, turn, Store.setResult_results result, opened.score⟩
  · rw [Store.setResult_results] at found
    exact planned.trans found
  · exact absurd ((opened.score isScoring).symm.trans found) (by simp)

/-- A verification step, given that it asks nobody what to make of a verdict. -/
theorem verificationRun_spec (describes : plan.job.Describes remediation)
    (service : VerificationService)
    (result : ∀ isCompliant rules,
      (service.handleResult isCompliant rules).Only answered IsAdapterCall)
    (unavailable : ∀ error, (service.handleVerificationError error).Only answered IsAdapterCall)
    (planned : plan.outcome service.step = some (plan.checkOutcome service
      (plan.progress service.step.earlier).pdfUri (plan.progress service.step.earlier).content)) :
    Triple plan.environment (plan.Past service.step.earlier)
      (service.toStep.run remediation (plan.progress service.step.earlier).pdfUri)
      (plan.Ran service.step) := by
  have validating := validate_spec plan service.step
  rw [checkOutcome] at planned
  generalize plan.validated (plan.progress service.step.earlier).pdfUri
    (plan.progress service.step.earlier).content = judged at planned validating
  generalize (plan.progress service.step.earlier).pdfUri = pdfUri at planned validating ⊢
  have handling : ∀ isCompliant rules, ((service.handleResult isCompliant rules).bind fun _ =>
      (pure pdfUri : Py Uri)).Only answered IsAdapterCall :=
    fun isCompliant rules => (result isCompliant rules).bind fun _ => trivial
  -- A run from scratch: an adapter that fails, a version that is too long for its column, and a
  -- verdict that is stored and then handled.
  have runs : Triple plan.environment (plan.Opened service.step)
      (service._run remediation pdfUri) (plan.Ran service.step) := by
    refine Triple.attempt_bind validating fun r => ?_
    cases judged with
    | error exc =>
        have asking : ((service.handleVerificationError exc.message).bind fun _ =>
            (pure pdfUri : Py Uri)).Only answered IsAdapterCall :=
          (unavailable exc.message).bind fun _ => trivial
        rintro s ⟨opened, rfl⟩
        exact failed_spec describes asking planned s opened
    | ok judged =>
        obtain ⟨file, outcome⟩ := judged
        rintro s ⟨opened, rfl⟩
        -- A version that does not fit is refused by the insert, as the plan has it.
        by_cases tooLong : verapdfVersionMaxLength < outcome.verapdfVersion.length
        · simp only [if_pos tooLong] at planned
          refine refused_spec (fun u world i => ?_) planned s opened
          exact if_pos tooLong
        · simp only [if_neg tooLong] at planned
          refine Triple.bind (createVerificationResult_spec describes ?_ tooLong) (fun _ => ?_) ?_
            s opened
          · simp [Plan.result, planned]
          · rintro u ⟨-, turn, stored, score⟩
            exact completed_spec describes (handling _ _) planned rfl u
              ⟨turn, stored, score, fun output impossible => by cases impossible⟩
          · exact fun exc u created => absurd created.1 (by simp)
  -- A run that finds its mark asks for the stored verdict, which is the planned one,
  -- and handles that.
  refine run_spec service.toStep describes (fun artifact found isCompleted => ?_) runs
  cases judged with
  | error exc =>
      rw [Plan.artifact, show plan.outcome service.toStep.step = _ from planned] at found
      cases found
      cases isCompleted
  | ok judged =>
      obtain ⟨file, outcome⟩ := judged
      by_cases tooLong : verapdfVersionMaxLength < outcome.verapdfVersion.length
      · simp only [if_pos tooLong] at planned
        rw [Plan.artifact, show plan.outcome service.toStep.step = _ from planned] at found
        cases found
      · simp only [if_neg tooLong] at planned
        obtain ⟨isInput, fits⟩ := outputUri_of_complete planned found
        rw [isInput]
        have stored : plan.result service.step =
            some (VerificationService.resultOf file outcome) := by
          simp [Plan.result, planned]
        -- No other run of the job writes in between, so what was stored is still there.
        have reading : Triple plan.environment
            (plan.Past (service.step.earlier ++ [service.step]))
            (issue (.getVerificationResult remediation.id service.step)) fun r s =>
              plan.Past (service.step.earlier ++ [service.step]) s ∧
                r = .ok (VerificationService.resultOf file outcome) := by
          rw [describes.id]
          refine read_spec trivial (stable_past _) (fun s past => past.recorded) ?_
          intro s world i r t past _ performed
          have found := (past.stored service.step (by simp)).result.trans stored
          rw [perform, found] at performed
          exact (Prod.mk.inj (Option.some.inj performed)).1.symm
        refine Triple.bind reading (fun previous => ?_) fun exc s read => absurd read.2 (by simp)
        rintro s ⟨past, read⟩
        obtain rfl := Except.ok.inj read
        have rules := FailedRule.mapM_toRule_toDict outcome.failedRules
        rw [show outcome.failedRules.map FailedRule.toDict =
          (VerificationService.resultOf file outcome).failedRules from rfl] at rules
        rw [rules]
        exact resumed_spec (handling _ _) planned rfl fits s past

/-! ## Scoring -/

/-- The `try` block of the scoring step. -/
theorem scoreFile_spec (plan : Plan) (step : Step) : Triple plan.environment (plan.Opened step)
    (scoreFile (plan.progress step.earlier).pdfUri) fun r s => plan.Opened step s ∧
      r = (readInput (plan.progress step.earlier).pdfUri (plan.progress step.earlier).content >>=
        fun file => plan.adapters.ask (.score file)) := by
  have recorded : ∀ s, plan.Opened step s → plan.Recorded s :=
    fun _ opened => opened.turn.recorded
  refine Triple.bind (localInputCopy_spec (stable_opened _) recorded fun s opened =>
    opened.turn.content_found) (fun file => ?_) ?_
  · rintro s ⟨opened, read⟩
    rw [← read]
    exact adapters_spec (stable_opened step) recorded (p := issue (.adapter (.score file)))
      ⟨⟨_, rfl⟩, fun _ _ => trivial⟩ s opened
  · rintro exc s ⟨opened, read⟩
    rw [← read]
    exact ⟨opened, rfl⟩

/-- The score row is stored before the mark. -/
theorem createScore_spec (describes : plan.job.Describes remediation) {score : RemediationScore}
    (planned : plan.score .scoring = some score) (fits : ¬scoreMax < score.score) :
    Triple plan.environment (plan.Opened .scoring) (issue (.createScore remediation.id score))
      fun r s => r = .ok () ∧ plan.Turn .scoring s ∧
        s.results plan.job.id .scoring = none ∧ s.scores plan.job.id = some score := by
  rw [describes.id]
  refine issue_spec (stable_opened _) fun s r t world i opened _ performed => ?_
  rw [perform, if_neg fits, opened.score rfl] at performed
  obtain ⟨rfl, rfl⟩ := Prod.mk.inj (Option.some.inj performed)
  have turn := opened.turn.write (.setScore plan.job score s) rfl
    (fun other found => ?_) fun isScoring other found => ?_
  · exact ⟨turn.recorded, rfl, turn, opened.result, Function.update_self _ _ _⟩
  · exact absurd (opened.result.symm.trans found) (by simp)
  · obtain rfl : score = other := by simpa [Store.setScore] using found
    exact planned

/-- The scoring step. -/
theorem scoringRun_spec (describes : plan.job.Describes remediation)
    (planned : plan.outcome .scoring = some (plan.scoreOutcome
      (plan.progress Step.scoring.earlier).pdfUri (plan.progress Step.scoring.earlier).content)) :
    Triple plan.environment (plan.Past Step.scoring.earlier)
      (ScoringService.run remediation (plan.progress Step.scoring.earlier).pdfUri)
      (plan.Ran .scoring) := by
  have scoring := scoreFile_spec plan .scoring
  rw [scoreOutcome] at planned
  generalize (readInput (plan.progress Step.scoring.earlier).pdfUri
      (plan.progress Step.scoring.earlier).content >>= fun file =>
    plan.adapters.ask (.score file)) = scored at planned scoring
  generalize (plan.progress Step.scoring.earlier).pdfUri = pdfUri at planned scoring ⊢
  have runs : Triple plan.environment (plan.Opened .scoring)
      (ScoringService._run remediation pdfUri) (plan.Ran .scoring) := by
    refine Triple.attempt_bind scoring fun r => ?_
    cases scored with
    | error exc =>
        rintro s ⟨opened, rfl⟩
        exact failed_spec describes (only_return _) planned s opened
    | ok result =>
        rintro s ⟨opened, rfl⟩
        by_cases tooLarge : scoreMax < ScoringResult.score result
        · simp only [if_pos tooLarge] at planned
          refine refused_spec (fun u world i => ?_) planned s opened
          exact if_pos tooLarge
        · simp only [if_neg tooLarge] at planned
          refine Triple.bind (createScore_spec describes ?_ tooLarge) (fun _ => ?_) ?_ s opened
          · simp [Plan.score, planned]
          · rintro u ⟨-, turn, result, stored⟩
            exact completed_spec describes (only_return _) planned rfl u
              ⟨turn, result, fun _ => stored, fun output impossible => by cases impossible⟩
          · exact fun exc u created => absurd created.1 (by simp)
  refine run_spec ScoringService describes (fun artifact found isCompleted => ?_) runs
  cases scored with
  | error exc =>
      rw [Plan.artifact, show plan.outcome ScoringService.step = _ from planned] at found
      cases found
      cases isCompleted
  | ok result =>
      by_cases tooLarge : scoreMax < ScoringResult.score result
      · simp only [if_pos tooLarge] at planned
        rw [Plan.artifact, show plan.outcome ScoringService.step = _ from planned] at found
        cases found
      · simp only [if_neg tooLarge] at planned
        obtain ⟨isInput, fits⟩ := outputUri_of_complete planned found
        rw [isInput]
        exact resumed_spec (only_return _) planned rfl fits

/-! ## Every step -/

/-- **A step whose turn it is leaves what is planned and ends as planned.** -/
theorem stepRun_spec (describes : plan.job.Describes remediation) {service : ArtifactService}
    (member : service ∈ pipelineSteps plan.settings)
    (enabled : plan.settings.run service.step = true)
    (ok : (plan.progress service.step.earlier).ended = .ok ()) :
    Triple plan.environment (plan.Past service.step.earlier)
      (service.run remediation (plan.progress service.step.earlier).pdfUri)
      (plan.Ran service.step) := by
  have planned := outcome_of_ok ok
  rw [stepOutcome.eq_def, if_pos enabled] at planned
  have transforming : ∀ transform ∈ transformServices plan.settings,
      plan.outcome transform.step = some (plan.transformOutcome transform
        (plan.progress transform.step.earlier).pdfUri
        (plan.progress transform.step.earlier).content) →
      Triple plan.environment (plan.Past transform.step.earlier)
        (transform.toStep.run remediation (plan.progress transform.step.earlier).pdfUri)
        (plan.Ran transform.step) :=
    fun transform isTransform planned => transformRun_spec describes isTransform planned
  simp only [pipelineSteps, List.mem_cons, List.not_mem_nil, or_false] at member
  rcases member with rfl | rfl | rfl | rfl | rfl | rfl | rfl | rfl
  · refine verificationRun_spec describes PrecheckService (fun isCompliant _ => ?_)
      (fun _ => trivial) planned
    cases isCompliant <;> trivial
  · exact transforming OCRService (by simp [transformServices]) planned
  · exact transforming FontRepairService (by simp [transformServices]) planned
  · exact transforming (MetadataService plan.settings) (by simp [transformServices]) planned
  · exact transforming LinkService (by simp [transformServices]) planned
  · exact transforming AltTextService (by simp [transformServices]) planned
  · exact scoringRun_spec describes planned
  · refine verificationRun_spec describes PostCheckService (fun isCompliant _ => ?_)
      (fun _ => trivial) planned
    cases isCompliant <;> trivial

end Plan

end DicePipeline
