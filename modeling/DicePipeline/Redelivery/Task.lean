import DicePipeline.Redelivery.Steps

/-!
# A run leaves what is planned

The loop over the steps ends where `Plan.progress` does, with everything
stored, and the row is finished as `Plan.ending` says.  `Plan.process_spec` is
the whole task: started where every verdict and score has its mark
(`Plan.Restartable`), it leaves the attempt as planned if it ends.
-/

namespace DicePipeline

open Interaction Program Environment

namespace Plan

section Assertions

variable (plan : Plan)

/-- All steps are behind the run, or left out by an exception, and the attempt
is about to be finished. -/
structure Unconcluded (s : Store) : Prop where
  recorded : plan.Recorded s
  unfinished : Unfinished plan.job s
  stored : ∀ step, plan.Stored step s

/-- The attempt is finished. -/
def Done (s : Store) : Prop :=
  plan.Recorded s ∧ ∃ row, s.row plan.job.id = some row ∧ row.status.isFinished = true

/-- A run may start here: if the attempt is unfinished, every verdict and score has its mark. -/
def Restartable (s : Store) : Prop :=
  plan.Recorded s ∧ (Unfinished plan.job s → ∀ step, RowsMarked plan.job step s)

end Assertions

variable {plan : Plan} {step : Step} {before after : List Step} {s t : Store}
variable {remediation : Remediation}

/-! ## Stable assertions -/

theorem stable_unconcluded : plan.environment.Stable plan.Unconcluded :=
  fun _ _ holds leftAlone => ⟨holds.recorded.leftAlone leftAlone,
    unfinished_leftAlone holds.unfinished leftAlone,
    fun step => (holds.stored step).congr leftAlone.sameRecords⟩

theorem stable_done : plan.environment.Stable plan.Done := by
  rintro s t ⟨recorded, row, found, isFinished⟩ leftAlone
  obtain ⟨enqueued, foundT⟩ := leftAlone.row row found
  exact ⟨recorded.leftAlone leftAlone, _, foundT, isFinished⟩

theorem unfinished_of_leftAlone (recorded : plan.Recorded s) (leftAlone : LeftAlone plan.job s t)
    (unfinished : Unfinished plan.job t) : Unfinished plan.job s := by
  obtain ⟨row, found, -⟩ := recorded.row
  obtain ⟨enqueued, foundT⟩ := leftAlone.row row found
  obtain ⟨row', found', isUnfinished⟩ := unfinished
  rw [foundT] at found'
  cases found'
  exact ⟨row, found, isUnfinished⟩

theorem stable_restartable : plan.environment.Stable plan.Restartable :=
  fun _ _ holds leftAlone => ⟨holds.1.leftAlone leftAlone, fun unfinished step =>
    rowsMarked_congr (holds.2 (unfinished_of_leftAlone holds.1 leftAlone unfinished) step)
      leftAlone.sameRecords⟩

/-! ## All steps -/

/-- What has ended stays ended. -/
theorem progress_of_ended {exc : Exn} (ended : (plan.progress before).ended = .error exc)
    (after : List Step) : plan.progress (before ++ after) = plan.progress before := by
  induction after using List.reverseRecOn with
  | nil => rw [List.append_nil]
  | append_singleton after step ih =>
      rw [← List.append_assoc, progress_append, advance_of_error (ih ▸ ended), ih]

/-- A step that is not among the first ones comes after them. -/
theorem earlier_of_not_mem (split : before ++ after = Step.order) (later : step ∉ before) :
    ∃ between, step.earlier = before ++ between := by
  refine ⟨after.takeWhile (· ≠ step), ?_⟩
  rw [Step.earlier, ← split]
  refine List.takeWhile_append_of_pos fun other member => ?_
  exact decide_eq_true (ne_of_mem_of_not_mem member later)

/-- Once an exception has ended the steps, everything is stored. -/
theorem Past.unconcluded (past : plan.Past before s) (split : before ++ after = Step.order)
    {exc : Exn} (ended : (plan.progress before).ended = .error exc) : plan.Unconcluded s where
  recorded := past.recorded
  unfinished := past.unfinished
  stored step := by
    by_cases member : step ∈ before
    · exact past.stored step member
    · obtain ⟨between, isEarlier⟩ := earlier_of_not_mem split member
      have endedToo : (plan.progress step.earlier).ended = .error exc := by
        rw [isEarlier, progress_of_ended ended between, ended]
      exact past.recorded.stored_of_ended endedToo

/-- **The loop over the steps** ends as planned. -/
theorem runSteps_spec (describes : plan.job.Describes remediation)
    (services : List ArtifactService)
    (members : ∀ service ∈ services, service ∈ pipelineSteps plan.settings) (before : List Step)
    (split : before ++ services.map (·.step) = Step.order)
    (ok : (plan.progress before).ended = .ok ()) :
    Triple plan.environment (plan.Past before)
      (runSteps plan.settings remediation services (plan.progress before).pdfUri) fun r s =>
        plan.Unconcluded s ∧
          r = .ok ((plan.progress Step.order).ended, (plan.progress Step.order).pdfUri) := by
  induction services generalizing before with
  -- Induction on the services that are left: what the plan foresees for the steps before is what
  -- the store has recorded.
  | nil =>
      rw [List.map_nil, List.append_nil] at split
      subst split
      refine Triple.done fun s past => ⟨⟨past.recorded, past.unfinished, fun step => ?_⟩, ?_⟩
      · exact past.stored step (by cases step <;> decide)
      · rw [ok]
  | cons service rest ih =>
      rw [List.map_cons] at split
      have isEarlier := Step.earlier_eq split
      subst isEarlier
      have splitNext : (service.step.earlier ++ [service.step]) ++ rest.map (·.step) =
          Step.order := by
        rw [List.append_assoc]
        exact split
      have later : ∀ service ∈ rest, service ∈ pipelineSteps plan.settings :=
        fun service member => members service (List.mem_cons_of_mem _ member)
      have next := fun ok => ih later (service.step.earlier ++ [service.step]) splitNext ok
      have planned := outcome_of_ok ok
      rw [runSteps, ArtifactService.isDisabled]
      cases enabled : plan.settings.run service.step with
      -- A step that is off goes on with the file it was given, in the plan as in the run.
      | false =>
          have skipped : plan.stepOutcome service.step (plan.progress service.step.earlier).pdfUri
              (plan.progress service.step.earlier).content =
                .skipped service.step (plan.progress service.step.earlier).pdfUri := by
            rw [stepOutcome.eq_def, enabled]
            rfl
          rw [skipped] at planned
          have isOk : (plan.stepOutcome service.step (plan.progress service.step.earlier).pdfUri
              (plan.progress service.step.earlier).content).ended =
                .ok (plan.progress service.step.earlier).pdfUri := by
            rw [skipped]
            rfl
          have returned := advance_returned ok isOk
          rw [← progress_append] at returned
          refine Triple.attempt_bind (recordSkip_spec describes planned) fun r => ?_
          rintro s ⟨past, rfl⟩
          have goesOn := next (by rw [returned]) s past
          rwa [returned] at goesOn
      | true =>
          refine Triple.attempt_bind
            (stepRun_spec describes (members service List.mem_cons_self) enabled ok) fun r => ?_
          rintro s ⟨past, ended⟩
          rw [planned] at ended
          have ended := Option.some.inj ended
          cases r with
          | ok uri =>
              have returned := advance_returned ok ended
              rw [← progress_append] at returned
              have goesOn := next (by rw [returned]) s past
              rwa [returned] at goesOn
          -- The plan stops where the run does, so its progress is final from here on.
          | error exc =>
              have raised := advance_raised ok ended
              rw [← progress_append] at raised
              have stays := progress_of_ended (by rw [raised]) (rest.map (·.step))
              rw [splitNext, raised] at stays
              exact ⟨past.unconcluded splitNext (by rw [raised]), by rw [stays]⟩

/-! ## Finishing the attempt -/

theorem SameButRow.sameRecords (job : Job) (s : Store) (f : Remediation → Remediation) :
    SameRecords job s (s.updateRow job.id f) := ⟨rfl, rfl, rfl, fun _ _ => rfl⟩

/-- What a step stored has a name that fits its column. -/
theorem written_fits {pdfUri : Uri} {content : Option Bytes} {output : String × Bytes}
    (written : (plan.stepOutcome step pdfUri content).written = some output) :
    (plan.job.output step output.1).fits = true := by
  have transformed : ∀ service : TransformService,
      (plan.transformOutcome service pdfUri content).written = some output →
      (plan.job.output service.step output.1).fits = true := by
    intro service written
    unfold transformOutcome at written
    split at written
    · cases written
    · rw [StepOutcome.complete_written] at written
      split at written
      · rename_i fits
        obtain rfl := Option.some.inj written
        exact fits
      · cases written
  have checked : ∀ service : VerificationService,
      (plan.checkOutcome service pdfUri content).written ≠ some output := by
    intro service written
    unfold checkOutcome at written
    split at written
    · cases written
    · split at written
      · cases written
      · rw [StepOutcome.complete_written] at written
        split at written <;> cases written
  unfold stepOutcome at written
  split at written
  · cases step with
    | precheck => exact absurd written (checked PrecheckService)
    | ocr => exact transformed OCRService written
    | fontRepair => exact transformed FontRepairService written
    | finalizeMetadata => exact transformed (MetadataService plan.settings) written
    | linkTag => exact transformed LinkService written
    | altText => exact transformed AltTextService written
    | scoring =>
        unfold scoreOutcome at written
        simp only at written
        split at written
        · cases written
        · split at written
          · cases written
          · rw [StepOutcome.complete_written] at written
            split at written <;> cases written
    | postcheck => exact absurd written (checked PostCheckService)
  · cases written

/-- The `pdf_uri` of a run fits its column, if the name of the original does. -/
theorem progress_fits (fits : plan.job.source.fits = true) (before : List Step) :
    (plan.progress before).pdfUri.fits = true := by
  induction before using List.reverseRecOn with
  | nil => exact fits
  | append_singleton before step ih =>
      rw [progress_append]
      cases ended : (plan.progress before).ended with
      | error exc => rwa [advance_of_error ended]
      | ok _ =>
          cases result : (plan.stepOutcome step (plan.progress before).pdfUri
              (plan.progress before).content).ended with
          | error exc => rwa [advance_raised ended result]
          | ok uri =>
              rw [advance_returned ended result]
              have handsOn := stepOutcome_handsOn uri result
              cases written : (plan.stepOutcome step (plan.progress before).pdfUri
                  (plan.progress before).content).written with
              | none =>
                  rw [written] at handsOn
                  subst handsOn
                  exact ih
              | some output =>
                  rw [written] at handsOn
                  subst handsOn
                  exact written_fits written

/-- What an attempt ends with is its original or the last output. -/
theorem ending_finalOutputUri : plan.ending.finalOutputUri = plan.job.source ∨
    plan.ending.finalOutputUri = (plan.progress Step.order).pdfUri := by
  rw [ending]
  generalize (plan.progress Step.order).pdfUri = pdfUri
  cases (plan.progress Step.order).ended with
  | ok _ => exact .inr rfl
  | error exc =>
      cases exc with
      | alreadyCompliant => exact .inl rfl
      | _ => exact .inr rfl

theorem ending_isFinished : plan.ending.status.isFinished = true := by
  rw [ending]
  cases (plan.progress Step.order).ended with
  | ok _ =>
      rw [concluding]
      split <;> rfl
  | error exc => cases exc <;> rfl

/-- `_mark_finished` with what the plan ends the row with. -/
theorem markFinished_spec (describes : plan.job.Describes remediation)
    (fits : plan.job.source.fits = true) :
    Triple plan.environment plan.Unconcluded
      (RemediationService.markFinished remediation plan.ending.status plan.ending.finalOutputUri
        plan.ending.error) fun r s => r = .ok () ∧ plan.Done s := by
  have endingFits : plan.ending.finalOutputUri.fits = true := by
    rcases plan.ending_finalOutputUri with isSource | isLast
    · rw [isSource, fits]
    · rw [isLast, progress_fits fits]
  have isFinished := plan.ending_isFinished
  have notUnfinished : plan.ending.status.isUnfinished = false := by
    rw [JobStatus.isUnfinished_eq, isFinished]
    rfl
  have reading : Triple plan.environment plan.Unconcluded (issue .now) fun r s =>
      plan.Unconcluded s ∧ ∃ now, r = .ok now := by
    refine read_spec trivial stable_unconcluded (fun _ holds => holds.recorded) ?_
    exact fun s world i r t _ _ performed =>
      ⟨s.clock, (Prod.mk.inj (Option.some.inj performed)).1.symm⟩
  rw [RemediationService.markFinished, describes.id]
  refine retry_spec (Triple.bind reading (fun now => ?_) fun exc s holds => ?_) ?_
  · refine issue_spec (fun s t holds leftAlone =>
      ⟨stable_unconcluded s t holds.1 leftAlone, holds.2⟩) ?_
    rintro s r t world i ⟨holds, -⟩ _ performed
    obtain ⟨row, found, describesRow, _, error⟩ := holds.recorded.row_unfinished holds.unfinished
    simp only [perform, found] at performed
    rw [RemediationUpdate.fits, Option.all_some, endingFits, notUnfinished] at performed
    obtain ⟨rfl, rfl⟩ := Prod.mk.inj (Option.some.inj performed)
    have foundT := Store.row_updateRow_self (f := RemediationUpdate.apply
      { status := plan.ending.status, completedAt := some now,
        finalOutputUri := some plan.ending.finalOutputUri, error := plan.ending.error })
      (fun _ => rfl) found
    have same := SameButRow.sameRecords plan.job s (RemediationUpdate.apply
      { status := plan.ending.status, completedAt := some now,
        finalOutputUri := some plan.ending.finalOutputUri, error := plan.ending.error })
    have recorded := holds.recorded.congr same ⟨_, foundT, describesRow.apply _, ?_, fun _ =>
      ⟨rfl, rfl, ?_, fun step => (holds.stored step).congr same⟩⟩
    · exact ⟨recorded, rfl, recorded, _, foundT, isFinished⟩
    · intro isUnfinished
      rw [RemediationUpdate.apply_status, notUnfinished] at isUnfinished
      cases isUnfinished
    · rw [RemediationUpdate.apply, error]
  · obtain ⟨-, now, impossible⟩ := holds
    cases impossible
  · exact fun message s holds => absurd holds.1 (by simp)

/-- The `except` and `else` clauses finish the attempt as planned. -/
theorem conclude_spec (describes : plan.job.Describes remediation)
    (fits : plan.job.source.fits = true) :
    Triple plan.environment plan.Unconcluded
      (conclude plan.settings remediation
        ((plan.progress Step.order).ended, (plan.progress Step.order).pdfUri))
      fun _ s => plan.Done s := by
  have finishing : Triple plan.environment plan.Unconcluded
      (RemediationService.markFinished remediation plan.ending.status plan.ending.finalOutputUri
        plan.ending.error) fun _ s => plan.Done s :=
    (markFinished_spec describes fits).post fun _ _ marked => marked.2
  rw [ending] at finishing
  generalize (plan.progress Step.order).pdfUri = pdfUri at finishing ⊢
  generalize (plan.progress Step.order).ended = ended at finishing ⊢
  cases ended with
  | ok _ =>
      rw [conclude, ArtifactService.isDisabled]
      rw [concluding.eq_def] at finishing
      cases enabled : plan.settings.run .postcheck with
      | true =>
          simp only [enabled] at finishing
          exact finishing
      | false =>
          simp only [enabled] at finishing
          exact finishing
  | error exc =>
      have raising : Triple plan.environment plan.Unconcluded
          ((RemediationService.markFinished remediation
            (plan.concluding (.error exc, pdfUri)).status
            (plan.concluding (.error exc, pdfUri)).finalOutputUri
            (plan.concluding (.error exc, pdfUri)).error).bind fun _ =>
              (Program.raise exc : Py Unit)) fun _ s => plan.Done s :=
        Triple.bind finishing (fun _ => Triple.done fun s done => done) fun _ s done => done
      cases exc with
      | alreadyCompliant =>
          rw [conclude, describes.sourcePdfUri]
          exact finishing
      | notCompliant failedRules => exact finishing
      | postCheckUnavailable message => exact finishing
      | _ => exact raising

/-! ## The task -/

/-- The `finally` clause touches nothing of the attempt. -/
theorem notifyCallbacks_spec (remediation : Remediation) :
    Triple plan.environment plan.Done (notifyCallbacks remediation) fun _ s => plan.Done s := by
  have enqueuing : ∀ callbacks : List ℕ, Triple plan.environment plan.Done
      (enqueueWebhooks callbacks) fun _ s => plan.Done s := by
    intro callbacks
    induction callbacks with
    | nil => exact Triple.done fun s done => done
    | cons callback rest ih =>
        have first : Triple plan.environment plan.Done (issue (.enqueueWebhook callback))
            fun _ s => plan.Done s := by
          refine issue_spec stable_done fun s r t world i done _ performed => ?_
          obtain ⟨rfl, rfl⟩ := Prod.mk.inj (Option.some.inj performed)
          have kept := stable_done s { s with webhookTasks := callback :: s.webhookTasks } done
            ⟨fun row found => ⟨_, found⟩, rfl, rfl, rfl, fun _ _ => rfl⟩
          exact ⟨kept.1, kept⟩
        exact Triple.bind first (fun _ => ih) fun _ _ done => done
  have listing : Triple plan.environment plan.Done (issue (.callbackIds remediation.id))
      fun _ s => plan.Done s ∧ True :=
    read_spec trivial stable_done (fun s done => done.1) fun _ _ _ _ _ _ _ _ => trivial
  exact Triple.bind (listing.post fun _ _ holds => holds.1) enqueuing fun _ _ done => done

/-- `mark_running` starts a run at the first step. -/
theorem markRunning_spec (describes : plan.job.Describes remediation) :
    Triple plan.environment (plan.Past []) (RemediationService.markRunning remediation)
      fun r s => r = .ok () ∧ plan.Past [] s := by
  have reading : Triple plan.environment (plan.Past []) (issue .now) fun r s =>
      plan.Past [] s ∧ ∃ now, r = .ok now := by
    refine read_spec trivial (stable_past []) (fun _ past => past.recorded) ?_
    exact fun s world i r t _ _ performed =>
      ⟨s.clock, (Prod.mk.inj (Option.some.inj performed)).1.symm⟩
  rw [RemediationService.markRunning, describes.id]
  refine Triple.bind reading (fun now => ?_) fun exc s holds => ?_
  · refine issue_spec (fun s t holds leftAlone =>
      ⟨stable_past [] s t holds.1 leftAlone, holds.2⟩) ?_
    rintro s r t world i ⟨past, -⟩ _ performed
    obtain ⟨row, found, describesRow, isUnfinished, error⟩ :=
      past.recorded.row_unfinished past.unfinished
    have notFinished : row.status.isFinished = false := by
      rw [JobStatus.isUnfinished_eq] at isUnfinished
      simpa using isUnfinished
    simp only [perform, found, notFinished, Bool.and_false] at performed
    obtain ⟨rfl, rfl⟩ := Prod.mk.inj (Option.some.inj performed)
    have foundT := Store.row_updateRow_self (f := RemediationUpdate.apply
      { status := .running, startedAt := some now }) (fun _ => rfl) found
    have same := SameButRow.sameRecords plan.job s (RemediationUpdate.apply
      { status := .running, startedAt := some now })
    have recorded := past.recorded.congr same ⟨_, foundT, describesRow.apply _, fun _ => error,
      fun impossible => by cases impossible⟩
    exact ⟨recorded, rfl, recorded, ⟨_, foundT, rfl⟩, fun step isBefore => absurd isBefore List.not_mem_nil,
      fun step later => rowsMarked_congr (past.marked step later) same⟩
  · obtain ⟨-, now, impossible⟩ := holds
    cases impossible

/-- **A run that may start leaves the attempt as planned, if it ends.** -/
theorem process_spec (fits : plan.job.source.fits = true) :
    Triple plan.environment plan.Restartable (processRemediation plan.settings plan.job.id)
      fun _ s => plan.Done s := by
  have getting : Triple plan.environment plan.Restartable (RemediationService.get plan.job.id)
      fun r s => plan.Restartable s ∧ ∃ row, r = .ok row ∧ s.row plan.job.id = some row := by
    refine read_spec trivial stable_restartable (fun _ holds => holds.1) ?_
    intro s world i r t holds _ performed
    obtain ⟨row, found, -⟩ := holds.1.row
    rw [perform, found] at performed
    exact ⟨row, (Prod.mk.inj (Option.some.inj performed)).1.symm, found⟩
  refine Triple.bind getting (fun remediation => ?_) ?_
  · rintro s ⟨restartable, row, isRow, found⟩
    obtain rfl := Except.ok.inj isRow
    obtain ⟨row, found', planned⟩ := restartable.1.row
    obtain rfl := Option.some.inj (found.symm.trans found')
    have describes := planned.describes
    split
    · rename_i isFinished
      exact safe_done.mpr ⟨restartable.1, _, found, isFinished⟩
    · rename_i notFinished
      have unfinished : Unfinished plan.job s := by
        refine ⟨_, found, ?_⟩
        rw [JobStatus.isUnfinished_eq]
        simpa using notFinished
      refine Triple.bind (markRunning_spec describes) (fun _ => ?_) ?_ s
        ⟨restartable.1, unfinished, fun step isBefore => absurd isBefore List.not_mem_nil,
          fun step _ => restartable.2 unfinished step⟩
      · rintro u ⟨-, past⟩
        refine Triple.ensure (M := fun _ s => plan.Done s) ?_ (fun r => ?_) u past
        · have running := runSteps_spec describes (pipelineSteps plan.settings)
            (fun _ member => member) [] rfl rfl
          rw [runPipeline, describes.sourcePdfUri]
          refine Triple.bind running (fun ended => ?_) fun exc v holds => absurd holds.2 (by simp)
          rintro v ⟨unconcluded, isEnded⟩
          obtain rfl := Except.ok.inj isEnded
          exact conclude_spec describes fits v unconcluded
        · refine (notifyCallbacks_spec remediation).post fun ended v done => ?_
          cases ended with
          | ok _ => exact done
          | error exc => exact done
      · exact fun exc u holds => absurd holds.1 (by simp)
  · rintro exc s ⟨-, row, impossible, -⟩
    cases impossible

end Plan

end DicePipeline
