import DicePipeline.Attempt.Moves
import DicePipeline.Redelivery.Plan

/-!
# What is stored is planned

`Plan.Stored` says that everything an uninterrupted run leaves of one step is
stored.  A run that is killed leaves less, but nothing else: `Plan.Recorded` is
the invariant that every record of the attempt is the planned one or absent,
and that a step marked COMPLETED has left everything.

The mark is written last, so a verdict or a score may be stored without it.
`RowsMarked` excludes that for one step.  It holds between two steps of a run,
and whether it holds where a run is stopped is what the redelivery depends on.
-/

namespace DicePipeline

open Interaction

/-- No verdict and no score of a step is stored before its mark COMPLETED. -/
def RowsMarked (job : Job) (step : Step) (s : Store) : Prop :=
  s.completed job.id step = none →
    s.results job.id step = none ∧ (step = .scoring → s.scores job.id = none)

instance (job : Job) (step : Step) (s : Store) : Decidable (RowsMarked job step s) :=
  inferInstanceAs (Decidable (_ → _ ∧ (_ → _)))

/-- Two stores hold the same records of an attempt, its row apart. -/
structure SameRecords (job : Job) (s t : Store) : Prop where
  artifacts : t.artifacts job.id = s.artifacts job.id
  results : t.results job.id = s.results job.id
  scores : t.scores job.id = s.scores job.id
  objects : ∀ uri, job.Owns uri → t.objects uri = s.objects uri

theorem LeftAlone.sameRecords {job : Job} {s t : Store} (leftAlone : LeftAlone job s t) :
    SameRecords job s t :=
  ⟨leftAlone.artifacts, leftAlone.results, leftAlone.scores, leftAlone.objects⟩

namespace Plan

section Records

variable (plan : Plan)

/-- Everything an uninterrupted run leaves of a step is stored. -/
structure Stored (step : Step) (s : Store) : Prop where
  artifact : s.artifacts plan.job.id step = plan.artifact step
  result : s.results plan.job.id step = plan.result step
  score : step = .scoring → s.scores plan.job.id = plan.score step
  written : ∀ output, plan.written step = some output →
    s.objects (plan.job.output step output.1) = some output.2

/-- The columns of the attempt's row, once it is finished, and what is stored then. -/
structure Ended (s : Store) (row : Remediation) : Prop where
  status : row.status = plan.ending.status
  finalOutputUri : row.finalOutputUri = plan.ending.finalOutputUri
  error : row.error = plan.ending.error.getD plan.error
  stored : ∀ step, plan.Stored step s

/-- The attempt's row: as it was made, or as the plan ends it. -/
structure RowPlanned (s : Store) (row : Remediation) : Prop where
  describes : plan.job.Describes row
  unfinished : row.status.isUnfinished = true → row.error = plan.error
  finished : row.status.isFinished = true → plan.Ended s row

/-- **Every record of the attempt is the planned one or absent**, and a
COMPLETED step has left everything. -/
structure Recorded (s : Store) : Prop where
  row : ∃ row, s.row plan.job.id = some row ∧ plan.RowPlanned s row
  original : s.objects plan.job.source = plan.content
  artifact : ∀ step artifact, s.artifacts plan.job.id step = some artifact →
    plan.artifact step = some artifact
  result : ∀ step result, s.results plan.job.id step = some result →
    plan.result step = some result
  score : ∀ score, s.scores plan.job.id = some score → plan.score .scoring = some score
  completed : ∀ step uri, s.completed plan.job.id step = some uri → plan.Stored step s

/-- A run has gone through `before`. -/
structure Past (before : List Step) (s : Store) : Prop where
  recorded : plan.Recorded s
  unfinished : Unfinished plan.job s
  stored : ∀ step ∈ before, plan.Stored step s
  marked : ∀ step, step ∉ before → RowsMarked plan.job step s

/-- A run is at a step, which is not marked COMPLETED. -/
structure Turn (step : Step) (s : Store) : Prop where
  recorded : plan.Recorded s
  unfinished : Unfinished plan.job s
  incomplete : s.completed plan.job.id step = none
  stored : ∀ other ∈ step.earlier, plan.Stored other s
  marked : ∀ other, other ∉ step.earlier → other ≠ step → RowsMarked plan.job other s

end Records

variable {plan : Plan} {step : Step} {before : List Step} {s t : Store}

/-! ## The same records -/

theorem Stored.congr (stored : plan.Stored step s) (same : SameRecords plan.job s t) :
    plan.Stored step t where
  artifact := (congrFun same.artifacts step).trans stored.artifact
  result := (congrFun same.results step).trans stored.result
  score isScoring := same.scores.trans (stored.score isScoring)
  written output planned :=
    (same.objects _ (.inr ⟨step, output.1, rfl⟩)).trans (stored.written output planned)

theorem completed_congr (same : SameRecords plan.job s t) (step : Step) :
    t.completed plan.job.id step = s.completed plan.job.id step := by
  rw [Store.completed, Store.completed, same.artifacts]

theorem rowsMarked_congr (marked : RowsMarked plan.job step s)
    (same : SameRecords plan.job s t) : RowsMarked plan.job step t := by
  intro incomplete
  rw [completed_congr same] at incomplete
  rw [same.results, same.scores]
  exact marked incomplete

/-- The records of the attempt are planned if they were, and the row is. -/
theorem Recorded.congr (recorded : plan.Recorded s) (same : SameRecords plan.job s t)
    (row : ∃ row, t.row plan.job.id = some row ∧ plan.RowPlanned t row) : plan.Recorded t where
  row := row
  original := (same.objects _ (.inl rfl)).trans recorded.original
  artifact step artifact found := recorded.artifact step artifact (same.artifacts ▸ found)
  result step result found := recorded.result step result (same.results ▸ found)
  score score found := recorded.score score (same.scores ▸ found)
  completed step uri found :=
    (recorded.completed step uri ((completed_congr same step).symm.trans found)).congr same

theorem RowPlanned.requeued {row : Remediation} (planned : plan.RowPlanned s row)
    (same : SameRecords plan.job s t) (enqueued : Option ℕ) :
    plan.RowPlanned t { row with lastEnqueuedAt := enqueued } where
  describes := planned.describes.requeued enqueued
  unfinished := planned.unfinished
  finished isFinished := by
    have ended := planned.finished isFinished
    exact ⟨ended.status, ended.finalOutputUri, ended.error, fun step =>
      (ended.stored step).congr same⟩

theorem Recorded.leftAlone (recorded : plan.Recorded s) (leftAlone : LeftAlone plan.job s t) :
    plan.Recorded t := by
  obtain ⟨row, found, planned⟩ := recorded.row
  obtain ⟨enqueued, foundT⟩ := leftAlone.row row found
  exact recorded.congr leftAlone.sameRecords
    ⟨_, foundT, planned.requeued leftAlone.sameRecords enqueued⟩

theorem unfinished_leftAlone (unfinished : Unfinished plan.job s)
    (leftAlone : LeftAlone plan.job s t) : Unfinished plan.job t := by
  obtain ⟨row, found, isUnfinished⟩ := unfinished
  obtain ⟨enqueued, foundT⟩ := leftAlone.row row found
  exact ⟨_, foundT, isUnfinished⟩

theorem Past.leftAlone (past : plan.Past before s) (leftAlone : LeftAlone plan.job s t) :
    plan.Past before t where
  recorded := past.recorded.leftAlone leftAlone
  unfinished := unfinished_leftAlone past.unfinished leftAlone
  stored step member := (past.stored step member).congr leftAlone.sameRecords
  marked step notBefore := rowsMarked_congr (past.marked step notBefore) leftAlone.sameRecords

theorem Turn.leftAlone (turn : plan.Turn step s) (leftAlone : LeftAlone plan.job s t) :
    plan.Turn step t where
  recorded := turn.recorded.leftAlone leftAlone
  unfinished := unfinished_leftAlone turn.unfinished leftAlone
  incomplete := (leftAlone.completed step).trans turn.incomplete
  stored other earlier := (turn.stored other earlier).congr leftAlone.sameRecords
  marked other later different :=
    rowsMarked_congr (turn.marked other later different) leftAlone.sameRecords

/-! ## One write of a step -/

/-- What a write of one step leaves as it was: the row, and the records of the
other steps. -/
structure SameButStep (job : Job) (step : Step) (s t : Store) : Prop where
  row : t.row job.id = s.row job.id
  artifacts : ∀ other, other ≠ step → t.artifacts job.id other = s.artifacts job.id other
  results : ∀ other, other ≠ step → t.results job.id other = s.results job.id other
  scores : step ≠ .scoring → t.scores job.id = s.scores job.id
  original : t.objects job.source = s.objects job.source
  objects : ∀ other name, other ≠ step →
    t.objects (job.output other name) = s.objects (job.output other name)

theorem SameButStep.refl (job : Job) (step : Step) (s : Store) : SameButStep job step s s where
  row := rfl
  artifacts _ _ := rfl
  results _ _ := rfl
  scores _ := rfl
  original := rfl
  objects _ _ _ := rfl

theorem SameButStep.setArtifact (job : Job) (step : Step) (artifact : RemediationArtifact)
    (s : Store) : SameButStep job step s (s.setArtifact job.id step artifact) where
  row := rfl
  artifacts _ different := by simp [Store.setArtifact, different]
  results _ _ := rfl
  scores _ := rfl
  original := rfl
  objects _ _ _ := rfl

theorem SameButStep.setResult (job : Job) (step : Step) (result : VerificationResult)
    (s : Store) : SameButStep job step s (s.setResult job.id step result) where
  row := rfl
  artifacts _ _ := rfl
  results _ different := Store.setResult_results_of_ne result different
  scores _ := rfl
  original := rfl
  objects _ _ _ := rfl

theorem SameButStep.setScore (job : Job) (score : RemediationScore) (s : Store) :
    SameButStep job .scoring s (s.setScore job.id score) where
  row := rfl
  artifacts _ _ := rfl
  results _ _ := rfl
  scores notScoring := absurd rfl notScoring
  original := rfl
  objects _ _ _ := rfl

theorem SameButStep.setObject (job : Job) (step : Step) (name : String) (content : Option Bytes)
    (s : Store) : SameButStep job step s (s.setObject (job.output step name) content) where
  row := rfl
  artifacts _ _ := rfl
  results _ _ := rfl
  scores _ := rfl
  original := Store.setObject_objects_of_ne content (by rintro ⟨⟩)
  objects _ _ different := by
    refine Store.setObject_objects_of_ne content fun same => ?_
    cases same
    exact different rfl

namespace SameButStep

variable {other : Step} {job : Job}

theorem completed (same : SameButStep job step s t) (different : other ≠ step) :
    t.completed job.id other = s.completed job.id other := by
  rw [Store.completed, Store.completed, same.artifacts other different]

theorem stored (same : SameButStep plan.job step s t) (different : other ≠ step)
    (stored : plan.Stored other s) : plan.Stored other t where
  artifact := (same.artifacts other different).trans stored.artifact
  result := (same.results other different).trans stored.result
  score isScoring :=
    (same.scores (isScoring ▸ different.symm)).trans (stored.score isScoring)
  written output planned :=
    (same.objects other output.1 different).trans (stored.written output planned)

theorem rowsMarked (same : SameButStep job step s t) (different : other ≠ step)
    (marked : RowsMarked job other s) : RowsMarked job other t := by
  intro incomplete
  rw [same.completed different] at incomplete
  obtain ⟨results, scores⟩ := marked incomplete
  refine ⟨(same.results other different).trans results, fun isScoring => ?_⟩
  rw [same.scores (isScoring ▸ different.symm)]
  exact scores isScoring

end SameButStep

/-- The attempt's row while the attempt is unfinished. -/
theorem Recorded.row_unfinished (recorded : plan.Recorded s)
    (unfinished : Unfinished plan.job s) :
    ∃ row, s.row plan.job.id = some row ∧ plan.job.Describes row ∧
      row.status.isUnfinished = true ∧ row.error = plan.error := by
  obtain ⟨row, found, planned⟩ := recorded.row
  obtain ⟨row', found', isUnfinished⟩ := unfinished
  rw [found] at found'
  cases found'
  exact ⟨row, found, planned.describes, isUnfinished, planned.unfinished isUnfinished⟩

/-- An unfinished row stays planned, whatever is stored beside it. -/
theorem Recorded.row_kept (recorded : plan.Recorded s) (unfinished : Unfinished plan.job s)
    (same : t.row plan.job.id = s.row plan.job.id) :
    ∃ row, t.row plan.job.id = some row ∧ plan.RowPlanned t row := by
  obtain ⟨row, found, describes, isUnfinished, error⟩ := recorded.row_unfinished unfinished
  refine ⟨row, same.trans found, describes, fun _ => error, fun isFinished => ?_⟩
  rw [JobStatus.isUnfinished_eq, isFinished] at isUnfinished
  cases isUnfinished

/-- A write of a step whose turn it is keeps the records planned if what it
stores of the step is. -/
theorem Recorded.write (recorded : plan.Recorded s) (unfinished : Unfinished plan.job s)
    (same : SameButStep plan.job step s t)
    (artifact : ∀ artifact, t.artifacts plan.job.id step = some artifact →
      plan.artifact step = some artifact)
    (result : ∀ result, t.results plan.job.id step = some result →
      plan.result step = some result)
    (score : step = .scoring → ∀ score, t.scores plan.job.id = some score →
      plan.score step = some score)
    (completed : ∀ uri, t.completed plan.job.id step = some uri → plan.Stored step t) :
    plan.Recorded t where
  row := recorded.row_kept unfinished same.row
  original := same.original.trans recorded.original
  artifact other value found := by
    by_cases isStep : other = step
    · subst isStep
      exact artifact value found
    · exact recorded.artifact other value ((same.artifacts other isStep).symm.trans found)
  result other value found := by
    by_cases isStep : other = step
    · subst isStep
      exact result value found
    · exact recorded.result other value ((same.results other isStep).symm.trans found)
  score value found := by
    by_cases isScoring : step = .scoring
    · have planned := score isScoring value found
      rwa [isScoring] at planned
    · exact recorded.score value ((same.scores isScoring).symm.trans found)
  completed other uri found := by
    by_cases isStep : other = step
    · subst isStep
      exact completed uri found
    · exact same.stored isStep
        (recorded.completed other uri ((same.completed isStep).symm.trans found))

/-- The turn stays while the step stores what is planned and is not marked. -/
theorem Turn.write (turn : plan.Turn step s) (same : SameButStep plan.job step s t)
    (artifacts : t.artifacts plan.job.id step = s.artifacts plan.job.id step)
    (result : ∀ result, t.results plan.job.id step = some result →
      plan.result step = some result)
    (score : step = .scoring → ∀ score, t.scores plan.job.id = some score →
      plan.score step = some score) : plan.Turn step t := by
  have incomplete : t.completed plan.job.id step = none := by
    rw [Store.completed, artifacts]
    exact turn.incomplete
  have different : ∀ other ∈ step.earlier, other ≠ step :=
    fun other earlier => ne_of_mem_of_not_mem earlier step.not_mem_earlier
  refine ⟨turn.recorded.write turn.unfinished same (fun artifact found => ?_) result score
    (fun uri found => ?_), ?_, incomplete, ?_, ?_⟩
  · exact turn.recorded.artifact step artifact (artifacts.symm.trans found)
  · rw [incomplete] at found
    cases found
  · obtain ⟨row, found, isUnfinished⟩ := turn.unfinished
    exact ⟨row, same.row.trans found, isUnfinished⟩
  · exact fun other earlier => same.stored (different other earlier) (turn.stored other earlier)
  · exact fun other later isOther => same.rowsMarked isOther (turn.marked other later isOther)

/-! ## From step to step -/

theorem stored_append (stored : ∀ other ∈ before, plan.Stored other s)
    (last : plan.Stored step s) : ∀ other ∈ before ++ [step], plan.Stored other s := by
  intro other member
  rcases List.mem_append.mp member with earlier | isStep
  · exact stored other earlier
  · rw [List.mem_singleton.mp isStep]
    exact last

/-- A step is behind the run once its last write has left everything. -/
theorem Turn.past (turn : plan.Turn step s) (same : SameButStep plan.job step s t)
    (stored : plan.Stored step t) : plan.Past (step.earlier ++ [step]) t where
  recorded := by
    refine turn.recorded.write turn.unfinished same (fun artifact found => ?_)
      (fun result found => ?_) (fun isScoring score found => ?_) fun _ _ => stored
    · rw [← stored.artifact, found]
    · rw [← stored.result, found]
    · rw [← stored.score isScoring, found]
  unfinished := by
    obtain ⟨row, found, isUnfinished⟩ := turn.unfinished
    exact ⟨row, same.row.trans found, isUnfinished⟩
  stored := stored_append (fun other earlier =>
    same.stored (ne_of_mem_of_not_mem earlier step.not_mem_earlier) (turn.stored other earlier))
    stored
  marked other notBefore := by
    simp only [List.mem_append, List.mem_singleton, not_or] at notBefore
    exact same.rowsMarked notBefore.2 (turn.marked other notBefore.1 notBefore.2)

/-- A step that is not COMPLETED has its turn. -/
theorem Past.turn (past : plan.Past step.earlier s)
    (incomplete : s.completed plan.job.id step = none) : plan.Turn step s where
  recorded := past.recorded
  unfinished := past.unfinished
  incomplete := incomplete
  stored := past.stored
  marked other later _ := past.marked other later

/-- A step that is COMPLETED is behind the run. -/
theorem Past.resumed (past : plan.Past step.earlier s) (stored : plan.Stored step s) :
    plan.Past (step.earlier ++ [step]) s where
  recorded := past.recorded
  unfinished := past.unfinished
  stored := stored_append past.stored stored
  marked other notBefore :=
    past.marked other fun earlier => notBefore (List.mem_append_left _ earlier)

/-- A step of which the plan leaves nothing has left everything. -/
theorem Recorded.stored_of_nothing (recorded : plan.Recorded s)
    (artifact : plan.artifact step = none) (result : plan.result step = none)
    (score : plan.score step = none) (written : plan.written step = none) :
    plan.Stored step s where
  artifact := by
    rw [artifact, Option.eq_none_iff_forall_not_mem]
    intro value found
    rw [recorded.artifact step value found] at artifact
    cases artifact
  result := by
    rw [result, Option.eq_none_iff_forall_not_mem]
    intro value found
    rw [recorded.result step value found] at result
    cases result
  score isScoring := by
    rw [score, Option.eq_none_iff_forall_not_mem]
    intro value found
    rw [isScoring, recorded.score value found] at score
    cases score
  written output planned := by
    rw [written] at planned
    cases planned

/-- Once an exception has ended the plan, the later steps leave nothing. -/
theorem Recorded.stored_of_ended (recorded : plan.Recorded s) {exc : Exn}
    (ended : (plan.progress step.earlier).ended = .error exc) : plan.Stored step s :=
  recorded.stored_of_nothing (by simp [Plan.artifact, outcome_of_error ended])
    (by simp [Plan.result, outcome_of_error ended]) (by simp [Plan.score, outcome_of_error ended])
    (by simp [Plan.written, outcome_of_error ended])

end Plan

end DicePipeline
