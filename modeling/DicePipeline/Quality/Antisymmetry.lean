import Mathlib.Algebra.Order.Group.Unbundled.Abs
import Mathlib.Algebra.Order.Ring.Rat
import Mathlib.Tactic.NormNum
import DicePipeline.Quality.Compare

/-!
# A comparison the other way round

`compare_reports(A, B)` and `compare_reports(B, A)` look at the same measures, and what
is worse in the one is better in the other.  A measure is what one turn of a loop looks
at: a total, a veraPDF rule, or one of the checks of a page's score.

`compareReports_regressions` and `compareReports_improvements` say that the lists of a
comparison are what the measures write to them, with the document properties, which have
no better and no worse: one that differs is a regression both ways.  Scores are exact
rationals here.

### What is load-bearing

A comparison that raises has no lists.  So all of this is about two reports that are
readable both ways (`Readable`): the pages that are sorted by number are those of the
baseline, which is the one report the one way and the other report the other way.
-/

namespace DicePipeline

namespace ComparisonLines

@[simp] theorem improvements_append (first second : ComparisonLines) :
    (first ++ second).improvements = first.improvements ++ second.improvements := rfl

@[simp] theorem pageChanges_append (first second : ComparisonLines) :
    (first ++ second).pageChanges = first.pageChanges ++ second.pageChanges := rfl

@[simp] theorem improvements_joined (turns : List ComparisonLines) :
    (joined turns).improvements = turns.flatMap (·.improvements) :=
  lines_joined rfl improvements_append turns

@[simp] theorem pageChanges_joined (turns : List ComparisonLines) :
    (joined turns).pageChanges = turns.flatMap (·.pageChanges) :=
  lines_joined rfl pageChanges_append turns

end ComparisonLines

/-- The scores as they are, with the tolerances 0.01 and 0.02. -/
def rationals (text : ℚ → Text) : Numbers ℚ where
  sub := fun a b => a - b
  abs := fun a => |a|
  le := fun a b => a ≤ b
  isPositive := fun a => 0 < a
  zero := 0
  rateTolerance := 1 / 100
  orderTolerance := 2 / 100
  text := text

/-! ## Measures -/

/-- What one turn of a loop of a comparison looks at. -/
inductive Measure where
  | total (key : Text)
  | rule (name : Text)
  | score (page : Text) (check : ScoreCheck ℚ)

variable {V : Type} (text : ℚ → Text) (repr : Option V → Text) (baseline candidate : Report ℚ V)

/-- What the turn for a measure writes. -/
def Measure.turn : Measure → ComparisonLines
  | .total key => compareTotal baseline candidate key
  | .rule name =>
      match baseline.verapdf, candidate.verapdf with
      | some before, some after => compareRule before after name
      | _, _ => {}
  | .score page check =>
      match baseline.ocrTruth, candidate.ocrTruth with
      | some before, some after =>
          match before.get? page, after.get? page with
          | some first, some second => checkLines (rationals text) page first second check
          | _, _ => {}
      | _, _ => {}

/-- The rules that the comparison goes through. -/
def ruleMeasures : List Measure :=
  match baseline.verapdf, candidate.verapdf with
  | some before, some after =>
      ((before.keys ++ after.keys).dedup.insertionSort (· ≤ ·)).map .rule
  | _, _ => []

/-- The checks of the scored pages that it goes through. -/
def scoreMeasures : List Measure :=
  match baseline.ocrTruth, candidate.ocrTruth with
  | some before, some after =>
      (pagesByNumber (before.keys.filter (· ∈ after.keys))).flatMap fun page =>
        (scoreChecks (rationals text)).map (.score page)
  | _, _ => []

/-- The measures that a comparison goes through, in its order. -/
def measures : List Measure :=
  (worseIfHigher ++ worseIfLower ++ neutral).map .total ++ ruleMeasures baseline candidate ++
    scoreMeasures text baseline candidate

/-- The measure is listed as a regression. -/
def Measure.IsRegression (measure : Measure) : Prop :=
  measure ∈ measures text baseline candidate ∧
    (measure.turn text baseline candidate).regressions ≠ []

/-- The measure is listed as an improvement. -/
def Measure.IsImprovement (measure : Measure) : Prop :=
  measure ∈ measures text baseline candidate ∧
    (measure.turn text baseline candidate).improvements ≠ []

variable {text repr baseline candidate}

section Lines

-- One of the lists of lines of a comparison.
variable (lines : ComparisonLines → List Text)
  (append : ∀ first second : ComparisonLines, lines (first ++ second) = lines first ++ lines second)
  (rows : ∀ rows, lines { rows } = [])

include append rows

theorem lines_compareVerapdf : lines (compareVerapdf baseline candidate) =
    (ruleMeasures baseline candidate).flatMap fun measure =>
      lines (measure.turn text baseline candidate) := by
  have none : lines {} = [] := rows []
  have joined := ComparisonLines.lines_joined none append
  unfold compareVerapdf ruleMeasures Measure.turn
  cases baseline.verapdf with
  | none => exact none
  | some before =>
    cases candidate.verapdf with
    | none => exact none
    | some after =>
      simp only
      rw [append, rows, joined, List.nil_append, List.flatMap_map, List.flatMap_map]

theorem lines_ocrTruthLines : lines (ocrTruthLines (rationals text) baseline candidate) =
    (scoreMeasures text baseline candidate).flatMap fun measure =>
      lines (measure.turn text baseline candidate) := by
  have none : lines {} = [] := rows []
  have joined := ComparisonLines.lines_joined none append
  unfold ocrTruthLines scoreMeasures Measure.turn
  cases baseline.ocrTruth with
  | none => exact none
  | some before =>
    cases candidate.ocrTruth with
    | none => exact none
    | some after =>
      simp only
      rw [joined, List.flatMap_map, List.flatMap_assoc]
      refine List.flatMap_congr fun page _ => ?_
      rw [List.flatMap_map]
      unfold pageScoreLines
      cases isFirst : before.get? page with
      | none => simp [none, isFirst]
      | some first =>
        cases isSecond : after.get? page with
        | none => simp [none, isFirst, isSecond]
        | some second =>
          simp only [isFirst, isSecond]
          rw [joined, List.flatMap_map]

/-- Each list of lines is what the measures write to it, one after the other. -/
theorem lines_measures : lines (ComparisonLines.joined
      ((worseIfHigher ++ worseIfLower ++ neutral).map (compareTotal baseline candidate)) ++
      compareVerapdf baseline candidate ++ ocrTruthLines (rationals text) baseline candidate) =
    (measures text baseline candidate).flatMap fun measure =>
      lines (measure.turn text baseline candidate) := by
  have totals : ∀ keys : List Text,
      lines (.joined (keys.map (compareTotal baseline candidate))) =
        (keys.map Measure.total).flatMap fun measure =>
          lines (measure.turn text baseline candidate) := by
    intro keys
    rw [ComparisonLines.lines_joined (rows []) append, List.flatMap_map, List.flatMap_map]
    rfl
  unfold measures
  rw [append, append, totals, lines_compareVerapdf lines append rows,
    lines_ocrTruthLines lines append rows, List.flatMap_append, List.flatMap_append]

end Lines

section Listed

variable [DecidableEq V] {comparison : Comparison} (noFailure : ¬ FailedStep baseline candidate)
  (returned : compareReports (rationals text) repr baseline candidate = .ok comparison)

include noFailure returned

/-- Without a failed step everything is compared. -/
theorem comparison_eq : comparison =
    { toComparisonLines := .joined ((worseIfHigher ++ worseIfLower ++ neutral).map
          (compareTotal baseline candidate)) ++
        compareVerapdf baseline candidate ++
        ocrTruthLines (rationals text) baseline candidate ++
        .joined (baseline.document.entries.map (compareProperty repr candidate)) ++
        .joined ((pagesByNumber baseline.pages.keys).map (comparePage baseline candidate)) } := by
  by_cases readable : Readable baseline candidate
  · rw [compareReports_ok noFailure readable] at returned
    exact (Except.ok.inj returned).symm
  · obtain ⟨exc, raised⟩ := @compareReports_error _ _ (rationals text) repr _ _ _ noFailure readable
    rw [raised] at returned
    cases returned

/-- The regressions are those of the measures, and the document properties that differ. -/
theorem compareReports_regressions : comparison.regressions =
    (measures text baseline candidate).flatMap (fun measure =>
      (measure.turn text baseline candidate).regressions) ++
    baseline.document.entries.flatMap fun property =>
      (compareProperty repr candidate property).regressions := by
  have pages : ∀ page, (comparePage baseline candidate page).regressions = [] := fun _ =>
    comparePage_regressions
  rw [comparison_eq noFailure returned, ← lines_measures (fun part => part.regressions)
    ComparisonLines.regressions_append fun _ => rfl]
  simp [List.flatMap_map, pages]

/-- The improvements are those of the measures. -/
theorem compareReports_improvements : comparison.improvements =
    (measures text baseline candidate).flatMap fun measure =>
      (measure.turn text baseline candidate).improvements := by
  have pages : ∀ page, (comparePage baseline candidate page).improvements = [] := by
    intro page
    unfold comparePage
    split
    · simp only
      split <;> rfl
    · rfl
  have properties : ∀ property, (compareProperty repr candidate property).improvements = [] := by
    intro property
    unfold compareProperty
    simp only
    split <;> rfl
  rw [comparison_eq noFailure returned, ← lines_measures (fun part => part.improvements)
    ComparisonLines.improvements_append fun _ => rfl]
  simp [List.flatMap_map, pages, properties]

end Listed

/-! ## The other way round -/

/-- The loops go through the same measures both ways. -/
theorem mem_measures_comm {measure : Measure} :
    measure ∈ measures text baseline candidate ↔ measure ∈ measures text candidate baseline := by
  unfold measures ruleMeasures scoreMeasures
  simp only [List.mem_append]
  refine or_congr (or_congr .rfl ?_) ?_
  · cases baseline.verapdf <;> cases candidate.verapdf
    · rfl
    · rfl
    · rfl
    · simp [or_comm]
  · cases baseline.ocrTruth <;> cases candidate.ocrTruth
    · rfl
    · rfl
    · rfl
    · simp [(perm_pagesByNumber _).mem_iff, and_comm]

theorem compareRule_improvements_iff {before after : Dict Text ℕ} {rule : Text} :
    (compareRule before after rule).improvements ≠ [] ↔
      (after.get? rule).getD 0 < (before.get? rule).getD 0 := by
  unfold compareRule
  simp only
  split
  · rename_i worse
    simp [worse.le]
  · split
    · rename_i better
      simp [better]
    · rename_i notBetter
      simp [notBetter]

/-- A number of a page has become better by more than is tolerated. -/
def Bettered (check : ScoreCheck ℚ) (before after : ℚ) : Prop :=
  check.tolerance < |after - before| ∧ decide (0 < after - before) ≠ check.higherIsWorse

theorem worsened_iff {check : ScoreCheck ℚ} {before after : ℚ} :
    Worsened (rationals text) check before after ↔
      check.tolerance < |after - before| ∧
        decide (0 < after - before) = check.higherIsWorse := by
  unfold Worsened rationals
  simp only [decide_eq_false_iff_not, not_le]

theorem scoreLines_improvements_iff {page : Text} {before after : ℚ} {check : ScoreCheck ℚ} :
    (scoreLines (rationals text) page check before after).improvements ≠ [] ↔
      Bettered check before after := by
  unfold scoreLines Bettered rationals
  simp only [decide_eq_true_iff]
  split
  · rename_i tolerated
    simp [tolerated]
  · rename_i exceeded
    split
    · rename_i worse
      exact iff_of_false (by simp) fun better => better.2 worse
    · rename_i better
      exact iff_of_true (by simp) ⟨not_le.mp exceeded, better⟩

theorem checkLines_improvements_iff {page : Text} {first second : Dict Text ℚ}
    {check : ScoreCheck ℚ} :
    (checkLines (rationals text) page first second check).improvements ≠ [] ↔
      ∃ old new, first.get? check.key = some old ∧ second.get? check.key = some new ∧
        Bettered check old new := by
  unfold checkLines
  cases first.get? check.key with
  | none => simp
  | some old =>
    cases second.get? check.key with
    | none => simp
    | some new => simpa using scoreLines_improvements_iff

theorem tolerance_nonneg {check : ScoreCheck ℚ} (isCheck : check ∈ scoreChecks (rationals text)) :
    0 ≤ check.tolerance := by
  have all : ∀ check ∈ scoreChecks (rationals text), 0 ≤ check.tolerance := by
    unfold scoreChecks rationals
    simp only [List.forall_mem_cons, List.not_mem_nil, false_implies, implies_true, and_true]
    norm_num
  exact all check isCheck

/-- A number that is worse the one way is better the other way. -/
theorem worsened_iff_bettered {check : ScoreCheck ℚ} {before after : ℚ}
    (isCheck : check ∈ scoreChecks (rationals text)) :
    Worsened (rationals text) check before after ↔ Bettered check after before := by
  rw [worsened_iff, Bettered, abs_sub_comm before]
  refine and_congr_right fun exceeded => ?_
  have changed : after - before ≠ 0 :=
    abs_pos.mp ((tolerance_nonneg isCheck).trans_lt exceeded)
  have turned : decide (0 < before - after) =
      !decide (0 < after - before) := by
    rw [← decide_not, decide_eq_decide, not_lt, sub_pos, sub_nonpos]
    exact ⟨le_of_lt, fun atMost => lt_of_le_of_ne atMost fun same => changed (sub_eq_zero.mpr same)⟩
  rw [turned, ne_eq, Bool.not_eq_eq_eq_not, Bool.not_eq_not]

theorem isCheck_of_mem_measures {page : Text} {check : ScoreCheck ℚ}
    (member : .score page check ∈ measures text baseline candidate) :
    check ∈ scoreChecks (rationals text) := by
  unfold measures ruleMeasures scoreMeasures at member
  simp only [List.mem_append] at member
  rcases member with (isTotal | isRule) | isScore
  · obtain ⟨key, -, other⟩ := List.mem_map.mp isTotal
    cases other
  · split at isRule
    · obtain ⟨name, -, other⟩ := List.mem_map.mp isRule
      cases other
    · cases isRule
  · split at isScore
    · obtain ⟨number, -, inner⟩ := List.mem_flatMap.mp isScore
      obtain ⟨other, isCheck, same⟩ := List.mem_map.mp inner
      cases same
      exact isCheck
    · cases isScore

/-- **The turn for a measure**: what it writes to the one list it writes to the other one
the other way round. -/
theorem turn_mirrored {measure : Measure} (member : measure ∈ measures text baseline candidate) :
    (measure.turn text baseline candidate).regressions ≠ [] ↔
      (measure.turn text candidate baseline).improvements ≠ [] := by
  cases measure with
  | total key =>
    unfold Measure.turn
    rw [compareTotal_regressions_iff, compareTotal_improvements_iff]
    constructor
    · rintro ⟨before, after, isBefore, isAfter, worse⟩
      exact ⟨after, before, isAfter, isBefore, worse⟩
    · rintro ⟨after, before, isAfter, isBefore, worse⟩
      exact ⟨before, after, isBefore, isAfter, worse⟩
  | rule name =>
    unfold Measure.turn
    cases baseline.verapdf with
    | none => cases candidate.verapdf <;> simp
    | some before =>
      cases candidate.verapdf with
      | none => simp
      | some after =>
        simp only
        rw [compareRule_regressions_iff, compareRule_improvements_iff]
  | score page check =>
    unfold Measure.turn
    cases baseline.ocrTruth with
    | none => cases candidate.ocrTruth <;> simp
    | some before =>
      cases candidate.ocrTruth with
      | none => simp
      | some after =>
        simp only
        cases before.get? page with
        | none => cases after.get? page <;> simp
        | some first =>
          cases after.get? page with
          | none => simp
          | some second =>
            simp only
            rw [checkLines_regressions_iff, checkLines_improvements_iff]
            have isCheck := isCheck_of_mem_measures member
            constructor
            · rintro ⟨old, new, isOld, isNew, worse⟩
              exact ⟨new, old, isNew, isOld, (worsened_iff_bettered isCheck).mp worse⟩
            · rintro ⟨new, old, isNew, isOld, better⟩
              exact ⟨old, new, isOld, isNew, (worsened_iff_bettered isCheck).mpr better⟩

theorem isRegression_iff_isImprovement {measure : Measure} :
    measure.IsRegression text baseline candidate ↔
      measure.IsImprovement text candidate baseline := by
  unfold Measure.IsRegression Measure.IsImprovement
  rw [@mem_measures_comm _ _ candidate]
  exact and_congr_right fun member => turn_mirrored member

/-- A turn writes to one of the lists only. -/
theorem turn_not_both {measure : Measure} :
    ¬ ((measure.turn text baseline candidate).regressions ≠ [] ∧
      (measure.turn text baseline candidate).improvements ≠ []) := by
  rintro ⟨worse, better⟩
  cases measure with
  -- A total that is better higher is not also better lower, so it moved one way only.
  | total key =>
    unfold Measure.turn at worse better
    obtain ⟨before, after, isBefore, isAfter, isWorse⟩ := compareTotal_regressions_iff.mp worse
    obtain ⟨before', after', isBefore', isAfter', isBetter⟩ :=
      compareTotal_improvements_iff.mp better
    obtain rfl : before = before' := Option.some.inj (isBefore.symm.trans isBefore')
    obtain rfl : after = after' := Option.some.inj (isAfter.symm.trans isAfter')
    have apart := @higher_not_lower key
    rcases isWorse with ⟨higher, more⟩ | ⟨lower, less⟩ <;>
      rcases isBetter with ⟨higher', less'⟩ | ⟨lower', more'⟩
    · omega
    · exact apart lower' higher
    · exact apart lower higher'
    · omega
  -- More failed checks and fewer at once is impossible.
  | rule name =>
    unfold Measure.turn at worse better
    cases isBefore : baseline.verapdf with
    | none => simp [isBefore] at worse
    | some before =>
      cases isAfter : candidate.verapdf with
      | none => simp [isBefore, isAfter] at worse
      | some after =>
        simp only [isBefore, isAfter] at worse better
        have isWorse := compareRule_regressions_iff.mp worse
        have isBetter := compareRule_improvements_iff.mp better
        omega
  -- Worse by more than the tolerance excludes being better.
  | score page check =>
    unfold Measure.turn at worse better
    cases isBefore : baseline.ocrTruth with
    | none => simp [isBefore] at worse
    | some before =>
      cases isAfter : candidate.ocrTruth with
      | none => simp [isBefore, isAfter] at worse
      | some after =>
        cases isFirst : before.get? page with
        | none => simp [isBefore, isAfter, isFirst] at worse
        | some first =>
          cases isSecond : after.get? page with
          | none => simp [isBefore, isAfter, isFirst, isSecond] at worse
          | some second =>
            simp only [isBefore, isAfter, isFirst, isSecond] at worse better
            obtain ⟨old, new, isOld, isNew, isWorse⟩ := checkLines_regressions_iff.mp worse
            obtain ⟨old', new', isOld', isNew', isBetter⟩ := checkLines_improvements_iff.mp better
            obtain rfl : old = old' := Option.some.inj (isOld.symm.trans isOld')
            obtain rfl : new = new' := Option.some.inj (isNew.symm.trans isNew')
            exact isBetter.2 (worsened_iff.mp isWorse).2

/-- A document property that differs is a regression, if both reports have the keys. -/
theorem property_mem_regressions [DecidableEq V] {comparison : Comparison}
    (noFailure : ¬ FailedStep baseline candidate)
    (returned : compareReports (rationals text) repr baseline candidate = .ok comparison)
    (sameKeys : ∀ key, key ∈ baseline.document.keys ↔ key ∈ candidate.document.keys) {key : Text}
    (differs : baseline.document.get? key ≠ candidate.document.get? key) :
    changeLine ("document ".toList ++ key) (repr (baseline.document.get? key).join)
      (repr (candidate.document.get? key).join) ∈ comparison.regressions := by
  rw [compareReports_regressions noFailure returned]
  refine List.mem_append_right _ (List.mem_flatMap.mpr ?_)
  have listed : key ∈ baseline.document.keys := by
    by_contra notListed
    have missing : ∀ report : Report ℚ V, key ∉ report.document.keys →
        report.document.get? key = none := fun report notKey =>
      Option.eq_none_iff_forall_ne_some.mpr fun value found => notKey (Dict.mem_keys_of_get? found)
    exact differs ((missing _ notListed).trans
      (missing _ fun inCandidate => notListed ((sameKeys key).mpr inCandidate)).symm)
  -- Both have the key, so neither value is that of a missing one.
  obtain ⟨after, isAfter⟩ := Dict.exists_get?_of_mem_keys ((sameKeys key).mp listed)
  obtain ⟨property, isProperty, rfl⟩ := List.mem_map.mp listed
  have value := Dict.get?_eq_some_iff.mpr isProperty
  refine ⟨property, isProperty, ?_⟩
  rw [value, isAfter] at differs ⊢
  unfold compareProperty
  rw [isAfter]
  simp only [Option.join_some]
  rw [if_neg fun same => differs (congrArg some same)]
  exact List.mem_singleton_self _

/-- No measure is written to the changes of the pages. -/
theorem turn_pageChanges {measure : Measure} :
    (measure.turn text baseline candidate).pageChanges = [] := by
  cases measure with
  | total key =>
    unfold Measure.turn compareTotal
    simp only
    repeat' split
    all_goals rfl
  | rule name =>
    unfold Measure.turn compareRule
    simp only
    repeat' split
    all_goals rfl
  | score page check =>
    unfold Measure.turn checkLines scoreLines
    simp only
    repeat' split
    all_goals rfl

/-- A page that is as it was has no changes. -/
theorem pageChanges_self (page : PageEntry) : pageChanges page page = [] := by
  unfold pageChanges pageChange
  simp

/-- **A report compared with itself** is no worse, no better and not changed. -/
theorem compareReports_self [DecidableEq V] {report : Report ℚ V} {itself : Comparison}
    (returned : compareReports (rationals text) repr report report = .ok itself) :
    itself.regressions = [] ∧ itself.improvements = [] ∧ itself.pageChanges = [] := by
  by_cases failed : FailedStep report report
  · unfold compareReports at returned
    rw [if_pos (failedSide_iff.mpr failed)] at returned
    obtain rfl := Except.ok.inj returned
    exact ⟨rfl, rfl, rfl⟩
  · have noTurn : ∀ measure ∈ measures text report report,
        (measure.turn text report report).regressions = [] ∧
          (measure.turn text report report).improvements = [] := by
      intro measure member
      have mirrored := turn_mirrored member
      have notBoth : ¬ ((measure.turn text report report).regressions ≠ [] ∧
          (measure.turn text report report).improvements ≠ []) := turn_not_both
      tauto
    have noProperty : ∀ property ∈ report.document.entries,
        (compareProperty repr report property).regressions = [] := by
      intro property listed
      unfold compareProperty
      rw [Dict.get?_eq_some_iff.mpr listed]
      simp only [Option.join_some, if_true]
    refine ⟨?_, ?_, ?_⟩
    · rw [compareReports_regressions failed returned, List.append_eq_nil_iff,
        List.flatMap_eq_nil_iff, List.flatMap_eq_nil_iff]
      exact ⟨fun measure member => (noTurn measure member).1, noProperty⟩
    · rw [compareReports_improvements failed returned, List.flatMap_eq_nil_iff]
      exact fun measure member => (noTurn measure member).2
    · have noPage : ∀ page, (comparePage report report page).pageChanges = [] := by
        intro page
        unfold comparePage
        cases report.pages.get? page with
        | none => rfl
        | some entry => simp [pageChanges_self]
      have noPropertyPage : ∀ property,
          (compareProperty repr report property).pageChanges = [] := by
        intro property
        unfold compareProperty
        simp only
        split <;> rfl
      rw [comparison_eq failed returned]
      simp only [ComparisonLines.pageChanges_append _ (.joined _)]
      rw [lines_measures (fun part => part.pageChanges)
        ComparisonLines.pageChanges_append fun _ => rfl]
      simp [List.flatMap_map, turn_pageChanges, noPage, noPropertyPage]

/-- **A comparison the other way round**, of two reports without a failed step that have
the same document properties, and that are readable both ways.  It returns both ways.  Its
lists are what the measures write to them, and the document properties that differ; a
measure is a regression the one way if and only if it is an improvement the other way, and
never both; a document property that differs is a regression both ways.  No report is
worse, better or changed when it is compared with itself. -/
theorem comparison_antisymmetric [DecidableEq V] (text : ℚ → Text) (repr : Option V → Text) :
    (∀ A B : Report ℚ V, A.failedSteps = [] → B.failedSteps = [] →
      (∀ key, key ∈ A.document.keys ↔ key ∈ B.document.keys) →
      Readable A B → Readable B A →
      ∃ forth back : Comparison,
        compareReports (rationals text) repr A B = .ok forth ∧
        compareReports (rationals text) repr B A = .ok back ∧
        forth.regressions =
          (measures text A B).flatMap (fun measure => (measure.turn text A B).regressions) ++
            A.document.entries.flatMap (fun property =>
              (compareProperty repr B property).regressions) ∧
        forth.improvements =
          (measures text A B).flatMap (fun measure => (measure.turn text A B).improvements) ∧
        (∀ measure : Measure, measure.IsRegression text A B ↔ measure.IsImprovement text B A) ∧
        (∀ measure : Measure,
          ¬ (measure.IsRegression text A B ∧ measure.IsImprovement text A B)) ∧
        ∀ key, A.document.get? key ≠ B.document.get? key →
          changeLine ("document ".toList ++ key) (repr (A.document.get? key).join)
            (repr (B.document.get? key).join) ∈ forth.regressions ∧
          changeLine ("document ".toList ++ key) (repr (B.document.get? key).join)
            (repr (A.document.get? key).join) ∈ back.regressions) ∧
    ∀ R : Report ℚ V,
      (Readable R R → ∃ itself, compareReports (rationals text) repr R R = .ok itself) ∧
      ∀ itself, compareReports (rationals text) repr R R = .ok itself →
        itself.regressions = [] ∧ itself.improvements = [] ∧ itself.pageChanges = [] := by
  refine ⟨fun A B first second sameKeys forthReadable backReadable => ?_, fun R =>
    ⟨fun readable => ?_, fun itself => compareReports_self⟩⟩
  · have noFailure : ¬ FailedStep A B := fun failed => failed.elim (· first) (· second)
    have noFailureBack : ¬ FailedStep B A := fun failed => failed.elim (· second) (· first)
    -- Both directions return, as neither side failed and all that is looked up is there.
    have forth := @compareReports_ok _ _ (rationals text) repr _ _ _ noFailure forthReadable
    have back := @compareReports_ok _ _ (rationals text) repr _ _ _ noFailureBack backReadable
    exact ⟨_, _, forth, back, compareReports_regressions noFailure forth,
      compareReports_improvements noFailure forth, fun measure => isRegression_iff_isImprovement,
      fun measure both => turn_not_both ⟨both.1.2, both.2.2⟩, fun key differs =>
        ⟨property_mem_regressions noFailure forth sameKeys differs,
          property_mem_regressions noFailureBack back (fun key => (sameKeys key).symm)
            differs.symm⟩⟩
  -- A report with a failed step is compared with itself as well: the failure is the whole result.
  · by_cases failed : FailedStep R R
    · unfold compareReports
      rw [if_pos (failedSide_iff.mpr failed)]
      exact ⟨_, rfl⟩
    · exact ⟨_, compareReports_ok failed readable⟩

section Directions

/-- A report with so many headings, in this language. -/
private def headingsReport (headings : ℕ) (language : String) : Report ℚ Text where
  failedSteps := []
  totals := .single "headings".toList headings
  verapdf := none
  ocrTruth := some (.single "1".toList (PageScore.toDict ⟨1 / 50, 1 / 50, 0, 0, 0, 0, 1⟩))
  document := .single "language".toList (some language.toList)
  pages := .single "1".toList ⟨200, [1, 2], [], 0, 0, "9f2c".toList⟩

private theorem readable_headingsReport {headings headings' : ℕ} {language language' : String} :
    Readable (headingsReport headings language) (headingsReport headings' language') where
  pages := by
    intro page member
    obtain rfl := List.mem_singleton.mp member
    decide
  scores := by
    rintro _ _ ⟨⟩ ⟨⟩ page first second isFirst isSecond
    obtain ⟨rfl, rfl⟩ := Prod.mk.inj (List.mem_singleton.mp (Dict.get?_eq_some_iff.mp isFirst))
    obtain ⟨-, rfl⟩ := Prod.mk.inj (List.mem_singleton.mp (Dict.get?_eq_some_iff.mp isSecond))
    exact ⟨by decide, scored_toDict _ _⟩

/-- An instance: fewer headings are worse one way and better the other, and another
language is worse both ways. -/
theorem comparison_antisymmetric_headings :
    (Measure.total "headings".toList).IsImprovement (fun _ => [])
        (headingsReport 3 "en") (headingsReport 5 "de") ∧
      ∃ forth, compareReports (rationals fun _ => []) (fun value => value.getD [])
          (headingsReport 5 "de") (headingsReport 3 "en") = .ok forth ∧
        changeLine ("document ".toList ++ "language".toList) "de".toList "en".toList ∈
          forth.regressions := by
  have keys : ∀ headings language,
      (headingsReport headings language).document.keys = ["language".toList] := fun _ _ => rfl
  obtain ⟨forth, _, returned, -, -, -, mirrored, -, properties⟩ :=
    (@comparison_antisymmetric Text _ (fun _ => []) (fun value => value.getD [])).1
      (headingsReport 5 "de") (headingsReport 3 "en") rfl rfl (fun key => by rw [keys, keys])
      readable_headingsReport readable_headingsReport
  have differs : "de".toList ≠ "en".toList := by decide
  refine ⟨(mirrored _).mp ⟨?_, compareTotal_regressions_iff.mpr ?_⟩, forth, returned,
    (properties "language".toList fun same =>
      differs (Option.some.inj (Option.some.inj same))).1⟩
  · refine List.mem_append_left _ (List.mem_append_left _ (List.mem_map_of_mem ?_))
    exact List.mem_append_left _ (List.mem_append_right _ List.mem_cons_self)
  · exact ⟨5, 3, rfl, rfl, .inr ⟨List.mem_cons_self, by decide⟩⟩

end Directions

end DicePipeline
