import DicePipeline.Scoring.Assess
import Mathlib.Algebra.BigOperators.Group.List.Basic
import Mathlib.Algebra.Ring.Int.Defs

/-!
# Points and grades (`_score_document`)

The score is a hundred less the deductions of the issues that are raised, one
line for the person who reviews the document for each of them
(`score_is_what_is_left`).  All deductions together come to 97 points and the one
for contrast is always taken, so the score is never above 95, and never below 3:
`max(0, score)` changes nothing.  Documents that differ in one deduction have
scores that differ by its points (`score_add_points`).
-/

namespace DicePipeline.Scoring

/-- The keys of `DEDUCTIONS`, in the order `_score_document` looks at them. -/
inductive Deduction where
  | noStructureTree
  | noTextLayer
  | missingAltText
  | formNoTooltips
  | missingHeadings
  | missingBookmarks
  | unembeddedFonts
  | vagueHyperlinks
  | colorContrast
  | complexTables
  deriving DecidableEq, Repr

/-- `DEDUCTIONS`. -/
def Deduction.points : Deduction → ℤ
  | noStructureTree => 18
  | noTextLayer => 20
  | missingAltText => 12
  | formNoTooltips => 10
  | missingHeadings => 10
  | missingBookmarks => 6
  | unembeddedFonts => 6
  | vagueHyperlinks => 6
  | colorContrast => 5
  | complexTables => 4

/-- `GRADE_THRESHOLDS`. -/
def gradeThresholds : List (ℤ × String) := [(90, "A"), (75, "B"), (60, "C"), (40, "D"), (0, "F")]

/-- `score` and `manual_items`. -/
structure Tally where
  score : ℤ
  manualItems : List String
  deriving DecidableEq, Repr

/-- One `if` of `_score_document`. -/
def deduct (condition : Bool) (key : Deduction) (item : String) (tally : Tally) : Tally :=
  if condition then ⟨tally.score - key.points, tally.manualItems ++ [item]⟩ else tally

/-- The fonts, as their line names them. -/
def fontList (unembedded : List String) : String :=
  ", ".intercalate (unembedded.take 3) ++ if 3 < unembedded.length then "…" else ""

/-- The line of an issue. -/
def manualItem (issues : Issues) (pageCount : ℕ) : Deduction → String
  | .noStructureTree => "Structure tree missing: open in Acrobat Pro " ++
      "→ Tools → Accessibility → Autotag Document (for full MCID tagging)"
  | .noTextLayer => "No text layer: open in Acrobat Pro " ++
      "→ Tools → Scan & OCR → Recognize Text → In This File"
  | .missingAltText => toString issues.imagesWithoutAlt ++
      " image(s) still missing alt text: open in Acrobat Pro " ++
      "→ Tags panel → right-click each Figure element → Properties → Alt Text"
  | .formNoTooltips => toString issues.formFieldsWithoutTooltips ++
      " form field(s) still missing tooltip text: open in Acrobat Pro " ++
      "→ Tools → Prepare Form → right-click each field → Properties → Tooltip"
  | .missingHeadings => "No heading structure detected: open in Acrobat Pro " ++
      "→ Tags panel → re-tag content using H1/H2/H3 structure elements"
  | .missingBookmarks => "No bookmarks on " ++ toString pageCount ++
      "-page document: open in Acrobat Pro " ++
      "→ Tools → Edit PDF → Bookmarks → New Bookmark from Structure"
  | .unembeddedFonts => "Possibly unembedded fonts (" ++ fontList issues.unembeddedFonts ++
      "): open in Acrobat Pro → Tools → Print Production → Preflight → Embed fonts profile"
  | .vagueHyperlinks => "Vague hyperlink text detected: review links with text like 'click here', " ++
      "'here', or 'read more' — replace with descriptive anchor text"
  | .colorContrast => "Color contrast issue detected: confirm 4.5:1 minimum " ++
      "ratio using Acrobat Accessibility Checker or the free Color Contrast Analyzer tool"
  | .complexTables => toString issues.tablesWithoutHeaders ++
      " table(s) still need header review: open in Acrobat Pro " ++
      "→ Tags panel → verify TH/TD structure and /Scope on header cells"

/-- The condition of an `if`. -/
def isRaised (issues : Issues) (pageCount : ℕ) : Deduction → Bool
  | .noStructureTree => !issues.hasStructureTree
  | .noTextLayer => !issues.hasTextLayer
  | .missingAltText => 0 < issues.imagesWithoutAlt && issues.hasImages
  | .formNoTooltips => 0 < issues.formFieldsWithoutTooltips
  | .missingHeadings => !issues.hasHeadings && 10 < pageCount
  | .missingBookmarks => !issues.hasBookmarks && 9 < pageCount
  | .unembeddedFonts => !issues.unembeddedFonts.isEmpty
  | .vagueHyperlinks => !issues.vagueLinks.isEmpty
  | .colorContrast => true
  | .complexTables => 0 < issues.tablesWithoutHeaders

/-- The `if`s of `_score_document`, in their order. -/
def deductions : List Deduction :=
  [.noStructureTree, .noTextLayer, .missingAltText, .formNoTooltips, .missingHeadings,
    .missingBookmarks, .unembeddedFonts, .vagueHyperlinks, .colorContrast, .complexTables]

/-- The letter of a score. -/
def gradeOf (score : ℤ) : String :=
  ((gradeThresholds.find? fun threshold => threshold.1 ≤ score).map Prod.snd).getD "F"

/-- `_score_document`: the score, the grade and `manual_review_items`. -/
def scoreDocument (issues : Issues) (pageCount : ℕ) : ℤ × String × List String :=
  let tally := deductions.foldl
    (fun tally key => deduct (isRaised issues pageCount key) key (manualItem issues pageCount key)
      tally) ⟨100, []⟩
  let score := max 0 tally.score
  (score, gradeOf score, tally.manualItems)

/-- `score`, once the file is assessed. -/
def score (issues : Issues) : ℤ × String × List String := scoreDocument issues issues.pageCount

/-! ## What is left of a hundred -/

/-- The deductions that are taken. -/
def raised (issues : Issues) (pageCount : ℕ) : List Deduction :=
  deductions.filter (isRaised issues pageCount)

variable {issues other : Issues} {pageCount : ℕ} {keys : List Deduction} {key : Deduction}

theorem foldl_deduct (tally : Tally) :
    keys.foldl (fun tally key =>
        deduct (isRaised issues pageCount key) key (manualItem issues pageCount key) tally) tally =
      ⟨tally.score - ((keys.filter (isRaised issues pageCount)).map Deduction.points).sum,
        tally.manualItems ++
          (keys.filter (isRaised issues pageCount)).map (manualItem issues pageCount)⟩ := by
  induction keys generalizing tally with
  | nil => simp
  | cons key rest ih =>
    rw [List.foldl_cons, ih]
    cases taken : isRaised issues pageCount key with
    | false => simp [deduct, taken]
    | true =>
      simp only [deduct, taken, if_true, List.filter_cons_of_pos, List.map_cons, List.sum_cons,
        List.append_assoc, List.singleton_append, Tally.mk.injEq, and_true]
      omega

theorem points_nonneg (key : Deduction) : 0 ≤ key.points := by
  cases key <;> decide

/-- Fewer deductions are fewer points. -/
theorem sum_points_le {fewer : List Deduction} (sublist : List.Sublist fewer keys) :
    (fewer.map Deduction.points).sum ≤ (keys.map Deduction.points).sum := by
  induction sublist with
  | slnil => exact Int.le_refl _
  | cons key _ ih =>
    rw [List.map_cons, List.sum_cons]
    have := points_nonneg key
    omega
  | cons_cons key _ ih =>
    rw [List.map_cons, List.map_cons, List.sum_cons, List.sum_cons]
    omega

theorem raised_sublist (issues : Issues) (pageCount : ℕ) :
    List.Sublist (raised issues pageCount) deductions := List.filter_sublist

/-- The deduction for contrast is always taken. -/
theorem contrast_sublist (issues : Issues) (pageCount : ℕ) :
    List.Sublist [.colorContrast] (raised issues pageCount) := by
  rw [List.singleton_sublist]
  exact List.mem_filter.mpr ⟨by decide, rfl⟩

theorem score_eq (issues : Issues) (pageCount : ℕ) : scoreDocument issues pageCount =
    (100 - ((raised issues pageCount).map Deduction.points).sum,
      gradeOf (100 - ((raised issues pageCount).map Deduction.points).sum),
      (raised issues pageCount).map (manualItem issues pageCount)) := by
  have most := sum_points_le (raised_sublist issues pageCount)
  have all : (deductions.map Deduction.points).sum = 97 := by decide
  have whole : max 0 (100 - ((raised issues pageCount).map Deduction.points).sum) =
      100 - ((raised issues pageCount).map Deduction.points).sum := by
    omega
  unfold scoreDocument
  rw [foldl_deduct]
  simp only [List.nil_append]
  rw [show deductions.filter (isRaised issues pageCount) = raised issues pageCount from rfl, whole]

/-- Where no more issues are raised, the score is no lower. -/
theorem score_le_of_raised {before after : Issues} {pageCount : ℕ}
    (fewer : ∀ key, isRaised after pageCount key = true → isRaised before pageCount key = true) :
    (scoreDocument before pageCount).1 ≤ (scoreDocument after pageCount).1 := by
  have sublist : List.Sublist (raised after pageCount) (raised before pageCount) :=
    List.monotone_filter_right _ fewer
  have points := sum_points_le sublist
  rw [score_eq, score_eq]
  show 100 - _ ≤ 100 - _
  omega

/-- The bounds of a grade. -/
theorem gradeOf_iff (points : ℤ) (nonneg : 0 ≤ points) :
    (gradeOf points = "A" ↔ 90 ≤ points) ∧
      (gradeOf points = "B" ↔ 75 ≤ points ∧ points < 90) ∧
      (gradeOf points = "C" ↔ 60 ≤ points ∧ points < 75) ∧
      (gradeOf points = "D" ↔ 40 ≤ points ∧ points < 60) ∧
      (gradeOf points = "F" ↔ points < 40) := by
  unfold gradeOf gradeThresholds
  simp only [List.find?_cons]
  by_cases a : 90 ≤ points
  · simp [a]
    omega
  by_cases b : 75 ≤ points
  · simp [a, b]
    omega
  by_cases c : 60 ≤ points
  · simp [a, b, c]
    omega
  by_cases d : 40 ≤ points
  · simp [a, b, c, d]
    omega
  · simp [a, b, c, d, nonneg]
    omega

/-- **What a score is.**  A hundred less the deductions of the issues that are raised,
each taken once, with one line for each in their order.  It is from 3 to 95, and the
grade is the one whose bounds it is within. -/
theorem score_is_what_is_left (issues : Issues) (pageCount : ℕ) :
    ∃ taken : List Deduction, taken.Nodup ∧ (∀ key, key ∈ taken ↔ isRaised issues pageCount key = true) ∧
      (scoreDocument issues pageCount).1 + (taken.map Deduction.points).sum = 100 ∧
      (scoreDocument issues pageCount).2.2 = taken.map (manualItem issues pageCount) ∧
      3 ≤ (scoreDocument issues pageCount).1 ∧ (scoreDocument issues pageCount).1 ≤ 95 ∧
      ((scoreDocument issues pageCount).2.1 = "F" ↔ (scoreDocument issues pageCount).1 < 40) ∧
      ((scoreDocument issues pageCount).2.1 = "A" ↔ 90 ≤ (scoreDocument issues pageCount).1) := by
  have most := sum_points_le (raised_sublist issues pageCount)
  have least := sum_points_le (contrast_sublist issues pageCount)
  have all : (deductions.map Deduction.points).sum = 97 := by decide
  have contrast : ([Deduction.colorContrast].map Deduction.points).sum = 5 := by decide
  refine ⟨raised issues pageCount, ?_, ?_, ?_⟩
  · exact (show deductions.Nodup by decide).sublist (raised_sublist issues pageCount)
  · intro key
    unfold raised
    rw [List.mem_filter]
    exact and_iff_right (by cases key <;> decide)
  · rw [score_eq]
    have bounds := gradeOf_iff (100 - ((raised issues pageCount).map Deduction.points).sum)
      (by omega)
    refine ⟨by omega, rfl, by omega, by omega, bounds.2.2.2.2, bounds.1⟩

/-! ## One deduction more or less -/

/-- Deductions that two documents agree on come to the same points. -/
private theorem sum_points_but (agree : ∀ other', other' ≠ key →
      isRaised issues pageCount other' = isRaised other pageCount other') (nodup : keys.Nodup) :
    ((keys.filter (isRaised issues pageCount)).map Deduction.points).sum +
        (if key ∈ keys ∧ isRaised other pageCount key = true then key.points else 0) =
      ((keys.filter (isRaised other pageCount)).map Deduction.points).sum +
        if key ∈ keys ∧ isRaised issues pageCount key = true then key.points else 0 := by
  induction keys with
  | nil => simp
  | cons first rest ih =>
    obtain ⟨isNew, nodup⟩ := List.nodup_cons.mp nodup
    have inRest := ih nodup
    by_cases isKey : first = key
    · subst isKey
      simp only [isNew, false_and, if_false, Int.add_zero] at inRest
      rw [List.filter_cons, List.filter_cons]
      cases isRaised issues pageCount first <;> cases isRaised other pageCount first <;>
        simp <;> omega
    · rw [List.filter_cons, List.filter_cons, agree first isKey]
      simp only [List.mem_cons, Ne.symm isKey, false_or]
      cases isRaised other pageCount first with
      | true =>
        simp only [if_true, List.map_cons, List.sum_cons]
        omega
      | false =>
        simp only [Bool.false_eq_true, if_false]
        omega

/-- **Where two documents differ in one deduction**, their scores differ by its points. -/
theorem score_add_points (agree : ∀ other', other' ≠ key →
    isRaised issues pageCount other' = isRaised other pageCount other') :
    (scoreDocument issues pageCount).1 +
        (if isRaised issues pageCount key = true then key.points else 0) =
      (scoreDocument other pageCount).1 +
        if isRaised other pageCount key = true then key.points else 0 := by
  have member : key ∈ deductions := by cases key <;> decide
  have sums := sum_points_but agree (show deductions.Nodup by decide)
  simp only [member, true_and] at sums
  rw [score_eq, score_eq]
  unfold raised
  dsimp only
  omega

end DicePipeline.Scoring
