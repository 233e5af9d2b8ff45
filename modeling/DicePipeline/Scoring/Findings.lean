import DicePipeline.Scoring.Score
import DicePipeline.Scoring.Visits

/-!
# What an assessment finds

`_assess` fills in `issues` one check after the other, and every check is caught: one that
raises leaves what the checks before it have found, and the keys of those after it as they
were.  So what comes out may be the half of an assessment.  It is coherent all the same
(`assess_coherent`): a key that counts some of another one counts no more than that one,
and what is listed as an issue is one.

### What is load-bearing

The score does not depend on which checks have raised beyond that.  In a file without a
structure tree there is nothing that could lack its alternative text or its headers, and
in one with a tree the largest deduction but one is not taken.  That lifts the bound which
`score_is_what_is_left` has for any issues whatever, from 3 points to 19
(`score_assess`).
-/

namespace DicePipeline.Scoring

open Pdf

/-! ## Coherent findings -/

/-- What the checks of pages and form have found hangs together. -/
structure Surface.Coherent (surface : Surface) : Prop where
  /-- The fields without a tooltip are some of the fields. -/
  tooltips : surface.formFieldsWithoutTooltips ≤ surface.formFieldsCount
  fields : surface.hasForms = false → surface.formFieldsCount = 0
  fonts : surface.unembeddedFonts.Nodup
  /-- The fonts that every reader has are none of those that should be embedded. -/
  embedded : ∀ base ∈ surface.unembeddedFonts, base ∉ base14Fonts
  links : ∀ text ∈ surface.vagueLinks, isVague text.toList = true

/-- And so has what all the checks have found. -/
structure Issues.Coherent (issues : Issues) : Prop where
  surface : issues.toSurface.Coherent
  untagged : issues.hasStructureTree = false →
    issues.imagesWithoutAlt = 0 ∧ issues.tablesWithoutHeaders = 0 ∧ issues.hasTables = false
  tables : 0 < issues.tablesWithoutHeaders → issues.hasTables = true
  /-- A file of which no page is read has no text, and what headings it has are tagged. -/
  unread : issues.pageCount = 0 → issues.hasTextLayer = false ∧
    (issues.hasHeadings = true → issues.hasStructureTree = true)

variable {doc : Document} {levels : ℕ} {scan : FontScan} {pages : List ℕ}

/-! ## The text -/

/-- Where no page is read, the text shows nothing. -/
theorem assessText_unread {fitz : Option FitzDocument} (none : (assessText fitz).1 = 0) :
    (assessText fitz).2.1 = false ∧ (assessText fitz).2.2.2 = false := by
  cases fitz with
  | none => exact ⟨rfl, rfl⟩
  | some fitzDoc =>
    have empty : fitzDoc.pageCount = 0 := by
      unfold assessText at none
      dsimp only at none
      split at none
      · exact none
      · split at none <;> exact none
    have noTexts : (List.range (min 5 fitzDoc.pageCount)).mapM fitzDoc.getText = some [] := by
      rw [empty]
      rfl
    unfold assessText
    simp only [noTexts]
    cases fitzDoc.getToc <;> exact ⟨rfl, rfl⟩

/-! ## Fonts, fields and links -/

/-- The fonts listed so far are listed once, were seen, and are none of the fourteen. -/
structure FontScan.Coherent (scan : FontScan) : Prop where
  nodup : scan.unembedded.Nodup
  seen : ∀ base ∈ scan.unembedded, base ∈ scan.seenBases
  embedded : ∀ base ∈ scan.unembedded, base ∉ base14Fonts

theorem scanFont_coherent {fonts : Value} (coherent : scan.Coherent) (fontKey : String) :
    (scanFont doc fonts scan fontKey).Coherent := by
  unfold scanFont
  split
  · exact coherent
  · rename_i font _
    split
    · exact coherent
    · dsimp only
      split
      · exact coherent
      · rename_i unseen
        refine ⟨?_, ?_, ?_⟩ <;> dsimp only <;> split
        · refine List.nodup_append.mpr ⟨coherent.nodup, List.nodup_singleton _, ?_⟩
          rintro base listed _ isNew rfl
          exact unseen (List.mem_singleton.mp isNew ▸ coherent.seen base listed)
        · exact coherent.nodup
        · intro base listed
          rcases List.mem_append.mp listed with old | isNew
          · exact List.mem_cons_of_mem _ (coherent.seen base old)
          · exact List.mem_cons.mpr (.inl (List.mem_singleton.mp isNew))
        · exact fun base old => List.mem_cons_of_mem _ (coherent.seen base old)
        · rename_i bare
          intro base listed
          rcases List.mem_append.mp listed with old | isNew
          · exact coherent.embedded base old
          · obtain rfl := List.mem_singleton.mp isNew
            simp only [Bool.and_eq_true, Bool.not_eq_true'] at bare
            simpa using bare.2
        · exact coherent.embedded

/-- The scan keeps it, wherever it ends. -/
theorem scanFonts_coherent (coherent : scan.Coherent) : (scanFonts doc pages scan).1.Coherent := by
  induction pages generalizing scan with
  | nil => exact coherent
  | cons page rest ih =>
    rw [scanFonts]
    split
    · exact coherent
    · exact ih coherent
    · split
      · exact coherent
      · rename_i names _
        exact ih (List.foldlRecOn names _ coherent fun _ kept fontKey _ =>
          scanFont_coherent kept fontKey)

/-- No more fields lack a tooltip than there are. -/
theorem countFields_le (doc : Document) (levels : ℕ) (fields : Value) :
    (countFields doc levels fields).2 ≤ (countFields doc levels fields).1 := by
  induction levels generalizing fields with
  | zero => exact Nat.le_refl 0
  | succ levels ih =>
    rw [countFields]
    refine List.foldlRecOn _ _ (motive := fun count : ℕ × ℕ => count.2 ≤ count.1)
      (Nat.le_refl 0) fun count fewer item _ => ?_
    split
    · exact fewer
    · have own : ∀ isField lacks : Bool,
          (if isField then (1, if lacks then 1 else 0) else (0, 0) : ℕ × ℕ).2 ≤
            (if isField then (1, if lacks then 1 else 0) else (0, 0) : ℕ × ℕ).1 := by
        decide
      refine Nat.add_le_add (Nat.add_le_add fewer (own _ _)) ?_
      cases doc.get item "/Kids" with
      | none => exact Nat.le_refl 0
      | some kids => exact ih kids

/-- What is listed is vague. -/
theorem isVague_of_mem_scanLinks {text : String} (listed : text ∈ scanLinks doc pages) :
    isVague text.toList = true := by
  have own : ∀ annot, vagueOf doc annot = some text → isVague text.toList = true := by
    intro annot found
    unfold vagueOf at found
    dsimp only at found
    split at found
    · split at found
      · rename_i vague
        obtain rfl := Option.some.inj found
        rw [String.toList_ofList]
        exact vague
      · cases found
    · cases found
  induction pages with
  | nil => cases listed
  | cons page rest ih =>
    rw [scanLinks] at listed
    split at listed
    · exact ih listed
    · split at listed
      · rcases List.mem_append.mp listed with onPage | later
        · obtain ⟨annot, -, found⟩ := List.mem_filterMap.mp onPage
          exact own annot found
        · exact ih later
      · split at listed
        · exact ih listed
        · cases listed

/-! ## All of them -/

theorem assessSurface_coherent (isSubstantive : Value → Bool) (levels : ℕ) (doc : Document) :
    (assessSurface isSubstantive levels doc).Coherent := by
  have scanned : (scanFonts doc doc.pages ⟨[], []⟩).1.Coherent :=
    scanFonts_coherent ⟨List.nodup_nil, fun _ none => (nomatch none), fun _ none => (nomatch none)⟩
  have vague : ∀ text ∈ scanLinks doc doc.pages, isVague text.toList = true :=
    fun _ => isVague_of_mem_scanLinks
  unfold assessSurface
  dsimp only
  split
  · exact ⟨Nat.le_refl 0, fun _ => rfl, List.nodup_nil, fun _ none => (nomatch none),
      fun _ none => (nomatch none)⟩
  · split
    · exact ⟨Nat.le_refl 0, fun _ => rfl, scanned.nodup, scanned.embedded,
        fun _ none => (nomatch none)⟩
    · split
      · exact ⟨Nat.le_refl 0, fun _ => rfl, scanned.nodup, scanned.embedded, vague⟩
      · split
        · exact ⟨Nat.le_refl 0, fun _ => rfl, scanned.nodup, scanned.embedded,
            fun _ none => (nomatch none)⟩
        · refine ⟨?_, fun noForms => (nomatch noForms), scanned.nodup, scanned.embedded, vague⟩
          dsimp only
          split
          · exact Nat.le_refl 0
          · exact countFields_le doc levels _

/-- **Whatever an assessment finds is coherent**, whichever of its checks have raised. -/
theorem assess_coherent (fitz : Option FitzDocument) (isSubstantive : Value → Bool) (levels : ℕ)
    (doc : Document) : (assess fitz isSubstantive levels doc).Coherent where
  surface := assessSurface_coherent isSubstantive levels doc
  untagged := by
    intro untagged
    have noRoot : doc.get (.object doc.catalog) "/StructTreeRoot" = none :=
      Option.not_isSome_iff_eq_none.mp (Bool.eq_false_iff.mp untagged)
    have start : ∀ hasHeadings, assessTree doc hasHeadings = ⟨hasHeadings, false, 0, 0⟩ := by
      intro hasHeadings
      unfold assessTree
      rw [noRoot]
    exact ⟨congrArg TreeIssues.imagesWithoutAlt (start _),
      congrArg TreeIssues.tablesWithoutHeaders (start _), congrArg TreeIssues.hasTables (start _)⟩
  tables := by
    intro some
    replace some : 0 < (assessTree doc (assessText fitz).2.2.2).tablesWithoutHeaders := some
    show (assessTree doc (assessText fitz).2.2.2).hasTables = true
    rw [assessTree_eq] at some ⊢
    obtain ⟨elem, member, isTable⟩ := List.countP_pos_iff.mp some
    exact List.any_eq_true.mpr ⟨elem, member, (Bool.and_eq_true_iff.mp isTable).1⟩
  unread := by
    intro unread
    obtain ⟨noLayer, noHeading⟩ := assessText_unread unread
    refine ⟨noLayer, fun headings => ?_⟩
    replace headings : (assessTree doc (assessText fitz).2.2.2).hasHeadings = true := headings
    show (doc.get (.object doc.catalog) "/StructTreeRoot").isSome = true
    rw [noHeading] at headings
    unfold assessTree at headings
    split at headings
    · cases headings
    · rename_i isRoot
      rw [isRoot]
      rfl

/-- **The score of a file.**  It is from 19 to 95: a file with a structure tree is not
charged for having none, and one without is charged for nothing in it. -/
theorem score_assess (fitz : Option FitzDocument) (isSubstantive : Value → Bool) (levels : ℕ)
    (doc : Document) : 19 ≤ (score (assess fitz isSubstantive levels doc)).1 ∧
      (score (assess fitz isSubstantive levels doc)).1 ≤ 95 := by
  have coherent := assess_coherent fitz isSubstantive levels doc
  generalize assess fitz isSubstantive levels doc = issues at coherent
  obtain ⟨-, -, -, -, -, -, most, -⟩ := score_is_what_is_left issues issues.pageCount
  refine ⟨?_, most⟩
  -- The deductions that can be taken together come to 81 points at most.
  have spared : ∃ fewer : List Deduction, List.Sublist (raised issues issues.pageCount) fewer ∧
      (fewer.map Deduction.points).sum ≤ 81 := by
    cases tagged : issues.hasStructureTree with
    | true =>
      refine ⟨deductions.filter (· ≠ .noStructureTree), ?_, by decide⟩
      refine List.monotone_filter_right _ fun key taken => ?_
      have other : key ≠ .noStructureTree := by
        rintro rfl
        simp [isRaised, tagged] at taken
      simpa using other
    | false =>
      obtain ⟨noImages, noTables, -⟩ := coherent.untagged tagged
      refine ⟨deductions.filter (fun key => key ≠ .missingAltText ∧ key ≠ .complexTables), ?_,
        by decide⟩
      refine List.monotone_filter_right _ fun key taken => ?_
      have notImages : key ≠ .missingAltText := by
        rintro rfl
        simp [isRaised, noImages] at taken
      have notTables : key ≠ .complexTables := by
        rintro rfl
        simp [isRaised, noTables] at taken
      simpa using ⟨notImages, notTables⟩
  obtain ⟨fewer, sublist, points⟩ := spared
  have within := (sum_points_le sublist).trans points
  unfold score
  rw [score_eq]
  show 19 ≤ 100 - _
  omega

end DicePipeline.Scoring
