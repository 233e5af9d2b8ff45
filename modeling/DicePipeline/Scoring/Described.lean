import DicePipeline.AltText.WriteBack
import DicePipeline.Scoring.Visits

/-!
# The score of a file whose figures were described

The walk of the scorer goes down 21 levels and counts every figure without
alternative text; the walk of the alternative text goes down 31 and leaves out figures
whose page it does not find.  So a figure that counts against the score is written to if
its page is known (`exists_figureRef`), and counts no more if its text is not empty.

`alt_text_raises_score` puts that together with what writing the texts comes to: nothing
else that the scorer finds in the tree changes, and the score rises by the points of one
deduction or by nothing.

### What is load-bearing

The deduction is for a figure without a text and a document with images.  Images are
counted elsewhere and not in the tree, so where there are none the score stays,
whatever is described.

The texts are stripped, as `strip` leaves them: a text of blanks would be written, and
would count as none.
-/

namespace DicePipeline.Scoring

open Pdf AltText

variable {doc again : Document} {origin : ℕ → ℕ} {elem node : Value}
variable {alts : ℕ × ℕ → Option String} {figures : List ((ℕ × ℕ) × Value)}
variable {levels more : ℕ} {inherited : Option Value}

/-- A text that is blank is empty: a description is returned without blanks at its ends. -/
def Stripped (alts : ℕ × ℕ → Option String) : Prop :=
  ∀ ref, Text.strip (textFor alts ref).toList = [] → textFor alts ref = ""

/-- Some place of the element has a text that is written. -/
def described (doc : Document) (alts : ℕ × ℕ → Option String) (elem : Value) : Bool :=
  (figureRefs doc).any fun figure => figure.2 = elem && textFor alts figure.1 ≠ ""

/-! ## What is written -/

theorem array?_writeAlt {value : Value} {figure : (ℕ × ℕ) × Value} :
    (writeAlt alts doc figure).array? value = doc.array? value := by
  obtain ⟨ref, element⟩ := figure
  cases element with
  | object a =>
    rw [writeAlt_eq]
    split
    · rfl
    · exact Document.array?_setEntry
  | _ => unfold writeAlt; split <;> simp_all

/-- The catalog and the pages stay where they are. -/
theorem catalog_pages_writeAlt {figure : (ℕ × ℕ) × Value} :
    (writeAlt alts doc figure).catalog = doc.catalog ∧
      (writeAlt alts doc figure).pages = doc.pages := by
  obtain ⟨ref, element⟩ := figure
  cases element with
  | object a =>
    rw [writeAlt_eq]
    split <;> exact ⟨rfl, rfl⟩
  | _ => unfold writeAlt; split <;> simp_all

/-- A file whose texts were written and that was saved reads like the one before, but for
the texts. -/
theorem mirrors_writeAltText (reopened : Reopened (writeAltText doc alts) again origin) :
    Mirrors origin (· = "/Alt") doc again := by
  have kept : ∀ figures : List ((ℕ × ℕ) × Value), ∀ doc : Document,
      (figures.foldl (writeAlt alts) doc).catalog = doc.catalog ∧
      (figures.foldl (writeAlt alts) doc).pages = doc.pages ∧
      (∀ value, (figures.foldl (writeAlt alts) doc).isDictionary value = doc.isDictionary value) ∧
      ∀ value, (figures.foldl (writeAlt alts) doc).array? value = doc.array? value := by
    intro figures
    induction figures with
    | nil => exact fun doc => ⟨rfl, rfl, fun _ => rfl, fun _ => rfl⟩
    | cons figure rest ih =>
      intro doc
      obtain ⟨catalog, pages, dictionary, array⟩ := ih (writeAlt alts doc figure)
      exact ⟨catalog.trans catalog_pages_writeAlt.1, pages.trans catalog_pages_writeAlt.2,
        fun value => (dictionary value).trans isDictionary_writeAlt,
        fun value => (array value).trans array?_writeAlt⟩
  obtain ⟨catalog, pages, dictionary, array⟩ := kept (figureRefs doc) doc
  exact reopened.mirrors catalog pages dictionary (fun _ _ other => get_writeAll_of_ne other) array

/-- Whether a figure lacks its text in the end. -/
theorem lacksAlt_writeAltText (stripped : Stripped alts) (isDictionary : doc.isDictionary elem = true) :
    lacksAlt (writeAltText doc alts) elem = (lacksAlt doc elem && !described doc alts elem) := by
  have type : (writeAltText doc alts).textOf elem "/S" = doc.textOf elem "/S" := by
    unfold Document.textOf writeAltText
    rw [get_writeAll_of_ne (by decide)]
  have written : (writeAltText doc alts).get elem "/Alt" =
      ((lastText alts elem (figureRefs doc)).map Value.string).or (doc.get elem "/Alt") :=
    get_writeAll isDictionary
  unfold lacksAlt
  rw [type]
  cases isLast : lastText alts elem (figureRefs doc) with
  | none =>
    have empty := lastText_eq_none_iff.mp isLast
    have none : described doc alts elem = false := by
      unfold described
      rw [List.any_eq_false]
      rintro ⟨ref, found⟩ member
      rw [Bool.and_eq_true, decide_eq_true_iff, decide_eq_true_iff]
      rintro ⟨rfl, notEmpty⟩
      exact notEmpty (empty ref member)
    rw [isLast] at written
    have text : (writeAltText doc alts).textOf elem "/Alt" = doc.textOf elem "/Alt" := by
      unfold Document.textOf
      rw [written]
      rfl
    rw [none, text, Bool.not_false, Bool.and_true]
  | some text =>
    obtain ⟨notEmpty, ref, inRefs, isText⟩ := exists_of_lastText isLast
    have some : described doc alts elem = true := by
      unfold described
      rw [List.any_eq_true]
      exact ⟨(ref, elem), inRefs, by simp [isText, notEmpty]⟩
    have full : (Text.strip text.toList).isEmpty = false := by
      rw [Bool.eq_false_iff, Ne, List.isEmpty_iff]
      intro blank
      exact notEmpty (isText ▸ stripped ref (isText.symm ▸ blank))
    rw [isLast] at written
    have now : (writeAltText doc alts).textOf elem "/Alt" = text := by
      unfold Document.textOf
      rw [written]
      rfl
    rw [some, now, full, Bool.not_true, Bool.and_false, Bool.and_false]

/-- What the scorer finds in the tree once the texts were written. -/
theorem assessTree_writeAltText (opened : Opened again) (stripped : Stripped alts)
    (reopened : Reopened (writeAltText doc alts) again origin)
    (catalog : again.isDictionary (.object again.catalog) = true) (hasHeadings : Bool) :
    assessTree again hasHeadings =
      { assessTree doc hasHeadings with
        imagesWithoutAlt := (treeElements doc).countP fun elem =>
          lacksAlt doc elem && !described doc alts elem } := by
  have mirrors := mirrors_writeAltText reopened
  suffices left : (treeElements again).countP (lacksAlt again) = (treeElements again).countP
      ((fun elem => lacksAlt doc elem && !described doc alts elem) ∘ Value.relocate origin) by
    rw [assessTree_mirrored mirrors opened (by decide) (by decide) catalog (by decide),
      treeElements_mirrored mirrors opened (by decide) catalog (by decide), List.countP_map, left]
  refine List.countP_congr fun elem member => ?_
  have within := Document.within_of_isDictionary (isDictionary_of_mem_treeElements member)
  have isDictionary : doc.isDictionary (elem.relocate origin) = true :=
    (mirrors.dictionary elem within).trans (isDictionary_of_mem_treeElements member)
  have same : lacksAlt again elem = lacksAlt (writeAltText doc alts) (elem.relocate origin) := by
    unfold lacksAlt
    rw [reopened.textOf within, reopened.textOf within]
  rw [same, lacksAlt_writeAltText stripped isDictionary]
  rfl

/-! ## Which figures are written to -/

/-- The figure names a page of the document. -/
def NamesPage (doc : Document) (elem : Value) : Prop := (pageOf doc (doc.get elem "/Pg")).isSome = true

instance (doc : Document) (elem : Value) : Decidable (NamesPage doc elem) :=
  inferInstanceAs (Decidable (_ = true))

/-- A figure that the scorer comes to without alternative text is collected, the cut-off
of the walk that collects being deeper. -/
theorem exists_collected (lacks : lacksAlt doc elem = true) (page : NamesPage doc elem)
    (member : elem ∈ visited doc levels node) (deeper : levels ≤ more) :
    ∃ page, (page, elem) ∈ collectFigureElements doc more inherited node := by
  induction levels generalizing more inherited node with
  | zero => exact absurd member List.not_mem_nil
  | succ levels ih =>
    obtain ⟨more, rfl⟩ : ∃ fewer, more = fewer + 1 := ⟨more - 1, by omega⟩
    rw [visited] at member
    by_cases isDictionary : doc.isDictionary node = true
    case neg => simp [isDictionary] at member
    rw [if_neg (by simp [isDictionary])] at member
    rw [collectFigureElements, if_neg (by simp [isDictionary])]
    rcases List.mem_cons.mp member with rfl | below
    · unfold lacksAlt at lacks
      obtain ⟨isFigure, blank⟩ := Bool.and_eq_true_iff.mp lacks
      obtain ⟨number, isPage⟩ := Option.isSome_iff_exists.mp page
      -- What the element names is what counts, whatever it would inherit.
      have own : pgRef doc inherited elem = doc.get elem "/Pg" := by
        unfold pgRef
        cases isPg : doc.get elem "/Pg" with
        | none =>
          rw [isPg] at isPage
          exact absurd isPage (by simp [pageOf])
        | some pg => rfl
      refine ⟨number, List.mem_append_left _ ?_⟩
      rw [if_pos (by
        rw [Bool.and_eq_true, decide_eq_true_iff]
        exact ⟨by simpa using isFigure, by simp [needsAlt, blank]⟩), own, isPage]
      exact List.mem_singleton_self _
    · obtain ⟨kid, inKids, inKid⟩ := List.mem_flatMap.mp below
      obtain ⟨page, found⟩ := ih inKid (Nat.le_of_succ_le_succ deeper)
      refine ⟨page, List.mem_append_right _ (List.mem_flatMap.mpr ⟨kid, inKids, ?_⟩)⟩
      rw [if_pos (isDictionary_of_visited inKid)]
      exact found

/-- So it is written to. -/
theorem exists_figureRef (lacks : lacksAlt doc elem = true) (page : NamesPage doc elem)
    (member : elem ∈ treeElements doc) : ∃ ref, (ref, elem) ∈ figureRefs doc := by
  unfold treeElements at member
  split at member
  · exact absurd member List.not_mem_nil
  · rename_i structRoot isRoot
    obtain ⟨number, found⟩ : ∃ number, (number, elem) ∈
        collectFigureElements doc (maxStructTreeDepth + 1) none structRoot :=
      exists_collected lacks page member (by decide)
    have inWalk : (number, elem) ∈ walkFigures doc := by
      unfold walkFigures
      rw [isRoot]
      exact found
    have onPage : elem ∈ pageFigures doc number :=
      List.mem_map.mpr ⟨_, List.mem_filter.mpr ⟨inWalk, by simp⟩, rfl⟩
    obtain ⟨place, isPlace⟩ := List.mem_iff_getElem?.mp onPage
    exact ⟨(number, place), mem_figureRefs_iff.mpr isPlace⟩

end DicePipeline.Scoring

namespace DicePipeline

open Pdf AltText Scoring

/-- `issues`, with what the walk finds in another file. -/
def Scoring.Issues.withTree (issues : Issues) (doc : Document) (hasHeadings : Bool) : Issues :=
  { issues with toTreeIssues := assessTree doc hasHeadings }

/-- What describing the figures of a document does to its score. -/
structure RaisesScore (doc : Document) (alts : ℕ × ℕ → Option String) (pageCount : ℕ)
    (issues after : Issues) : Prop where
  /-- The tree shows what it did, but for the figures that were given a text. -/
  findings : after.toTreeIssues = { issues.toTreeIssues with
    imagesWithoutAlt := (treeElements doc).countP fun elem =>
      lacksAlt doc elem && !described doc alts elem }
  /-- The lines and the points of the other issues are what they were. -/
  others : ∀ key, key ≠ .missingAltText →
    isRaised after pageCount key = isRaised issues pageCount key
  /-- The figures that are left are those that were given no text. -/
  left : isRaised after pageCount .missingAltText = true ↔
    isRaised issues pageCount .missingAltText = true ∧
      ∃ elem ∈ treeElements doc, lacksAlt doc elem = true ∧ described doc alts elem = false
  /-- The score rises by the points of one deduction, or not at all: it was taken, so some
  figure counted and the pages have images, and it is not any more. -/
  score : (scoreDocument after pageCount).1 = (scoreDocument issues pageCount).1 +
    if isRaised issues pageCount .missingAltText = true ∧
      isRaised after pageCount .missingAltText = false then 12 else 0
  /-- Where every text is one and the figures name their pages, none is left. -/
  cleared : (∀ elem ∈ treeElements doc, lacksAlt doc elem = true → NamesPage doc elem) →
    (∀ figure ∈ figureRefs doc, textFor alts figure.1 ≠ "") →
    isRaised after pageCount .missingAltText = false

/-- **Alternative text raises the score.**  Once the texts were written and the file was
saved, the scorer finds in the structure tree what it found before, but for the figures
that were given a text.  With whatever it finds elsewhere, the score rises by 12 if some
figure counted against it and none is left, and stays as it was otherwise. -/
theorem alt_text_raises_score (file again : File) (alts : ℕ × ℕ → Option String) (origin : ℕ → ℕ)
    (hasHeadings : Bool) (issues : Issues) (pageCount : ℕ) (stripped : Stripped alts)
    (reopened : Reopened (writeAltText file.1 alts) again.1 origin)
    (catalog : again.1.isDictionary (.object again.1.catalog) = true)
    (before : issues.toTreeIssues = assessTree file.1 hasHeadings) :
    RaisesScore file.1 alts pageCount issues (issues.withTree again.1 hasHeadings) := by
  have now := assessTree_writeAltText again.2 stripped reopened catalog hasHeadings
  -- The count is of the figures without a text, before and after; those that got one drop out.
  have counted : issues.imagesWithoutAlt = (treeElements file.1).countP (lacksAlt file.1) := by
    rw [before, assessTree_eq]
  have isLeft : (issues.withTree again.1 hasHeadings).imagesWithoutAlt =
      (treeElements file.1).countP fun elem => lacksAlt file.1 elem && !described file.1 alts elem := by
    show (assessTree again.1 hasHeadings).imagesWithoutAlt = _
    rw [now]
  -- No other deduction reads that count.
  have others : ∀ key, key ≠ .missingAltText →
      isRaised (issues.withTree again.1 hasHeadings) pageCount key =
        isRaised issues pageCount key := by
    intro key other
    unfold Issues.withTree
    rw [now, ← before]
    cases key <;> first | rfl | exact absurd rfl other
  have left : isRaised (issues.withTree again.1 hasHeadings) pageCount .missingAltText = true ↔
      isRaised issues pageCount .missingAltText = true ∧
        ∃ elem ∈ treeElements file.1, lacksAlt file.1 elem = true ∧ described file.1 alts elem = false := by
    show ((decide (0 < (issues.withTree again.1 hasHeadings).imagesWithoutAlt)) && issues.hasImages) =
        true ↔ ((decide (0 < issues.imagesWithoutAlt)) && issues.hasImages) = true ∧ _
    rw [isLeft, counted]
    simp only [Bool.and_eq_true, decide_eq_true_eq, List.countP_pos_iff, Bool.not_eq_true']
    constructor
    · rintro ⟨⟨elem, member, lacks, undescribed⟩, images⟩
      exact ⟨⟨⟨elem, member, lacks⟩, images⟩, elem, member, lacks, undescribed⟩
    · rintro ⟨⟨-, images⟩, some⟩
      exact ⟨some, images⟩
  have findings : (issues.withTree again.1 hasHeadings).toTreeIssues = { issues.toTreeIssues with
      imagesWithoutAlt := (treeElements file.1).countP fun elem =>
        lacksAlt file.1 elem && !described file.1 alts elem } := by
    rw [before]
    exact now
  refine ⟨findings, others, left, ?_, ?_⟩
  -- The score is 100 less the points raised, so it differs by the 12 of this one or not at all.
  · have points := score_add_points others
    rw [show Deduction.missingAltText.points = 12 from rfl] at points
    by_cases isAfter : isRaised (issues.withTree again.1 hasHeadings) pageCount .missingAltText = true
    · rw [if_pos isAfter, if_pos (left.mp isAfter).1] at points
      rw [if_neg (by simp [isAfter])]
      omega
    · rw [if_neg isAfter] at points
      simp only [Bool.eq_false_iff.mpr isAfter, and_true]
      omega
  · intro named texts
    rw [Bool.eq_false_iff, Ne, left]
    rintro ⟨-, elem, member, lacks, undescribed⟩
    obtain ⟨ref, inRefs⟩ := exists_figureRef lacks (named elem member lacks) member
    unfold described at undescribed
    rw [List.any_eq_false] at undescribed
    exact undescribed _ inRefs (by simp [texts _ inRefs])

/-- A file whose two figures were given a text each. -/
def bothDescribed : File where
  val := writeAltText twoFigures.1 fun _ => some "A map."
  property := by decide +kernel

/-- What the scorer finds in the file with two figures, one of which has no text. -/
def oneUndescribed : Issues where
  hasImages := true
  unembeddedFonts := []
  hasForms := false
  formFieldsCount := 0
  formFieldsWithoutTooltips := 0
  vagueLinks := []
  toTreeIssues := assessTree twoFigures.1 false
  hasStructureTree := true
  hasTextLayer := true
  hasBookmarks := false
  pageCount := 1

/-- The rule for that file: it scored 83, and now scores 95. -/
theorem alt_text_raises_score_two_figures :
    (scoreDocument oneUndescribed 1).1 = 83 ∧
      (scoreDocument (oneUndescribed.withTree bothDescribed.1 false) 1).1 = 95 ∧
      RaisesScore twoFigures.1 (fun _ => some "A map.") 1 oneUndescribed
        (oneUndescribed.withTree bothDescribed.1 false) :=
  ⟨by decide +kernel, by decide +kernel,
    alt_text_raises_score twoFigures bothDescribed _ id false _ 1
      (fun _ blank => absurd blank (show Text.strip "A map.".toList ≠ [] by decide)) (.refl _)
      (by decide +kernel) rfl⟩

end DicePipeline
