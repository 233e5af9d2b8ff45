import DicePipeline.AltText.WriteBack

/-!
# Which picture a figure is described by

`occurrences` goes through a finite structure tree in order and lists every
figure it comes to, at any depth and with any `/Alt`.  The figures the code
collects are the ones among them that are within the cut-off and need alt text
(`walkFigures_eq`), so the n-th candidate of a page stands at a later place among
all its figures if one before it was left out, while the n-th image is still the
image of the n-th figure.

### What is load-bearing

`Corresponding` is what is taken for granted about a page: it has an image for each
figure, in the order of the figures.  `PicturesAgree` is the condition on top of it, and
it is about pictures and not about places.  A figure may be paired with another image
than its own without harm, if the two show the same picture, or if neither can be had.
-/

namespace DicePipeline.AltText

open Pdf

variable {doc : Document} {fitz : PyMuPdf} {candidates : List FigureCandidate}
variable {node element structRoot : Value} {inherited : Option Value}
variable {levels more depth page : ℕ} {ref : ℕ × ℕ}

/-! ## The figures in the order of the tree -/

/-- A figure where the walk comes to it. -/
structure Occurrence where
  page : ℕ
  element : Value
  depth : ℕ
  deriving DecidableEq, Repr

/-- The figures of a tree in its order, the node being `depth` levels down. -/
def occurrences (doc : Document) : ℕ → ℕ → Option Value → Value → List Occurrence
  | 0, _, _, _ => []
  | levels + 1, depth, inherited, node =>
      if !doc.isDictionary node then []
      else
        let pg := pgRef doc inherited node
        let own :=
          if doc.textOf node "/S" = "/Figure" then
            ((pageOf doc pg).map fun page => Occurrence.mk page node depth).toList
          else []
        own ++ (doc.kidsOf node).flatMap (occurrences doc levels (depth + 1) pg)

/-- Every path of the tree ends within so many levels. -/
def hasLevels (doc : Document) : ℕ → Value → Bool
  | 0, node => !doc.isDictionary node
  | levels + 1, node => (doc.kidsOf node).all (hasLevels doc levels)

/-- Whether the code collects the figure. -/
def Occurrence.collected (doc : Document) (figure : Occurrence) : Bool :=
  figure.depth ≤ maxStructTreeDepth && needsAlt doc figure.element

/-- All figures of the document. -/
def allFigures (doc : Document) (levels : ℕ) : List Occurrence :=
  ((doc.get (.object doc.catalog) "/StructTreeRoot").map (occurrences doc levels 0 none)).getD []

/-- All figures of a page. -/
def figuresOf (doc : Document) (levels page : ℕ) : List Occurrence :=
  (allFigures doc levels).filter fun figure => figure.page = page

theorem occurrences_of_not_isDictionary (other : doc.isDictionary node = false) :
    occurrences doc levels depth inherited node = [] := by
  cases levels with
  | zero => rfl
  | succ levels => simp [occurrences, other]

/-- More levels than there are change nothing. -/
theorem occurrences_eq_of_hasLevels (finite : hasLevels doc levels node = true)
    (enough : levels ≤ more) :
    occurrences doc more depth inherited node = occurrences doc levels depth inherited node := by
  induction levels generalizing more depth inherited node with
  | zero =>
    have other : doc.isDictionary node = false := by simpa [hasLevels] using finite
    rw [occurrences_of_not_isDictionary other, occurrences_of_not_isDictionary other]
  | succ levels ih =>
    obtain ⟨more, rfl⟩ : ∃ fewer, more = fewer + 1 := ⟨more - 1, by omega⟩
    rw [occurrences, occurrences]
    have kids : (doc.kidsOf node).flatMap (occurrences doc more (depth + 1) (pgRef doc inherited node)) =
        (doc.kidsOf node).flatMap
          (occurrences doc levels (depth + 1) (pgRef doc inherited node)) := by
      refine List.flatMap_congr ?_
      intro kid member
      refine ih ?_ (Nat.le_of_succ_le_succ enough)
      exact List.all_eq_true.mp finite kid member
    simp only [kids]

theorem depth_le_of_mem_occurrences {figure : Occurrence}
    (member : figure ∈ occurrences doc levels depth inherited node) : depth ≤ figure.depth := by
  induction levels generalizing depth inherited node with
  | zero => exact absurd member List.not_mem_nil
  | succ levels ih =>
    rw [occurrences] at member
    by_cases isDictionary : doc.isDictionary node = true
    case neg => simp [isDictionary] at member
    rw [if_neg (by simp [isDictionary])] at member
    rcases List.mem_append.mp member with own | below
    · split at own
      · obtain ⟨_, -, rfl⟩ := Option.map_eq_some_iff.mp (Option.mem_toList.mp own)
        exact Nat.le_refl depth
      · exact absurd own List.not_mem_nil
    · obtain ⟨kid, -, inKid⟩ := List.mem_flatMap.mp below
      exact Nat.le_of_succ_le (ih inKid)

/-- Whether the code collects a figure it comes to. -/
private theorem own_eq {pg : Option Value} (shallow : depth ≤ maxStructTreeDepth) :
    (if doc.textOf node "/S" = "/Figure" && needsAlt doc node then
        ((pageOf doc pg).map fun page => (page, node)).toList
      else []) =
      ((if doc.textOf node "/S" = "/Figure" then
          ((pageOf doc pg).map fun page => Occurrence.mk page node depth).toList
        else []).filter (Occurrence.collected doc)).map
          fun figure => (figure.page, figure.element) := by
  by_cases isFigure : doc.textOf node "/S" = "/Figure"
  · cases pageOf doc pg with
    | none => simp
    | some page =>
      by_cases needs : needsAlt doc node = true
      · simp [isFigure, needs, Occurrence.collected, shallow]
      · simp [isFigure, needs, Occurrence.collected]
  · simp [isFigure]

/-- The code collects the figures in the order of the tree, leaving some out. -/
theorem collectFigureElements_eq (down : levels + depth = maxStructTreeDepth + 1)
    (enough : levels ≤ more) :
    collectFigureElements doc levels inherited node =
      ((occurrences doc more depth inherited node).filter (Occurrence.collected doc)).map
        fun figure => (figure.page, figure.element) := by
  induction levels generalizing more depth inherited node with
  | zero =>
    -- Everything from here on is below the cut-off.
    have nothing : (occurrences doc more depth inherited node).filter (Occurrence.collected doc) =
        [] := by
      rw [List.filter_eq_nil_iff]
      intro figure member
      have deep := depth_le_of_mem_occurrences member
      have : ¬ figure.depth ≤ maxStructTreeDepth := by omega
      simp [Occurrence.collected, this]
    rw [nothing]
    rfl
  | succ levels ih =>
    obtain ⟨more, rfl⟩ : ∃ fewer, more = fewer + 1 := ⟨more - 1, by omega⟩
    rw [collectFigureElements, occurrences]
    by_cases isDictionary : doc.isDictionary node = true
    case neg => simp [isDictionary]
    rw [if_neg (by simp [isDictionary]), if_neg (by simp [isDictionary])]
    dsimp only
    rw [List.filter_append, List.map_append, ← own_eq (by omega), List.filter_flatMap,
      List.map_flatMap]
    congr 1
    refine List.flatMap_congr ?_
    intro kid _
    rw [← ih (by omega) (Nat.le_of_succ_le_succ enough)]
    split
    · rfl
    · rename_i other
      have other : doc.isDictionary kid = false := by simpa using other
      cases levels with
      | zero => rfl
      | succ levels => simp [collectFigureElements, other]

/-- A structure tree, if there is one, is finite. -/
def FiniteTree (doc : Document) (levels : ℕ) : Prop :=
  ∀ structRoot ∈ doc.get (.object doc.catalog) "/StructTreeRoot",
    hasLevels doc levels structRoot = true

instance : Decidable (FiniteTree doc levels) :=
  inferInstanceAs (Decidable (∀ structRoot ∈ doc.get (.object doc.catalog) "/StructTreeRoot",
    hasLevels doc levels structRoot = true))

/-- **What the code collects**, of the figures in the order of the tree. -/
theorem walkFigures_eq (finite : FiniteTree doc levels) :
    walkFigures doc = ((allFigures doc levels).filter (Occurrence.collected doc)).map
      fun figure => (figure.page, figure.element) := by
  unfold walkFigures allFigures
  cases isRoot : doc.get (.object doc.catalog) "/StructTreeRoot" with
  | none => rfl
  | some structRoot =>
    show collectFigureElements doc (maxStructTreeDepth + 1) none structRoot =
      List.map _ (List.filter _ (occurrences doc levels 0 none structRoot))
    rw [← occurrences_eq_of_hasLevels (finite structRoot isRoot)
      (Nat.le_max_left levels (maxStructTreeDepth + 1))]
    exact collectFigureElements_eq rfl (Nat.le_max_right _ _)

theorem pageFigures_eq (finite : FiniteTree doc levels) :
    pageFigures doc page =
      ((figuresOf doc levels page).filter (Occurrence.collected doc)).map Occurrence.element := by
  unfold pageFigures figuresOf
  rw [walkFigures_eq finite, List.filter_map, List.map_map, List.filter_filter, List.filter_filter]
  congr 1
  refine List.filter_congr ?_
  intro figure _
  exact Bool.and_comm _ _

/-! ## Places -/

private theorem getElem?_filter_countP {α : Type} {p : α → Bool} {items : List α} {i : ℕ} {item : α}
    (found : items[i]? = some item) (holds : p item = true) :
    (items.filter p)[(items.take i).countP p]? = some item := by
  induction items generalizing i with
  | nil => exact absurd found (by simp)
  | cons head rest ih =>
    cases i with
    | zero =>
      obtain rfl : head = item := by simpa using found
      simp [holds]
    | succ i =>
      have inRest : rest[i]? = some item := by simpa using found
      rw [List.take_succ_cons, List.countP_cons, List.filter_cons]
      by_cases kept : p head = true
      · rw [if_pos kept, if_pos kept, List.getElem?_cons_succ]
        exact ih inRest
      · rw [if_neg kept, if_neg kept]
        exact ih inRest

/-- Where there is one item of a kind, two of that kind are one. -/
private theorem eq_of_countP_le_one {α : Type} {p : α → Bool} {items : List α} {first second : α}
    (one : items.countP p ≤ 1) (isFirst : first ∈ items) (isSecond : second ∈ items)
    (holds : p first = true) (holdsSecond : p second = true) : first = second := by
  rw [List.countP_eq_length_filter] at one
  have inFirst := List.mem_filter.mpr ⟨isFirst, holds⟩
  have inSecond := List.mem_filter.mpr ⟨isSecond, holdsSecond⟩
  rcases kept : items.filter p with _ | ⟨only, _ | ⟨next, rest⟩⟩
  · rw [kept] at inFirst
    exact absurd inFirst List.not_mem_nil
  · rw [kept] at inFirst inSecond
    rw [List.mem_singleton.mp inFirst, List.mem_singleton.mp inSecond]
  · rw [kept] at one
    simp at one

/-- A figure that the walk comes to once has one place. -/
theorem ref_unique {other : ℕ × ℕ} (once : (walkFigures doc).countP (·.2 = element) ≤ 1)
    (isPlace : (pageFigures doc ref.1)[ref.2]? = some element)
    (isOther : (pageFigures doc other.1)[other.2]? = some element) : ref = other := by
  have inWalk : ∀ place : ℕ × ℕ, (pageFigures doc place.1)[place.2]? = some element →
      (place.1, element) ∈ walkFigures doc := by
    intro place found
    obtain ⟨⟨page, figure⟩, member, same⟩ := List.mem_map.mp (List.mem_of_getElem? found)
    obtain ⟨member, onPage⟩ := List.mem_filter.mp member
    obtain rfl : page = place.1 := by simpa using onPage
    obtain rfl : figure = element := same
    exact member
  have sameFigure : (ref.1, element) = (other.1, element) :=
    eq_of_countP_le_one once (inWalk ref isPlace) (inWalk other isOther) (by simp) (by simp)
  have samePage : ref.1 = other.1 := (Prod.mk.inj sameFigure).1
  rw [← samePage] at isOther
  have onceOnPage : (pageFigures doc ref.1).countP (· = element) ≤ 1 := by
    unfold pageFigures
    rw [List.countP_map]
    exact Nat.le_trans (List.filter_sublist.countP_le) once
  have onceInOrder : (pageFigures doc ref.1).zipIdx.countP (·.1 = element) ≤ 1 := by
    have same : (pageFigures doc ref.1).zipIdx.map Prod.fst = pageFigures doc ref.1 :=
      List.zipIdx_map_fst _ _
    rw [← same, List.countP_map] at onceOnPage
    exact onceOnPage
  have inOrder : ∀ place, (pageFigures doc ref.1)[place]? = some element →
      (element, place) ∈ (pageFigures doc ref.1).zipIdx := fun place found =>
    List.mem_zipIdx_iff_getElem?.mpr found
  have samePlace : (element, ref.2) = (element, other.2) :=
    eq_of_countP_le_one onceInOrder (inOrder _ isPlace) (inOrder _ isOther) (by simp) (by simp)
  exact Prod.ext samePage (Prod.mk.inj samePlace).2

/-! ## The right picture -/

/-- The figures of a page correspond to its images: there are as many, each
figure stands once in the tree, and the tree has an end. -/
structure Corresponding (doc : Document) (fitz : PyMuPdf) (levels page : ℕ) (images : List Image) :
    Prop where
  finite : FiniteTree doc levels
  reported : fitz.getImages page = some images
  asMany : (figuresOf doc levels page).length = images.length
  once : ∀ figure ∈ figuresOf doc levels page,
    (allFigures doc levels).countP (·.element = figure.element) = 1

/-- The figures of a page are described by their own pictures. -/
structure RightPictures (doc : Document) (fitz : PyMuPdf) (candidates : List FigureCandidate)
    (levels page : ℕ) (images : List Image) : Prop where
  /-- A candidate carries the picture of the figure it stands for. -/
  carries : ∀ i figure, (figuresOf doc levels page)[i]? = some figure →
    ∀ candidate ∈ candidates, StandsFor doc candidate figure.element →
      some candidate.picture = extractCandidateImage fitz page images i
  /-- A figure the code collects has the description of its own picture in the end. -/
  described : ∀ describe i figure, (figuresOf doc levels page)[i]? = some figure →
    figure.collected doc = true →
    ∀ picture, extractCandidateImage fitz page images i = some picture →
    ∀ text, describeCandidate describe ⟨(page, i), page + 1, picture⟩ = text → text ≠ "" →
      (writeAltText doc (altByRef describe candidates)).get figure.element "/Alt" =
        some (.string text)

/-- Each figure the code collects has the picture that stands as many places
before its own as figures were left out before it. -/
def PicturesAgree (doc : Document) (fitz : PyMuPdf) (levels page : ℕ) (images : List Image) :
    Prop :=
  ∀ i figure, (figuresOf doc levels page)[i]? = some figure → figure.collected doc = true →
    extractCandidateImage fitz page images
        (i - ((figuresOf doc levels page).take i).countP fun before => !before.collected doc) =
      extractCandidateImage fitz page images i

variable {images : List Image} {figure : Occurrence} {i : ℕ}

/-- Where no two pictures of a page are the same, they agree if and only if no
figure that is left out comes before one that is collected. -/
theorem picturesAgree_iff_of_distinct
    (distinct : ∀ i < (figuresOf doc levels page).length, ∀ j < (figuresOf doc levels page).length,
      extractCandidateImage fitz page images i = extractCandidateImage fitz page images j → i = j) :
    PicturesAgree doc fitz levels page images ↔
      ∀ i figure, (figuresOf doc levels page)[i]? = some figure → figure.collected doc = true →
        ∀ before ∈ (figuresOf doc levels page).take i, before.collected doc = true := by
  unfold PicturesAgree
  refine forall_congr' fun i => forall_congr' fun figure => imp_congr_right fun isFigure =>
    imp_congr_right fun _ => ?_
  have inside : i < (figuresOf doc levels page).length :=
    (List.getElem?_eq_some_iff.mp isFigure).1
  have none : (∀ before ∈ (figuresOf doc levels page).take i, before.collected doc = true) ↔
      ((figuresOf doc levels page).take i).countP (fun before => !before.collected doc) = 0 := by
    rw [List.countP_eq_zero]
    simp
  have most : ((figuresOf doc levels page).take i).countP (fun before => !before.collected doc) ≤
      i := Nat.le_trans List.countP_le_length (List.length_take_le _ _)
  rw [none]
  constructor
  · intro same
    have := distinct _ (by omega) i inside same
    omega
  · intro zero
    rw [zero, Nat.sub_zero]

/-- The place of a figure the code collects: as many before its own as were left out. -/
theorem pageFigures_place (finite : FiniteTree doc levels)
    (isFigure : (figuresOf doc levels page)[i]? = some figure)
    (collected : figure.collected doc = true) :
    (pageFigures doc page)[i - ((figuresOf doc levels page).take i).countP
      fun before => !before.collected doc]? = some figure.element := by
  have inside : i < (figuresOf doc levels page).length :=
    (List.getElem?_eq_some_iff.mp isFigure).1
  -- Those that are left out and those that are not make up all that come before.
  have split : ((figuresOf doc levels page).take i).countP (Occurrence.collected doc) =
      i - ((figuresOf doc levels page).take i).countP fun before => !before.collected doc := by
    have total : ((figuresOf doc levels page).take i).length = _ :=
      List.length_eq_countP_add_countP (Occurrence.collected doc)
    rw [List.length_take, Nat.min_eq_left (Nat.le_of_lt inside)] at total
    have same : (fun before : Occurrence => !before.collected doc) =
        fun before => decide ¬ before.collected doc = true := by
      funext before
      cases before.collected doc <;> rfl
    rw [same]
    omega
  rw [pageFigures_eq finite, ← split, List.getElem?_map, getElem?_filter_countP isFigure collected]
  rfl

/-- The walk comes to the figures of such a page once. -/
theorem Corresponding.once_collected (corresponding : Corresponding doc fitz levels page images)
    (isFigure : (figuresOf doc levels page)[i]? = some figure) :
    (walkFigures doc).countP (·.2 = figure.element) ≤ 1 := by
  rw [walkFigures_eq corresponding.finite, List.countP_map]
  refine Nat.le_trans List.filter_sublist.countP_le ?_
  exact Nat.le_of_eq (corresponding.once figure (List.mem_of_getElem? isFigure))

/-- A figure that a candidate stands for is one the code collects. -/
theorem Corresponding.collected_of_standsFor
    (corresponding : Corresponding doc fitz levels page images)
    (isFigure : (figuresOf doc levels page)[i]? = some figure) {candidate : FigureCandidate}
    (stands : StandsFor doc candidate figure.element) : figure.collected doc = true := by
  have member := List.mem_of_getElem? isFigure
  have inPage := List.mem_of_getElem? stands
  rw [pageFigures_eq corresponding.finite] at inPage
  obtain ⟨other, isOther, sameElement⟩ := List.mem_map.mp inPage
  obtain ⟨isOther, collected⟩ := List.mem_filter.mp isOther
  have same : other = figure :=
    eq_of_countP_le_one (Nat.le_of_eq (corresponding.once figure member))
      (List.mem_filter.mp isOther).1 (List.mem_filter.mp member).1 (by simpa using sameElement)
      (by simp)
  rwa [← same]

/-- The candidate of a figure the code collects, and the picture it carries. -/
theorem candidate_of_figure (corresponding : Corresponding doc fitz levels page images)
    (gathered : collectFigures doc fitz = some candidates)
    (isFigure : (figuresOf doc levels page)[i]? = some figure)
    (collected : figure.collected doc = true) :
    ∃ candidate ∈ candidates, StandsFor doc candidate figure.element ∧
      candidate.pageNumber = page + 1 ∧
      extractCandidateImage fitz page images
        (i - ((figuresOf doc levels page).take i).countP fun before => !before.collected doc) =
          some candidate.picture ∧
      ∀ other ∈ candidates, StandsFor doc other figure.element → other = candidate := by
  have once := corresponding.once_collected isFigure
  have isPlace := pageFigures_place corresponding.finite isFigure collected
  generalize i - ((figuresOf doc levels page).take i).countP
    (fun before => !before.collected doc) = place at isPlace ⊢
  -- Whatever candidate stands for the figure has this place and this picture.
  have unique : ∀ other ∈ candidates, StandsFor doc other figure.element →
      other.ref = (page, place) ∧ other.pageNumber = page + 1 ∧
        extractCandidateImage fitz page images place = some other.picture := by
    intro other member stands
    have samePlace : other.ref = (page, place) := ref_unique once stands isPlace
    obtain ⟨onPage, otherImages, figN, picture, areImages, -, isPicture, rfl⟩ :=
      exists_of_mem_candidates gathered member
    obtain ⟨rfl, rfl⟩ := Prod.mk.inj samePlace
    obtain rfl := Option.some.inj (areImages.symm.trans corresponding.reported)
    exact ⟨rfl, rfl, isPicture⟩
  obtain ⟨candidate, member, isRef⟩ := exists_candidate gathered
    ((@mem_figureRefs_iff doc (page, place) figure.element).mpr isPlace)
  have stands : StandsFor doc candidate figure.element := by
    unfold StandsFor
    rw [isRef]
    exact isPlace
  obtain ⟨-, number, picture⟩ := unique candidate member stands
  refine ⟨candidate, member, stands, number, picture, ?_⟩
  intro other isOther otherStands
  obtain ⟨otherRef, otherNumber, otherPicture⟩ := unique other isOther otherStands
  obtain ⟨ref, pageNumber, carried⟩ := candidate
  obtain ⟨ref', pageNumber', carried'⟩ := other
  obtain rfl : ref' = ref := otherRef.trans isRef.symm
  obtain rfl : pageNumber' = pageNumber := otherNumber.trans number.symm
  obtain rfl : carried' = carried := Option.some.inj (otherPicture.symm.trans picture)
  rfl

/-- What a text is made from. -/
theorem describeCandidate_congr {describe : Bytes → ImageMediaType → ℕ → String}
    {candidate other : FigureCandidate} (picture : candidate.picture = other.picture)
    (number : candidate.pageNumber = other.pageNumber) :
    describeCandidate describe candidate = describeCandidate describe other := by
  unfold describeCandidate
  rw [picture, number]

/-- The text for the place of the only candidate that stands for a figure. -/
theorem textFor_altByRef {describe : Bytes → ImageMediaType → ℕ → String}
    {candidate : FigureCandidate} (member : candidate ∈ candidates)
    (only : ∀ other ∈ candidates, other.ref = candidate.ref → other = candidate) :
    textFor (altByRef describe candidates) candidate.ref = describeCandidate describe candidate := by
  unfold textFor altByRef
  cases found : candidates.reverse.find? fun other => other.ref = candidate.ref with
  | none =>
    rw [List.find?_eq_none] at found
    have own := found candidate (List.mem_reverse.mpr member)
    simp at own
  | some other =>
    have sameRef : other.ref = candidate.ref := by simpa using List.find?_some found
    rw [only other (List.mem_reverse.mp (List.mem_of_find?_eq_some found)) sameRef]
    rfl

/-- What a figure the code collects is described by in the end: its candidate's picture. -/
theorem described_by_candidate (corresponding : Corresponding doc fitz levels page images)
    (isFigure : (figuresOf doc levels page)[i]? = some figure)
    {candidate : FigureCandidate} (member : candidate ∈ candidates)
    (stands : StandsFor doc candidate figure.element)
    (only : ∀ other ∈ candidates, StandsFor doc other figure.element → other = candidate)
    {describe : Bytes → ImageMediaType → ℕ → String}
    (notEmpty : describeCandidate describe candidate ≠ "") :
    (writeAltText doc (altByRef describe candidates)).get figure.element "/Alt" =
      some (.string (describeCandidate describe candidate)) := by
  have text : textFor (altByRef describe candidates) candidate.ref =
      describeCandidate describe candidate := by
    refine textFor_altByRef member fun other isOther sameRef => only other isOther ?_
    unfold StandsFor
    rw [sameRef]
    exact stands
  unfold writeAltText
  rw [get_writeAll (isDictionary_of_mem_figureRefs stands.mem_figureRefs)]
  cases isLast : lastText (altByRef describe candidates) figure.element (figureRefs doc) with
  | none =>
    have empty := lastText_eq_none_iff.mp isLast _ stands.mem_figureRefs
    exact absurd (text.symm.trans empty) notEmpty
  | some last =>
    -- The figure has one place, so the last text written is the text for it.
    obtain ⟨-, ref, inRefs, isText⟩ := exists_of_lastText isLast
    have samePlace : ref = candidate.ref := ref_unique (corresponding.once_collected isFigure)
      (mem_figureRefs_iff.mp inRefs) stands
    rw [← isText, samePlace, text]
    rfl

end DicePipeline.AltText

namespace DicePipeline

open Pdf AltText

/-- **When figures are described by their own pictures**: on a page whose figures correspond to
its images, if and only if each figure the code collects has the picture that stands as many
places before its own as figures were left out.

The code leaves out the figures that have a text already and pairs those that are left with the
images from the first one on.  So a figure behind one that was left out is given a picture that
stands earlier. -/
theorem alt_text_pairing_iff (file : File) (fitz : PyMuPdf) (candidates : List AltText.FigureCandidate)
    (levels page : ℕ) (images : List Image)
    (gathered : collectFigures file.1 fitz = some candidates)
    (corresponding : Corresponding file.1 fitz levels page images) :
    RightPictures file.1 fitz candidates levels page images ↔
      PicturesAgree file.1 fitz levels page images := by
  obtain ⟨doc, opened⟩ := file
  constructor
  · intro right i figure isFigure collected
    obtain ⟨candidate, member, stands, -, carried, -⟩ :=
      candidate_of_figure corresponding gathered isFigure collected
    rw [carried]
    exact right.carries i figure isFigure candidate member stands
  · intro agree
    refine ⟨?_, ?_⟩
    · intro i figure isFigure other isOther otherStands
      have collected := corresponding.collected_of_standsFor isFigure otherStands
      obtain ⟨candidate, -, -, -, carried, only⟩ :=
        candidate_of_figure corresponding gathered isFigure collected
      rw [only other isOther otherStands, ← carried]
      exact agree i figure isFigure collected
    · intro describe i figure isFigure collected picture isPicture text isText notEmpty
      obtain ⟨candidate, member, stands, number, carried, only⟩ :=
        candidate_of_figure corresponding gathered isFigure collected
      have own : candidate.picture = picture :=
        Option.some.inj (carried.symm.trans ((agree i figure isFigure collected).trans isPicture))
      have sameText : describeCandidate describe candidate = text := by
        rw [← isText]
        exact describeCandidate_congr own number
      rw [← sameText]
      refine described_by_candidate corresponding isFigure member stands only ?_
      rwa [sameText]

/-- The rule for a page with two figures, neither of which has a real `/Alt`. -/
theorem alt_text_pairing_iff_two_figures :
    ∃ candidates, collectFigures twoFigures.1 smallImageAndPng = some candidates ∧
      candidates.length = 2 ∧
      (RightPictures twoFigures.1 smallImageAndPng candidates 3 0 [⟨10, 20, 20⟩, ⟨11, 600, 400⟩] ↔
        PicturesAgree twoFigures.1 smallImageAndPng 3 0 [⟨10, 20, 20⟩, ⟨11, 600, 400⟩]) :=
  ⟨(collectFigures twoFigures.1 smallImageAndPng).getD [], by decide +kernel, by decide +kernel,
    alt_text_pairing_iff twoFigures smallImageAndPng _ 3 0 _ (by decide +kernel)
      ⟨by decide +kernel, rfl, by decide +kernel, by decide +kernel⟩⟩

/-- A page with two figures, the first of which has been described. -/
def firstDescribed : File where
  val :=
    { objects := [
        ⟨.dictionary [("/StructTreeRoot", .object 1)], 1⟩,
        ⟨.dictionary [("/Type", .name "/StructTreeRoot"), ("/K", .object 2)], 2⟩,
        ⟨.array [.object 3, .object 4], 0⟩,
        ⟨.dictionary [("/S", .name "/Figure"), ("/Pg", .object 5), ("/Alt", .string "A map.")], 3⟩,
        ⟨.dictionary [("/S", .name "/Figure"), ("/Pg", .object 5)], 4⟩,
        ⟨.dictionary [("/Type", .name "/Page")], 5⟩]
      catalog := 0
      pages := [5] }
  property := by decide +kernel

/-- A file whose page has two images of some size. -/
def twoPngs : PyMuPdf where
  getImages := fun _ => some [⟨10, 600, 400⟩, ⟨11, 600, 400⟩]
  extractImage := fun xref => some ("png", [UInt8.ofNat xref])
  renderPage := fun _ => some []

/-- The second figure is described by the picture of the first. -/
theorem described_by_another_picture :
    ¬ ∀ (file : File) (fitz : PyMuPdf) (candidates : List AltText.FigureCandidate) (levels page : ℕ)
      (images : List Image), collectFigures file.1 fitz = some candidates →
      Corresponding file.1 fitz levels page images →
      RightPictures file.1 fitz candidates levels page images := by
  intro always
  have right := always firstDescribed twoPngs
    ((collectFigures firstDescribed.1 twoPngs).getD []) 3 0 [⟨10, 600, 400⟩, ⟨11, 600, 400⟩]
    (by decide +kernel) ⟨by decide +kernel, rfl, by decide +kernel, by decide +kernel⟩
  have own := right.carries 1 ⟨0, .object 4, 1⟩ (by decide +kernel)
    ⟨(0, 0), 1, ⟨[10], .png, false⟩⟩ (by decide +kernel) (show _ = _ by decide +kernel)
  exact absurd own (by decide +kernel)

end DicePipeline
