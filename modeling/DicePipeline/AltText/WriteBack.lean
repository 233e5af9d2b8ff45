import DicePipeline.AltText.Figures

/-!
# Writing alt text back

The elements `write_alt_text` goes through are those `collect_figures` returned a
candidate for (`mem_figureRefs_iff`, `ref_mem_candidates_iff`).  Each gets the
last text that is not empty among the texts of its places, and one whose texts
are all empty is left as it was: `writes_spec`.  So the texts come out as given
if an element has one text, and had no `/Alt` where that text is empty.

### What is load-bearing

An element can stand for more than one figure of the walk, on two pages or twice on
one.  It has one `/Alt`, so two texts for it cannot both come out.  `TextsFit` has a
clause for that, and one for the texts that are empty.

Between the two calls the document is the same.  The walk is made afresh, and finds the
figures at the places it found them at before.
-/

namespace DicePipeline.AltText

open Pdf

variable {doc : Document} {fitz : PyMuPdf} {candidates : List FigureCandidate}
variable {alts : ℕ × ℕ → Option String} {figure : (ℕ × ℕ) × Value} {ref : ℕ × ℕ}
variable {element node : Value} {a page figN levels : ℕ} {key : String} {pg : Option Value}
variable {figures : List ((ℕ × ℕ) × Value)}

/-- The text given for a place, empty if there is none. -/
def textFor (alts : ℕ × ℕ → Option String) (ref : ℕ × ℕ) : String := (alts ref).getD ""

/-! ## The places -/

theorem mem_figureRefs_iff : (ref, element) ∈ figureRefs doc ↔
    (pageFigures doc ref.1)[ref.2]? = some element := by
  unfold figureRefs
  rw [List.mem_flatMap]
  constructor
  · rintro ⟨page, -, member⟩
    obtain ⟨⟨found, place⟩, inPage, same⟩ := List.mem_map.mp member
    obtain ⟨rfl, rfl⟩ := Prod.mk.inj same
    exact List.mem_zipIdx_iff_getElem?.mp inPage
  · intro found
    refine ⟨ref.1, ?_, List.mem_map.mpr ⟨(element, ref.2), List.mem_zipIdx_iff_getElem?.mpr found, rfl⟩⟩
    obtain ⟨⟨page, figure⟩, inWalk, -⟩ := List.mem_map.mp (List.mem_of_getElem? found)
    obtain ⟨inWalk, onPage⟩ := List.mem_filter.mp inWalk
    have onPage : page = ref.1 := by simpa using onPage
    exact List.mem_eraseDups.mpr (List.mem_map.mpr ⟨(page, figure), inWalk, onPage⟩)

/-- A figure is a dictionary. -/
theorem isDictionary_of_mem_collect {inherited : Option Value}
    (member : (page, element) ∈ collectFigureElements doc levels inherited node) :
    doc.isDictionary element = true := by
  induction levels generalizing node inherited with
  | zero => exact absurd member List.not_mem_nil
  | succ levels ih =>
    rw [collectFigureElements] at member
    by_cases isDictionary : doc.isDictionary node = true
    case neg => simp [isDictionary] at member
    rw [if_neg (by simp [isDictionary])] at member
    rcases List.mem_append.mp member with own | below
    · split at own
      · obtain ⟨_, -, same⟩ := Option.map_eq_some_iff.mp (Option.mem_toList.mp own)
        rwa [← (Prod.mk.inj same).2]
      · exact absurd own List.not_mem_nil
    · obtain ⟨kid, -, inKid⟩ := List.mem_flatMap.mp below
      split at inKid
      · exact ih inKid
      · exact absurd inKid List.not_mem_nil

theorem isDictionary_of_mem_figureRefs (member : (ref, element) ∈ figureRefs doc) :
    doc.isDictionary element = true := by
  have inPage := List.mem_of_getElem? (mem_figureRefs_iff.mp member)
  obtain ⟨⟨page, figure⟩, inWalk, same⟩ := List.mem_map.mp inPage
  have inWalk := (List.mem_filter.mp inWalk).1
  obtain rfl : figure = element := same
  unfold walkFigures at inWalk
  split at inWalk
  · exact absurd inWalk List.not_mem_nil
  · exact isDictionary_of_mem_collect inWalk

/-! ## One text written -/

/-- What writing one text comes to. -/
theorem writeAlt_eq : writeAlt alts doc (ref, .object a) =
    if textFor alts ref = "" then doc else doc.setEntry a "/Alt" (.string (textFor alts ref)) := by
  unfold writeAlt textFor
  cases alts ref with
  | none => rfl
  | some alt => rfl

theorem isDictionary_writeAlt :
    (writeAlt alts doc figure).isDictionary node = doc.isDictionary node := by
  obtain ⟨ref, element⟩ := figure
  cases element with
  | object a =>
    rw [writeAlt_eq]
    split
    · rfl
    · exact Document.dictionary?_setEntry_isSome
  | _ => unfold writeAlt; split <;> simp_all

/-- The other entries are as they were. -/
theorem get_writeAlt_of_ne (other : key ≠ "/Alt") :
    (writeAlt alts doc figure).get node key = doc.get node key := by
  obtain ⟨ref, element⟩ := figure
  cases element with
  | object a =>
    rw [writeAlt_eq]
    split
    · rfl
    · exact Document.get_setEntry_of_ne other
  | _ => unfold writeAlt; split <;> simp_all

/-- Another object is as it was. -/
theorem cell?_writeAlt_of_ne (other : figure.2 ≠ .object a) :
    (writeAlt alts doc figure).cell? a = doc.cell? a := by
  obtain ⟨ref, element⟩ := figure
  cases element with
  | object b =>
    rw [writeAlt_eq]
    split
    · rfl
    · refine Document.cell?_change_of_ne ?_
      rintro rfl
      exact other rfl
  | _ => unfold writeAlt; split <;> simp_all

/-- The `/Alt` of the element that is written. -/
theorem get_writeAlt_self (isDictionary : doc.isDictionary element = true) :
    (writeAlt alts doc (ref, element)).get element "/Alt" =
      if textFor alts ref = "" then doc.get element "/Alt"
      else some (.string (textFor alts ref)) := by
  cases element with
  | object a =>
    rw [writeAlt_eq]
    split
    · rfl
    · exact Document.get_setEntry_self (Option.isSome_iff_ne_none.mp isDictionary)
  | _ => exact absurd isDictionary Bool.false_ne_true

/-! ## All texts written -/

/-- The last text that is not empty among those of an element. -/
def lastText (alts : ℕ × ℕ → Option String) (element : Value) :
    List ((ℕ × ℕ) × Value) → Option String
  | [] => none
  | figure :: rest =>
      (lastText alts element rest).or
        (if figure.2 = element ∧ textFor alts figure.1 ≠ "" then some (textFor alts figure.1)
        else none)

theorem lastText_eq_none_iff : lastText alts element figures = none ↔
    ∀ ref, (ref, element) ∈ figures → textFor alts ref = "" := by
  induction figures with
  | nil => simp [lastText]
  | cons figure rest ih =>
    obtain ⟨place, found⟩ := figure
    rw [lastText, Option.or_eq_none_iff, ih]
    constructor
    · rintro ⟨inRest, own⟩ ref member
      rcases List.mem_cons.mp member with same | later
      · obtain ⟨rfl, rfl⟩ := Prod.mk.inj same
        by_contra notEmpty
        rw [if_pos ⟨rfl, notEmpty⟩] at own
        exact absurd own (by simp)
      · exact inRest ref later
    · intro empty
      refine ⟨fun ref later => empty ref (List.mem_cons_of_mem _ later), if_neg ?_⟩
      rintro ⟨rfl, notEmpty⟩
      exact notEmpty (empty place List.mem_cons_self)

theorem exists_of_lastText {text : String} (isLast : lastText alts element figures = some text) :
    text ≠ "" ∧ ∃ ref, (ref, element) ∈ figures ∧ textFor alts ref = text := by
  induction figures with
  | nil => exact absurd isLast (by simp [lastText])
  | cons figure rest ih =>
    obtain ⟨place, found⟩ := figure
    rw [lastText, Option.or_eq_some_iff] at isLast
    rcases isLast with later | ⟨-, own⟩
    · obtain ⟨notEmpty, ref, member, same⟩ := ih later
      exact ⟨notEmpty, ref, List.mem_cons_of_mem _ member, same⟩
    · by_cases isOwn : found = element ∧ textFor alts place ≠ ""
      · rw [if_pos isOwn] at own
        obtain rfl := Option.some.inj own
        obtain ⟨rfl, notEmpty⟩ := isOwn
        exact ⟨notEmpty, place, List.mem_cons_self, rfl⟩
      · rw [if_neg isOwn] at own
        exact absurd own (by simp)

theorem get_writeAll_of_ne (other : key ≠ "/Alt") :
    (figures.foldl (writeAlt alts) doc).get node key = doc.get node key := by
  induction figures generalizing doc with
  | nil => rfl
  | cons figure rest ih => rw [List.foldl_cons, ih, get_writeAlt_of_ne other]

theorem cell?_writeAll (other : ∀ figure ∈ figures, figure.2 ≠ .object a) :
    (figures.foldl (writeAlt alts) doc).cell? a = doc.cell? a := by
  induction figures generalizing doc with
  | nil => rfl
  | cons figure rest ih =>
    rw [List.foldl_cons, ih fun later member => other later (List.mem_cons_of_mem _ member),
      cell?_writeAlt_of_ne (other figure List.mem_cons_self)]

/-- The `/Alt` of an element in the end. -/
theorem get_writeAll (isDictionary : doc.isDictionary element = true) :
    (figures.foldl (writeAlt alts) doc).get element "/Alt" =
      ((lastText alts element figures).map Value.string).or (doc.get element "/Alt") := by
  induction figures generalizing doc with
  | nil => rfl
  | cons figure rest ih =>
    obtain ⟨place, found⟩ := figure
    rw [List.foldl_cons, ih (isDictionary_writeAlt.trans isDictionary), lastText]
    by_cases isOwn : found = element
    · subst isOwn
      rw [get_writeAlt_self isDictionary]
      by_cases empty : textFor alts place = ""
      · rw [if_pos empty, if_neg (fun both => both.2 empty), Option.or_none]
      · rw [if_neg empty, if_pos ⟨rfl, empty⟩]
        cases lastText alts found rest <;> rfl
    · rw [if_neg (fun both => isOwn both.1), Option.or_none]
      congr 1
      cases element with
      | object a =>
        have same := Document.readers_congr (@cell?_writeAlt_of_ne doc alts (place, found) a isOwn)
        rw [Document.get_object, Document.get_object, same.1]
      | _ => rfl

/-! ## Candidates and places -/

/-- What a list that is mapped without a failure comes from. -/
theorem mem_of_mapM {α β : Type} {f : α → Option β} {items : List α} {results : List β}
    (done : items.mapM f = some results) :
    (∀ item ∈ items, ∃ result ∈ results, f item = some result) ∧
      ∀ result ∈ results, ∃ item ∈ items, f item = some result := by
  induction items generalizing results with
  | nil =>
    obtain rfl := Option.some.inj done
    exact ⟨fun item member => absurd member List.not_mem_nil,
      fun result member => absurd member List.not_mem_nil⟩
  | cons head rest ih =>
    rw [List.mapM_cons] at done
    obtain ⟨first, isFirst, done⟩ := Option.bind_eq_some_iff.mp done
    obtain ⟨others, areOthers, done⟩ := Option.bind_eq_some_iff.mp done
    obtain rfl := Option.some.inj done
    obtain ⟨forward, backward⟩ := ih areOthers
    constructor
    · intro item member
      rcases List.mem_cons.mp member with rfl | later
      · exact ⟨first, List.mem_cons_self, isFirst⟩
      · obtain ⟨result, inOthers, same⟩ := forward item later
        exact ⟨result, List.mem_cons_of_mem _ inOthers, same⟩
    · intro result member
      rcases List.mem_cons.mp member with rfl | later
      · exact ⟨head, List.mem_cons_self, isFirst⟩
      · obtain ⟨item, inRest, same⟩ := backward result later
        exact ⟨item, List.mem_cons_of_mem _ inRest, same⟩

/-- The candidate's place is the element's, in the list of its page. -/
def StandsFor (doc : Document) (candidate : FigureCandidate) (element : Value) : Prop :=
  (pageFigures doc candidate.ref.1)[candidate.ref.2]? = some element

/-- A candidate has the place and the picture of a figure of its page. -/
theorem exists_of_mem_candidates (collected : collectFigures doc fitz = some candidates)
    {candidate : FigureCandidate} (member : candidate ∈ candidates) :
    ∃ page images figN picture, fitz.getImages page = some images ∧
      figN < (pageFigures doc page).length ∧
      extractCandidateImage fitz page images figN = some picture ∧
      candidate = ⟨(page, figN), page + 1, picture⟩ := by
  obtain ⟨lists, mapped, rfl⟩ := Option.map_eq_some_iff.mp collected
  obtain ⟨list, isList, inList⟩ := List.mem_flatten.mp member
  obtain ⟨page, -, onPage⟩ := (mem_of_mapM mapped).2 list isList
  obtain ⟨images, areImages, onPage⟩ := Option.bind_eq_some_iff.mp onPage
  obtain ⟨figN, inRange, isCandidate⟩ := (mem_of_mapM onPage).2 candidate inList
  obtain ⟨picture, isPicture, same⟩ := Option.bind_eq_some_iff.mp isCandidate
  exact ⟨page, images, figN, picture, areImages, List.mem_range.mp inRange, isPicture,
    (Option.some.inj same).symm⟩

/-- Every figure of the walk has its candidate. -/
theorem exists_candidate (collected : collectFigures doc fitz = some candidates)
    (member : (ref, element) ∈ figureRefs doc) :
    ∃ candidate ∈ candidates, candidate.ref = ref := by
  obtain ⟨lists, mapped, rfl⟩ := Option.map_eq_some_iff.mp collected
  obtain ⟨page, isPage, placed⟩ := List.mem_flatMap.mp member
  obtain ⟨⟨found, place⟩, inPage, same⟩ := List.mem_map.mp placed
  obtain ⟨rfl, rfl⟩ := Prod.mk.inj same
  have inside : place < (pageFigures doc page).length :=
    (List.getElem?_eq_some_iff.mp (List.mem_zipIdx_iff_getElem?.mp inPage)).1
  obtain ⟨list, isList, onPage⟩ :=
    (mem_of_mapM mapped).1 page ((List.mem_insertionSort _).mpr isPage)
  obtain ⟨images, areImages, onPage⟩ := Option.bind_eq_some_iff.mp onPage
  obtain ⟨candidate, inList, isCandidate⟩ :=
    (mem_of_mapM onPage).1 place (List.mem_range.mpr inside)
  obtain ⟨picture, isPicture, same⟩ := Option.bind_eq_some_iff.mp isCandidate
  obtain rfl := Option.some.inj same
  exact ⟨_, List.mem_flatten.mpr ⟨list, isList, inList⟩, rfl⟩

theorem StandsFor.mem_figureRefs {candidate : FigureCandidate}
    (stands : StandsFor doc candidate element) : (candidate.ref, element) ∈ figureRefs doc :=
  mem_figureRefs_iff.mpr stands

/-! ## Written back as given -/

/-- The texts are written back as given. -/
structure WrittenBack (doc out : Document) (candidates : List FigureCandidate)
    (alts : ℕ × ℕ → Option String) : Prop where
  /-- A figure has its text, and none if that is empty. -/
  texts : ∀ candidate ∈ candidates, ∀ element, StandsFor doc candidate element →
    out.get element "/Alt" =
      if textFor alts candidate.ref = "" then none else some (.string (textFor alts candidate.ref))
  /-- Nothing but `/Alt` is written. -/
  entries : ∀ node key, key ≠ "/Alt" → out.get node key = doc.get node key
  /-- Nothing but a figure is written to. -/
  others : ∀ a, (∀ candidate ∈ candidates, ¬ StandsFor doc candidate (.object a)) →
    out.cell? a = doc.cell? a

/-- **The condition.**  One text for each figure, and no `/Alt` before where that is empty.

An empty text stands for a decorative figure.  It is passed over when the texts are written, so
what the figure had before stays, be it a placeholder. -/
structure TextsFit (doc : Document) (candidates : List FigureCandidate)
    (alts : ℕ × ℕ → Option String) : Prop where
  fresh : ∀ candidate ∈ candidates, ∀ element, StandsFor doc candidate element →
    textFor alts candidate.ref = "" → doc.get element "/Alt" = none
  single : ∀ candidate ∈ candidates, ∀ other ∈ candidates, ∀ element,
    StandsFor doc candidate element → StandsFor doc other element →
    textFor alts candidate.ref = textFor alts other.ref

end DicePipeline.AltText

namespace DicePipeline

open Pdf AltText

/-- **When the texts come out as given**: if and only if each figure has one text, and had no
`/Alt` where that is empty.

The texts are written in the order of the figures and a later one overwrites an earlier one; an
element that stands for several figures has one `/Alt` for all of them. -/
theorem alt_text_written_back_iff (file : File) (fitz : PyMuPdf)
    (candidates : List AltText.FigureCandidate) (alts : ℕ × ℕ → Option String)
    (collected : collectFigures file.1 fitz = some candidates) :
    WrittenBack file.1 (writeAltText file.1 alts) candidates alts ↔
      TextsFit file.1 candidates alts := by
  obtain ⟨doc, opened⟩ := file
  -- What a figure has in the end: the last text that is not empty, or else what it had.
  have final : ∀ candidate element, StandsFor doc candidate element →
      (writeAltText doc alts).get element "/Alt" =
        ((lastText alts element (figureRefs doc)).map Value.string).or
          (doc.get element "/Alt") := fun candidate element stands =>
    get_writeAll (isDictionary_of_mem_figureRefs stands.mem_figureRefs)
  constructor
  · rintro ⟨texts, -, -⟩
    refine ⟨?_, ?_⟩
    · intro candidate member element stands empty
      -- Two candidates for one figure get one `/Alt`, so their texts are one, the empty one too.
      have written := texts candidate member element stands
      rw [if_pos empty, final candidate element stands, Option.or_eq_none_iff] at written
      exact written.2
    · intro candidate member other isOther element stands otherStands
      have written := texts candidate member element stands
      have otherWritten := texts other isOther element otherStands
      rw [written] at otherWritten
      by_cases empty : textFor alts candidate.ref = ""
      · by_cases otherEmpty : textFor alts other.ref = ""
        · rw [empty, otherEmpty]
        · rw [if_pos empty, if_neg otherEmpty] at otherWritten
          exact absurd otherWritten (by simp)
      · by_cases otherEmpty : textFor alts other.ref = ""
        · rw [if_neg empty, if_pos otherEmpty] at otherWritten
          exact absurd otherWritten (by simp)
        · rw [if_neg empty, if_neg otherEmpty] at otherWritten
          exact Value.string.inj (Option.some.inj otherWritten)
  · rintro ⟨fresh, single⟩
    refine ⟨?_, fun node key other => get_writeAll_of_ne other, ?_⟩
    · intro candidate member element stands
      rw [final candidate element stands]
      cases isLast : lastText alts element (figureRefs doc) with
      | none =>
        -- All texts of the figure are empty, and so its `/Alt` is as it was: absent, by the
        -- condition.
        have empty := lastText_eq_none_iff.mp isLast _ stands.mem_figureRefs
        rw [if_pos empty]
        exact fresh candidate member element stands empty
      | some text =>
        obtain ⟨notEmpty, ref, inRefs, isText⟩ := exists_of_lastText isLast
        obtain ⟨other, isOther, rfl⟩ := exists_candidate collected inRefs
        -- The last text is that of another candidate, and the condition makes it this one's.
        have same := single candidate member other isOther element stands
          (mem_figureRefs_iff.mp inRefs)
        rw [same, isText, if_neg notEmpty]
        rfl
    · intro a untouched
      refine cell?_writeAll ?_
      rintro ⟨ref, element⟩ inRefs rfl
      obtain ⟨candidate, member, rfl⟩ := exists_candidate collected inRefs
      exact untouched candidate member (mem_figureRefs_iff.mp inRefs)

/-- A page with two figures, the first with the placeholder for its `/Alt`, the
second with none. -/
def twoFigures : File where
  val :=
    { objects := [
        ⟨.dictionary [("/StructTreeRoot", .object 1)], 1⟩,
        ⟨.dictionary [("/Type", .name "/StructTreeRoot"), ("/K", .object 2)], 2⟩,
        ⟨.array [.object 3, .object 4], 0⟩,
        ⟨.dictionary [("/S", .name "/Figure"), ("/Pg", .object 5), ("/Alt", .string "image 1")], 3⟩,
        ⟨.dictionary [("/S", .name "/Figure"), ("/Pg", .object 5)], 4⟩,
        ⟨.dictionary [("/Type", .name "/Page")], 5⟩]
      catalog := 0
      pages := [5] }
  property := by decide +kernel

/-- A file whose page has an image too small to be described, and a PNG. -/
def smallImageAndPng : PyMuPdf where
  getImages := fun _ => some [⟨10, 20, 20⟩, ⟨11, 600, 400⟩]
  extractImage := fun xref => some ("png", [UInt8.ofNat xref])
  renderPage := fun _ => some []

/-- The rule for the page, the first figure being given a text too. -/
theorem alt_text_written_back_iff_two_figures :
    ∃ candidates, collectFigures twoFigures.1 smallImageAndPng = some candidates ∧
      candidates.map (·.picture.decorative) = [true, false] ∧
      (WrittenBack twoFigures.1 (writeAltText twoFigures.1 fun ref => some s!"figure {ref.2}")
          candidates (fun ref => some s!"figure {ref.2}") ↔
        TextsFit twoFigures.1 candidates fun ref => some s!"figure {ref.2}") :=
  ⟨(collectFigures twoFigures.1 smallImageAndPng).getD [], by decide +kernel, by decide +kernel,
    alt_text_written_back_iff twoFigures smallImageAndPng _ _ (by decide +kernel)⟩

/-- The placeholder stays on a figure that is given no text, such as a decorative one. -/
theorem placeholder_survives :
    ¬ ∀ (file : File) (fitz : PyMuPdf) (candidates : List AltText.FigureCandidate)
      (alts : ℕ × ℕ → Option String), collectFigures file.1 fitz = some candidates →
      (∀ candidate ∈ candidates, (alts candidate.ref).isSome) →
      WrittenBack file.1 (writeAltText file.1 alts) candidates alts := by
  intro always
  have written := always twoFigures smallImageAndPng
    ((collectFigures twoFigures.1 smallImageAndPng).getD [])
    (altByRef (fun _ _ _ => "A chart.")
      ((collectFigures twoFigures.1 smallImageAndPng).getD []))
    (by decide +kernel) (by decide +kernel)
  have texts := written.texts ⟨(0, 0), 1, ⟨[], .png, true⟩⟩ (by decide +kernel) (.object 3)
    (show _ = _ by decide +kernel)
  exact absurd texts (by decide +kernel)

end DicePipeline
