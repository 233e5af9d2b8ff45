import DicePipeline.Links.Idempotent
import DicePipeline.Loops
import DicePipeline.Quality.Analysis

/-!
# What the quality report sees of a file

`visit` reads the type, the alt text, the page and the kids of a node.  Two nodes that
have these in common, and whose kids have, are counted alike (`Alike.visit`).

A file that was saved and read again is one example (`Reopened.alike`): all its objects
may be at other addresses, and the report is the same (`analyzePdf_reopened`).
-/

namespace DicePipeline.Quality

open Pdf

variable {doc doc' saved again : Document} {origin : ℕ → ℕ} {related : Value → Value → Prop}
variable {node node' : Value} {kids kids' : List Value} {levels : ℕ} {survey : Survey}

/-! ## Nodes that are counted alike -/

/-- Related nodes look the same, and so do their kids. -/
structure Alike (doc doc' : Document) (related : Value → Value → Prop) : Prop where
  isDictionary : ∀ node node', related node node' →
    doc'.isDictionary node' = doc.isDictionary node
  type : ∀ node node', related node node' → doc'.textOf node' "/S" = doc.textOf node "/S"
  alt : ∀ node node', related node node' → doc'.textOf node' "/Alt" = doc.textOf node "/Alt"
  page : ∀ node node', related node node' →
    ∀ inherited, pageOf doc' inherited node' = pageOf doc inherited node
  kids : ∀ node node', related node node' →
    List.Forall₂ related (doc.kidsOf node) (doc'.kidsOf node')

namespace Alike

theorem listSize (alike : Alike doc doc' related) (isRelated : related node node') :
    listSize doc' node' = listSize doc node := by
  refine countP_congr_forall₂ (alike.kids _ _ isRelated) fun kid kid' kidRelated => ?_
  rw [alike.isDictionary _ _ kidRelated, alike.type _ _ kidRelated]

theorem enter (alike : Alike doc doc' related) (isRelated : related node node')
    (page : Option ℕ) : survey.enter doc' node' page = survey.enter doc node page := by
  have counted : PageStructure.enter doc' node' = PageStructure.enter doc node := by
    funext tag target
    unfold PageStructure.enter
    rw [alike.listSize isRelated, alike.alt _ _ isRelated]
  unfold Survey.enter
  rw [alike.type _ _ isRelated, counted]

/-- **Nodes that look the same are counted alike.** -/
theorem visit (alike : Alike doc doc' related) (isRelated : related node node')
    (inherited : Option ℕ) :
    visit doc' levels node' inherited survey = visit doc levels node inherited survey := by
  induction levels generalizing node node' inherited survey with
  | zero => rfl
  | succ levels ih =>
    rw [Quality.visit, Quality.visit, alike.page _ _ isRelated, alike.type _ _ isRelated]
    cases pageOf doc inherited node with
    | none => rfl
    | some page =>
      simp only [Option.bind_eq_bind, Option.bind_some]
      rw [alike.enter isRelated, foldlM_congr_forall₂ (alike.kids _ _ isRelated)]
      intro kid kid' kidRelated state
      rw [alike.isDictionary _ _ kidRelated, ih kidRelated]

theorem visitKid (alike : Alike doc doc' related) (isRelated : related node node') :
    visitKid doc' levels survey node' = visitKid doc levels survey node := by
  unfold Quality.visitKid
  rw [alike.isDictionary _ _ isRelated, alike.visit isRelated]

/-- And so are lists of them. -/
theorem foldlM_visitKid (alike : Alike doc doc' related)
    (pairs : List.Forall₂ related kids kids') :
    kids'.foldlM (Quality.visitKid doc' levels) survey =
      kids.foldlM (Quality.visitKid doc levels) survey := by
  refine foldlM_congr_forall₂ pairs ?_ survey
  intro kid kid' kidRelated survey
  exact alike.visitKid kidRelated

end Alike

/-! ## A file that was saved and read again -/

/-- An empty dictionary is one without entries. -/
theorem dictionary?_eq_nil_iff {value : Value} :
    doc.dictionary? value = some [] ↔
      doc.isDictionary value = true ∧ ∀ key, doc.get value key = none := by
  unfold Document.isDictionary Document.get
  cases doc.dictionary? value with
  | none => simp
  | some entries =>
    cases entries with
    | nil => simp
    | cons first rest =>
      refine iff_of_false (by simp) fun empty => ?_
      have found := empty.2 first.1
      rw [Option.bind_some, List.lookup_cons_self] at found
      exact absurd found (by simp)

section Reopened

variable (reopened : Reopened saved again origin) (opened : Opened again)

include reopened opened

/-- A page has the place it had. -/
theorem pageIndex_reopened {a : ℕ} (there : a < again.objects.length) :
    AltText.pageIndex saved (saved.number (.object (origin a))) =
      AltText.pageIndex again (again.number (.object a)) := by
  unfold AltText.pageIndex
  rw [← reopened.pages, List.zipIdx_map, List.map_map, ← List.map_reverse, ← List.map_reverse]
  refine lookup_map_congr fun page member => ?_
  have isPage : page.1 ∈ again.pages :=
    List.fst_mem_of_mem_zipIdx (List.mem_reverse.mp member)
  exact (reopened.number page.1 (opened.pagesThere _ isPage) a there).symm

theorem pageOf_reopened {value : Value} (within : again.Within value) (inherited : Option ℕ) :
    pageOf saved inherited (value.relocate origin) = pageOf again inherited value := by
  unfold pageOf
  rw [reopened.get within]
  cases isPage : again.get value "/Pg" with
  | none => rfl
  | some page =>
    cases page with
    | object a =>
      show some ((AltText.pageIndex saved (saved.number (.object (origin a)))).or inherited) = _
      rw [pageIndex_reopened reopened opened (opened.within_of_get isPage a rfl)]
    | _ => rfl

/-- Each node of the copy looks like the one it is the copy of. -/
theorem Reopened.alike :
    Alike again saved fun node node' => again.Within node ∧ node' = node.relocate origin where
  isDictionary := by
    rintro node _ ⟨within, rfl⟩
    exact reopened.isDictionary within
  type := by
    rintro node _ ⟨within, rfl⟩
    exact reopened.textOf within
  alt := by
    rintro node _ ⟨within, rfl⟩
    exact reopened.textOf within
  page := by
    rintro node _ ⟨within, rfl⟩ inherited
    exact pageOf_reopened reopened opened within inherited
  kids := by
    rintro node _ ⟨within, rfl⟩
    rw [reopened.kidsOf opened within, List.forall₂_map_right_iff, List.forall₂_same]
    exact fun kid member => ⟨opened.within_kidsOf member, rfl⟩

omit opened in
/-- What is an empty dictionary is one again. -/
theorem dictionary?_eq_nil_reopened {value : Value} (within : again.Within value) :
    saved.dictionary? (value.relocate origin) = some [] ↔ again.dictionary? value = some [] := by
  rw [dictionary?_eq_nil_iff, dictionary?_eq_nil_iff, reopened.isDictionary within]
  refine and_congr_right fun _ => forall_congr' fun key => ?_
  rw [reopened.get within, Option.map_eq_none_iff]

omit opened in
theorem isFalsy_reopened {value : Value} (within : again.Within value) :
    saved.isFalsy (value.relocate origin) = again.isFalsy value := by
  cases value with
  | object a =>
    have array : saved.array? ((Value.object a).relocate origin) = some [] ↔
        again.array? (.object a) = some [] := by
      rw [reopened.array? within]
      cases again.array? (.object a) with
      | none => simp
      | some items => simp
    show (_ == _ || _ == _) = (_ == _ || _ == _)
    congr 1
    · rw [Bool.eq_iff_iff, beq_iff_eq, beq_iff_eq]
      exact dictionary?_eq_nil_reopened reopened within
    · rw [Bool.eq_iff_iff, beq_iff_eq, beq_iff_eq]
      exact array
  | _ => rfl

theorem catalogFlag_reopened (catalog : again.Within (.object again.catalog))
    (dictionary key : String) : catalogFlag saved dictionary key = catalogFlag again dictionary key := by
  have entry := @Reopened.get _ dictionary saved again origin reopened catalog
  rw [Value.relocate, reopened.catalog] at entry
  unfold catalogFlag
  rw [entry]
  cases isNode : again.get (.object again.catalog) dictionary with
  | none => rfl
  | some node =>
    have within := opened.within_of_get isNode
    simp only [Option.map_some]
    rw [reopened.isDictionary within, reopened.get within]
    cases isValue : again.get node key with
    | none => rfl
    | some value =>
      simp only [Option.map_some]
      rw [isFalsy_reopened reopened (opened.within_of_get isValue)]

theorem countLinks_reopened {page : ℕ} (there : page ∈ again.pages) :
    countLinks saved (origin page) = countLinks again page := by
  have inside := opened.pagesThere page there
  unfold countLinks
  rw [← reopened.entry page inside "/Annots"]
  cases isAnnots : again.get (.object page) "/Annots" with
  | none => rfl
  | some annots =>
    have within := opened.within_of_get isAnnots
    have items : Links.iterated saved (annots.relocate origin) =
        (Links.iterated again annots).map (List.map (Value.relocate origin)) := by
      unfold Links.iterated
      by_cases empty : again.dictionary? annots = some []
      · rw [if_pos empty, if_pos ((dictionary?_eq_nil_reopened reopened within).mpr empty)]
        rfl
      · rw [if_neg empty, if_neg fun same => empty
          ((dictionary?_eq_nil_reopened reopened within).mp same), reopened.array? within]
    simp only [Option.map_some]
    rw [items]
    cases isIterated : Links.iterated again annots with
    | none => rfl
    | some items =>
      have inItems : ∀ item ∈ items, again.Within item := by
        intro item member
        unfold Links.iterated at isIterated
        split at isIterated
        · obtain rfl := Option.some.inj isIterated
          exact absurd member List.not_mem_nil
        · exact opened.within_of_mem isIterated member
      have dictionaries : (items.map (Value.relocate origin)).all saved.isDictionary =
          items.all again.isDictionary := by
        rw [List.all_map]
        exact all_congr_of_mem fun item member => reopened.isDictionary (inItems item member)
      have links : (items.map (Value.relocate origin)).countP
            (fun annot => saved.textOf annot "/Subtype" == "/Link") =
          items.countP fun annot => again.textOf annot "/Subtype" == "/Link" := by
        rw [List.countP_map]
        refine List.countP_congr fun item member => ?_
        rw [Function.comp_apply, reopened.textOf (inItems item member)]
      simp only [Option.map_some, Option.bind_eq_bind, Option.bind_some]
      rw [dictionaries, links]

theorem documentProperties_reopened (catalog : again.Within (.object again.catalog))
    {info : Option ℕ} (infoThere : ∀ a ∈ info, a < again.objects.length) (outlineEntries : ℕ) :
    documentProperties saved (info.map origin) outlineEntries =
      documentProperties again info outlineEntries := by
  have counts : saved.pages.mapM (countLinks saved) = again.pages.mapM (countLinks again) := by
    rw [← reopened.pages, List.mapM_map]
    exact mapM_congr_of_mem fun page there => countLinks_reopened reopened opened there
  have tabs : (saved.pages.all fun page => saved.textOf (.object page) "/Tabs" == "/S") =
      again.pages.all fun page => again.textOf (.object page) "/Tabs" == "/S" := by
    rw [← reopened.pages, List.all_map]
    refine all_congr_of_mem fun page there => ?_
    have within : again.Within (.object page) := by
      rintro a ⟨⟩
      exact opened.pagesThere page there
    rw [Function.comp_apply, ← reopened.textOf within]
    rfl
  have language : saved.textOf (.object saved.catalog) "/Lang" =
      again.textOf (.object again.catalog) "/Lang" := by
    rw [← reopened.catalog, ← reopened.textOf catalog]
    rfl
  have title : (((info.map origin).map fun a => saved.textOf (.object a) "/Title").getD "") =
      ((info.map fun a => again.textOf (.object a) "/Title").getD "") := by
    cases info with
    | none => rfl
    | some a =>
      have within : again.Within (.object a) := by
        rintro b ⟨⟩
        exact infoThere a rfl
      exact reopened.textOf within
  unfold documentProperties
  rw [catalogFlag_reopened reopened opened catalog, catalogFlag_reopened reopened opened catalog,
    counts, tabs, language, title]

theorem structureByPage_reopened (catalog : again.Within (.object again.catalog)) :
    structureByPage saved levels = structureByPage again levels := by
  have entry := @Reopened.get _ "/StructTreeRoot" saved again origin reopened catalog
  rw [Value.relocate, reopened.catalog] at entry
  have pages : saved.pages.length = again.pages.length := by rw [← reopened.pages, List.length_map]
  unfold structureByPage
  rw [entry, pages]
  cases isRoot : again.get (.object again.catalog) "/StructTreeRoot" with
  | none => rfl
  | some root =>
    have within := opened.within_of_get isRoot
    have alike := Reopened.alike reopened opened
    simp only [Option.map_some]
    rw [reopened.isDictionary within,
      alike.foldlM_visitKid (alike.kids root _ ⟨within, rfl⟩)]

/-- **A file that was saved and read again has the same report.** -/
theorem analyzePdf_reopened {R : Type} (sha1 : Text → Text)
    (catalog : again.Within (.object again.catalog)) {info : Option ℕ}
    (infoThere : ∀ a ∈ info, a < again.objects.length) (outlineEntries : ℕ) (text : PageText)
    (ocrTruth : Option (Dict Text (PageScore R))) :
    analyzePdf sha1 saved levels (info.map origin) outlineEntries text ocrTruth =
      analyzePdf sha1 again levels info outlineEntries text ocrTruth := by
  unfold analyzePdf
  rw [structureByPage_reopened reopened opened catalog,
    documentProperties_reopened reopened opened catalog infoThere]

end Reopened

end DicePipeline.Quality
