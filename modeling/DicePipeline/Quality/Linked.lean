import DicePipeline.Links.Grown
import DicePipeline.Quality.Alike
import DicePipeline.Quality.Antisymmetry
import DicePipeline.Quality.Gate
import DicePipeline.Scoring.Linked

/-!
# The quality report of a file whose links were repaired

Below the root of the structure tree repair changes nothing that is counted
(`alike_repaired`), and each element it appends to the root's kids is one more link on a
page (`visitKid_gained`).  So the reports differ in one total, and the gate passes
(`link_repair_passes_the_gate`).

The kids of the root have to be the root's alone (`OwnKids`).  Where a list has the same
array for its items, it gets longer with it.
-/

namespace DicePipeline.Quality

open Pdf Links

variable {doc out : Document} {root levels count : ℕ} {node kid element : Value}
variable {survey survey' : Survey} {link : Value × Value}

/-! ## Below the root -/

/-- The node is somewhere below the root. -/
def Under (doc : Document) (root : ℕ) : Value → Prop :=
  Relation.TransGen (fun node kid => kid ∈ doc.kidsOf node) (.object root)

/-- What the root has under `/K` is under that of no node below it. -/
def OwnKids (doc : Document) (root : ℕ) : Prop :=
  ∀ node, Under doc root node → ∀ kids, doc.get node "/K" = some kids →
    doc.get (.object root) "/K" ≠ some kids

/-- The tree does not come back to the root. -/
theorem OwnKids.ne_root (own : OwnKids doc root) (under : Under doc root node) :
    node ≠ .object root := by
  rintro rfl
  obtain ⟨kid, isKid, -⟩ := Relation.TransGen.head'_iff.mp under
  cases present : doc.get (.object root) "/K" with
  | none =>
    rw [Document.kidsOf_of_none present] at isKid
    exact absurd isKid List.not_mem_nil
  | some kids => exact own _ under kids present present

section Repaired

variable (opened : Opened doc) (done : tagLinkAnnotations doc (.object root) = some out)

include opened done

theorem pages_repaired : out.pages = doc.pages :=
  (tagLinkAnnotations_appends opened done).2.1.pages.trans normalizeRootKids_pages

theorem number_repaired {value : Value} (within : doc.Within value) :
    out.number value = doc.number value :=
  (tagLinkAnnotations_appends opened done).2.2.1.toSupplements.number_eq within

theorem pageIndex_repaired (number : ℕ) : AltText.pageIndex out number = AltText.pageIndex doc number := by
  unfold AltText.pageIndex
  rw [pages_repaired opened done]
  congr 2
  refine List.map_congr_left fun page member => ?_
  rw [number_repaired opened done]
  rintro a ⟨⟩
  exact opened.pagesThere _ (List.fst_mem_of_mem_zipIdx member)

theorem pageOf_repaired (within : doc.Within node) (inherited : Option ℕ) :
    pageOf out inherited node = pageOf doc inherited node := by
  unfold pageOf
  rw [get_repaired opened done within (by decide)]
  cases isPage : doc.get node "/Pg" with
  | none => rfl
  | some page =>
    cases page with
    | object a =>
      dsimp only
      rw [pageIndex_repaired opened done, number_repaired opened done (opened.within_of_get isPage)]
    | _ => rfl

theorem kidsOf_repaired (own : OwnKids doc root) (under : Under doc root node)
    (within : doc.Within node) : out.kidsOf node = doc.kidsOf node := by
  have other := own.ne_root under
  have entry := get_kids_repaired opened done within other
  by_cases isDictionary : doc.isDictionary node = true
  · refine kidsOf_kept opened done isDictionary other fun kids isKids _ held => ?_
    exact own node under kids held isKids
  · -- What is no dictionary has no kids.
    have none : doc.get node "/K" = none := by
      by_contra present
      obtain ⟨kids, isKids⟩ := Option.ne_none_iff_exists'.mp present
      exact isDictionary (Document.isDictionary_of_get isKids)
    rw [Document.kidsOf_of_none none, Document.kidsOf_of_none (entry.trans none)]

/-- **Repair leaves what is below the root** as the walk sees it. -/
theorem alike_repaired (own : OwnKids doc root) :
    Alike doc out fun node node' => Under doc root node ∧ doc.Within node ∧ node' = node where
  isDictionary := by
    rintro node _ ⟨-, within, rfl⟩
    exact isDictionary_repaired opened done within
  type := by
    rintro node _ ⟨-, within, rfl⟩
    exact textOf_repaired opened done within (by decide)
  alt := by
    rintro node _ ⟨-, within, rfl⟩
    exact textOf_repaired opened done within (by decide)
  page := by
    rintro node _ ⟨-, within, rfl⟩ inherited
    exact pageOf_repaired opened done within inherited
  kids := by
    rintro node _ ⟨under, within, rfl⟩
    rw [kidsOf_repaired opened done own under within, List.forall₂_same]
    exact fun kid member => ⟨under.tail member, opened.within_kidsOf member, rfl⟩

end Repaired

/-! ## One more link -/

/-- Counts a link that has no page of its own to inherit. -/
def Survey.addLink (survey : Survey) (page : ℕ) : Survey :=
  survey.onPage (some page) fun target =>
    { target with roles := target.roles ++ ["/Link"], links := target.links + 1 }

/-- A page without its links. -/
def PageStructure.apart (page : PageStructure) : PageStructure :=
  { page with roles := [], links := 0 }

/-- So many links more, and nothing else. -/
structure MoreLinks (count : ℕ) (survey survey' : Survey) : Prop where
  order : survey'.order = survey.order
  apart : survey'.pages.map PageStructure.apart = survey.pages.map PageStructure.apart
  links : (survey'.pages.map (·.links)).sum = (survey.pages.map (·.links)).sum + count

namespace MoreLinks

protected theorem refl (survey : Survey) : MoreLinks 0 survey survey := ⟨rfl, rfl, rfl⟩

theorem length (more : MoreLinks count survey survey') :
    survey'.pages.length = survey.pages.length := by
  have lengths := congrArg List.length more.apart
  rwa [List.length_map, List.length_map] at lengths

/-- A total that does not look at the links. -/
theorem total (more : MoreLinks count survey survey') (f : PageStructure → ℕ)
    (blind : ∀ page, f page.apart = f page) : survey'.pages.map f = survey.pages.map f := by
  have same : f = f ∘ PageStructure.apart := by
    funext page
    exact (blind page).symm
  rw [same, ← List.map_map, ← List.map_map, more.apart]

theorem addLink {page : ℕ} (there : page < survey.pages.length) :
    MoreLinks 1 survey (survey.addLink page) where
  order := rfl
  apart := by
    show (survey.pages.modify page _).map _ = _
    refine List.ext_getElem? fun i => ?_
    rw [List.getElem?_map, List.getElem?_map, List.getElem?_modify]
    cases survey.pages[i]? with
    | none => rfl
    | some target =>
      simp only [Option.map_some]
      split <;> rfl
  links := by
    have parts : (survey.pages.map (·.links)).sum = ((survey.pages.take page).map (·.links)).sum +
        (survey.pages[page].links + ((survey.pages.drop (page + 1)).map (·.links)).sum) := by
      conv_lhs => rw [← List.take_append_drop page survey.pages, List.drop_eq_getElem_cons there]
      rw [List.map_append, List.sum_append, List.map_cons, List.sum_cons]
    show ((survey.pages.modify page _).map _).sum = _
    rw [List.modify_eq_take_cons_drop there, List.map_append, List.sum_append, List.map_cons,
      List.sum_cons, parts]
    dsimp only
    omega

theorem trans {count' : ℕ} {survey'' : Survey} (first : MoreLinks count survey survey')
    (second : MoreLinks count' survey' survey'') :
    MoreLinks (count + count') survey survey'' where
  order := second.order.trans first.order
  apart := second.apart.trans first.apart
  links := by
    rw [second.links, first.links]
    omega

end MoreLinks

/-- The link is on one of so many pages. -/
def HasPage (doc : Document) (pages : ℕ) (link : Value × Value) : Prop :=
  ∃ page i, link.1 = .object page ∧ i < pages ∧
    AltText.pageIndex doc (doc.number (.object page)) = some i

/-- A link annotation has a page of the document. -/
theorem hasPage (isLink : link ∈ linkAnnotations doc) : HasPage doc doc.pages.length link := by
  obtain ⟨page, there, listed⟩ := List.mem_flatMap.mp isLink
  obtain ⟨annot, -, rfl⟩ := List.mem_map.mp listed
  refine ⟨page, ?_⟩
  cases isIndex : AltText.pageIndex doc (doc.number (.object page)) with
  | none =>
    -- The page is listed under its own number.
    rw [AltText.pageIndex, List.lookup_eq_none_iff] at isIndex
    obtain ⟨i, inside, rfl⟩ := List.mem_iff_getElem.mp there
    have entry := isIndex (doc.number (.object doc.pages[i]), i) (by
      rw [List.mem_reverse]
      exact List.mem_map.mpr ⟨(doc.pages[i], i), List.mem_zipIdx_iff_getElem?.mpr (by simp), rfl⟩)
    simp at entry
  | some i =>
    refine ⟨i, rfl, ?_, rfl⟩
    obtain ⟨before, after, parts, -⟩ := List.lookup_eq_some_iff.mp isIndex
    have listed : (doc.number (.object page), i) ∈
        (doc.pages.zipIdx.map fun page => (doc.number (.object page.1), page.2)) := by
      rw [← List.mem_reverse, parts]
      exact List.mem_append_right _ List.mem_cons_self
    obtain ⟨entry, member, same⟩ := List.mem_map.mp listed
    obtain rfl : entry.2 = i := congrArg Prod.snd same
    exact List.snd_lt_of_mem_zipIdx member

/-- The walk of an element that repair has appended counts the link, and no more. -/
theorem visitKid_gained {page i : ℕ} (isElement : IsLinkElement out (.object root) element link)
    (isPage : link.1 = .object page)
    (isIndex : AltText.pageIndex out (out.number (.object page)) = some i) :
    visitKid out (levels + 2) survey element = some (survey.addLink i) := by
  have seen := seenGained isElement
  obtain ⟨objr, kids, isDictionary, noType, objrPage, noKids⟩ := seen.kids
  have type : out.textOf element "/S" = "/Link" := by
    unfold Document.textOf
    rw [seen.type]
    rfl
  have objrType : out.textOf objr "/S" = "" := by
    unfold Document.textOf
    rw [noType]
    rfl
  have ownPage : pageOf out none element = some (some i) := by
    unfold pageOf
    rw [seen.page, isPage]
    dsimp only
    rw [isIndex]
    rfl
  have samePage : pageOf out (some i) objr = some (some i) := by
    unfold pageOf
    rw [objrPage, isPage]
    dsimp only
    rw [isIndex]
    rfl
  have left : ∀ tag, tag ≠ "/TH" → tag ≠ "/Table" → ∀ survey : Survey,
      survey.onPage (some i) (PageStructure.leave tag 0) = survey := by
    intro tag noHeader noTable survey
    have same : PageStructure.leave tag 0 = id := by
      funext target
      unfold PageStructure.leave
      rw [if_neg noHeader, if_neg fun isTable => noTable isTable.1]
      rfl
    show ({ survey with pages := survey.pages.modify i _ } : Survey) = survey
    rw [same, List.modify_id]
  -- The reference below it has no type, so it is not counted.
  have below : visit out (levels + 1) objr (some i) (survey.enter out element (some i)) =
      some (0, survey.enter out element (some i)) := by
    rw [visit, samePage, noKids, objrType]
    simp only [Option.bind_eq_bind, Option.bind_some, List.foldlM_nil, Option.pure_def]
    rw [if_neg (by decide), left "" (by decide) (by decide), Survey.enter, objrType, if_pos rfl]
  have counted : survey.enter out element (some i) = survey.addLink i := by
    unfold Survey.enter
    rw [type, if_neg (by decide)]
    rfl
  unfold visitKid
  rw [seen.isDictionary, if_pos rfl, visit, ownPage, kids, type]
  simp only [Option.bind_eq_bind, Option.bind_some, List.foldlM_cons, List.foldlM_nil,
    isDictionary, if_true, below, Option.map_some, Option.pure_def]
  rw [if_neg (by decide), left "/Link" (by decide) (by decide), counted]

/-- One link more for each element. -/
theorem foldlM_gained {elements : List Value} {links : List (Value × Value)}
    (areElements : List.Forall₂ (IsLinkElement out (.object root)) elements links)
    (havePages : ∀ link ∈ links, HasPage out survey.pages.length link) :
    ∃ survey', elements.foldlM (visitKid out (levels + 2)) survey = some survey' ∧
      MoreLinks links.length survey survey' := by
  induction areElements generalizing survey with
  | nil => exact ⟨survey, rfl, .refl survey⟩
  | @cons element link elements links isElement _ ih =>
    obtain ⟨page, i, isPage, inside, isIndex⟩ := havePages link List.mem_cons_self
    have first := MoreLinks.addLink inside
    have later : ∀ link ∈ links, HasPage out (survey.addLink i).pages.length link := by
      intro link member
      rw [first.length]
      exact havePages link (List.mem_cons_of_mem _ member)
    obtain ⟨survey', looped, more⟩ := ih later
    refine ⟨survey', ?_, ?_⟩
    · rw [List.foldlM_cons, visitKid_gained isElement isPage isIndex]
      exact looped
    · rw [List.length_cons, Nat.add_comm]
      exact first.trans more

/-! ## The pages -/

theorem length_onPage (page : Option ℕ) (f : PageStructure → PageStructure) :
    (survey.onPage page f).pages.length = survey.pages.length := by
  cases page with
  | none => rfl
  | some page => exact List.length_modify ..

theorem length_enter (page : Option ℕ) :
    (survey.enter doc node page).pages.length = survey.pages.length := by
  unfold Survey.enter
  dsimp only
  split
  · rfl
  · exact length_onPage page _

/-- The walk leaves the number of pages. -/
theorem length_visit {inherited : Option ℕ} {headers : ℕ}
    (done : visit doc levels node inherited survey = some (headers, survey')) :
    survey'.pages.length = survey.pages.length := by
  induction levels generalizing node inherited survey headers survey' with
  | zero => exact absurd done (by simp [visit])
  | succ levels ih =>
    rw [visit] at done
    obtain ⟨page, -, done⟩ := Option.bind_eq_some_iff.mp done
    obtain ⟨⟨counted, below⟩, looped, done⟩ := Option.bind_eq_some_iff.mp done
    obtain ⟨-, rfl⟩ := Prod.mk.inj (Option.some.inj done)
    rw [length_onPage]
    refine foldlM_invariant (fun state => state.2.pages.length = survey.pages.length)
      ?_ (length_enter page) looped
    intro kid _ state next before stepped
    split at stepped
    · obtain ⟨visited, isVisited, rfl⟩ := Option.map_eq_some_iff.mp stepped
      exact (ih isVisited).trans before
    · obtain rfl := Option.some.inj stepped
      exact before

theorem length_foldlM_visitKid {kids : List Value}
    (done : kids.foldlM (visitKid doc levels) survey = some survey') :
    survey'.pages.length = survey.pages.length := by
  refine foldlM_invariant (fun now => now.pages.length = survey.pages.length) ?_ rfl done
  intro kid _ state next before stepped
  unfold visitKid at stepped
  split at stepped
  · obtain ⟨visited, isVisited, rfl⟩ := Option.map_eq_some_iff.mp stepped
    exact (length_visit isVisited).trans before
  · obtain rfl := Option.some.inj stepped
    exact before

/-! ## The counts -/

section Repaired

variable (opened : Opened doc) (done : tagLinkAnnotations doc (.object root) = some out)
variable (isRoot : doc.get (.object doc.catalog) "/StructTreeRoot" = some (.object root))

include opened done

include isRoot in
/-- What was counted, and the links that were tagged. -/
theorem structureByPage_repaired (own : OwnKids doc root)
    (counted : structureByPage doc (levels + 2) = some survey) :
    ∃ survey', structureByPage out (levels + 2) = some survey' ∧
      MoreLinks (tagged doc root).length survey survey' := by
  have rootWithin := opened.within_of_get isRoot
  have isRoot' : out.get (.object out.catalog) "/StructTreeRoot" = some (.object root) := by
    rw [catalog_of_repaired opened done, get_repaired opened done
      (Document.within_of_isDictionary (Document.isDictionary_of_get isRoot)) (by decide), isRoot]
  obtain ⟨elements, grown, areElements⟩ := kidsOf_root opened done
  unfold structureByPage at counted ⊢
  rw [isRoot] at counted
  rw [isRoot', pages_repaired opened done]
  dsimp only at counted ⊢
  rw [isDictionary_repaired opened done rootWithin]
  cases isDictionary : doc.isDictionary (.object root) with
  | false =>
    rw [isDictionary] at counted
    exact absurd counted (by simp)
  | true =>
    rw [isDictionary] at counted
    have below : ∀ survey, (doc.kidsOf (.object root)).foldlM (visitKid out (levels + 2)) survey =
        (doc.kidsOf (.object root)).foldlM (visitKid doc (levels + 2)) survey := by
      intro survey
      refine (alike_repaired opened done own).foldlM_visitKid (List.forall₂_same.mpr ?_)
      exact fun kid member => ⟨.single member, opened.within_kidsOf member, rfl⟩
    have length : survey.pages.length = out.pages.length := by
      rw [length_foldlM_visitKid counted, pages_repaired opened done]
      exact List.length_replicate
    -- Every link that was tagged is on a page still.
    have havePages : ∀ link ∈ tagged doc root, HasPage out survey.pages.length link := by
      intro link member
      rw [length]
      refine hasPage ?_
      rw [linkAnnotations_eq opened (tagLinkAnnotations_appends opened done).2.2.1
        (pages_repaired opened done)]
      exact (mem_of_mem_untagged member).1
    obtain ⟨survey', looped, more⟩ := foldlM_gained areElements havePages
    refine ⟨survey', ?_, more⟩
    rw [grown, List.foldlM_append, below]
    simp only [Bool.not_true, Bool.false_eq_true, if_false] at counted ⊢
    rw [counted]
    exact looped

/-- The annotations of a page are read as they were. -/
theorem countLinks_repaired {page : ℕ} (there : page ∈ doc.pages) :
    countLinks out page = countLinks doc page := by
  obtain ⟨isDictionary, -, same, readable⟩ := tagLinkAnnotations_appends opened done
  have inside := opened.pagesThere page there
  have entry := same.entry page inside "/Annots" (by decide)
  unfold countLinks
  rw [entry]
  cases isAnnots : doc.get (.object page) "/Annots" with
  | none => rfl
  | some annots =>
    have within := opened.within_of_get isAnnots
    rcases readable page there annots (entry.trans isAnnots) with empty | ⟨items, isArray, are⟩
    · -- The root has kids by now, so it is another dictionary that is empty.
      have other : annots ≠ .object root := by
        rintro rfl
        obtain ⟨kids, isKids, -⟩ := kids_of_repaired opened done
        rw [Document.get, empty] at isKids
        exact absurd isKids (by simp)
      have wasDictionary : doc.isDictionary annots = true := by
        rw [← isDictionary_repaired opened done within, Document.isDictionary, empty]
        rfl
      have wasEmpty := (dictionary?_kept opened done wasDictionary other).symm.trans empty
      dsimp only
      rw [iterated, if_pos empty, iterated, if_pos wasEmpty]
      rfl
    · -- The array has what it had, and perhaps dictionaries that are no annotations.
      obtain ⟨a, rfl, isCell⟩ := Document.exists_of_array? isArray
      obtain ⟨listed, wasArray⟩ : ∃ listed, doc.array? (.object a) = some listed := by
        rw [← Option.ne_none_iff_exists']
        intro none
        rw [same.noItems a (within a rfl) none] at isArray
        exact absurd isArray (by simp)
      obtain ⟨gained, now, plain⟩ := same.items a (within a rfl) listed wasArray
      obtain rfl := Option.some.inj (now.symm.trans isArray)
      have noDictionary : ∀ {doc : Document} {items}, doc.array? (.object a) = some items →
          iterated doc (.object a) = some items := by
        intro doc items isArray
        obtain ⟨b, same, isCell⟩ := Document.exists_of_array? isArray
        obtain rfl := Value.object.inj same
        rw [iterated, if_neg, isArray]
        rw [Document.dictionary?_object, isCell]
        exact fun empty => absurd empty (by simp [Cell.entries?])
      have inListed : ∀ item ∈ listed, doc.Within item := fun item => opened.within_of_mem wasArray
      have wereDictionaries : listed.all doc.isDictionary = true := by
        rw [List.all_eq_true]
        intro item member
        rw [← isDictionary_repaired opened done (inListed item member)]
        exact are item (List.mem_append_left _ member)
      have noLinks : gained.countP (fun annot => out.textOf annot "/Subtype" == "/Link") = 0 := by
        rw [List.countP_eq_zero]
        intro item member
        unfold Document.textOf
        rw [(plain item member).2]
        decide
      have links : (listed ++ gained).countP (fun annot => out.textOf annot "/Subtype" == "/Link") =
          listed.countP fun annot => doc.textOf annot "/Subtype" == "/Link" := by
        rw [List.countP_append, noLinks, Nat.add_zero]
        refine List.countP_congr fun item member => ?_
        rw [textOf_repaired opened done (inListed item member) (by decide)]
      dsimp only
      rw [noDictionary isArray, noDictionary wasArray]
      simp only [Option.bind_eq_bind, Option.bind_some]
      rw [List.all_eq_true.mpr are, wereDictionaries, links]

/-- A flag of the catalog that is no container. -/
def PlainFlag (doc : Document) (dictionary key : String) : Prop :=
  ∀ node value, doc.get (.object doc.catalog) dictionary = some node →
    doc.get node key = some value → value.address? = none

theorem catalogFlag_repaired (catalog : doc.Within (.object doc.catalog)) {dictionary key : String}
    (flag : PlainFlag doc dictionary key) (noKids : dictionary ≠ "/K") (noKidsEither : key ≠ "/K") :
    catalogFlag out dictionary key = catalogFlag doc dictionary key := by
  unfold catalogFlag
  rw [catalog_of_repaired opened done, get_repaired opened done catalog noKids]
  cases isNode : doc.get (.object doc.catalog) dictionary with
  | none => rfl
  | some node =>
    have within := opened.within_of_get isNode
    dsimp only
    rw [isDictionary_repaired opened done within, get_repaired opened done within noKidsEither]
    cases isValue : doc.get node key with
    | none => rfl
    | some value =>
      have plain := flag node value isNode isValue
      have same : out.isFalsy value = doc.isFalsy value := by
        cases value with
        | object a => exact absurd plain (by simp [Value.address?])
        | _ => rfl
      rw [Option.map_some, Option.map_some, same]

theorem documentProperties_repaired (catalog : doc.Within (.object doc.catalog))
    (marked : PlainFlag doc "/MarkInfo" "/Marked")
    (displayed : PlainFlag doc "/ViewerPreferences" "/DisplayDocTitle") {info : Option ℕ}
    (infoThere : ∀ a ∈ info, a < doc.objects.length) (outlineEntries : ℕ) :
    documentProperties out info outlineEntries = documentProperties doc info outlineEntries := by
  have counts : doc.pages.mapM (countLinks out) = doc.pages.mapM (countLinks doc) :=
    mapM_congr_of_mem fun page there => countLinks_repaired opened done there
  have tabs : (doc.pages.all fun page => out.textOf (.object page) "/Tabs" == "/S") =
      doc.pages.all fun page => doc.textOf (.object page) "/Tabs" == "/S" := by
    refine all_congr_of_mem fun page there => ?_
    rw [textOf_repaired opened done (by
      rintro a ⟨⟩
      exact opened.pagesThere page there) (by decide)]
  have title : ((info.map fun a => out.textOf (.object a) "/Title").getD "") =
      ((info.map fun a => doc.textOf (.object a) "/Title").getD "") := by
    cases info with
    | none => rfl
    | some a =>
      have within : doc.Within (.object a) := by
        rintro b ⟨⟩
        exact infoThere a rfl
      exact textOf_repaired opened done within (by decide)
  unfold documentProperties
  rw [catalogFlag_repaired opened done catalog marked (by decide) (by decide),
    catalogFlag_repaired opened done catalog displayed (by decide) (by decide),
    pages_repaired opened done, counts, tabs, title, catalog_of_repaired opened done,
    textOf_repaired opened done catalog (by decide)]

end Repaired

/-! ## The reports -/

/-- The one total that repair changes. -/
def raised (count : ℕ) (key : Text) (total : ℕ) : ℕ :=
  if key = "links".toList then total + count else total

/-- The reports of a file before and after so many links were tagged. -/
structure LinksAdded (count : ℕ) (before after : Report ℚ Property) : Prop where
  noFailure : before.failedSteps = [] ∧ after.failedSteps = []
  totals : ∀ key, after.totals.get? key = (before.totals.get? key).map (raised count key)
  verapdf : before.verapdf = none
  ocrTruth : after.ocrTruth = before.ocrTruth
  document : after.document = before.document
  readable : Readable before after

theorem totals_raised (more : MoreLinks count survey survey') (text : PageText) (key : Text) :
    (totals text survey').get? key = ((totals text survey).get? key).map (raised count key) := by
  have base : baseTotals text survey' =
      (baseTotals text survey).map fun entry => (entry.1, raised count entry.1 entry.2) := by
    unfold baseTotals
    dsimp only
    rw [more.order, more.links, more.total (·.headingLevels.length) fun _ => rfl,
      more.total (·.listSizes.length) fun _ => rfl, more.total (·.listSizes.sum) fun _ => rfl,
      more.total (·.tables) fun _ => rfl, more.total (·.tablesWithoutHeaders) fun _ => rfl,
      more.total (·.figures) fun _ => rfl, more.total (·.figuresWithoutAlt) fun _ => rfl,
      more.total (·.figuresWithPlaceholderAlt) fun _ => rfl]
    rfl
  have source : sourceTotals text =
      (sourceTotals text).map fun entry => (entry.1, raised count entry.1 entry.2) := by
    unfold sourceTotals
    split <;> rfl
  have entries : (totals text survey').entries =
      (totals text survey).entries.map fun entry => (entry.1, raised count entry.1 entry.2) := by
    show baseTotals text survey' ++ sourceTotals text = (baseTotals text survey ++ _).map _
    rw [List.map_append, ← base, ← source]
  unfold Dict.get?
  rw [entries, Dict.lookup_map_value]

/-- **Nothing is worse** where links were tagged. -/
theorem LinksAdded.not_regressed {before after : Report ℚ Property}
    (added : LinksAdded count before after) (scoreText : ℚ → Text) :
    ¬ (FailedStep before after ∨ ¬ Readable before after ∨
      Worse (rationals scoreText) before after) := by
  rintro (failed | unreadable | total | rule | score | property)
  · exact failed.elim (fun some => some added.noFailure.1) fun some => some added.noFailure.2
  · exact unreadable added.readable
  · obtain ⟨key, first, second, isFirst, isSecond, worse⟩ := total
    rw [added.totals, isFirst] at isSecond
    obtain rfl := Option.some.inj isSecond
    -- The links are no total that can be worse.
    have other : key ≠ "links".toList := by
      rintro rfl
      have neutral : "links".toList ∉ worseIfHigher ∧ "links".toList ∉ worseIfLower := by decide
      exact worse.elim (fun higher => neutral.1 higher.1) fun lower => neutral.2 lower.1
    unfold raised at worse
    rw [if_neg other] at worse
    omega
  · obtain ⟨rules, -, isRules, -⟩ := rule
    rw [added.verapdf] at isRules
    exact absurd isRules (by simp)
  · obtain ⟨scores, again, isScores, isAgain, page, first, second, isFirst, isSecond, check, isCheck,
      old, new, isOld, isNew, worsened⟩ := score
    rw [added.ocrTruth, isScores] at isAgain
    obtain rfl := Option.some.inj isAgain
    obtain rfl := Option.some.inj (isFirst.symm.trans isSecond)
    obtain rfl := Option.some.inj (isOld.symm.trans isNew)
    have exceeded := (worsened_iff.mp worsened).1
    rw [sub_self, abs_zero] at exceeded
    exact absurd (tolerance_nonneg isCheck) (not_le.mpr exceeded)
  · obtain ⟨entry, listed, changed⟩ := property
    rw [added.document, Dict.get?_eq_some_iff.mpr listed] at changed
    exact changed rfl

/-- The command passes two files of which the one is no worse than the other. -/
theorem handle_files {R V : Type} [DecidableEq V] {numbers : Numbers R} {repr : Option V → Text}
    {before after : Report R V}
    (same : ¬ (FailedStep before after ∨ ¬ Readable before after ∨ Worse numbers before after))
    (baseline candidate : Text) :
    handle numbers repr (.file baseline before) (.file candidate after) true = .ok () := by
  have names : ((Dict.single "report".toList before).keys.filter
      (· ∈ (Dict.single "report".toList after).keys)).insertionSort (· ≤ ·) =
        ["report".toList] := rfl
  have compared : Compared (.file baseline before) (.file candidate after) "report".toList before
      after := ⟨rfl, rfl⟩
  have clean : ∀ name ∈ ["report".toList], regressedName numbers repr
      (.single "report".toList before) (.single "report".toList after) name = .ok [] := by
    intro name member
    obtain rfl := List.mem_singleton.mp member
    exact (regressedName_eq_nil_iff _ _ compared).mpr same
  unfold handle loadBoth
  dsimp only
  rw [names, mapM_eq_ok clean]
  rfl

/-- The report of a file whose links were repaired, before it is saved. -/
theorem analyzePdf_repaired (opened : Opened doc)
    (done : tagLinkAnnotations doc (.object root) = some out)
    (isRoot : doc.get (.object doc.catalog) "/StructTreeRoot" = some (.object root))
    (own : OwnKids doc root) (marked : PlainFlag doc "/MarkInfo" "/Marked")
    (displayed : PlainFlag doc "/ViewerPreferences" "/DisplayDocTitle") (sha1 : Text → Text)
    {info : Option ℕ} (infoThere : ∀ a ∈ info, a < doc.objects.length) {outlineEntries : ℕ}
    {text : PageText} {ocrTruth : Option (Dict Text (PageScore ℚ))} {before : Report ℚ Property}
    (analyzed : analyzePdf sha1 doc (levels + 2) info outlineEntries text ocrTruth = some before) :
    ∃ after, analyzePdf sha1 out (levels + 2) info outlineEntries text ocrTruth = some after ∧
      LinksAdded (tagged doc root).length before after := by
  have catalog := Document.within_of_isDictionary (Document.isDictionary_of_get isRoot)
  unfold analyzePdf at analyzed ⊢
  obtain ⟨survey, isSurvey, analyzed⟩ := Option.bind_eq_some_iff.mp analyzed
  obtain ⟨document, isDocument, analyzed⟩ := Option.bind_eq_some_iff.mp analyzed
  obtain ⟨survey', isSurvey', more⟩ := structureByPage_repaired opened done isRoot own isSurvey
  rw [isSurvey', documentProperties_repaired opened done catalog marked displayed infoThere,
    isDocument]
  simp only [Option.bind_eq_bind, Option.bind_some]
  split at analyzed
  · exact absurd analyzed (by simp)
  · rename_i sameLength
    obtain ⟨pages, isPages, analyzed⟩ := Option.bind_eq_some_iff.mp analyzed
    obtain ⟨scores, isScores, analyzed⟩ := Option.bind_eq_some_iff.mp analyzed
    obtain rfl := Option.some.inj analyzed
    rw [if_neg sameLength]
    -- As many pages are read, so none is missing.
    obtain ⟨pages', isPages'⟩ : ∃ pages', pageEntries sha1 text survey' = some pages' := by
      unfold pageEntries at isPages ⊢
      split at isPages
      · rename_i enough
        rw [if_pos ⟨more.length ▸ enough.1, enough.2⟩]
        exact ⟨_, rfl⟩
      · cases isPages
    rw [isPages', isScores]
    refine ⟨_, rfl, ⟨rfl, rfl⟩, totals_raised more text, rfl, rfl, rfl,
      fun page member => isSome_readInt_pageEntries isPages member, ?_⟩
    rintro _ scored isBefore ⟨⟩
    obtain rfl := Option.some.inj isBefore
    exact bothScored_scoreTruth isScores

end DicePipeline.Quality

namespace DicePipeline

open Pdf Links Quality

/-- **The gate passes link repair.**  Of a file whose root has its kids for itself, the
report of the output, saved and read again, counts one more link for each one that repair
has tagged; every other total and all document properties are what they were.  So the
comparison of the two finds no regression. -/
theorem link_repair_passes_the_gate (file again : File) (out : Document) (origin : ℕ → ℕ)
    (root levels : ℕ) (sha1 : Text → Text) (info infoAgain : Option ℕ) (outlineEntries : ℕ)
    (text : PageText) (ocrTruth : Option (Dict Text (PageScore ℚ))) (before : Report ℚ Property)
    (isRoot : file.1.get (.object file.1.catalog) "/StructTreeRoot" = some (.object root))
    (own : OwnKids file.1 root) (marked : PlainFlag file.1 "/MarkInfo" "/Marked")
    (displayed : PlainFlag file.1 "/ViewerPreferences" "/DisplayDocTitle")
    (repaired : repair file.1 = some out) (reopened : Reopened out again.1 origin)
    (catalog : again.1.isDictionary (.object again.1.catalog) = true)
    (infoThere : ∀ a ∈ info, a < file.1.objects.length)
    (infoAgainThere : ∀ a ∈ infoAgain, a < again.1.objects.length)
    (sameInfo : infoAgain.map origin = info)
    (analyzed : analyzePdf sha1 file.1 (levels + 2) info outlineEntries text ocrTruth = some before) :
    ∃ after, analyzePdf sha1 again.1 (levels + 2) infoAgain outlineEntries text ocrTruth = some after ∧
      (∀ key, after.totals.get? key =
        (before.totals.get? key).map (raised (tagged file.1 root).length key)) ∧
      after.document = before.document ∧
      ∀ scoreText repr baseline candidate,
        handle (rationals scoreText) repr (.file baseline before) (.file candidate after) true =
          .ok () := by
  unfold repair at repaired
  rw [isRoot] at repaired
  obtain ⟨after, isAfter, added⟩ := analyzePdf_repaired file.2 repaired isRoot own marked displayed
    sha1 infoThere analyzed
  refine ⟨after, ?_, added.totals, added.document,
    fun scoreText repr => handle_files (added.not_regressed scoreText)⟩
  rw [← analyzePdf_reopened reopened again.2 sha1 (Document.within_of_isDictionary catalog)
    infoAgainThere, sameInfo, isAfter]

/-- What `sha1` gives for a page without elements, and for one that has a link. -/
def sha1OfRoles (roles : Text) : Text :=
  if roles = [] then "da39a3ee5e6b4b0d3255bfef95601890afd80709".toList
  else "33251ca3c3d5cd339851ec7d26352d3dfa74320a".toList

/-- The report of a file of one page, of two words. -/
def besideTableReport (file : File) : Option (Report ℚ Property) :=
  analyzePdf sha1OfRoles file.1 4 none 0 ⟨[["one".toList, "two".toList]], none⟩ none

/-- The rule for a page with a table and a link that nothing refers to. -/
theorem link_repair_passes_the_gate_table :
    (besideTableReport linkBesideTable).any (fun before =>
      before.totals.get? "links".toList = some 0) = true ∧
    ∃ before after, besideTableReport linkBesideTable = some before ∧
      besideTableReport taggedBesideTable = some after ∧
      after.totals.get? "links".toList =
        (before.totals.get? "links".toList).map (raised 1 "links".toList) ∧
      handle (rationals fun _ => []) (fun _ => []) (.file "before.json".toList before)
        (.file "after.json".toList after) true = .ok () := by
  have isSome : (besideTableReport linkBesideTable).isSome = true := by decide +kernel
  obtain ⟨before, analyzed⟩ := Option.isSome_iff_exists.mp isSome
  have kids : linkBesideTable.1.get (.object 1) "/K" = some (.object 2) := by decide +kernel
  -- Four nodes are below the root, and none has its kids.
  have own : OwnKids linkBesideTable.1 1 := by
    intro node under
    have listed : node ∈ [Value.object 3, .object 5, .object 6, .object 7] := by
      induction under with
      | single member =>
        have inList : ∀ kid ∈ linkBesideTable.1.kidsOf (.object 1),
            kid ∈ [Value.object 3, .object 5, .object 6, .object 7] := by decide +kernel
        exact inList _ member
      | tail _ member ih =>
        have inList : ∀ node ∈ [Value.object 3, .object 5, .object 6, .object 7],
            ∀ kid ∈ linkBesideTable.1.kidsOf node,
              kid ∈ [Value.object 3, .object 5, .object 6, .object 7] := by decide +kernel
        exact inList _ ih _ member
    have others : ∀ node ∈ [Value.object 3, .object 5, .object 6, .object 7],
        linkBesideTable.1.get node "/K" ≠ some (.object 2) := by decide +kernel
    intro held isHeld same
    rw [kids] at same
    exact others node listed (isHeld.trans same.symm)
  have noFlag : ∀ dictionary ∈ ["/MarkInfo", "/ViewerPreferences"], ∀ key,
      PlainFlag linkBesideTable.1 dictionary key := by
    have none : ∀ dictionary ∈ ["/MarkInfo", "/ViewerPreferences"],
        linkBesideTable.1.get (.object linkBesideTable.1.catalog) dictionary = none := by
      decide +kernel
    intro dictionary member key node value isNode
    rw [none dictionary member] at isNode
    cases isNode
  obtain ⟨after, isAfter, totals, -, passed⟩ := link_repair_passes_the_gate linkBesideTable
    taggedBesideTable taggedBesideTable.1 id 1 2 sha1OfRoles none none 0
    ⟨[["one".toList, "two".toList]], none⟩ none before (by decide +kernel) own
    (noFlag _ (by decide) _) (noFlag _ (by decide) _)
    (by decide +kernel) (.refl _) (by decide +kernel) (by simp) (by simp) rfl analyzed
  refine ⟨by decide +kernel, before, after, analyzed, isAfter, totals _, passed _ _ _ _⟩

end DicePipeline
