import DicePipeline.Links.Exact

/-!
# Repairing a repaired document

`Settled` is what a document looks like in which repair finds nothing to do: its
annotations can be read, and the number of each link has been collected.  The
output of repair is settled, for an element it has appended is a kid of the root
and so never out of sight; a settled document stays settled when it is saved and
read again; and repair leaves a settled document as it is.
-/

namespace DicePipeline.Links

open Pdf

variable {doc out saved again : Document} {root : ℕ} {origin : ℕ → ℕ}
variable {link : Value × Value} {element : Value}

/-- A document in which repair finds nothing to do. -/
structure Settled (doc : Document) (root : ℕ) : Prop where
  isDictionary : doc.isDictionary (.object root) = true
  kids : ∃ rootKids, doc.get (.object root) "/K" = some rootKids ∧
    doc.isDictionary rootKids = false
  readable : ∀ page ∈ doc.pages, Readable doc page
  /-- The number of each link is one of those the walk collects. -/
  collected : ∀ link ∈ linkAnnotations doc, ∃ depth ≤ maxStructTreeDepth, ∃ target,
    Refers doc (.object root) depth target ∧ doc.number target = doc.number link.2

/-! ## The output is settled -/

/-- The `/OBJR` of an appended element is one element below the root. -/
theorem refers_of_isLinkElement (isElement : IsLinkElement doc (.object root) element link)
    (member : element ∈ doc.kidsOf (.object root)) (isDictionary : doc.isDictionary link.2 = true) :
    Refers doc (.object root) 1 link.2 := by
  obtain ⟨e, k, o, rfl, elementCell, kidsCell, objrCell⟩ := isElement
  have elementEntries : doc.dictionary? (.object e) = _ :=
    (Document.dictionary?_object).trans (congrArg (·.bind Cell.entries?) elementCell)
  have objrEntries : doc.dictionary? (.object o) = _ :=
    (Document.dictionary?_object).trans (congrArg (·.bind Cell.entries?) objrCell)
  have kidsItems : doc.array? (.object k) = some [.object o] :=
    (Document.array?_object).trans (congrArg (·.bind Cell.items?) kidsCell)
  have elementKids : doc.get (.object e) "/K" = some (.object k) := by
    rw [Document.get_object, elementEntries]
    rfl
  refine ⟨.object o, .under member ?_ (.kid ?_), ?_, ?_, isDictionary⟩
  · simp [Document.isElement, Document.isDictionary, Document.textOf, Document.get, elementEntries,
      Cell.entries?, List.lookup_cons]
  · rw [Document.kidsOf_of_some elementKids, kidsItems]
    exact List.mem_singleton_self _
  · simp [Document.isObjr, Document.isDictionary, Document.textOf, Document.get, objrEntries,
      Cell.entries?, Value.str]
  · rw [Document.get_object, objrEntries]
    rfl

/-- The root has an array of kids, or what it has is no element. -/
theorem kids_of_repaired (opened : Opened doc)
    (done : tagLinkAnnotations doc (.object root) = some out) :
    ∃ rootKids, out.get (.object root) "/K" = some rootKids ∧ out.isDictionary rootKids = false := by
  obtain ⟨isDictionary, appends, same, -⟩ := tagLinkAnnotations_appends opened done
  have inside := Document.within_of_isDictionary isDictionary root rfl
  rcases @normalizeRootKids_cases doc root with ⟨-, written⟩ | ⟨rootKids, isKids, noElement, left⟩
  · rw [written] at appends
    refine ⟨.object doc.objects.length, ?_, ?_⟩
    · rw [Document.get_object, appends.dictionary? (by rw [length_withRootKids]; omega),
        ← Document.get_object, get_withRootKids_root isDictionary]
    · obtain ⟨address, isObject, isCell⟩ := Document.exists_of_array? 
        (@array?_withRootKids_new doc root (doc.kidsOf (.object root)))
      obtain rfl := Value.object.inj isObject
      unfold Document.isDictionary
      rw [appends.dictionary? (by rw [length_withRootKids]; omega), Document.dictionary?_object,
        isCell]
      rfl
  · rw [left] at appends
    refine ⟨rootKids, ?_, ?_⟩
    · rw [Document.get_object, appends.dictionary? inside, ← Document.get_object, isKids]
    · rw [same.toSupplements.isDictionary (opened.within_of_get isKids), noElement]

theorem exists_of_tagLinkAnnotations {structRoot : Value}
    (done : tagLinkAnnotations doc structRoot = some out) : ∃ root, structRoot = .object root := by
  cases structRoot with
  | object root => exact ⟨root, rfl⟩
  | _ => exact absurd done (by simp [tagLinkAnnotations])

theorem catalog_of_repaired (opened : Opened doc)
    (done : tagLinkAnnotations doc (.object root) = some out) : out.catalog = doc.catalog := by
  obtain ⟨-, appends, -, -⟩ := tagLinkAnnotations_appends opened done
  have kept := appends.keeps (P := fun now => now.catalog = (normalizeRootKids doc root).1.catalog)
    (fun now kids link isObject inside before => before) rfl
  rw [kept]
  unfold normalizeRootKids
  split
  · rfl
  · split <;> rfl

/-- The links a page of the output lists are those it listed. -/
theorem linksOf_eq (opened : Opened doc) (same : SameAnnotations doc out) {page : ℕ}
    (there : page ∈ doc.pages) : linksOf out page = linksOf doc page := by
  unfold linksOf
  rw [same.entry page (opened.pagesThere page there) "/Annots" (by decide)]
  cases isAnnots : doc.get (.object page) "/Annots" with
  | none => rfl
  | some annots =>
    rw [Option.bind_some, Option.bind_some]
    have within := opened.within_of_get isAnnots
    cases isArray : out.array? annots with
    | none =>
      have noArray : doc.array? annots = none := by
        by_contra listed
        obtain ⟨items, isItems⟩ := Option.ne_none_iff_exists'.mp listed
        obtain ⟨a, rfl, -⟩ := Document.exists_of_array? isItems
        obtain ⟨gained, now, -⟩ := same.items a (within a rfl) items isItems
        rw [isArray] at now
        exact absurd now (by simp)
      rw [noArray]
      rfl
    | some items =>
      obtain ⟨known, sameLinks⟩ := @items_known out doc (.object page) opened same _ _ within isArray
      rw [sameLinks, Option.getD_some]
      unfold linksAmong
      congr 1
      refine List.filter_congr ?_
      intro item member
      rw [(known item member).textOf same]

theorem linkAnnotations_eq (opened : Opened doc) (same : SameAnnotations doc out)
    (pages : out.pages = doc.pages) : linkAnnotations out = linkAnnotations doc := by
  unfold linkAnnotations
  rw [pages]
  exact List.flatMap_congr fun page there => linksOf_eq opened same there

/-- Every tagged link has its element. -/
private theorem exists_element {α β : Type} {R : α → β → Prop} {elements : List α} {links : List β}
    {link : β} (areElements : List.Forall₂ R elements links) (member : link ∈ links) :
    ∃ element ∈ elements, R element link := by
  induction areElements with
  | nil => exact absurd member List.not_mem_nil
  | cons isElement _ ih =>
    rcases List.mem_cons.mp member with rfl | later
    · exact ⟨_, List.mem_cons_self, isElement⟩
    · obtain ⟨element, inRest, found⟩ := ih later
      exact ⟨element, List.mem_cons_of_mem _ inRest, found⟩

/-- **The output of repair is settled.** -/
theorem settled_of_repaired (opened : Opened doc)
    (done : tagLinkAnnotations doc (.object root) = some out) : Settled out root := by
  obtain ⟨isDictionary, appends, same, readable⟩ := tagLinkAnnotations_appends opened done
  have within := Document.within_of_isDictionary isDictionary
  have pages : out.pages = doc.pages := appends.pages.trans normalizeRootKids_pages
  refine ⟨(same.toSupplements.isDictionary within).trans isDictionary,
    kids_of_repaired opened done, fun page there => readable page (pages ▸ there), ?_⟩
  rw [linkAnnotations_eq opened same pages]
  intro link member
  obtain ⟨-, -, -, -, linkDictionary⟩ := exists_of_mem_linkAnnotations member
  have linkWithin := Document.within_of_isDictionary linkDictionary
  rw [same.toSupplements.number_eq linkWithin]
  rcases number_mem_or_untagged member with collected | ⟨other, isTagged, sameNumber⟩
  · -- The number had been collected, and still is.
    obtain ⟨depth, shallow, target, referred, sameNumber⟩ := mem_collect_iff.mp collected
    obtain ⟨-, -, -, -, targetDictionary⟩ := id referred
    refine ⟨depth, Nat.le_of_lt_succ shallow, target,
      same.toSupplements.refers opened within referred, ?_⟩
    rw [same.toSupplements.number_eq (Document.within_of_isDictionary targetDictionary), sameNumber]
  · -- The first link of that number has an element now.
    obtain ⟨elements, grown, areElements⟩ := kidsOf_root opened done
    obtain ⟨element, isElement, linkElement⟩ := exists_element areElements isTagged
    obtain ⟨-, -, -, -, otherDictionary⟩ :=
      exists_of_mem_linkAnnotations (mem_of_mem_untagged isTagged).1
    have otherWithin := Document.within_of_isDictionary otherDictionary
    refine ⟨1, by decide, other.2, refers_of_isLinkElement linkElement ?_ ?_, ?_⟩
    · rw [grown]
      exact List.mem_append_right _ isElement
    · rw [same.toSupplements.isDictionary otherWithin, otherDictionary]
    · rw [same.toSupplements.number_eq otherWithin, sameNumber]

/-! ## Saved and read again -/

theorem Readable.reopened (reopened : Reopened saved again origin) (opened : Opened again)
    {page : ℕ} (there : page < again.objects.length) (readable : Readable saved (origin page)) :
    Readable again page := by
  intro annots isAnnots
  have within := opened.within_of_get isAnnots
  have entry : saved.get (.object (origin page)) "/Annots" = some (annots.relocate origin) := by
    rw [← reopened.entry page there, isAnnots]
    rfl
  rcases readable _ entry with empty | ⟨items, isArray, dictionaries⟩
  · left
    have isDictionary : again.isDictionary annots = true := by
      rw [← reopened.isDictionary within, Document.isDictionary, empty]
      rfl
    obtain ⟨entries, isEntries⟩ := Option.isSome_iff_exists.mp isDictionary
    cases entries with
    | nil => exact isEntries
    | cons first rest =>
      -- An entry of the copy is one of the original, which has none.
      have found : again.get annots first.1 = some first.2 := by
        rw [Document.get, isEntries, Option.bind_some, List.lookup_cons_self]
      have copied := @Reopened.get annots first.1 saved again origin reopened within
      rw [found, Document.get, empty] at copied
      exact absurd copied (by simp)
  · right
    rw [reopened.array? within] at isArray
    obtain ⟨items', isArray', rfl⟩ := Option.map_eq_some_iff.mp isArray
    refine ⟨items', isArray', ?_⟩
    intro item member
    rw [← reopened.isDictionary (opened.within_of_mem isArray' member)]
    exact dictionaries _ (List.mem_map.mpr ⟨item, member, rfl⟩)

/-- A link of the copy is the copy of a link. -/
theorem mem_linkAnnotations_reopened (reopened : Reopened saved again origin)
    (opened : Opened again) (member : link ∈ linkAnnotations again) :
    ∃ other ∈ linkAnnotations saved, link.2.relocate origin = other.2 := by
  obtain ⟨page, there, listed⟩ := List.mem_flatMap.mp member
  obtain ⟨annot, inItems, rfl⟩ := List.mem_map.mp listed
  obtain ⟨inItems, isLink⟩ := List.mem_filter.mp inItems
  have isLink : again.textOf annot "/Subtype" = "/Link" := by simpa using isLink
  cases isAnnots : again.get (.object page) "/Annots" with
  | none =>
    rw [isAnnots] at inItems
    exact absurd inItems List.not_mem_nil
  | some annots =>
    rw [isAnnots, Option.bind_some] at inItems
    cases isArray : again.array? annots with
    | none =>
      rw [isArray] at inItems
      exact absurd inItems List.not_mem_nil
    | some items =>
      rw [isArray, Option.getD_some] at inItems
      refine ⟨(.object (origin page), annot.relocate origin), ?_, rfl⟩
      refine List.mem_flatMap.mpr ⟨origin page, ?_, ?_⟩
      · rw [← reopened.pages]
        exact List.mem_map.mpr ⟨page, there, rfl⟩
      · unfold linksOf linksAmong
        rw [← reopened.entry page (opened.pagesThere page there), isAnnots, Option.map_some,
          Option.bind_some, reopened.array? (opened.within_of_get isAnnots), isArray,
          Option.map_some, Option.getD_some]
        refine List.mem_map.mpr ⟨annot.relocate origin, List.mem_filter.mpr ⟨?_, ?_⟩, rfl⟩
        · exact List.mem_map.mpr ⟨annot, inItems, rfl⟩
        · rw [reopened.textOf (opened.within_of_mem isArray inItems)]
          simpa using isLink

theorem Settled.reopened {root' : ℕ} (settled : Settled saved root)
    (reopened : Reopened saved again origin) (opened : Opened again)
    (there : root' < again.objects.length) (isRoot : origin root' = root) :
    Settled again root' := by
  subst isRoot
  have within : again.Within (.object root') := by
    intro a same
    rwa [← Value.object.inj same]
  refine ⟨?_, ?_, ?_, ?_⟩
  · rw [← reopened.isDictionary within]
    exact settled.isDictionary
  · obtain ⟨rootKids, isKids, noElement⟩ := settled.kids
    rw [← reopened.entry root' there] at isKids
    obtain ⟨rootKids', isKids', rfl⟩ := Option.map_eq_some_iff.mp isKids
    refine ⟨rootKids', isKids', ?_⟩
    rwa [← reopened.isDictionary (opened.within_of_get isKids')]
  · intro page member
    refine Readable.reopened reopened opened (opened.pagesThere page member)
      (settled.readable (origin page) ?_)
    rw [← reopened.pages]
    exact List.mem_map.mpr ⟨page, member, rfl⟩
  · intro link member
    obtain ⟨-, -, -, -, linkDictionary⟩ := exists_of_mem_linkAnnotations member
    obtain ⟨other, isOther, sameLink⟩ := mem_linkAnnotations_reopened reopened opened member
    obtain ⟨depth, shallow, target, referred, sameNumber⟩ := settled.collected other isOther
    obtain ⟨target', referred', rfl⟩ := reopened.refers opened within referred
    obtain ⟨-, -, -, -, targetDictionary⟩ := id referred'
    refine ⟨depth, shallow, target', referred', ?_⟩
    refine reopened.number_eq targetDictionary linkDictionary ?_
    rw [sameNumber, sameLink]

/-! ## Nothing left to do -/

private theorem foldlM_eq_self {α σ : Type} {step : σ → α → Option σ} {items : List α} {state : σ}
    (each : ∀ item ∈ items, step state item = some state) : items.foldlM step state = some state := by
  induction items with
  | nil => rfl
  | cons head rest ih =>
    rw [List.foldlM_cons, each head List.mem_cons_self]
    exact ih fun item member => each item (List.mem_cons_of_mem _ member)

/-- The tagging a settled document starts with is never changed. -/
private theorem tagPage_settled {rootKids : Value} (settled : Settled doc root) {page : ℕ}
    (there : page ∈ doc.pages) {state : Tagging}
    (isTagging : state = ⟨doc,
      collectTaggedAnnotationObjids doc (maxStructTreeDepth + 1) (.object root)⟩) :
    tagPage (.object root) rootKids state page = some state := by
  have isDoc : state.doc = doc := by rw [isTagging]
  unfold tagPage
  rw [isDoc]
  cases isAnnots : doc.get (.object page) "/Annots" with
  | none => rfl
  | some annots =>
    show (iterated doc annots).bind _ = some state
    unfold iterated
    rcases settled.readable page there annots isAnnots with empty | ⟨items, isArray, dictionaries⟩
    · rw [if_pos empty]
      rfl
    · have noDictionary : doc.dictionary? annots ≠ some [] := by
        obtain ⟨address, rfl, isCell⟩ := Document.exists_of_array? isArray
        rw [Document.dictionary?_object, isCell]
        simp [Cell.entries?]
      rw [if_neg noDictionary, isArray, Option.bind_some]
      refine foldlM_eq_self ?_
      intro annot member
      unfold tagAnnotation
      rw [isDoc, if_neg (by simp [dictionaries annot member])]
      by_cases isLink : doc.textOf annot "/Subtype" = "/Link"
      · rw [if_neg (by simpa using isLink)]
        have isListed : (Value.object page, annot) ∈ linkAnnotations doc := by
          refine List.mem_flatMap.mpr ⟨page, there, ?_⟩
          unfold linksOf linksAmong
          rw [isAnnots, Option.bind_some, isArray, Option.getD_some]
          exact List.mem_map.mpr ⟨annot, List.mem_filter.mpr ⟨member, by simpa using isLink⟩, rfl⟩
        obtain ⟨depth, shallow, target, referred, same⟩ := settled.collected _ isListed
        rw [if_pos]
        rw [isTagging]
        exact mem_collect_iff.mpr ⟨depth, Nat.lt_succ_of_le shallow, target, referred, same⟩
      · rw [if_pos isLink]

/-- Repair leaves a settled document as it is. -/
theorem Settled.unchanged (settled : Settled doc root) :
    tagLinkAnnotations doc (.object root) = some doc := by
  obtain ⟨rootKids, isKids, noElement⟩ := settled.kids
  have normalized : normalizeRootKids doc root = (doc, rootKids) := by
    simp [normalizeRootKids, isKids, noElement]
  unfold tagLinkAnnotations
  simp only [settled.isDictionary, Bool.not_true, Bool.false_eq_true, if_false, normalized]
  rw [foldlM_eq_self fun page there => tagPage_settled settled there rfl]
  rfl

end DicePipeline.Links

namespace DicePipeline

open Pdf Links

/-- **Link repair is idempotent**: repairing the saved output once more changes nothing in it.

Each element that repair has appended stands right below the root, with a reference to its link,
so it is in sight of the second repair however deep the rest of the tree goes. -/
theorem link_repair_is_idempotent (file again : File) (out : Document) (origin : ℕ → ℕ)
    (repaired : repair file.1 = some out) (reopened : Reopened out again.1 origin) :
    repair again.1 = some again.1 := by
  obtain ⟨again, openedAgain⟩ := again
  have catalogEntry : ∀ structRoot', again.get (.object again.catalog) "/StructTreeRoot" =
      some structRoot' →
      out.get (.object out.catalog) "/StructTreeRoot" = some (structRoot'.relocate origin) := by
    intro structRoot' isRoot'
    have within := Document.within_of_isDictionary (Document.isDictionary_of_get isRoot')
    rw [← reopened.catalog, ← reopened.entry _ (within _ rfl), isRoot']
    rfl
  unfold repair at repaired ⊢
  cases isRoot' : again.get (.object again.catalog) "/StructTreeRoot" with
  | none => rfl
  | some structRoot' =>
    have isOutRoot := catalogEntry structRoot' isRoot'
    obtain ⟨doc, opened⟩ := file
    cases isRoot : doc.get (.object doc.catalog) "/StructTreeRoot" with
    | none =>
      rw [isRoot] at repaired
      obtain rfl := Option.some.inj repaired
      rw [isRoot] at isOutRoot
      exact absurd isOutRoot (by simp)
    | some structRoot =>
      rw [isRoot] at repaired
      have done : tagLinkAnnotations doc structRoot = some out := repaired
      obtain ⟨root, rfl⟩ := exists_of_tagLinkAnnotations done
      -- The saved document has the same structure tree under its catalog.
      have sameRoot : structRoot'.relocate origin = .object root := by
        refine Option.some.inj (isOutRoot.symm.trans ?_)
        rw [catalog_of_repaired opened done, ← isRoot]
        have within := Document.within_of_isDictionary (Document.isDictionary_of_get isRoot)
        obtain ⟨-, -, same, -⟩ := tagLinkAnnotations_appends opened done
        exact same.entry _ (within _ rfl) "/StructTreeRoot" (by decide)
      cases structRoot' with
      | object root' =>
        have there := openedAgain.within_of_get isRoot' root' rfl
        have settled := (settled_of_repaired opened done).reopened reopened openedAgain there
          (Value.object.inj sameRoot)
        exact settled.unchanged
      | _ => exact absurd sameRoot (by simp [Value.relocate])

/-- What repair makes of the page with one link tagged. -/
def bothLinksTagged : File where
  val := (repair oneLinkTagged.1).getD oneLinkTagged.1
  property := by decide +kernel

/-- The rule for that page: both links have an element, and keep the one they have. -/
theorem link_repair_is_idempotent_both_tagged :
    (bothLinksTagged.1.kidsOf (.object 1)).length = 2 ∧
      repair bothLinksTagged.1 = some bothLinksTagged.1 :=
  ⟨by decide +kernel,
    link_repair_is_idempotent oneLinkTagged bothLinksTagged bothLinksTagged.1 id
      (by decide +kernel) (.refl _)⟩

end DicePipeline
