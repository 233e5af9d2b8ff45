import DicePipeline.Links.Tagging

/-!
# The loops of link repair

The loops over the pages and over a page's annotations append one element after
the other: `Appends` is that chain.  Which links get one is decided by their
object numbers alone: `untagged` goes through the links in the order the pages
list them and keeps the first of every number that has not come up.

`Loops` is what a stretch of the loops does, with one rule for going on
(`Loops.trans`) and one for a loop (`Loops.foldlM`).
-/

namespace DicePipeline.Links

open Pdf

variable {doc doc' original out : Document} {structRoot rootKids page annot value : Value}
variable {root kids a id : ℕ} {key : String} {link : Value × Value}
variable {links more : List (Value × Value)} {seen : List ℕ} {number : Value → ℕ}

/-! ## Which links are tagged -/

/-- The links that get an element, given the numbers that have come up. -/
def untagged (number : Value → ℕ) : List ℕ → List (Value × Value) → List (Value × Value)
  | _, [] => []
  | seen, link :: rest =>
      if number link.2 ∈ seen then untagged number seen rest
      else link :: untagged number (number link.2 :: seen) rest

/-- The numbers that have come up once the links got their elements. -/
def noted (number : Value → ℕ) (seen : List ℕ) (links : List (Value × Value)) : List ℕ :=
  (links.map fun link => number link.2).reverse ++ seen

theorem noted_cons : noted number seen (link :: links) =
    noted number (number link.2 :: seen) links := by
  simp [noted]

theorem untagged_append : untagged number seen (links ++ more) =
    untagged number seen links ++ untagged number (noted number seen (untagged number seen links))
      more := by
  induction links generalizing seen with
  | nil => rfl
  | cons link rest ih =>
    rw [List.cons_append, untagged, untagged]
    by_cases known : number link.2 ∈ seen
    · rw [if_pos known, if_pos known, ih]
    · rw [if_neg known, if_neg known, ih, List.cons_append, noted_cons]

theorem noted_append : noted number seen (links ++ more) =
    noted number (noted number seen links) more := by
  simp [noted]

/-- A link that is tagged is one of the links, with a number that is new. -/
theorem mem_of_mem_untagged (member : link ∈ untagged number seen links) :
    link ∈ links ∧ number link.2 ∉ seen := by
  induction links generalizing seen with
  | nil => exact absurd member List.not_mem_nil
  | cons head rest ih =>
    rw [untagged] at member
    by_cases known : number head.2 ∈ seen
    · rw [if_pos known] at member
      exact ⟨List.mem_cons_of_mem _ (ih member).1, (ih member).2⟩
    · rw [if_neg known] at member
      rcases List.mem_cons.mp member with rfl | later
      · exact ⟨List.mem_cons_self, known⟩
      · obtain ⟨inRest, fresh⟩ := ih later
        exact ⟨List.mem_cons_of_mem _ inRest,
          fun inSeen => fresh (List.mem_cons_of_mem _ inSeen)⟩

/-- Every number of the links has come up in the end. -/
theorem number_mem_or_untagged (member : link ∈ links) :
    number link.2 ∈ seen ∨ ∃ other ∈ untagged number seen links, number other.2 = number link.2 := by
  induction links generalizing seen with
  | nil => exact absurd member List.not_mem_nil
  | cons head rest ih =>
    rw [untagged]
    by_cases known : number head.2 ∈ seen
    · rw [if_pos known]
      rcases List.mem_cons.mp member with rfl | later
      · exact .inl known
      · exact ih later
    · rw [if_neg known]
      rcases List.mem_cons.mp member with rfl | later
      · exact .inr ⟨link, List.mem_cons_self, rfl⟩
      · rcases ih later with inSeen | ⟨other, tagged, same⟩
        · rcases List.mem_cons.mp inSeen with first | before
          · exact .inr ⟨head, List.mem_cons_self, first.symm⟩
          · exact .inl before
        · exact .inr ⟨other, List.mem_cons_of_mem _ tagged, same⟩

/-- No number is tagged twice. -/
theorem nodup_untagged : ((untagged number seen links).map fun link => number link.2).Nodup := by
  induction links generalizing seen with
  | nil => exact List.nodup_nil
  | cons head rest ih =>
    rw [untagged]
    by_cases known : number head.2 ∈ seen
    · rw [if_pos known]
      exact ih
    · rw [if_neg known, List.map_cons, List.nodup_cons]
      refine ⟨?_, ih⟩
      intro again
      obtain ⟨other, tagged, same⟩ := List.mem_map.mp again
      exact (mem_of_mem_untagged tagged).2 (same ▸ List.mem_cons_self)

/-! ## One element after the other -/

/-- The elements of the links are appended to the array of the root's kids. -/
inductive Appends (structRoot rootKids : Value) :
    Document → List (Value × Value) → Document → Prop
  | nil {doc : Document} : Appends structRoot rootKids doc [] doc
  | cons {doc out : Document} {kids : ℕ} {link : Value × Value} {links : List (Value × Value)} :
      rootKids = .object kids → (doc.array? rootKids).isSome →
      Appends structRoot rootKids (appendLink structRoot kids doc link) links out →
      Appends structRoot rootKids doc (link :: links) out

/-- An array is at an address of the document. -/
theorem inside_of_array? (isArray : (doc.array? (.object a)).isSome) : a < doc.objects.length := by
  obtain ⟨items, isItems⟩ := Option.isSome_iff_exists.mp isArray
  obtain ⟨address, same, isCell⟩ := Document.exists_of_array? isItems
  obtain rfl := Value.object.inj same
  exact Document.cell?_lt (by simp [isCell])

namespace Appends

theorem trans (first : Appends structRoot rootKids doc links doc')
    (second : Appends structRoot rootKids doc' more out) :
    Appends structRoot rootKids doc (links ++ more) out := by
  induction first with
  | nil => exact second
  | cons isObject isArray _ ih => exact .cons isObject isArray (ih second)

/-- A property of documents that one more element keeps is kept. -/
theorem keeps {P : Document → Prop} (appends : Appends structRoot rootKids doc links out)
    (step : ∀ doc kids link, rootKids = .object kids → kids < doc.objects.length → P doc →
      P (appendLink structRoot kids doc link)) (start : P doc) : P out := by
  induction appends with
  | nil => exact start
  | cons isObject isArray _ ih =>
    subst isObject
    exact ih (step _ _ _ rfl (inside_of_array? isArray) start)

theorem pages (appends : Appends structRoot rootKids doc links out) : out.pages = doc.pages :=
  appends.keeps (P := fun now => now.pages = doc.pages)
    (fun _ _ _ _ _ before => before) rfl

theorem same (appends : Appends structRoot rootKids doc links out)
    (before : SameAnnotations original doc) : SameAnnotations original out :=
  appends.keeps (fun _ _ _ _ inside before => before.appendLink inside) before

theorem plain (appends : Appends structRoot rootKids doc links out) (before : Plain doc value) :
    Plain out value :=
  appends.keeps (P := fun now => Plain now value) (fun _ _ _ _ _ before => before.appendLink) before

end Appends

/-! ## What the loops do -/

/-- A stretch of the loops that has gone over these links. -/
structure Loops (original : Document) (structRoot rootKids : Value) (state : Tagging)
    (links : List (Value × Value)) (state' : Tagging) : Prop where
  appends : Appends structRoot rootKids state.doc
    (untagged original.number state.alreadyTagged links) state'.doc
  noted : state'.alreadyTagged =
    noted original.number state.alreadyTagged (untagged original.number state.alreadyTagged links)

variable {state state' state'' final : Tagging}

namespace Loops

theorem nil : Loops original structRoot rootKids state [] state where
  appends := .nil
  noted := rfl

theorem trans (first : Loops original structRoot rootKids state links state')
    (second : Loops original structRoot rootKids state' more state'') :
    Loops original structRoot rootKids state (links ++ more) state'' where
  appends := by
    rw [untagged_append, ← first.noted]
    exact first.appends.trans second.appends
  noted := by
    rw [untagged_append, noted_append, ← first.noted]
    exact second.noted

/-- A loop, each round of which goes over links of its own.  Every round ran in
some document that the final one has grown out of. -/
theorem foldlM {α : Type} {step : Tagging → α → Option Tagging}
    {linksAt : α → List (Value × Value)} {P : Document → Prop} {items : List α}
    (kept : ∀ doc kids link, rootKids = .object kids → kids < doc.objects.length → P doc →
      P (appendLink structRoot kids doc link))
    (each : ∀ item ∈ items, ∀ state state', P state.doc → step state item = some state' →
      Loops original structRoot rootKids state (linksAt item) state')
    (start : P state.doc) (done : items.foldlM step state = some final) :
    Loops original structRoot rootKids state (items.flatMap linksAt) final ∧
      ∀ item ∈ items, ∃ before after gained, P before.doc ∧ step before item = some after ∧
        Appends structRoot rootKids before.doc gained final.doc := by
  induction items generalizing state with
  | nil =>
    obtain rfl := Option.some.inj done
    exact ⟨.nil, fun item member => absurd member List.not_mem_nil⟩
  | cons head rest ih =>
    rw [List.foldlM_cons] at done
    obtain ⟨next, stepped, done⟩ := Option.bind_eq_some_iff.mp done
    have first := each head List.mem_cons_self state next start stepped
    have later := ih (fun item member => each item (List.mem_cons_of_mem _ member))
      (first.appends.keeps kept start) done
    refine ⟨?_, ?_⟩
    · rw [List.flatMap_cons]
      exact first.trans later.1
    · intro item member
      rcases List.mem_cons.mp member with rfl | inRest
      · exact ⟨state, next, _, start, stepped, first.appends.trans later.1.appends⟩
      · exact later.2 item inRest

end Loops

/-! ## The loop over a page's annotations -/

/-- The links among some annotations of a page. -/
def linksAmong (original : Document) (page : Value) (items : List Value) : List (Value × Value) :=
  (items.filter fun annot => original.textOf annot "/Subtype" = "/Link").map fun annot =>
    (page, annot)

theorem linksAmong_append {items others : List Value} :
    linksAmong original page (items ++ others) =
      linksAmong original page items ++ linksAmong original page others := by
  simp [linksAmong]

theorem linksAmong_eq_flatMap {items : List Value} : linksAmong original page items =
    items.flatMap fun annot => linksAmong original page [annot] := by
  induction items with
  | nil => rfl
  | cons head rest ih => rw [List.flatMap_cons, ← ih, ← linksAmong_append, List.singleton_append]

/-- The loop reads an annotation of the original document, or what is none. -/
def Known (original doc : Document) (annot : Value) : Prop :=
  original.Within annot ∨ Plain doc annot

theorem Known.textOf (known : Known original doc annot) (same : SameAnnotations original doc) :
    doc.textOf annot "/Subtype" = original.textOf annot "/Subtype" := by
  by_cases within : original.Within annot
  · exact same.toSupplements.textOf within (by decide)
  · have plain : Plain doc annot := known.resolve_left within
    have none : original.get annot "/Subtype" = none := by
      by_contra present
      obtain ⟨value, isValue⟩ := Option.ne_none_iff_exists'.mp present
      exact within (Document.within_of_isDictionary (Document.isDictionary_of_get isValue))
    unfold Document.textOf
    rw [plain.2, none]

/-- A link annotation is one of the original document. -/
theorem within_of_isLink (isLink : original.textOf annot "/Subtype" = "/Link") :
    original.Within annot := by
  cases present : original.get annot "/Subtype" with
  | none =>
    unfold Document.textOf at isLink
    rw [present] at isLink
    exact absurd isLink (by decide)
  | some value => exact Document.within_of_isDictionary (Document.isDictionary_of_get present)

/-- One round of the loop. -/
theorem tagAnnotation_loops (same : SameAnnotations original state.doc)
    (known : Known original state.doc annot)
    (done : tagAnnotation structRoot rootKids page state annot = some state') :
    Loops original structRoot rootKids state (linksAmong original page [annot]) state' ∧
      state.doc.isDictionary annot = true := by
  unfold tagAnnotation at done
  by_cases isDictionary : state.doc.isDictionary annot = true
  case neg => simp [isDictionary] at done
  rw [if_neg (by simp [isDictionary]), known.textOf same] at done
  refine ⟨?_, isDictionary⟩
  -- What is no link is passed over, a link that is tagged already as well.
  by_cases isLink : original.textOf annot "/Subtype" = "/Link"
  case neg =>
    rw [if_pos isLink] at done
    obtain rfl := Option.some.inj done
    have noLinks : linksAmong original page [annot] = [] := by simp [linksAmong, isLink]
    rw [noLinks]
    exact .nil
  rw [if_neg (by simpa using isLink), same.toSupplements.number_eq (within_of_isLink isLink)]
    at done
  have oneLink : linksAmong original page [annot] = [(page, annot)] := by
    simp [linksAmong, isLink]
  rw [oneLink]
  by_cases known : original.number annot ∈ state.alreadyTagged
  · rw [if_pos known] at done
    obtain rfl := Option.some.inj done
    have noneLeft : untagged original.number state.alreadyTagged [(page, annot)] = [] := by
      simp [untagged, known]
    constructor
    · rw [noneLeft]
      exact .nil
    · rw [noneLeft]
      rfl
  · rw [if_neg known] at done
    have oneLeft : untagged original.number state.alreadyTagged [(page, annot)] =
        [(page, annot)] := by
      simp [untagged, known]
    -- A link that is left is appended, and that needs `/K` to be an array.
    cases isObject : rootKids with
    | object kids =>
      simp only [isObject] at done
      by_cases isArray : (state.doc.array? (.object kids)).isSome = true
      · rw [if_pos isArray] at done
        obtain rfl := Option.some.inj done
        constructor
        · rw [oneLeft]
          exact .cons rfl isArray .nil
        · rw [oneLeft]
          rfl
      · rw [if_neg isArray] at done
        exact absurd done (by simp)
    | _ =>
      simp only [isObject] at done
      exact absurd done (by simp)

/-! ## The loop over the pages -/

/-- The link annotations of a page, in the order its `/Annots` lists them. -/
def linksOf (doc : Document) (page : ℕ) : List (Value × Value) :=
  linksAmong doc (.object page)
    (((doc.get (.object page) "/Annots").bind doc.array?).getD [])

/-- The loop over a page's annotations does not fail. -/
def Readable (doc : Document) (page : ℕ) : Prop :=
  ∀ annots, doc.get (.object page) "/Annots" = some annots →
    doc.dictionary? annots = some [] ∨
      ∃ items, doc.array? annots = some items ∧ ∀ item ∈ items, doc.isDictionary item = true

theorem isDictionary_of_appendLink (isDictionary : doc.isDictionary value = true) :
    (appendLink structRoot kids doc link).isDictionary value = true := by
  have within := Document.within_of_isDictionary isDictionary
  cases value with
  | object b => exact (isDictionary_appendLink (within b rfl)).trans isDictionary
  | _ => exact absurd isDictionary Bool.false_ne_true

/-- One more element leaves a page readable. -/
theorem Readable.appendLink {page : ℕ} (readable : Readable doc page)
    (there : page < doc.objects.length) (inside : kids < doc.objects.length) :
    Readable (appendLink structRoot kids doc link) page := by
  intro annots isAnnots
  rw [get_appendLink there] at isAnnots
  rcases readable annots isAnnots with empty | ⟨items, isArray, dictionaries⟩
  · left
    obtain ⟨a, rfl, isCell⟩ := Document.exists_of_dictionary? empty
    rw [dictionary?_appendLink (Document.cell?_lt (by simp [isCell])), empty]
  · right
    obtain ⟨a, rfl, isCell⟩ := Document.exists_of_array? isArray
    by_cases grown : a = kids
    · subst grown
      refine ⟨items ++ [.object (doc.objects.length + 2)], ?_, ?_⟩
      · rw [array?_appendLink_self inside, isArray]
        rfl
      · intro item member
        rcases List.mem_append.mp member with old | new
        · exact isDictionary_of_appendLink (dictionaries item old)
        · rw [List.mem_singleton.mp new]
          exact (element_appendLink inside).1
    · refine ⟨items, ?_, fun item member => isDictionary_of_appendLink (dictionaries item member)⟩
      rw [array?_appendLink_of_ne (Document.cell?_lt (by simp [isCell])) grown, isArray]

/-- What the loop over a page's annotations goes through, next to what the
original document lists. -/
theorem items_known (opened : Opened original) (same : SameAnnotations original doc)
    {annots : Value} {items : List Value} (within : original.Within annots)
    (isArray : doc.array? annots = some items) :
    (∀ item ∈ items, Known original doc item) ∧
      linksAmong original page ((original.array? annots).getD []) =
        linksAmong original page items := by
  obtain ⟨a, rfl, isCell⟩ := Document.exists_of_array? isArray
  cases before : original.array? (.object a) with
  | none =>
    rw [same.noItems a (within a rfl) before] at isArray
    exact absurd isArray (by simp)
  | some listed =>
    obtain ⟨gained, now, plain⟩ := same.items a (within a rfl) listed before
    obtain rfl := Option.some.inj (now.symm.trans isArray)
    refine ⟨?_, ?_⟩
    · intro item member
      rcases List.mem_append.mp member with old | new
      · exact .inl (opened.within_of_mem before old)
      · exact .inr (plain item new)
    · -- What the array has gained is no link of the original document.
      have noLinks : gained.filter (fun annot => original.textOf annot "/Subtype" = "/Link") = [] := by
        rw [List.filter_eq_nil_iff]
        intro item member
        have known : Known original doc item := .inr (plain item member)
        rw [← known.textOf same]
        unfold Document.textOf
        rw [(plain item member).2]
        decide
      unfold linksAmong
      rw [Option.getD_some, List.filter_append, noLinks, List.append_nil]

/-- One round of the loop over the pages. -/
theorem tagPage_loops (opened : Opened original) {page : ℕ} (there : page ∈ original.pages)
    (same : SameAnnotations original state.doc)
    (done : tagPage structRoot rootKids state page = some state') :
    Loops original structRoot rootKids state (linksOf original page) state' ∧
      Readable state.doc page := by
  have entry := same.entry page (opened.pagesThere page there) "/Annots" (by decide)
  unfold tagPage at done
  rw [entry] at done
  unfold linksOf Readable
  rw [entry]
  cases isAnnots : original.get (.object page) "/Annots" with
  -- A page without `/Annots` is left, and has no links.
  | none =>
    rw [isAnnots] at done
    obtain rfl := Option.some.inj done
    exact ⟨.nil, fun annots absent => absurd absent (by simp)⟩
  | some annots =>
    rw [isAnnots] at done
    have within := opened.within_of_get isAnnots
    obtain ⟨items, isIterated, looped⟩ := Option.bind_eq_some_iff.mp done
    unfold iterated at isIterated
    -- An empty dictionary can be iterated as well; then there is no array, and so no link.
    by_cases empty : state.doc.dictionary? annots = some []
    · rw [if_pos empty] at isIterated
      obtain rfl := Option.some.inj isIterated
      obtain rfl := Option.some.inj looped
      have noArray : original.array? annots = none := by
        obtain ⟨a, rfl, isCell⟩ := Document.exists_of_dictionary? empty
        by_contra isArray
        obtain ⟨listed, isListed⟩ := Option.ne_none_iff_exists'.mp isArray
        obtain ⟨gained, now, -⟩ := same.items a (within a rfl) listed isListed
        rw [Document.array?_object, isCell] at now
        exact absurd now (by simp [Cell.items?])
      have noLinks : linksAmong original (.object page)
          (((some annots).bind original.array?).getD []) = [] := by
        rw [Option.bind_some, noArray]
        rfl
      rw [noLinks]
      refine ⟨.nil, fun other isOther => .inl ?_⟩
      rwa [← Option.some.inj isOther]
    · rw [if_neg empty] at isIterated
      obtain ⟨known, sameLinks⟩ := items_known opened same within isIterated
      rw [Option.bind_some, sameLinks]
      -- Each round leaves the other annotations as they were, so the links that are met are those
      -- that the file had.
      obtain ⟨loops, rounds⟩ := Loops.foldlM
        (P := fun now => SameAnnotations original now ∧ ∀ item ∈ items, Known original now item)
        (fun doc kids link isObject inside before =>
          ⟨before.1.appendLink inside, fun item member =>
            (before.2 item member).imp_right Plain.appendLink⟩)
        (fun item member state state' before stepped =>
          (tagAnnotation_loops before.1 (before.2 item member) stepped).1)
        ⟨same, known⟩ looped
      rw [← linksAmong_eq_flatMap] at loops
      refine ⟨loops, fun other isOther => .inr ?_⟩
      obtain rfl := Option.some.inj isOther
      refine ⟨items, isIterated, ?_⟩
      -- A round that went through has found its annotation to be a dictionary.
      intro item member
      obtain ⟨before, after, gained, ⟨sameBefore, knownBefore⟩, stepped, -⟩ := rounds item member
      have isDictionary := (tagAnnotation_loops sameBefore (knownBefore item member) stepped).2
      rcases known item member with old | plain
      · rw [sameBefore.toSupplements.isDictionary old] at isDictionary
        rw [same.toSupplements.isDictionary old, isDictionary]
      · exact plain.1

/-- The link annotations of all pages, in the order the pages list them. -/
def linkAnnotations (doc : Document) : List (Value × Value) := doc.pages.flatMap (linksOf doc)

/-- **What link repair appends**: one element for each link of the original
document, by the page, whose number has not come up. -/
theorem tagLinkAnnotations_appends (opened : Opened doc)
    (done : tagLinkAnnotations doc (.object root) = some out) :
    doc.isDictionary (.object root) = true ∧
      Appends (.object root) (normalizeRootKids doc root).2 (normalizeRootKids doc root).1
        (untagged doc.number
          (collectTaggedAnnotationObjids doc (maxStructTreeDepth + 1) (.object root))
          (linkAnnotations doc)) out ∧
      SameAnnotations doc out ∧ ∀ page ∈ doc.pages, Readable out page := by
  unfold tagLinkAnnotations at done
  by_cases isDictionary : doc.isDictionary (.object root) = true
  case neg => simp [isDictionary] at done
  simp only [isDictionary, Bool.not_true, Bool.false_eq_true, if_false] at done
  obtain ⟨final, looped, rfl⟩ := Option.map_eq_some_iff.mp done
  have start : SameAnnotations doc (normalizeRootKids doc root).1 := by
    rcases @normalizeRootKids_cases doc root with ⟨-, written⟩ | ⟨rootKids, -, -, left⟩
    · rw [written]
      exact sameAnnotations_withRootKids opened isDictionary rfl
    · rw [left]
      exact .refl opened
  obtain ⟨loops, rounds⟩ := Loops.foldlM (P := SameAnnotations doc)
    (fun now kids link isObject inside before => before.appendLink inside)
    (fun page there state state' before stepped =>
      (tagPage_loops opened there before stepped).1)
    start looped
  refine ⟨isDictionary, loops.appends, loops.appends.same start, ?_⟩
  intro page there
  obtain ⟨before, after, gained, sameBefore, stepped, later⟩ := rounds page there
  have readable := (tagPage_loops opened there sameBefore stepped).2
  have inside := Nat.lt_of_lt_of_le (opened.pagesThere page there) sameBefore.length
  -- The page stays one of the document, and readable, to the end.
  have kept := later.keeps
    (P := fun now => page < now.objects.length ∧ Readable now page)
    (fun now kids link isObject insideKids holds =>
      ⟨by rw [length_appendLink]; omega, holds.2.appendLink holds.1 insideKids⟩)
    ⟨inside, readable⟩
  exact kept.2

end DicePipeline.Links
