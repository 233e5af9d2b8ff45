import Mathlib.Data.List.Forall2
import Mathlib.Data.List.Nodup
import DicePipeline.Links.Loops

/-!
# Which links repair tags

`CompleteAndExact` is what repair is for: the root's kids gain one `<Link>`
element for each link annotation that nothing in the tree refers to, and for no
other, and what was in the tree is as it was.

The code decides by object number and by a walk with a cut-off, so it does that
where the references are in sight (`TagsInSight`): none is deeper than the
cut-off, and an annotation written in place, whose number is 0 like that of
every other one, is the only one of its kind.

### What is load-bearing

Each part of `TagsInSight` fails for a reason of its own.  A link that is referred to
only below the cut-off (`shallow`) is tagged a second time.  Of two links written in
place (`single`) the second one is taken for the first, and is not tagged.  And where
the array of the root's kids is some other element's too (`unshared`), what is appended
for the root is appended there as well; this asks for nothing if nothing is tagged.
-/

namespace DicePipeline.Links

open Pdf

variable {doc out : Document} {structRoot rootKids annot kid element value : Value}
variable {root kids a id : ℕ} {key : String} {link : Value × Value}
variable {links : List (Value × Value)}

/-- Some `/OBJR` of the tree refers to the annotation, however deep it is. -/
def ReferredTo (doc : Document) (root : ℕ) (annot : Value) : Prop :=
  ∃ depth, Refers doc (.object root) depth annot

/-- What repair is for. -/
structure CompleteAndExact (doc out : Document) (root : ℕ) : Prop where
  /-- One element for each link that nothing refers to, at the end. -/
  appended : ∃ elements links,
    out.kidsOf (.object root) = doc.kidsOf (.object root) ++ elements ∧
    List.Forall₂ (IsLinkElement out (.object root)) elements links ∧
    (∀ link ∈ links, link ∈ linkAnnotations doc) ∧
    (links.map Prod.snd).Nodup ∧
    ∀ link ∈ linkAnnotations doc, link.2 ∈ links.map Prod.snd ↔ ¬ ReferredTo doc root link.2
  /-- The root has its other entries as they were. -/
  rootEntries : ∀ key, key ≠ "/K" → out.get (.object root) key = doc.get (.object root) key
  /-- Everything else of the tree is as it was. -/
  kept : ∀ depth kid, Below doc (.object root) depth kid → doc.isDictionary kid = true →
    kid ≠ .object root →
    out.dictionary? kid = doc.dictionary? kid ∧ out.kidsOf kid = doc.kidsOf kid

/-- The references are in sight. -/
structure TagsInSight (doc : Document) (root : ℕ) : Prop where
  /-- A link that is referred to is referred to above the cut-off. -/
  shallow : ∀ link ∈ linkAnnotations doc, doc.number link.2 ≠ 0 → ReferredTo doc root link.2 →
    ∃ depth ≤ maxStructTreeDepth, Refers doc (.object root) depth link.2
  /-- A link written in place is the only one, and no dictionary written in place
  is referred to. -/
  single : ∀ link ∈ linkAnnotations doc, doc.number link.2 = 0 →
    (∀ other ∈ linkAnnotations doc, doc.number other.2 = 0 → other.2 = link.2) ∧
    ∀ depth ≤ maxStructTreeDepth, ∀ target, Refers doc (.object root) depth target →
      doc.number target ≠ 0
  /-- If there is something to tag, the array of the root's kids is the root's alone. -/
  unshared : (∃ link ∈ linkAnnotations doc, ¬ ReferredTo doc root link.2) →
    ∀ depth kid, Below doc (.object root) depth kid → doc.isDictionary kid = true →
      kid ≠ .object root → ∀ kids, doc.get (.object root) "/K" = some kids →
        (doc.array? kids).isSome = true → doc.get kid "/K" ≠ some kids

/-! ## The elements -/

/-- An element is the element of one link only. -/
theorem isLinkElement_rightUnique : Relator.RightUnique (IsLinkElement doc structRoot) := by
  rintro element ⟨page, annot⟩ ⟨page', annot'⟩ ⟨e, k, o, rfl, isElement, isKids, isObjr⟩
    ⟨e', k', o', same, isElement', isKids', isObjr'⟩
  obtain rfl := Value.object.inj same
  rw [isElement] at isElement'
  obtain ⟨rfl, rfl⟩ : page = page' ∧ k = k' := by simpa using Option.some.inj isElement'
  rw [isKids] at isKids'
  obtain rfl : o = o' := by simpa using (Option.some.inj isKids')
  rw [isObjr] at isObjr'
  simpa using Option.some.inj isObjr'

/-- What is at an address stays there, unless it is the array of the root's kids. -/
theorem Appends.cell? (appends : Appends structRoot rootKids doc links out)
    (inside : a < doc.objects.length) (other : rootKids ≠ .object a) :
    out.cell? a = doc.cell? a := by
  have kept := appends.keeps
    (P := fun now => a < now.objects.length ∧ now.cell? a = doc.cell? a)
    (fun now kids link isObject insideKids holds =>
      ⟨by rw [length_appendLink]; omega, by
        rw [cell?_appendLink holds.1 (fun same => other (same ▸ isObject)), holds.2]⟩)
    ⟨inside, rfl⟩
  exact kept.2

/-- The entries of a dictionary stay what they were. -/
theorem Appends.dictionary? (appends : Appends structRoot rootKids doc links out)
    (inside : a < doc.objects.length) :
    out.dictionary? (.object a) = doc.dictionary? (.object a) := by
  have kept := appends.keeps
    (P := fun now => a < now.objects.length ∧
      now.dictionary? (.object a) = doc.dictionary? (.object a))
    (fun now kids link isObject insideKids holds =>
      ⟨by rw [length_appendLink]; omega, by rw [dictionary?_appendLink holds.1, holds.2]⟩)
    ⟨inside, rfl⟩
  exact kept.2

/-- The array of the root's kids has gained one element for each link. -/
theorem Appends.array? (appends : Appends structRoot (.object kids) doc links out)
    {items : List Value} (isArray : doc.array? (.object kids) = some items) :
    ∃ elements, out.array? (.object kids) = some (items ++ elements) ∧
      List.Forall₂ (IsLinkElement out structRoot) elements links := by
  generalize isObject : Value.object kids = rootKids at appends isArray ⊢
  induction appends generalizing items with
  | nil => exact ⟨[], by rw [List.append_nil, isArray], .nil⟩
  | @cons doc out kids' link links same isSome later ih =>
    obtain rfl : kids = kids' := Value.object.inj (isObject.trans same)
    obtain rfl := isObject
    have inside := inside_of_array? isSome
    have grown : (appendLink structRoot kids doc link).array? (.object kids) =
        some (items ++ [.object (doc.objects.length + 2)]) := by
      rw [array?_appendLink_self inside, isArray]
      rfl
    obtain ⟨elements, now, areElements⟩ := ih grown
    refine ⟨.object (doc.objects.length + 2) :: elements, ?_, .cons ?_ areElements⟩
    · rw [now, List.append_assoc, List.singleton_append]
    · -- The three new objects come after every other, so none is the array of the kids.
      obtain ⟨isElement, isKids, isObjr⟩ := @cells_appendLink doc structRoot kids link inside
      have stays : ∀ b, doc.objects.length ≤ b → ∀ cell,
          (appendLink structRoot kids doc link).cell? b = some cell → out.cell? b = some cell := by
        intro b new cell isCell
        have different : Value.object kids ≠ .object b := by
          intro same
          have := Value.object.inj same
          omega
        rw [later.cell? (Document.cell?_lt (by simp [isCell])) different, isCell]
      exact ⟨_, _, _, rfl, stays _ (by omega) _ isElement, stays _ (by omega) _ isKids,
        stays _ (by omega) _ isObjr⟩

/-! ## The output of repair -/

/-- The links repair tags. -/
def tagged (doc : Document) (root : ℕ) : List (Value × Value) :=
  untagged doc.number (collectTaggedAnnotationObjids doc (maxStructTreeDepth + 1) (.object root))
    (linkAnnotations doc)

/-- The root's kids have gained the elements of the tagged links. -/
theorem kidsOf_root (opened : Opened doc)
    (done : tagLinkAnnotations doc (.object root) = some out) :
    ∃ elements, out.kidsOf (.object root) = doc.kidsOf (.object root) ++ elements ∧
      List.Forall₂ (IsLinkElement out (.object root)) elements (tagged doc root) := by
  obtain ⟨isDictionary, appends, -, -⟩ := tagLinkAnnotations_appends opened done
  change Appends _ _ _ (tagged doc root) out at appends
  have inside := Document.within_of_isDictionary isDictionary root rfl
  rcases @normalizeRootKids_cases doc root with ⟨-, written⟩ | ⟨rootKids, isKids, -, left⟩
  · rw [written] at appends
    obtain ⟨elements, now, areElements⟩ := appends.array? array?_withRootKids_new
    refine ⟨elements, ?_, areElements⟩
    have entry : out.get (.object root) "/K" = some (.object doc.objects.length) := by
      rw [Document.get_object, appends.dictionary? (by rw [length_withRootKids]; omega),
        ← Document.get_object, get_withRootKids_root isDictionary]
    rw [Document.kidsOf_of_some entry, now]
    rfl
  · rw [left] at appends
    have entry : out.get (.object root) "/K" = some rootKids := by
      rw [Document.get_object, appends.dictionary? inside, ← Document.get_object, isKids]
    generalize tagged doc root = links at appends
    cases appends with
    | nil => exact ⟨[], (List.append_nil _).symm, .nil⟩
    | @cons _ _ kids link links isObject isArray later =>
      obtain rfl := isObject
      obtain ⟨items, isItems⟩ := Option.isSome_iff_exists.mp isArray
      obtain ⟨elements, now, areElements⟩ := (Appends.cons rfl isArray later).array? isItems
      refine ⟨elements, ?_, areElements⟩
      rw [Document.kidsOf_of_some entry, Document.kidsOf_of_some isKids, now, isItems]
      rfl

/-- The root's other entries are as they were. -/
theorem rootEntries (opened : Opened doc)
    (done : tagLinkAnnotations doc (.object root) = some out) (other : key ≠ "/K") :
    out.get (.object root) key = doc.get (.object root) key := by
  obtain ⟨isDictionary, -, same, -⟩ := tagLinkAnnotations_appends opened done
  exact same.entry root (Document.within_of_isDictionary isDictionary root rfl) key other

/-- A dictionary other than the root has the entries it had. -/
theorem dictionary?_kept (opened : Opened doc)
    (done : tagLinkAnnotations doc (.object root) = some out)
    (isDictionary : doc.isDictionary kid = true) (different : kid ≠ .object root) :
    out.dictionary? kid = doc.dictionary? kid := by
  obtain ⟨-, appends, -, -⟩ := tagLinkAnnotations_appends opened done
  have within := Document.within_of_isDictionary isDictionary
  cases kid with
  | object a =>
    have inside := within a rfl
    have notRoot : a ≠ root := fun same => different (congrArg Value.object same)
    rcases @normalizeRootKids_cases doc root with ⟨-, written⟩ | ⟨rootKids, -, -, left⟩
    · rw [written] at appends
      rw [appends.dictionary? (by rw [length_withRootKids]; omega)]
      exact (Document.readers_congr (cell?_withRootKids inside notRoot)).1
    · rw [left] at appends
      exact appends.dictionary? inside
  | _ => exact absurd isDictionary Bool.false_ne_true

/-- The kids of another node change only where they are in the array of the root's. -/
theorem kidsOf_kept (opened : Opened doc)
    (done : tagLinkAnnotations doc (.object root) = some out)
    (isDictionary : doc.isDictionary kid = true) (different : kid ≠ .object root)
    (unshared : ∀ kids, doc.get (.object root) "/K" = some kids →
      (doc.array? kids).isSome = true → doc.get kid "/K" ≠ some kids) :
    out.kidsOf kid = doc.kidsOf kid := by
  have entries := dictionary?_kept opened done isDictionary different
  have entry : out.get kid "/K" = doc.get kid "/K" := by
    unfold Document.get
    rw [entries]
  cases held : doc.get kid "/K" with
  | none => rw [Document.kidsOf_of_none held, Document.kidsOf_of_none (entry.trans held)]
  | some kids =>
    rw [Document.kidsOf_of_some held, Document.kidsOf_of_some (entry.trans held)]
    congr 1
    cases kids with
    | object b =>
      have inside := opened.within_of_get held b rfl
      obtain ⟨rootDictionary, appends, -, -⟩ := tagLinkAnnotations_appends opened done
      rcases @normalizeRootKids_cases doc root with ⟨-, written⟩ | ⟨rootKids, isKids, -, left⟩
      · rw [written] at appends
        rw [Document.array?_object,
          appends.cell? (by rw [length_withRootKids]; omega) (fun same => by
            have := Value.object.inj same
            omega), ← Document.array?_object, array?_withRootKids inside]
      · rw [left] at appends
        by_cases isRootKids : rootKids = .object b
        · subst isRootKids
          -- The two share it, so it is no array, and stays none.
          have noArray : doc.array? (.object b) = none := by
            by_contra isArray
            exact unshared _ isKids (Option.isSome_iff_ne_none.mpr isArray) held
          generalize tagLinks : untagged _ _ _ = links at appends
          cases appends with
          | nil => rfl
          | cons isObject isArray _ =>
            rw [noArray] at isArray
            exact absurd isArray Bool.false_ne_true
        · rw [Document.array?_object, appends.cell? inside isRootKids, ← Document.array?_object]
    | _ => rfl

/-- Another node whose kids are in the array of the root's gains the elements too. -/
theorem kidsOf_shared (opened : Opened doc)
    (done : tagLinkAnnotations doc (.object root) = some out)
    (isDictionary : doc.isDictionary kid = true) (different : kid ≠ .object root)
    (isKids : doc.get (.object root) "/K" = some value) (isArray : (doc.array? value).isSome = true)
    (shared : doc.get kid "/K" = some value) :
    ∃ elements, out.kidsOf kid = doc.kidsOf kid ++ elements ∧
      List.Forall₂ (IsLinkElement out (.object root)) elements (tagged doc root) := by
  have entry : out.get kid "/K" = some value := by
    unfold Document.get at shared ⊢
    rw [dictionary?_kept opened done isDictionary different, shared]
  obtain ⟨items, isItems⟩ := Option.isSome_iff_exists.mp isArray
  obtain ⟨kids, rfl, -⟩ := Document.exists_of_array? isItems
  obtain ⟨-, appends, -, -⟩ := tagLinkAnnotations_appends opened done
  rcases @normalizeRootKids_cases doc root with ⟨noArray, -⟩ | ⟨rootKids, isRootKids, -, left⟩
  · rw [noArray _ isKids] at isItems
    exact absurd isItems (by simp)
  · obtain rfl := Option.some.inj (isRootKids.symm.trans isKids)
    rw [left] at appends
    obtain ⟨elements, now, areElements⟩ := appends.array? isItems
    refine ⟨elements, ?_, areElements⟩
    rw [Document.kidsOf_of_some entry, Document.kidsOf_of_some shared, now, isItems]
    rfl

/-! ## Numbers and references -/

/-- A link annotation is an item of its page's `/Annots`. -/
theorem exists_of_mem_linkAnnotations (member : link ∈ linkAnnotations doc) :
    ∃ annots items, doc.array? annots = some items ∧ link.2 ∈ items ∧
      doc.isDictionary link.2 = true := by
  obtain ⟨page, -, listed⟩ := List.mem_flatMap.mp member
  obtain ⟨annot, inItems, rfl⟩ := List.mem_map.mp listed
  obtain ⟨inItems, isLink⟩ := List.mem_filter.mp inItems
  have isLink : doc.textOf annot "/Subtype" = "/Link" := by simpa using isLink
  have isDictionary : doc.isDictionary annot = true := by
    by_contra noDictionary
    have noEntries : doc.dictionary? annot = none := by
      simpa [Document.isDictionary] using noDictionary
    rw [Document.textOf, Document.get, noEntries] at isLink
    exact absurd isLink (by decide)
  cases isAnnots : (doc.get (.object page) "/Annots").bind doc.array? with
  | none =>
    rw [isAnnots] at inItems
    exact absurd inItems List.not_mem_nil
  | some items =>
    rw [isAnnots] at inItems
    obtain ⟨annots, -, isArray⟩ := Option.bind_eq_some_iff.mp isAnnots
    exact ⟨annots, items, isArray, inItems, isDictionary⟩

/-- Nothing can refer to an annotation that is written in its `/Annots` array. -/
theorem not_referredTo_of_inPlace (opened : Opened doc) (member : link ∈ linkAnnotations doc)
    (inPlace : doc.number link.2 = 0) : ¬ ReferredTo doc root link.2 := by
  rintro ⟨depth, kid, -, -, isTarget, -⟩
  obtain ⟨annots, items, isArray, inItems, isDictionary⟩ := exists_of_mem_linkAnnotations member
  obtain ⟨_, isEntries⟩ := Option.isSome_iff_exists.mp isDictionary
  obtain ⟨a, isObject, -⟩ := Document.exists_of_dictionary? isEntries
  obtain ⟨holder, rfl, isArrayCell⟩ := Document.exists_of_array? isArray
  obtain ⟨entries, isKid, found⟩ := Document.dictionary?_of_get isTarget
  obtain ⟨objr, rfl, isObjrCell⟩ := Document.exists_of_dictionary? isKid
  rw [isObject] at inItems inPlace found
  have heldByArray : doc.Holds holder a := ⟨_, isArrayCell, inItems⟩
  have heldByObjr : doc.Holds objr a := by
    refine ⟨_, isObjrCell, ?_⟩
    obtain ⟨before, after, rfl, -⟩ := List.lookup_eq_some_iff.mp found
    exact List.mem_map.mpr ⟨("/Obj", .object a), by simp, rfl⟩
  obtain rfl := opened.inPlace a inPlace _ _ heldByArray heldByObjr
  rw [isArrayCell] at isObjrCell
  exact absurd isObjrCell (by simp)

/-- A link is tagged if its number has not been collected. -/
theorem mem_tagged_iff (opened : Opened doc) (member : link ∈ linkAnnotations doc)
    (numbered : doc.number link.2 ≠ 0) :
    link.2 ∈ (tagged doc root).map Prod.snd ↔
      ¬ ∃ depth ≤ maxStructTreeDepth, Refers doc (.object root) depth link.2 := by
  have collected : doc.number link.2 ∈
      collectTaggedAnnotationObjids doc (maxStructTreeDepth + 1) (.object root) ↔
      ∃ depth ≤ maxStructTreeDepth, Refers doc (.object root) depth link.2 := by
    rw [mem_collect_iff]
    constructor
    · rintro ⟨depth, shallow, target, referred, same⟩
      refine ⟨depth, Nat.le_of_lt_succ shallow, ?_⟩
      rwa [opened.eq_of_number numbered same.symm]
    · rintro ⟨depth, shallow, referred⟩
      exact ⟨depth, Nat.lt_succ_of_le shallow, link.2, referred, rfl⟩
  rw [← collected]
  constructor
  · intro isTagged
    obtain ⟨other, inTagged, same⟩ := List.mem_map.mp isTagged
    exact same ▸ (mem_of_mem_untagged inTagged).2
  · intro fresh
    obtain ⟨other, inTagged, same⟩ := (number_mem_or_untagged member).resolve_left fresh
    rw [opened.eq_of_number numbered same.symm]
    exact List.mem_map.mpr ⟨other, inTagged, rfl⟩

/-- The tagged links are tagged once each. -/
theorem tagged_nodup : ((tagged doc root).map Prod.snd).Nodup := by
  have numbers : ((tagged doc root).map fun link => doc.number link.2).Nodup := nodup_untagged
  rw [← Function.comp_def doc.number Prod.snd, ← List.map_map] at numbers
  exact List.Nodup.of_map doc.number numbers

/-- Two tagged links with one number are one link. -/
theorem tagged_injective {first second : Value × Value} (isFirst : first ∈ tagged doc root)
    (isSecond : second ∈ tagged doc root) (same : doc.number first.2 = doc.number second.2) :
    first = second :=
  List.inj_on_of_nodup_map nodup_untagged isFirst isSecond same

/-- No link in place is tagged if the number 0 has been collected. -/
theorem number_ne_zero_of_tagged (isTagged : link ∈ tagged doc root)
    (inPlace : doc.number link.2 = 0) {depth : ℕ} (shallow : depth ≤ maxStructTreeDepth)
    {target : Value} (referred : Refers doc (.object root) depth target) :
    doc.number target ≠ 0 := by
  intro zero
  refine (mem_of_mem_untagged isTagged).2 (mem_collect_iff.mpr ?_)
  exact ⟨depth, Nat.lt_succ_of_le shallow, target, referred, zero.trans inPlace.symm⟩

/-- The only link in place is tagged unless the number 0 has been collected. -/
theorem mem_tagged_of_single (member : link ∈ linkAnnotations doc)
    (inPlace : doc.number link.2 = 0)
    (only : ∀ other ∈ linkAnnotations doc, doc.number other.2 = 0 → other.2 = link.2)
    (fresh : ∀ depth ≤ maxStructTreeDepth, ∀ target, Refers doc (.object root) depth target →
      doc.number target ≠ 0) :
    link.2 ∈ (tagged doc root).map Prod.snd := by
  have notCollected : doc.number link.2 ∉
      collectTaggedAnnotationObjids doc (maxStructTreeDepth + 1) (.object root) := by
    intro collected
    obtain ⟨depth, shallow, target, referred, same⟩ := mem_collect_iff.mp collected
    exact fresh depth (Nat.le_of_lt_succ shallow) target referred (same.trans inPlace)
  obtain ⟨other, inTagged, same⟩ := (number_mem_or_untagged member).resolve_left notCollected
  rw [← only other (mem_of_mem_untagged inTagged).1 (same.trans inPlace)]
  exact List.mem_map.mpr ⟨other, inTagged, rfl⟩

/-! ## When repair is complete and exact -/

/-- What complete and exact says of the tagged links. -/
theorem completeAndExact_iff (opened : Opened doc)
    (done : tagLinkAnnotations doc (.object root) = some out) :
    CompleteAndExact doc out root ↔
      (∀ link ∈ linkAnnotations doc,
        link.2 ∈ (tagged doc root).map Prod.snd ↔ ¬ ReferredTo doc root link.2) ∧
      ∀ depth kid, Below doc (.object root) depth kid → doc.isDictionary kid = true →
        kid ≠ .object root →
        out.dictionary? kid = doc.dictionary? kid ∧ out.kidsOf kid = doc.kidsOf kid := by
  obtain ⟨elements, grown, areElements⟩ := kidsOf_root opened done
  constructor
  · rintro ⟨⟨others, links, grown', areOthers, -, -, exact⟩, -, kept⟩
    refine ⟨?_, kept⟩
    obtain rfl := List.append_cancel_left (grown.symm.trans grown')
    rwa [isLinkElement_rightUnique.forall₂ areElements areOthers]
  · rintro ⟨exact, kept⟩
    refine ⟨⟨elements, tagged doc root, grown, areElements, ?_, tagged_nodup, exact⟩, ?_, kept⟩
    · intro link isTagged
      exact (mem_of_mem_untagged isTagged).1
    · intro key other
      exact rootEntries opened done other

end DicePipeline.Links

namespace DicePipeline

open Pdf Links

/-- **When link repair is complete and exact**: for a document with a structure tree that is
repaired, if and only if what refers to its links is in sight.

Repair goes by object numbers, and what is written in place has the number 0, whatever it is.  It
looks for references down to a depth of 30, and appends to the array of the root's kids, which
an element below may have for its own.  `TagsInSight` has a clause for each of the three. -/
theorem link_repair_is_exact_iff (file : File) (root : ℕ) (out : Document)
    (tree : file.1.get (.object file.1.catalog) "/StructTreeRoot" = some (.object root))
    (repaired : repair file.1 = some out) :
    CompleteAndExact file.1 out root ↔ TagsInSight file.1 root := by
  obtain ⟨doc, opened⟩ := file
  unfold repair at repaired
  rw [tree] at repaired
  have done : tagLinkAnnotations doc (.object root) = some out := repaired
  rw [completeAndExact_iff opened done]
  constructor
  · rintro ⟨exact, kept⟩
    refine ⟨?_, ?_, ?_⟩
    · intro link member numbered referred
      by_contra deep
      exact (exact link member).mp ((mem_tagged_iff opened member numbered).mpr deep) referred
    · intro link member inPlace
      -- Nothing refers to a link in place, so each of them is tagged.
      have isTagged : ∀ other ∈ linkAnnotations doc, doc.number other.2 = 0 →
          ∃ found ∈ tagged doc root, found.2 = other.2 := fun other isOther otherInPlace =>
        List.mem_map.mp ((exact other isOther).mpr
          (not_referredTo_of_inPlace opened isOther otherInPlace))
      obtain ⟨found, isFound, same⟩ := isTagged link member inPlace
      refine ⟨?_, fun depth shallow target referred =>
        number_ne_zero_of_tagged isFound (same ▸ inPlace) shallow referred⟩
      intro other isOther otherInPlace
      obtain ⟨found', isFound', same'⟩ := isTagged other isOther otherInPlace
      rw [← same, ← same', tagged_injective isFound' isFound]
      rw [same, same', inPlace, otherInPlace]
    · rintro ⟨link, member, unreferred⟩ depth kid isBelow isDictionary different kids isKids isArray
        shared
      obtain ⟨elements, grown, areElements⟩ :=
        kidsOf_shared opened done isDictionary different isKids isArray shared
      rw [(kept depth kid isBelow isDictionary different).2, List.self_eq_append_right] at grown
      obtain ⟨found, isFound, -⟩ := List.mem_map.mp ((exact link member).mpr unreferred)
      rw [grown] at areElements
      rw [List.forall₂_nil_left_iff.mp areElements] at isFound
      exact absurd isFound List.not_mem_nil
  · rintro ⟨shallow, single, unshared⟩
    have exact : ∀ link ∈ linkAnnotations doc,
        link.2 ∈ (tagged doc root).map Prod.snd ↔ ¬ ReferredTo doc root link.2 := by
      intro link member
      by_cases inPlace : doc.number link.2 = 0
      · obtain ⟨only, fresh⟩ := single link member inPlace
        exact iff_of_true (mem_tagged_of_single member inPlace only fresh)
          (not_referredTo_of_inPlace opened member inPlace)
      · rw [mem_tagged_iff opened member inPlace]
        refine not_congr ⟨?_, shallow link member inPlace⟩
        rintro ⟨depth, -, referred⟩
        exact ⟨depth, referred⟩
    refine ⟨exact, ?_⟩
    intro depth kid isBelow isDictionary different
    refine ⟨dictionary?_kept opened done isDictionary different, ?_⟩
    by_cases shared : ∃ kids, doc.get (.object root) "/K" = some kids ∧
        (doc.array? kids).isSome = true ∧ doc.get kid "/K" = some kids
    · -- The array is shared, so there is nothing to tag.
      obtain ⟨kids, isKids, isArray, isShared⟩ := shared
      have noLinks : tagged doc root = [] := by
        by_contra some
        obtain ⟨link, isTagged⟩ := List.exists_mem_of_ne_nil _ some
        have member := (mem_of_mem_untagged isTagged).1
        have unreferred := (exact link member).mp (List.mem_map.mpr ⟨link, isTagged, rfl⟩)
        exact unshared ⟨link, member, unreferred⟩ depth kid isBelow isDictionary different kids
          isKids isArray isShared
      obtain ⟨elements, grown, areElements⟩ :=
        kidsOf_shared opened done isDictionary different isKids isArray isShared
      rw [noLinks] at areElements
      rw [grown, List.forall₂_nil_right_iff.mp areElements, List.append_nil]
    · refine kidsOf_kept opened done isDictionary different ?_
      intro kids isKids isArray isShared
      exact shared ⟨kids, isKids, isArray, isShared⟩

end DicePipeline

namespace DicePipeline

open Pdf Links

/-- A page with a link some `/OBJR` refers to, numbered 5, and one that none
does, numbered 6. -/
def oneLinkTagged : File where
  val :=
    { objects := [
        ⟨.dictionary [("/StructTreeRoot", .object 1)], 1⟩,
        ⟨.dictionary [("/Type", .name "/StructTreeRoot"), ("/K", .object 2)], 2⟩,
        ⟨.dictionary [("/S", .name "/Link"), ("/K", .object 3)], 3⟩,
        ⟨.dictionary [("/Type", .name "/OBJR"), ("/Obj", .object 6)], 0⟩,
        ⟨.dictionary [("/Type", .name "/Page"), ("/Annots", .object 5)], 4⟩,
        ⟨.array [.object 6, .object 7], 0⟩,
        ⟨.dictionary [("/Subtype", .name "/Link")], 5⟩,
        ⟨.dictionary [("/Subtype", .name "/Link")], 6⟩]
      catalog := 0
      pages := [4] }
  property := by decide +kernel

/-- The rule for the page with one link tagged: the other one is. -/
theorem link_repair_is_exact_iff_one_tagged :
    ∃ out, repair oneLinkTagged.1 = some out ∧ (out.kidsOf (.object 1)).length = 2 ∧
      (CompleteAndExact oneLinkTagged.1 out 1 ↔ TagsInSight oneLinkTagged.1 1) :=
  ⟨(repair oneLinkTagged.1).getD oneLinkTagged.1, by decide +kernel, by decide +kernel,
    link_repair_is_exact_iff oneLinkTagged 1 _ (by decide +kernel) (by decide +kernel)⟩

/-- A page whose two links are both written in its `/Annots` array. -/
def twoLinksInPlace : File where
  val :=
    { objects := [
        ⟨.dictionary [("/StructTreeRoot", .object 1)], 1⟩,
        ⟨.dictionary [("/Type", .name "/StructTreeRoot")], 2⟩,
        ⟨.dictionary [("/Type", .name "/Page"), ("/Annots", .object 3)], 3⟩,
        ⟨.array [.object 4, .object 5], 0⟩,
        ⟨.dictionary [("/Subtype", .name "/Link")], 0⟩,
        ⟨.dictionary [("/Subtype", .name "/Link")], 0⟩]
      catalog := 0
      pages := [2] }
  property := by decide +kernel

/-- The second of the two gets no element: its number, 0, has come up. -/
theorem link_in_place_is_missed :
    ¬ ∀ (file : File) (root : ℕ) (out : Document),
      file.1.get (.object file.1.catalog) "/StructTreeRoot" = some (.object root) →
      repair file.1 = some out → CompleteAndExact file.1 out root := by
  intro always
  have complete := always twoLinksInPlace 1
    ((repair twoLinksInPlace.1).getD twoLinksInPlace.1) (by decide +kernel) (by decide +kernel)
  have done : tagLinkAnnotations twoLinksInPlace.1 (.object 1) =
      some ((repair twoLinksInPlace.1).getD twoLinksInPlace.1) := by decide +kernel
  obtain ⟨exact, -⟩ := (completeAndExact_iff twoLinksInPlace.2 done).mp complete
  have member : (Value.object 2, Value.object 5) ∈ linkAnnotations twoLinksInPlace.1 := by
    decide +kernel
  have isTagged := (exact _ member).mpr
    (not_referredTo_of_inPlace twoLinksInPlace.2 member (by decide +kernel))
  exact absurd isTagged (by decide +kernel)

end DicePipeline
