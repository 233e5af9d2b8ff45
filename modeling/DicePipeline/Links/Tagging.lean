import Mathlib.Order.Basic
import DicePipeline.Links.Repair

/-!
# What link repair writes

The walk collects the number of every dictionary some `/OBJR` within the cut-off
refers to (`mem_collect_iff`).  The loops then append one `<Link>` element for
each link annotation whose number has not come up yet (`repair_appends`): the
output is the input with those elements appended, one after the other.

The loops read the document they are changing.  What they read of an annotation
does not depend on it: `SameAnnotations` is what keeps a page's annotations what
they were, even where a page's `/Annots` and the root's kids are one array.
-/

namespace DicePipeline.Links

open Pdf

variable {doc doc' out : Document} {node structRoot rootKids page annot target value : Value}
variable {root kids a : ℕ} {levels id : ℕ} {key : String} {link : Value × Value}

/-! ## The walk -/

/-- **What the walk collects**: the numbers of what is referred to in sight. -/
theorem mem_collect_iff : id ∈ collectTaggedAnnotationObjids doc levels node ↔
    ∃ depth < levels, ∃ target, Refers doc node depth target ∧ doc.number target = id := by
  induction levels generalizing node with
  | zero =>
    constructor
    · intro member
      cases member
    · rintro ⟨depth, shallow, -⟩
      exact absurd shallow (Nat.not_lt_zero _)
  | succ levels ih =>
    rw [collectTaggedAnnotationObjids, List.mem_flatMap]
    constructor
    · rintro ⟨kid, member, collected⟩
      split at collected
      · cases collected
      · rename_i isDictionary
        split at collected
        · rename_i isObjr
          split at collected
          · rename_i target isTarget
            split at collected
            · rename_i targetDictionary
              refine ⟨0, Nat.succ_pos _, target, ⟨kid, .kid member, ?_, isTarget, targetDictionary⟩,
                (List.mem_singleton.mp collected).symm⟩
              simpa [Document.isObjr, isObjr] using isDictionary
            · cases collected
          · cases collected
        · rename_i notObjr
          obtain ⟨depth, shallow, target, ⟨below, isBelow, referred⟩, numbered⟩ := ih.mp collected
          refine ⟨depth + 1, Nat.succ_lt_succ shallow, target,
            ⟨below, .under member ?_ isBelow, referred⟩, numbered⟩
          simpa [Document.isElement, notObjr] using isDictionary
    · rintro ⟨depth, shallow, target, ⟨kid, isBelow, objr, isTarget, targetDictionary⟩, rfl⟩
      cases isBelow with
      | kid member =>
        refine ⟨kid, member, ?_⟩
        simp only [Document.isObjr, Bool.and_eq_true, beq_iff_eq] at objr
        simp [objr.1, objr.2, isTarget, targetDictionary]
      | @under _ element _ depth member isElement isBelow =>
        refine ⟨element, member, ?_⟩
        simp only [Document.isElement, Bool.and_eq_true, Bool.not_eq_true', beq_eq_false_iff_ne]
          at isElement
        rw [if_neg (by simp [isElement.1]), if_neg isElement.2]
        exact ih.mpr ⟨depth, Nat.lt_of_succ_lt_succ shallow, target,
          ⟨kid, isBelow, objr, isTarget, targetDictionary⟩, rfl⟩

/-! ## One element appended -/

@[simp] theorem pages_appendLink : (appendLink structRoot kids doc link).pages = doc.pages := rfl

@[simp] theorem catalog_appendLink :
    (appendLink structRoot kids doc link).catalog = doc.catalog := rfl

@[simp] theorem length_appendLink :
    (appendLink structRoot kids doc link).objects.length = doc.objects.length + 3 := by
  simp [appendLink, Document.append]

/-- Every object but the array of the root's kids is as it was. -/
theorem cell?_appendLink (inside : a < doc.objects.length) (different : a ≠ kids) :
    (appendLink structRoot kids doc link).cell? a = doc.cell? a := by
  unfold appendLink
  rw [Document.append, Document.cell?_change_of_ne different]
  rw [Document.cell?_push_of_lt (by simp; omega), Document.cell?_push_of_lt (by simp; omega),
    Document.cell?_push_of_lt inside]

theorem dictionary?_appendLink (inside : a < doc.objects.length) :
    (appendLink structRoot kids doc link).dictionary? (.object a) = doc.dictionary? (.object a) := by
  unfold appendLink
  rw [Document.dictionary?_append]
  rw [Document.dictionary?_push_of_lt (by simp; omega),
    Document.dictionary?_push_of_lt (by simp; omega), Document.dictionary?_push_of_lt inside]

theorem number_appendLink (inside : a < doc.objects.length) :
    (appendLink structRoot kids doc link).number (.object a) = doc.number (.object a) := by
  unfold appendLink
  rw [Document.append, Document.number_change]
  rw [Document.number_push_of_lt (by simp; omega), Document.number_push_of_lt (by simp; omega),
    Document.number_push_of_lt inside]

/-- The array of the root's kids has the element at its end. -/
theorem array?_appendLink_self (inside : kids < doc.objects.length) :
    (appendLink structRoot kids doc link).array? (.object kids) =
      (doc.array? (.object kids)).map fun items =>
        items ++ [.object (doc.objects.length + 2)] := by
  unfold appendLink
  rw [Document.array?_append_self]
  rw [Document.array?_push_of_lt (by simp; omega), Document.array?_push_of_lt (by simp; omega),
    Document.array?_push_of_lt inside]

/-- The `<Link>` element of an annotation, as the document has it. -/
def IsLinkElement (doc : Document) (structRoot : Value) (element : Value) (link : Value × Value) :
    Prop :=
  ∃ e k o, element = .object e ∧
    doc.cell? e = some (.dictionary [("/S", .name "/Link"), ("/P", structRoot), ("/Pg", link.1),
      ("/K", .object k)]) ∧
    doc.cell? k = some (.array [.object o]) ∧
    doc.cell? o = some (.dictionary [("/Type", .name "/OBJR"), ("/Pg", link.1), ("/Obj", link.2)])

/-- The three objects of a new element. -/
theorem cells_appendLink (inside : kids < doc.objects.length) :
    (appendLink structRoot kids doc link).cell? (doc.objects.length + 2) =
        some (.dictionary [("/S", .name "/Link"), ("/P", structRoot), ("/Pg", link.1),
          ("/K", .object (doc.objects.length + 1))]) ∧
      (appendLink structRoot kids doc link).cell? (doc.objects.length + 1) =
        some (.array [.object doc.objects.length]) ∧
      (appendLink structRoot kids doc link).cell? doc.objects.length =
        some (.dictionary [("/Type", .name "/OBJR"), ("/Pg", link.1), ("/Obj", link.2)]) := by
  refine ⟨?_, ?_, ?_⟩
  all_goals
    unfold appendLink
    rw [Document.append, Document.cell?_change_of_ne (by omega)]
  · simp [Document.cell?, Document.push]
  · simp [Document.cell?, Document.push]
  · simp [Document.cell?, Document.push]

/-! ## What stays what it was -/

/-- A dictionary that is no annotation. -/
def Plain (doc : Document) (item : Value) : Prop :=
  doc.isDictionary item = true ∧ doc.get item "/Subtype" = none

/-- The document has the annotations of the original one, as it had them: all
that an array has gained is dictionaries that are no annotation. -/
structure SameAnnotations (original doc : Document) : Prop extends Supplements original doc where
  items : ∀ a < original.objects.length, ∀ items, original.array? (.object a) = some items →
    ∃ gained, doc.array? (.object a) = some (items ++ gained) ∧ ∀ item ∈ gained, Plain doc item
  noItems : ∀ a < original.objects.length, original.array? (.object a) = none →
    doc.array? (.object a) = none
  kidsThere : ∀ a < original.objects.length, ∀ value, doc.get (.object a) "/K" = some value →
    doc.Within value

variable {original : Document}

theorem get_appendLink (inside : a < doc.objects.length) :
    (appendLink structRoot kids doc link).get (.object a) key = doc.get (.object a) key := by
  rw [Document.get_object, Document.get_object, dictionary?_appendLink inside]

theorem isDictionary_appendLink (inside : a < doc.objects.length) :
    (appendLink structRoot kids doc link).isDictionary (.object a) =
      doc.isDictionary (.object a) := by
  unfold Document.isDictionary
  rw [dictionary?_appendLink inside]

theorem array?_appendLink_of_ne (inside : a < doc.objects.length) (different : a ≠ kids) :
    (appendLink structRoot kids doc link).array? (.object a) = doc.array? (.object a) :=
  (Document.readers_congr (cell?_appendLink inside different)).2

/-- The element is a dictionary, and no annotation. -/
theorem element_appendLink (inside : kids < doc.objects.length) :
    (appendLink structRoot kids doc link).isDictionary (.object (doc.objects.length + 2)) = true ∧
      (appendLink structRoot kids doc link).get (.object (doc.objects.length + 2)) "/Subtype" =
        none := by
  have isElement := (@cells_appendLink doc structRoot kids link inside).1
  constructor
  · simp [Document.isDictionary, Document.dictionary?_object, isElement, Cell.entries?]
  · rw [Document.get_object, Document.dictionary?_object, isElement]
    rfl

theorem mem_kidsOf_appendLink (inside : kids < doc.objects.length) (within : a < doc.objects.length)
    (kidsThere : ∀ value, doc.get (.object a) "/K" = some value → doc.Within value)
    (member : value ∈ doc.kidsOf (.object a)) :
    value ∈ (appendLink structRoot kids doc link).kidsOf (.object a) := by
  cases present : doc.get (.object a) "/K" with
  | none =>
    rw [Document.kidsOf_of_none present] at member
    cases member
  | some held =>
    rw [Document.kidsOf_of_some present] at member
    rw [Document.kidsOf_of_some ((get_appendLink within).trans present)]
    cases held with
    | object b =>
      by_cases same : b = kids
      · subst same
        rw [array?_appendLink_self inside]
        cases isArray : doc.array? (.object b) with
        | none => simpa [isArray] using member
        | some items =>
          rw [isArray] at member
          exact List.mem_append_left _ member
      · rw [array?_appendLink_of_ne (kidsThere _ present b rfl) same]
        exact member
    | _ => exact member

theorem Plain.appendLink (plain : Plain doc value) :
    Plain (appendLink structRoot kids doc link) value := by
  have within := Document.within_of_isDictionary plain.1
  cases value with
  | object b =>
    exact ⟨(isDictionary_appendLink (within b rfl)).trans plain.1,
      (get_appendLink (within b rfl)).trans plain.2⟩
  | _ => exact absurd plain.1 Bool.false_ne_true

namespace SameAnnotations

/-- One more element leaves the annotations what they were. -/
theorem appendLink (same : SameAnnotations original doc) (inside : kids < doc.objects.length) :
    SameAnnotations original (Links.appendLink structRoot kids doc link) where
  length := by
    have := same.length
    rw [length_appendLink]
    omega
  dictionary := fun a within =>
    (isDictionary_appendLink (Nat.lt_of_lt_of_le within same.length)).trans (same.dictionary a within)
  entry := fun a within key other =>
    (get_appendLink (Nat.lt_of_lt_of_le within same.length)).trans (same.entry a within key other)
  kids := fun a within kid member =>
    mem_kidsOf_appendLink inside (Nat.lt_of_lt_of_le within same.length) (same.kidsThere a within)
      (same.kids a within kid member)
  number := fun a within =>
    (number_appendLink (Nat.lt_of_lt_of_le within same.length)).trans (same.number a within)
  items := by
    intro a within items isArray
    obtain ⟨gained, now, plain⟩ := same.items a within items isArray
    have there := Nat.lt_of_lt_of_le within same.length
    by_cases grown : a = kids
    · subst grown
      refine ⟨gained ++ [.object (doc.objects.length + 2)], ?_, ?_⟩
      · rw [array?_appendLink_self inside, now, Option.map_some, List.append_assoc]
      · intro item member
        rcases List.mem_append.mp member with old | new
        · exact (plain item old).appendLink
        · rw [List.mem_singleton.mp new]
          exact element_appendLink inside
    · exact ⟨gained, (array?_appendLink_of_ne there grown).trans now,
        fun item member => (plain item member).appendLink⟩
  noItems := by
    intro a within noArray
    have there := Nat.lt_of_lt_of_le within same.length
    have now := same.noItems a within noArray
    by_cases grown : a = kids
    · subst grown
      rw [array?_appendLink_self inside, now]
      rfl
    · exact (array?_appendLink_of_ne there grown).trans now
  kidsThere := by
    intro a within value present b isObject
    rw [get_appendLink (Nat.lt_of_lt_of_le within same.length)] at present
    have := same.kidsThere a within value present b isObject
    rw [length_appendLink]
    omega

end SameAnnotations

/-! ## The root's kids made an array -/

theorem normalizeRootKids_pages : (normalizeRootKids doc root).1.pages = doc.pages := by
  unfold normalizeRootKids
  split
  · rfl
  · split <;> rfl

protected theorem SameAnnotations.refl (opened : Opened doc) : SameAnnotations doc doc where
  toSupplements := Supplements.refl doc
  items := fun a within items isArray =>
    ⟨[], by rw [List.append_nil, isArray], fun item member => by cases member⟩
  noItems := fun a within noArray => noArray
  kidsThere := fun a within value present => opened.within_of_get present

/-- The document with an array of the root's kids written to the root. -/
def withRootKids (doc : Document) (root : ℕ) (items : List Value) : Document :=
  (doc.push ⟨.array items, 0⟩).setEntry root "/K" (.object doc.objects.length)

section WithRootKids

variable {items : List Value}

@[simp] theorem length_withRootKids :
    (withRootKids doc root items).objects.length = doc.objects.length + 1 := by
  simp [withRootKids, Document.setEntry]

theorem get_withRootKids (inside : a < doc.objects.length) (other : key ≠ "/K") :
    (withRootKids doc root items).get (.object a) key = doc.get (.object a) key := by
  rw [withRootKids, Document.get_setEntry_of_ne other, Document.get_push_of_lt inside]

theorem get_withRootKids_of_ne (inside : a < doc.objects.length) (different : a ≠ root) :
    (withRootKids doc root items).get (.object a) key = doc.get (.object a) key := by
  rw [withRootKids, Document.get_setEntry_of_address_ne different, Document.get_push_of_lt inside]

theorem isDictionary_withRootKids (inside : a < doc.objects.length) :
    (withRootKids doc root items).isDictionary (.object a) = doc.isDictionary (.object a) := by
  unfold Document.isDictionary
  rw [withRootKids, Document.dictionary?_setEntry_isSome, Document.dictionary?_push_of_lt inside]

theorem array?_withRootKids (inside : a < doc.objects.length) :
    (withRootKids doc root items).array? (.object a) = doc.array? (.object a) := by
  rw [withRootKids, Document.array?_setEntry, Document.array?_push_of_lt inside]

theorem array?_withRootKids_new :
    (withRootKids doc root items).array? (.object doc.objects.length) = some items := by
  rw [withRootKids, Document.array?_setEntry, Document.array?_object, Document.cell?_push_self]
  rfl

theorem get_withRootKids_root (isDictionary : doc.isDictionary (.object root) = true) :
    (withRootKids doc root items).get (.object root) "/K" = some (.object doc.objects.length) := by
  refine Document.get_setEntry_self ?_
  rw [Document.dictionary?_push_of_lt (Document.within_of_isDictionary isDictionary root rfl)]
  exact Option.isSome_iff_ne_none.mp isDictionary

theorem kidsOf_withRootKids_root (isDictionary : doc.isDictionary (.object root) = true) :
    (withRootKids doc root items).kidsOf (.object root) = items := by
  rw [Document.kidsOf_of_some (get_withRootKids_root isDictionary), array?_withRootKids_new]
  rfl

theorem kidsOf_withRootKids_of_ne (opened : Opened doc) (inside : a < doc.objects.length)
    (different : a ≠ root) :
    (withRootKids doc root items).kidsOf (.object a) = doc.kidsOf (.object a) := by
  have same := @get_withRootKids_of_ne doc root a "/K" items inside different
  cases present : doc.get (.object a) "/K" with
  | none => rw [Document.kidsOf_of_none present, Document.kidsOf_of_none (same.trans present)]
  | some held =>
    rw [Document.kidsOf_of_some present, Document.kidsOf_of_some (same.trans present)]
    cases held with
    | object b => rw [array?_withRootKids (opened.within_of_get present b rfl)]
    | _ => rfl

theorem cell?_withRootKids (inside : a < doc.objects.length) (different : a ≠ root) :
    (withRootKids doc root items).cell? a = doc.cell? a := by
  rw [withRootKids, Document.setEntry, Document.cell?_change_of_ne different,
    Document.cell?_push_of_lt inside]

theorem sameAnnotations_withRootKids (opened : Opened doc)
    (isDictionary : doc.isDictionary (.object root) = true)
    (kept : doc.kidsOf (.object root) = items) :
    SameAnnotations doc (withRootKids doc root items) where
  length := by
    rw [length_withRootKids]
    omega
  dictionary := fun a within => isDictionary_withRootKids within
  entry := fun a within key other => get_withRootKids within other
  kids := by
    intro a within kid member
    by_cases isRoot : a = root
    · subst isRoot
      rwa [kidsOf_withRootKids_root isDictionary, ← kept]
    · rwa [kidsOf_withRootKids_of_ne opened within isRoot]
  number := by
    intro a within
    rw [withRootKids, Document.setEntry, Document.number_change, Document.number_push_of_lt within]
  items := fun a within items isArray =>
    ⟨[], by rw [List.append_nil, array?_withRootKids within, isArray],
      fun item member => by cases member⟩
  noItems := fun a within noArray => (array?_withRootKids within).trans noArray
  kidsThere := by
    intro a within value present b isObject
    rw [length_withRootKids]
    by_cases isRoot : a = root
    · subst isRoot
      rw [get_withRootKids_root isDictionary] at present
      obtain rfl := Option.some.inj present
      cases isObject
      omega
    · rw [get_withRootKids_of_ne within isRoot] at present
      have := opened.within_of_get present b isObject
      omega

end WithRootKids

/-- What making the root's kids an array comes to: the document is left as it
was, or the array is written to the root, its kids being the same ones. -/
theorem normalizeRootKids_cases :
    ((∀ rootKids, doc.get (.object root) "/K" = some rootKids → doc.array? rootKids = none) ∧
      normalizeRootKids doc root = (withRootKids doc root (doc.kidsOf (.object root)),
        .object doc.objects.length)) ∨
    ∃ rootKids, doc.get (.object root) "/K" = some rootKids ∧
      doc.isDictionary rootKids = false ∧ normalizeRootKids doc root = (doc, rootKids) := by
  cases present : doc.get (.object root) "/K" with
  | none =>
    left
    refine ⟨fun rootKids found => absurd found (by simp), ?_⟩
    rw [Document.kidsOf_of_none present]
    simp only [normalizeRootKids, present, withRootKids]
  | some rootKids =>
    cases isElement : doc.isDictionary rootKids with
    | true =>
      left
      have noArray : doc.array? rootKids = none := by
        obtain ⟨entries, isEntries⟩ := Option.isSome_iff_exists.mp isElement
        obtain ⟨address, rfl, isCell⟩ := Document.exists_of_dictionary? isEntries
        rw [Document.array?_object, isCell]
        rfl
      refine ⟨fun found isFound => Option.some.inj isFound ▸ noArray, ?_⟩
      rw [Document.kidsOf_of_some present, noArray]
      simp only [normalizeRootKids, present, withRootKids, isElement, if_true, Option.getD_none]
    | false =>
      right
      refine ⟨rootKids, rfl, isElement, ?_⟩
      simp [normalizeRootKids, present, isElement]

end DicePipeline.Links
