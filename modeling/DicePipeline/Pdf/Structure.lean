import DicePipeline.Pdf.Objects

/-!
# The structure tree of a document

A node's kids are under `/K`: none, one, or an array of them.  A kid is a
dictionary of type `/OBJR`, which refers to an object of a page under `/Obj`;
another dictionary, which is an element with kids of its own; or no dictionary
at all (a marked-content number).

`Below doc node depth kid` says where in the tree a kid is: `depth` elements down
from the node.  It follows the references, so it covers a node that is shared
and a tree that runs in a circle, and it has no bound on the depth.
-/

namespace DicePipeline.Pdf

/-- The text of an entry, empty if there is none: `str(node.get(key, ""))`. -/
def Document.textOf (doc : Document) (node : Value) (key : String) : String :=
  ((doc.get node key).map Value.str).getD ""

/-- The kids of a node. -/
def Document.kidsOf (doc : Document) (node : Value) : List Value :=
  match doc.get node "/K" with
  | none => []
  | some kids => (doc.array? kids).getD [kids]

/-- Whether a value is a dictionary. -/
def Document.isDictionary (doc : Document) (value : Value) : Bool := (doc.dictionary? value).isSome

/-- `not value`. -/
def Document.isFalsy (doc : Document) : Value → Bool
  | .name text => text == ""
  | .string text => text == ""
  | .number text => text == "false" || text.toList.all fun c => c == '0' || c == '.' || c == '-'
  | .object address =>
      doc.dictionary? (.object address) == some [] || doc.array? (.object address) == some []

/-- A kid that refers to an object of a page. -/
def Document.isObjr (doc : Document) (kid : Value) : Bool :=
  doc.isDictionary kid && doc.textOf kid "/Type" == "/OBJR"

/-- A kid that is an element. -/
def Document.isElement (doc : Document) (kid : Value) : Bool :=
  doc.isDictionary kid && !(doc.textOf kid "/Type" == "/OBJR")

/-- The kid is `depth` elements below the node. -/
inductive Below (doc : Document) : Value → ℕ → Value → Prop
  | kid {node kid : Value} : kid ∈ doc.kidsOf node → Below doc node 0 kid
  | under {node element kid : Value} {depth : ℕ} : element ∈ doc.kidsOf node →
      doc.isElement element = true → Below doc element depth kid →
      Below doc node (depth + 1) kid

/-- Some `/OBJR` at that depth refers to the dictionary. -/
def Refers (doc : Document) (node : Value) (depth : ℕ) (target : Value) : Prop :=
  ∃ kid, Below doc node depth kid ∧ doc.isObjr kid = true ∧ doc.get kid "/Obj" = some target ∧
    doc.isDictionary target = true

variable {doc doc' : Document} {node kid target value : Value} {depth : ℕ} {key : String}

theorem Document.kidsOf_of_none (absent : doc.get node "/K" = none) : doc.kidsOf node = [] := by
  unfold Document.kidsOf
  rw [absent]

theorem Document.kidsOf_of_some {kids : Value} (present : doc.get node "/K" = some kids) :
    doc.kidsOf node = (doc.array? kids).getD [kids] := by
  unfold Document.kidsOf
  rw [present]

theorem Document.isDictionary_of_get {found : Value} (isEntry : doc.get value key = some found) :
    doc.isDictionary value = true := by
  obtain ⟨entries, isEntries, -⟩ := Document.dictionary?_of_get isEntry
  unfold Document.isDictionary
  rw [isEntries]
  rfl

/-! ## Nothing refers out of the document -/

/-- The value, if it is an object, is one of the document. -/
def Document.Within (doc : Document) (value : Value) : Prop :=
  ∀ a, value = .object a → a < doc.objects.length

theorem Document.within_of_isDictionary (found : doc.isDictionary value = true) :
    doc.Within value := by
  obtain ⟨entries, isEntries⟩ := Option.isSome_iff_exists.mp found
  obtain ⟨address, rfl, isCell⟩ := Document.exists_of_dictionary? isEntries
  rintro a ⟨⟩
  exact Document.cell?_lt (by simp [isCell])

/-- What has an object number is known by it. -/
theorem Opened.eq_of_number {other : Value} (opened : Opened doc)
    (numbered : doc.number value ≠ 0) (same : doc.number value = doc.number other) :
    value = other := by
  cases value with
  | object a =>
    cases other with
    | object b => exact congrArg Value.object (opened.numbered a b same numbered)
    | _ => exact absurd same numbered
  | _ => exact absurd rfl numbered

theorem Opened.within_of_get (opened : Opened doc) (isEntry : doc.get node key = some value) :
    doc.Within value := by
  obtain ⟨entries, isEntries, found⟩ := Document.dictionary?_of_get isEntry
  obtain ⟨holder, rfl, isCell⟩ := Document.exists_of_dictionary? isEntries
  rintro a rfl
  refine opened.closed holder a ⟨_, isCell, ?_⟩
  obtain ⟨before, after, rfl, -⟩ := List.lookup_eq_some_iff.mp found
  exact List.mem_map.mpr ⟨(key, .object a), by simp, rfl⟩

theorem Opened.within_of_entry (opened : Opened doc) {entries : Entries}
    (isEntries : doc.dictionary? node = some entries) {entry : String × Value}
    (member : entry ∈ entries) : doc.Within entry.2 := by
  obtain ⟨holder, rfl, isCell⟩ := Document.exists_of_dictionary? isEntries
  intro a isObject
  exact opened.closed holder a ⟨_, isCell, List.mem_map.mpr ⟨entry, member, isObject⟩⟩

theorem Opened.within_of_mem (opened : Opened doc) {items : List Value}
    (isArray : doc.array? node = some items) (member : value ∈ items) : doc.Within value := by
  obtain ⟨holder, rfl, isCell⟩ := Document.exists_of_array? isArray
  rintro a rfl
  exact opened.closed holder a ⟨_, isCell, member⟩

theorem Opened.within_kidsOf (opened : Opened doc) (member : kid ∈ doc.kidsOf node) :
    doc.Within kid := by
  unfold Document.kidsOf at member
  cases present : doc.get node "/K" with
  | none =>
    rw [present] at member
    cases member
  | some kids =>
    rw [present] at member
    cases isArray : doc.array? kids with
    | none =>
      simp only [isArray, Option.getD_none, List.mem_singleton] at member
      exact member ▸ opened.within_of_get present
    | some items =>
      simp only [isArray, Option.getD_some] at member
      exact opened.within_of_mem isArray member

/-! ## What only grows -/

/-- The kids and the references of the one document are those of the other, and
perhaps more. -/
structure Supplements (doc doc' : Document) : Prop where
  length : doc.objects.length ≤ doc'.objects.length
  dictionary : ∀ a < doc.objects.length,
    doc'.isDictionary (.object a) = doc.isDictionary (.object a)
  entry : ∀ a < doc.objects.length, ∀ key, key ≠ "/K" →
    doc'.get (.object a) key = doc.get (.object a) key
  kids : ∀ a < doc.objects.length, ∀ kid ∈ doc.kidsOf (.object a), kid ∈ doc'.kidsOf (.object a)
  number : ∀ a < doc.objects.length, doc'.number (.object a) = doc.number (.object a)

namespace Supplements

theorem isDictionary (more : Supplements doc doc') (within : doc.Within value) :
    doc'.isDictionary value = doc.isDictionary value := by
  cases value with
  | object a => exact more.dictionary a (within a rfl)
  | _ => rfl

theorem get (more : Supplements doc doc') (within : doc.Within value) (other : key ≠ "/K") :
    doc'.get value key = doc.get value key := by
  cases value with
  | object a => exact more.entry a (within a rfl) key other
  | _ => rfl

theorem textOf (more : Supplements doc doc') (within : doc.Within value) (other : key ≠ "/K") :
    doc'.textOf value key = doc.textOf value key := by
  unfold Document.textOf
  rw [more.get within other]

theorem isObjr (more : Supplements doc doc') (within : doc.Within kid) :
    doc'.isObjr kid = doc.isObjr kid := by
  unfold Document.isObjr
  rw [more.isDictionary within, more.textOf within (by decide)]

theorem isElement (more : Supplements doc doc') (within : doc.Within kid) :
    doc'.isElement kid = doc.isElement kid := by
  unfold Document.isElement
  rw [more.isDictionary within, more.textOf within (by decide)]

theorem number_eq (more : Supplements doc doc') (within : doc.Within value) :
    doc'.number value = doc.number value := by
  cases value with
  | object a => exact more.number a (within a rfl)
  | _ => rfl

theorem mem_kidsOf (more : Supplements doc doc') (within : doc.Within node)
    (member : kid ∈ doc.kidsOf node) : kid ∈ doc'.kidsOf node := by
  cases node with
  | object a => exact more.kids a (within a rfl) kid member
  | _ => cases member

/-- What is below a node stays below it. -/
theorem below (more : Supplements doc doc') (opened : Opened doc) (within : doc.Within node)
    (isBelow : Below doc node depth kid) : Below doc' node depth kid ∧ doc.Within kid := by
  induction isBelow with
  | kid member => exact ⟨.kid (more.mem_kidsOf within member), opened.within_kidsOf member⟩
  | under member isElement _ ih =>
    have elementWithin := opened.within_kidsOf member
    obtain ⟨below', kidWithin⟩ := ih elementWithin
    exact ⟨.under (more.mem_kidsOf within member) ((more.isElement elementWithin).trans isElement)
      below', kidWithin⟩

/-- What is referred to stays referred to. -/
theorem refers (more : Supplements doc doc') (opened : Opened doc) (within : doc.Within node)
    (referred : Refers doc node depth target) : Refers doc' node depth target := by
  obtain ⟨kid, isBelow, objr, isTarget, isDictionary⟩ := referred
  obtain ⟨below', kidWithin⟩ := more.below opened within isBelow
  refine ⟨kid, below', (more.isObjr kidWithin).trans objr, ?_, ?_⟩
  · rw [more.get kidWithin (by decide), isTarget]
  · rw [more.isDictionary (opened.within_of_get isTarget), isDictionary]

protected theorem refl (doc : Document) : Supplements doc doc where
  length := Nat.le_refl _
  dictionary := fun _ _ => rfl
  entry := fun _ _ _ _ => rfl
  kids := fun _ _ _ member => member
  number := fun _ _ => rfl

theorem trans {doc'' : Document} (first : Supplements doc doc') (second : Supplements doc' doc'') :
    Supplements doc doc'' where
  length := Nat.le_trans first.length second.length
  dictionary := fun a inside =>
    (second.dictionary a (Nat.lt_of_lt_of_le inside first.length)).trans (first.dictionary a inside)
  entry := fun a inside key other =>
    (second.entry a (Nat.lt_of_lt_of_le inside first.length) key other).trans (first.entry a inside key other)
  kids := fun a inside kid member =>
    second.kids a (Nat.lt_of_lt_of_le inside first.length) kid (first.kids a inside kid member)
  number := fun a inside =>
    (second.number a (Nat.lt_of_lt_of_le inside first.length)).trans (first.number a inside)

end Supplements

/-! ## A document that was saved and read again -/

namespace Reopened

variable {saved again : Document} {origin : ℕ → ℕ}

theorem isDictionary (reopened : Reopened saved again origin) (within : again.Within value) :
    saved.isDictionary (value.relocate origin) = again.isDictionary value := by
  cases value with
  | object a => exact (reopened.dictionary a (within a rfl)).symm
  | _ => rfl

theorem get (reopened : Reopened saved again origin) (within : again.Within value) :
    saved.get (value.relocate origin) key = (again.get value key).map (Value.relocate origin) := by
  cases value with
  | object a => exact (reopened.entry a (within a rfl) key).symm
  | _ => rfl

theorem array? (reopened : Reopened saved again origin) (within : again.Within value) :
    saved.array? (value.relocate origin) =
      (again.array? value).map (List.map (Value.relocate origin)) := by
  cases value with
  | object a => exact (reopened.array a (within a rfl)).symm
  | _ => rfl

theorem textOf (reopened : Reopened saved again origin) (within : again.Within value) :
    saved.textOf (value.relocate origin) key = again.textOf value key := by
  unfold Document.textOf
  rw [reopened.get within]
  cases again.get value key with
  | none => rfl
  | some found => simp

theorem isObjr (reopened : Reopened saved again origin) (within : again.Within value) :
    saved.isObjr (value.relocate origin) = again.isObjr value := by
  unfold Document.isObjr
  rw [reopened.isDictionary within, reopened.textOf within]

theorem isElement (reopened : Reopened saved again origin) (within : again.Within value) :
    saved.isElement (value.relocate origin) = again.isElement value := by
  unfold Document.isElement
  rw [reopened.isDictionary within, reopened.textOf within]

theorem kidsOf (reopened : Reopened saved again origin) (opened : Opened again)
    (within : again.Within node) :
    saved.kidsOf (node.relocate origin) = (again.kidsOf node).map (Value.relocate origin) := by
  have entry := @get node "/K" saved again origin reopened within
  cases present : again.get node "/K" with
  | none =>
    rw [present] at entry
    rw [Document.kidsOf_of_none present, Document.kidsOf_of_none entry]
    rfl
  | some kids =>
    rw [present] at entry
    rw [Document.kidsOf_of_some present, Document.kidsOf_of_some entry,
      reopened.array? (opened.within_of_get present)]
    cases again.array? kids <;> rfl

/-- Two objects that shared a number still do. -/
theorem number_eq {other : Value} (reopened : Reopened saved again origin)
    (within : again.isDictionary value = true) (otherWithin : again.isDictionary other = true)
    (same : saved.number (value.relocate origin) = saved.number (other.relocate origin)) :
    again.number value = again.number other := by
  obtain ⟨_, isFirst⟩ := Option.isSome_iff_exists.mp within
  obtain ⟨_, isSecond⟩ := Option.isSome_iff_exists.mp otherWithin
  obtain ⟨a, rfl, isCell⟩ := Document.exists_of_dictionary? isFirst
  obtain ⟨b, rfl, isOtherCell⟩ := Document.exists_of_dictionary? isSecond
  exact (reopened.number a (Document.cell?_lt (by simp [isCell])) b
    (Document.cell?_lt (by simp [isOtherCell]))).mpr same

/-- What was below a node is below it again. -/
theorem below (reopened : Reopened saved again origin) (opened : Opened again)
    (within : again.Within node) (isBelow : Below saved (node.relocate origin) depth kid) :
    ∃ kid', Below again node depth kid' ∧ kid'.relocate origin = kid ∧ again.Within kid' := by
  generalize isNode : node.relocate origin = top at isBelow
  induction isBelow generalizing node with
  | kid member =>
    subst isNode
    rw [reopened.kidsOf opened within] at member
    obtain ⟨kid', inKids, same⟩ := List.mem_map.mp member
    exact ⟨kid', .kid inKids, same, opened.within_kidsOf inKids⟩
  | under member isElement _ ih =>
    subst isNode
    rw [reopened.kidsOf opened within] at member
    obtain ⟨element', inKids, rfl⟩ := List.mem_map.mp member
    have elementWithin := opened.within_kidsOf inKids
    obtain ⟨kid', isBelow', same, kidWithin⟩ := ih elementWithin rfl
    refine ⟨kid', .under inKids ?_ isBelow', same, kidWithin⟩
    rwa [← reopened.isElement elementWithin]

/-- What was referred to is referred to again. -/
theorem refers (reopened : Reopened saved again origin) (opened : Opened again)
    (within : again.Within node) (referred : Refers saved (node.relocate origin) depth target) :
    ∃ target', Refers again node depth target' ∧ target'.relocate origin = target := by
  obtain ⟨kid, isBelow, objr, isTarget, targetDictionary⟩ := referred
  obtain ⟨kid', isBelow', rfl, kidWithin⟩ := reopened.below opened within isBelow
  rw [reopened.get kidWithin] at isTarget
  obtain ⟨target', isTarget', rfl⟩ := Option.map_eq_some_iff.mp isTarget
  refine ⟨target', ⟨kid', isBelow', ?_, isTarget', ?_⟩, rfl⟩
  · rwa [← reopened.isObjr kidWithin]
  · rwa [← reopened.isDictionary (opened.within_of_get isTarget')]

end Reopened

end DicePipeline.Pdf
