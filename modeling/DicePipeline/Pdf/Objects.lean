import Mathlib.Data.Nat.Notation
import Mathlib.Data.List.Basic

/-!
# A PDF document in memory

A document is a store of objects, as a PDF library hands them out: dictionaries,
arrays and streams, each with an address of its own.  Two handles with one
address are one object, whether it is written as an indirect object (then it has
an object number) or in place (then its number is 0).  Names, strings and
numbers have no address.  A null entry is an absent one.  A stream is read for
its data only.

* `Document.get` looks an entry of a dictionary up, `Document.array?` lists the
  items of an array.
* `Document.push`, `Document.setEntry` and `Document.append` are the ways a
  document is changed.  Each has a lemma for every reader.
* `Opened` is what a document read from a file satisfies: no two objects share a
  number, nothing refers to an object that is not there, and an object written
  in place is held by one other object only.
* `Reopened saved again`: `again` is what reading the saved document gives.
  Addresses and numbers may all be other ones.
-/

namespace DicePipeline.Pdf

/-- What an entry or an item holds. -/
inductive Value where
  | name (text : String)
  | string (text : String)
  /-- A number or a truth value, by the text it prints as. -/
  | number (text : String)
  | object (address : ℕ)
  deriving DecidableEq, Repr

/-- The entries of a dictionary. -/
abbrev Entries := List (String × Value)

/-- The objects that have an address. -/
inductive Cell where
  | dictionary (entries : Entries)
  | array (items : List Value)
  | stream (data : List UInt8)
  deriving DecidableEq, Repr

/-- An object, with its object number: 0 if it is written in place. -/
structure Object where
  cell : Cell
  number : ℕ
  deriving DecidableEq, Repr

/-- A document: its objects by address, the catalog and the pages. -/
structure Document where
  objects : List Object
  catalog : ℕ
  pages : List ℕ
  deriving DecidableEq, Repr

/-- The text a value prints as.  A container prints as no name does. -/
def Value.str : Value → String
  | name text => text
  | string text => text
  | number text => text
  | object _ => "<container>"

/-- The address of a value that has one. -/
def Value.address? : Value → Option ℕ
  | object address => some address
  | _ => none

/-! ## Entries -/

namespace Entries

/-- Writes one entry. -/
def set (entries : Entries) (key : String) (value : Value) : Entries :=
  (key, value) :: entries.filter fun entry => entry.1 ≠ key

@[simp] theorem lookup_set_self (entries : Entries) (key : String) (value : Value) :
    (entries.set key value).lookup key = some value := by
  simp [set]

theorem lookup_filter_of_ne (entries : Entries) {key other : String} (different : other ≠ key) :
    (entries.filter fun entry => entry.1 ≠ key).lookup other = entries.lookup other := by
  induction entries with
  | nil => rfl
  | cons entry rest ih =>
    obtain ⟨found, value⟩ := entry
    by_cases dropped : found = key
    · subst dropped
      have passed : (other == found) = false := by simpa using different
      rw [List.filter_cons_of_neg (by simp), ih, List.lookup_cons, passed]
    · rw [List.filter_cons_of_pos (by simpa using dropped), List.lookup_cons, List.lookup_cons, ih]

@[simp] theorem lookup_set_of_ne (entries : Entries) {key other : String} (value : Value)
    (different : other ≠ key) : (entries.set key value).lookup other = entries.lookup other := by
  have passed : (other == key) = false := by simpa using different
  rw [set, List.lookup_cons, passed, ← lookup_filter_of_ne entries different]

end Entries

namespace Cell

/-- Writes an entry, if this is a dictionary. -/
def setEntry (key : String) (value : Value) : Cell → Cell
  | dictionary entries => dictionary (entries.set key value)
  | cell => cell

/-- Appends an item, if this is an array. -/
def append (value : Value) : Cell → Cell
  | array items => array (items ++ [value])
  | cell => cell

/-- The entries, if this is a dictionary. -/
def entries? : Cell → Option Entries
  | dictionary entries => some entries
  | _ => none

/-- The items, if this is an array. -/
def items? : Cell → Option (List Value)
  | array items => some items
  | _ => none

/-- The data, if this is a stream. -/
def data? : Cell → Option (List UInt8)
  | stream data => some data
  | _ => none

@[simp] theorem entries?_setEntry (key : String) (value : Value) (cell : Cell) :
    (cell.setEntry key value).entries? = cell.entries?.map fun entries => entries.set key value := by
  cases cell <;> rfl

@[simp] theorem items?_setEntry (key : String) (value : Value) (cell : Cell) :
    (cell.setEntry key value).items? = cell.items? := by
  cases cell <;> rfl

@[simp] theorem entries?_append (value : Value) (cell : Cell) :
    (cell.append value).entries? = cell.entries? := by
  cases cell <;> rfl

@[simp] theorem items?_append (value : Value) (cell : Cell) :
    (cell.append value).items? = cell.items?.map fun items => items ++ [value] := by
  cases cell <;> rfl

@[simp] theorem data?_setEntry (key : String) (value : Value) (cell : Cell) :
    (cell.setEntry key value).data? = cell.data? := by
  cases cell <;> rfl

/-- The values an object holds. -/
def values : Cell → List Value
  | dictionary entries => entries.map (·.2)
  | array items => items
  | stream _ => []

end Cell

namespace Document

/-! ## Reading -/

/-- What is at an address. -/
def cell? (doc : Document) (address : ℕ) : Option Cell :=
  (doc.objects[address]?).map Object.cell

/-- The entries of a value that is a dictionary. -/
def dictionary? (doc : Document) (value : Value) : Option Entries :=
  (value.address?.bind doc.cell?).bind Cell.entries?

/-- The items of a value that is an array. -/
def array? (doc : Document) (value : Value) : Option (List Value) :=
  (value.address?.bind doc.cell?).bind Cell.items?

/-- The data of a value that is a stream. -/
def stream? (doc : Document) (value : Value) : Option (List UInt8) :=
  (value.address?.bind doc.cell?).bind Cell.data?

/-- An entry of a dictionary.  A value that is no dictionary has none. -/
def get (doc : Document) (value : Value) (key : String) : Option Value :=
  (doc.dictionary? value).bind fun entries => entries.lookup key

/-- The object number of a value, 0 if it is written in place. -/
def number (doc : Document) (value : Value) : ℕ :=
  ((value.address?.bind fun address => doc.objects[address]?).map Object.number).getD 0

/-! ## Changing -/

/-- A new object, at the address `doc.objects.length`. -/
def push (doc : Document) (object : Object) : Document :=
  { doc with objects := doc.objects ++ [object] }

/-- An object number that no object has. -/
def freshNumber (doc : Document) : ℕ := (doc.objects.map Object.number).foldr max 0 + 1

/-- Changes what is at an address, under the number it has. -/
def change (doc : Document) (address : ℕ) (f : Cell → Cell) : Document :=
  { doc with
    objects := doc.objects.modify address fun object => { object with cell := f object.cell } }

/-- Writes an entry of the dictionary at an address. -/
def setEntry (doc : Document) (address : ℕ) (key : String) (value : Value) : Document :=
  doc.change address (Cell.setEntry key value)

/-- Appends an item to the array at an address. -/
def append (doc : Document) (address : ℕ) (value : Value) : Document :=
  doc.change address (Cell.append value)

variable {doc : Document} {address other : ℕ} {f : Cell → Cell} {object : Object}
variable {value item : Value} {key : String}

/-! ## What a change leaves -/

@[simp] theorem pages_push : (doc.push object).pages = doc.pages := rfl

@[simp] theorem catalog_push : (doc.push object).catalog = doc.catalog := rfl

@[simp] theorem length_push : (doc.push object).objects.length = doc.objects.length + 1 := by
  simp [push]

@[simp] theorem pages_change : (doc.change address f).pages = doc.pages := rfl

@[simp] theorem catalog_change : (doc.change address f).catalog = doc.catalog := rfl

@[simp] theorem length_change : (doc.change address f).objects.length = doc.objects.length := by
  simp [change]

theorem cell?_lt (found : doc.cell? address ≠ none) : address < doc.objects.length := by
  by_contra outside
  exact found (by simp [cell?, List.getElem?_eq_none (Nat.le_of_not_lt outside)])

theorem cell?_push_of_lt (inside : address < doc.objects.length) :
    (doc.push object).cell? address = doc.cell? address := by
  simp [cell?, push, List.getElem?_append_left inside]

@[simp] theorem cell?_push_self :
    (doc.push object).cell? doc.objects.length = some object.cell := by
  simp [cell?, push]

/-- What a change leaves at an address, the changed one or another. -/
theorem getElem?_change : (doc.change address f).objects[other]? =
    (doc.objects[other]?).map fun object =>
      if address = other then { object with cell := f object.cell } else object := by
  rw [change, List.getElem?_modify]
  rfl

theorem cell?_change_self : (doc.change address f).cell? address = (doc.cell? address).map f := by
  unfold cell?
  rw [getElem?_change, Option.map_map, Option.map_map]
  simp only [if_true]
  rfl

theorem cell?_change_of_ne (different : other ≠ address) :
    (doc.change address f).cell? other = doc.cell? other := by
  unfold cell?
  rw [getElem?_change]
  simp [different.symm]

@[simp] theorem number_change : (doc.change address f).number value = doc.number value := by
  unfold number
  cases held : value.address? with
  | none => rfl
  | some other =>
    simp only [Option.bind_some]
    rw [getElem?_change, Option.map_map]
    congr 2
    funext object
    show (if address = other then _ else _ : Object).number = object.number
    split <;> rfl

theorem number_push_of_lt (inside : address < doc.objects.length) :
    (doc.push object).number (.object address) = doc.number (.object address) := by
  simp [number, Value.address?, push, List.getElem?_append_left inside]

/-! ## Readers over a change -/

theorem dictionary?_object :
    doc.dictionary? (.object address) = (doc.cell? address).bind Cell.entries? := rfl

theorem array?_object :
    doc.array? (.object address) = (doc.cell? address).bind Cell.items? := rfl

theorem get_object : doc.get (.object address) key =
    (doc.dictionary? (.object address)).bind fun entries => entries.lookup key := rfl

theorem stream?_object :
    doc.stream? (.object address) = (doc.cell? address).bind Cell.data? := rfl

/-- Readers of a value see its cell only. -/
theorem readers_congr {doc' : Document} (same : doc'.cell? address = doc.cell? address) :
    doc'.dictionary? (.object address) = doc.dictionary? (.object address) ∧
      doc'.array? (.object address) = doc.array? (.object address) := by
  rw [dictionary?_object, dictionary?_object, array?_object, array?_object, same]
  exact ⟨rfl, rfl⟩

theorem dictionary?_setEntry_self :
    (doc.setEntry address key value).dictionary? (.object address) =
      (doc.dictionary? (.object address)).map fun entries => entries.set key value := by
  rw [dictionary?_object, dictionary?_object, setEntry, cell?_change_self]
  cases doc.cell? address with
  | none => rfl
  | some cell => exact cell.entries?_setEntry key value

theorem dictionary?_setEntry_of_ne (different : other ≠ address) :
    (doc.setEntry address key value).dictionary? (.object other) =
      doc.dictionary? (.object other) :=
  (readers_congr (cell?_change_of_ne different)).1

@[simp] theorem array?_setEntry :
    (doc.setEntry address key value).array? item = doc.array? item := by
  cases item with
  | object other =>
    by_cases same : other = address
    · subst same
      rw [array?_object, array?_object, setEntry, cell?_change_self]
      cases doc.cell? other with
      | none => rfl
      | some cell => exact cell.items?_setEntry key value
    · exact (readers_congr (cell?_change_of_ne same)).2
  | _ => rfl

@[simp] theorem stream?_setEntry :
    (doc.setEntry address key value).stream? item = doc.stream? item := by
  cases item with
  | object other =>
    rw [stream?_object, stream?_object, setEntry]
    by_cases same : other = address
    · subst same
      rw [cell?_change_self]
      cases doc.cell? other with
      | none => rfl
      | some cell => exact cell.data?_setEntry key value
    · rw [cell?_change_of_ne same]
  | _ => rfl

/-- A written entry is read back. -/
theorem get_setEntry_self (isDictionary : doc.dictionary? (.object address) ≠ none) :
    (doc.setEntry address key value).get (.object address) key = some value := by
  rw [get_object, dictionary?_setEntry_self]
  cases found : doc.dictionary? (.object address) with
  | none => exact absurd found isDictionary
  | some entries => exact entries.lookup_set_self key value

/-- Every other entry is as it was. -/
theorem get_setEntry_of_ne {wanted : String} (different : wanted ≠ key) :
    (doc.setEntry address key value).get item wanted = doc.get item wanted := by
  cases item with
  | object other =>
    rw [get_object, get_object]
    by_cases same : other = address
    · subst same
      rw [dictionary?_setEntry_self]
      cases doc.dictionary? (.object other) with
      | none => rfl
      | some entries => exact entries.lookup_set_of_ne value different
    · rw [dictionary?_setEntry_of_ne same]
  | _ => rfl

/-- An entry of another dictionary is as it was. -/
theorem get_setEntry_of_address_ne {wanted : String} (different : other ≠ address) :
    (doc.setEntry address key value).get (.object other) wanted = doc.get (.object other) wanted := by
  rw [get_object, get_object, dictionary?_setEntry_of_ne different]

theorem dictionary?_setEntry_isSome :
    ((doc.setEntry address key value).dictionary? item).isSome = (doc.dictionary? item).isSome := by
  cases item with
  | object other =>
    by_cases same : other = address
    · subst same
      rw [dictionary?_setEntry_self, Option.isSome_map]
    · rw [dictionary?_setEntry_of_ne same]
  | _ => rfl

@[simp] theorem dictionary?_append :
    (doc.append address value).dictionary? item = doc.dictionary? item := by
  cases item with
  | object other =>
    by_cases same : other = address
    · subst same
      rw [dictionary?_object, dictionary?_object, append, cell?_change_self]
      cases doc.cell? other with
      | none => rfl
      | some cell => exact cell.entries?_append value
    · exact (readers_congr (cell?_change_of_ne same)).1
  | _ => rfl

@[simp] theorem get_append : (doc.append address value).get item key = doc.get item key := by
  unfold get
  rw [dictionary?_append]

theorem array?_append_self :
    (doc.append address value).array? (.object address) =
      (doc.array? (.object address)).map fun items => items ++ [value] := by
  rw [array?_object, array?_object, append, cell?_change_self]
  cases doc.cell? address with
  | none => rfl
  | some cell => exact cell.items?_append value

theorem array?_append_of_ne (different : other ≠ address) :
    (doc.append address value).array? (.object other) = doc.array? (.object other) :=
  (readers_congr (cell?_change_of_ne different)).2

theorem dictionary?_push_of_lt (inside : address < doc.objects.length) :
    (doc.push object).dictionary? (.object address) = doc.dictionary? (.object address) :=
  (readers_congr (cell?_push_of_lt inside)).1

theorem array?_push_of_lt (inside : address < doc.objects.length) :
    (doc.push object).array? (.object address) = doc.array? (.object address) :=
  (readers_congr (cell?_push_of_lt inside)).2

theorem stream?_push_of_lt (inside : address < doc.objects.length) :
    (doc.push object).stream? (.object address) = doc.stream? (.object address) := by
  rw [stream?_object, stream?_object, cell?_push_of_lt inside]

theorem get_push_of_lt (inside : address < doc.objects.length) :
    (doc.push object).get (.object address) key = doc.get (.object address) key := by
  rw [get_object, get_object, dictionary?_push_of_lt inside]

/-- A dictionary is at an address of the document. -/
theorem exists_of_dictionary? {entries : Entries} (found : doc.dictionary? value = some entries) :
    ∃ address, value = .object address ∧ doc.cell? address = some (.dictionary entries) := by
  cases value with
  | object address =>
    refine ⟨address, rfl, ?_⟩
    rw [dictionary?_object] at found
    obtain ⟨cell, isCell, isEntries⟩ := Option.bind_eq_some_iff.mp found
    cases cell with
    | dictionary _ => rw [isCell]; exact congrArg (some ∘ Cell.dictionary) (Option.some.inj isEntries)
    | array _ => cases isEntries
    | stream _ => cases isEntries
  | _ => cases found

/-- An array is at an address of the document. -/
theorem exists_of_array? {items : List Value} (found : doc.array? value = some items) :
    ∃ address, value = .object address ∧ doc.cell? address = some (.array items) := by
  cases value with
  | object address =>
    refine ⟨address, rfl, ?_⟩
    rw [array?_object] at found
    obtain ⟨cell, isCell, isItems⟩ := Option.bind_eq_some_iff.mp found
    cases cell with
    | array _ => rw [isCell]; exact congrArg (some ∘ Cell.array) (Option.some.inj isItems)
    | dictionary _ => cases isItems
    | stream _ => cases isItems
  | _ => cases found

theorem dictionary?_of_get {found : Value} (isEntry : doc.get value key = some found) :
    ∃ entries, doc.dictionary? value = some entries ∧ entries.lookup key = some found :=
  Option.bind_eq_some_iff.mp isEntry

end Document

/-! ## Documents read from a file -/

/-- The object at `holder` holds the one at `held`. -/
def Document.Holds (doc : Document) (holder held : ℕ) : Prop :=
  ∃ cell, doc.cell? holder = some cell ∧ Value.object held ∈ cell.values

/-- What a document read from a file satisfies. -/
structure Opened (doc : Document) : Prop where
  /-- An object number is the number of one object. -/
  numbered : ∀ a b, doc.number (.object a) = doc.number (.object b) →
    doc.number (.object a) ≠ 0 → a = b
  /-- Whatever is referred to is there. -/
  closed : ∀ holder held, doc.Holds holder held → held < doc.objects.length
  /-- What is written in place is held by the object it is written in. -/
  inPlace : ∀ a, doc.number (.object a) = 0 → ∀ first second,
    doc.Holds first a → doc.Holds second a → first = second
  pagesThere : ∀ page ∈ doc.pages, page < doc.objects.length

section Decide

variable {doc : Document}

instance (holder held : ℕ) : Decidable (doc.Holds holder held) :=
  match found : doc.cell? holder with
  | none => .isFalse fun holds => by
      obtain ⟨cell, isCell, -⟩ := holds
      rw [found] at isCell
      exact absurd isCell (by simp)
  | some cell => decidable_of_iff (Value.object held ∈ cell.values) <| by
      constructor
      · intro member
        exact ⟨cell, found, member⟩
      · rintro ⟨other, isCell, member⟩
        obtain rfl := Option.some.inj (found.symm.trans isCell)
        exact member

theorem Document.lt_of_holds {holder held : ℕ} (holds : doc.Holds holder held) :
    holder < doc.objects.length := by
  obtain ⟨cell, isCell, -⟩ := holds
  exact Document.cell?_lt (by simp [isCell])

theorem Document.lt_of_number {a : ℕ} (numbered : doc.number (.object a) ≠ 0) :
    a < doc.objects.length := by
  by_contra outside
  exact numbered (by simp [Document.number, Value.address?,
    List.getElem?_eq_none (Nat.le_of_not_lt outside)])

/-- `Opened`, of a document at hand. -/
theorem opened_iff : Opened doc ↔
    (∀ a < doc.objects.length, ∀ b < doc.objects.length,
      doc.number (.object a) = doc.number (.object b) → doc.number (.object a) ≠ 0 → a = b) ∧
    (∀ holder < doc.objects.length, ∀ value ∈ ((doc.cell? holder).map Cell.values).getD [],
      value.address?.getD 0 < doc.objects.length) ∧
    (∀ a < doc.objects.length, doc.number (.object a) = 0 → ∀ first < doc.objects.length,
      ∀ second < doc.objects.length, doc.Holds first a → doc.Holds second a → first = second) ∧
    ∀ page ∈ doc.pages, page < doc.objects.length := by
  constructor
  · intro opened
    refine ⟨fun a _ b _ => opened.numbered a b, ?_,
      fun a _ direct first _ second _ => opened.inPlace a direct first second, opened.pagesThere⟩
    intro holder inside value member
    cases found : doc.cell? holder with
    | none =>
      rw [found] at member
      exact absurd member List.not_mem_nil
    | some cell =>
      rw [found] at member
      cases value with
      | object held => exact opened.closed holder held ⟨cell, found, member⟩
      | _ => exact Nat.lt_of_le_of_lt (Nat.zero_le _) inside
  · rintro ⟨numbered, closed, inPlace, pagesThere⟩
    have held : ∀ holder held, doc.Holds holder held → held < doc.objects.length := by
      intro holder held holds
      have inside := Document.lt_of_holds holds
      obtain ⟨cell, isCell, member⟩ := holds
      exact closed holder inside (.object held) (by rwa [isCell])
    refine ⟨?_, held, ?_, pagesThere⟩
    · intro a b same isNumbered
      exact numbered a (Document.lt_of_number isNumbered) b
        (Document.lt_of_number (same ▸ isNumbered)) same isNumbered
    · intro a direct first second holdsFirst holdsSecond
      exact inPlace a (held first a holdsFirst) direct first (Document.lt_of_holds holdsFirst)
        second (Document.lt_of_holds holdsSecond) holdsFirst holdsSecond

set_option synthInstance.maxSize 512 in
instance : Decidable (Opened doc) := decidable_of_iff _ opened_iff.symm

end Decide

/-- A document as `open` hands it out. -/
abbrev File := { doc : Document // Opened doc }

/-- The value under other addresses. -/
def Value.relocate (origin : ℕ → ℕ) : Value → Value
  | object address => object (origin address)
  | value => value

@[simp] theorem Value.str_relocate (origin : ℕ → ℕ) (value : Value) :
    (value.relocate origin).str = value.str := by
  cases value <;> rfl

/-- Reading the saved document again gives a copy of it, each object of which has
its `origin` in the saved one.  Objects that shared a number still do, and no
others: an object written in place is written in place again. -/
structure Reopened (saved again : Document) (origin : ℕ → ℕ) : Prop where
  catalog : origin again.catalog = saved.catalog
  pages : again.pages.map origin = saved.pages
  dictionary : ∀ a < again.objects.length,
    (again.dictionary? (.object a)).isSome = (saved.dictionary? (.object (origin a))).isSome
  entry : ∀ a < again.objects.length, ∀ key,
    (again.get (.object a) key).map (Value.relocate origin) = saved.get (.object (origin a)) key
  array : ∀ a < again.objects.length,
    (again.array? (.object a)).map (List.map (Value.relocate origin)) =
      saved.array? (.object (origin a))
  number : ∀ a < again.objects.length, ∀ b < again.objects.length,
    again.number (.object a) = again.number (.object b) ↔
      saved.number (.object (origin a)) = saved.number (.object (origin b))

@[simp] theorem Value.relocate_id (value : Value) : value.relocate id = value := by
  cases value <;> rfl

/-- A document may come back as it was, address for address. -/
protected theorem Reopened.refl (doc : Document) : Reopened doc doc id where
  catalog := rfl
  pages := List.map_id _
  dictionary := fun _ _ => rfl
  entry := by
    intro a _ key
    have same : Value.relocate id = id := funext Value.relocate_id
    rw [same, Option.map_id]
    rfl
  array := by
    intro a _
    have same : Value.relocate id = id := funext Value.relocate_id
    rw [same, List.map_id_fun, Option.map_id]
    rfl
  number := fun _ _ _ _ => Iff.rfl

end DicePipeline.Pdf
