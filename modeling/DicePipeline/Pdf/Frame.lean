import DicePipeline.Pdf.Structure

/-!
# Documents that differ in one entry

`SameBut key doc doc'` says that the one document has become the other by new
objects and by entries under one key.  It holds of every sequence of pushes and
of writes under that key (`SameBut.push`, `SameBut.setEntry`, `SameBut.trans`),
and every reader that does not look at the key sees no difference.
-/

namespace DicePipeline.Pdf

/-- The same document, but for new objects and entries under the key. -/
structure SameBut (key : String) (doc doc' : Document) : Prop where
  length : doc.objects.length ≤ doc'.objects.length
  pages : doc'.pages = doc.pages
  dictionary : ∀ a < doc.objects.length,
    doc'.isDictionary (.object a) = doc.isDictionary (.object a)
  entry : ∀ a < doc.objects.length, ∀ other, other ≠ key →
    doc'.get (.object a) other = doc.get (.object a) other
  array : ∀ a < doc.objects.length, doc'.array? (.object a) = doc.array? (.object a)
  stream : ∀ a < doc.objects.length, doc'.stream? (.object a) = doc.stream? (.object a)
  number : ∀ a < doc.objects.length, doc'.number (.object a) = doc.number (.object a)

namespace SameBut

variable {doc doc' doc'' : Document} {key other : String} {value : Value} {a : ℕ}

protected theorem refl (key : String) (doc : Document) : SameBut key doc doc where
  length := Nat.le_refl _
  pages := rfl
  dictionary := fun _ _ => rfl
  entry := fun _ _ _ _ => rfl
  array := fun _ _ => rfl
  stream := fun _ _ => rfl
  number := fun _ _ => rfl

theorem trans (first : SameBut key doc doc') (second : SameBut key doc' doc'') :
    SameBut key doc doc'' where
  length := Nat.le_trans first.length second.length
  pages := second.pages.trans first.pages
  dictionary := fun a inside =>
    (second.dictionary a (Nat.lt_of_lt_of_le inside first.length)).trans
      (first.dictionary a inside)
  entry := fun a inside other different =>
    (second.entry a (Nat.lt_of_lt_of_le inside first.length) other different).trans
      (first.entry a inside other different)
  array := fun a inside =>
    (second.array a (Nat.lt_of_lt_of_le inside first.length)).trans (first.array a inside)
  stream := fun a inside =>
    (second.stream a (Nat.lt_of_lt_of_le inside first.length)).trans (first.stream a inside)
  number := fun a inside =>
    (second.number a (Nat.lt_of_lt_of_le inside first.length)).trans (first.number a inside)

theorem push {object : Object} : SameBut key doc (doc.push object) where
  length := by
    rw [Document.length_push]
    omega
  pages := rfl
  dictionary := by
    intro a inside
    unfold Document.isDictionary
    rw [Document.dictionary?_push_of_lt inside]
  entry := fun a inside other _ => Document.get_push_of_lt inside
  array := fun a inside => Document.array?_push_of_lt inside
  stream := fun a inside => Document.stream?_push_of_lt inside
  number := fun a inside => Document.number_push_of_lt inside

theorem setEntry : SameBut key doc (doc.setEntry a key value) where
  length := by
    unfold Document.setEntry
    exact Nat.le_of_eq Document.length_change.symm
  pages := rfl
  dictionary := fun b inside => Document.dictionary?_setEntry_isSome
  entry := fun b inside other different => Document.get_setEntry_of_ne different
  array := fun b inside => Document.array?_setEntry
  stream := fun b inside => Document.stream?_setEntry
  number := fun b inside => Document.number_change

/-! ## Readers -/

theorem isDictionary_eq (same : SameBut key doc doc') (within : doc.Within value) :
    doc'.isDictionary value = doc.isDictionary value := by
  cases value with
  | object a => exact same.dictionary a (within a rfl)
  | _ => rfl

theorem get_eq (same : SameBut key doc doc') (within : doc.Within value)
    (different : other ≠ key) : doc'.get value other = doc.get value other := by
  cases value with
  | object a => exact same.entry a (within a rfl) other different
  | _ => rfl

theorem textOf_eq (same : SameBut key doc doc') (within : doc.Within value)
    (different : other ≠ key) : doc'.textOf value other = doc.textOf value other := by
  unfold Document.textOf
  rw [same.get_eq within different]

theorem array?_eq (same : SameBut key doc doc') (within : doc.Within value) :
    doc'.array? value = doc.array? value := by
  cases value with
  | object a => exact same.array a (within a rfl)
  | _ => rfl

theorem stream?_eq (same : SameBut key doc doc') (within : doc.Within value) :
    doc'.stream? value = doc.stream? value := by
  cases value with
  | object a => exact same.stream a (within a rfl)
  | _ => rfl

theorem number_eq (same : SameBut key doc doc') (within : doc.Within value) :
    doc'.number value = doc.number value := by
  cases value with
  | object a => exact same.number a (within a rfl)
  | _ => rfl

theorem within (same : SameBut key doc doc') (within : doc.Within value) : doc'.Within value :=
  fun a isObject => Nat.lt_of_lt_of_le (within a isObject) same.length

end SameBut

/-! ## A new stream under an entry -/

/-- Gives a dictionary a new stream under a key. -/
def Document.attachStream (doc : Document) (holder : Value) (key : String) (data : List UInt8) :
    Document :=
  match holder with
  | .object address =>
      (doc.push ⟨.stream data, doc.freshNumber⟩).setEntry address key (.object doc.objects.length)
  | _ => doc

section AttachStream

variable {doc doc' : Document} {key : String} {holder value : Value} {data : List UInt8} {s : ℕ}

theorem attachStream_sameBut : SameBut key doc (doc.attachStream holder key data) := by
  cases holder with
  | object a => exact SameBut.push.trans SameBut.setEntry
  | _ => exact .refl _ _

/-- Another value has the entries it had. -/
theorem dictionary?_attachStream_of_ne (within : doc.Within value) (different : holder ≠ value) :
    (doc.attachStream holder key data).dictionary? value = doc.dictionary? value := by
  cases holder with
  | object a =>
    cases value with
    | object b =>
      show (Document.setEntry _ a key _).dictionary? (.object b) = _
      rw [Document.dictionary?_setEntry_of_ne fun same => different (congrArg Value.object same.symm)]
      exact Document.dictionary?_push_of_lt (within b rfl)
    | _ => rfl
  | _ => rfl

/-- The dictionary has the stream. -/
theorem get_attachStream (isDictionary : doc.isDictionary holder = true) :
    ∃ s < (doc.attachStream holder key data).objects.length,
      (doc.attachStream holder key data).get holder key = some (.object s) ∧
      (doc.attachStream holder key data).stream? (.object s) = some data := by
  have within := Document.within_of_isDictionary isDictionary
  cases holder with
  | object a =>
    refine ⟨doc.objects.length, ?_, ?_, ?_⟩
    · show doc.objects.length < (Document.setEntry _ a key _).objects.length
      unfold Document.setEntry
      rw [Document.length_change, Document.length_push]
      omega
    · refine Document.get_setEntry_self ?_
      rw [Document.dictionary?_push_of_lt (within a rfl)]
      exact Option.isSome_iff_ne_none.mp isDictionary
    · show (Document.setEntry _ a key _).stream? _ = _
      rw [Document.stream?_setEntry, Document.stream?_object, Document.cell?_push_self]
      rfl
  | _ => exact absurd isDictionary Bool.false_ne_true

/-- A stream is no dictionary. -/
theorem Document.isDictionary_of_stream? (isData : doc.stream? value = some data) :
    doc.isDictionary value = false := by
  cases value with
  | object a =>
    obtain ⟨cell, isCell, isStream⟩ := Option.bind_eq_some_iff.mp isData
    have noEntries : cell.entries? = none := by
      cases cell with
      | stream data => rfl
      | _ => exact absurd isStream (by simp [Cell.data?])
    unfold Document.isDictionary Document.dictionary?
    rw [isCell, Option.bind_some, noEntries]
    rfl
  | _ => rfl

/-- A stream that is there is not changed any more. -/
theorem SameBut.stream_kept (same : SameBut key doc doc') (inside : s < doc.objects.length)
    (isData : doc.stream? (.object s) = some data) :
    s < doc'.objects.length ∧ doc'.stream? (.object s) = some data :=
  ⟨Nat.lt_of_lt_of_le inside same.length, (same.stream s inside).trans isData⟩

end AttachStream

/-! ## Changes under some entries -/

/-- The same document, but for new objects, the entries of some keys of some
dictionaries, and the data of some streams. -/
structure ChangesOnly (entries : ℕ → String → Prop) (streams : ℕ → Prop) (doc doc' : Document) :
    Prop where
  length : doc.objects.length ≤ doc'.objects.length
  catalog : doc'.catalog = doc.catalog
  pages : doc'.pages = doc.pages
  dictionary : ∀ a < doc.objects.length,
    doc'.isDictionary (.object a) = doc.isDictionary (.object a)
  entry : ∀ a < doc.objects.length, ∀ key, ¬ entries a key →
    doc'.get (.object a) key = doc.get (.object a) key
  array : ∀ a < doc.objects.length, doc'.array? (.object a) = doc.array? (.object a)
  stream : ∀ a < doc.objects.length, ¬ streams a →
    doc'.stream? (.object a) = doc.stream? (.object a)

namespace ChangesOnly

variable {entries entries' : ℕ → String → Prop} {streams streams' : ℕ → Prop}
variable {doc doc' doc'' : Document} {key : String} {value : Value} {a : ℕ} {object : Object}

protected theorem refl (entries : ℕ → String → Prop) (streams : ℕ → Prop) (doc : Document) :
    ChangesOnly entries streams doc doc where
  length := Nat.le_refl _
  catalog := rfl
  pages := rfl
  dictionary := fun _ _ => rfl
  entry := fun _ _ _ _ => rfl
  array := fun _ _ => rfl
  stream := fun _ _ _ => rfl

theorem trans (first : ChangesOnly entries streams doc doc')
    (second : ChangesOnly entries streams doc' doc'') : ChangesOnly entries streams doc doc'' where
  length := Nat.le_trans first.length second.length
  catalog := second.catalog.trans first.catalog
  pages := second.pages.trans first.pages
  dictionary := fun a inside =>
    (second.dictionary a (Nat.lt_of_lt_of_le inside first.length)).trans
      (first.dictionary a inside)
  entry := fun a inside key other =>
    (second.entry a (Nat.lt_of_lt_of_le inside first.length) key other).trans
      (first.entry a inside key other)
  array := fun a inside =>
    (second.array a (Nat.lt_of_lt_of_le inside first.length)).trans (first.array a inside)
  stream := fun a inside other =>
    (second.stream a (Nat.lt_of_lt_of_le inside first.length) other).trans
      (first.stream a inside other)

theorem mono (changes : ChangesOnly entries streams doc doc')
    (entry : ∀ a key, entries a key → entries' a key) (stream : ∀ a, streams a → streams' a) :
    ChangesOnly entries' streams' doc doc' :=
  { changes with
    entry := fun a inside key other => changes.entry a inside key fun own => other (entry a key own)
    stream := fun a inside other => changes.stream a inside fun own => other (stream a own) }

theorem push : ChangesOnly entries streams doc (doc.push object) where
  length := by
    rw [Document.length_push]
    omega
  catalog := rfl
  pages := rfl
  dictionary := (@SameBut.push doc "" object).dictionary
  entry := fun a inside key _ => Document.get_push_of_lt inside
  array := fun a inside => Document.array?_push_of_lt inside
  stream := fun a inside _ => Document.stream?_push_of_lt inside

theorem setEntry (changed : entries a key) :
    ChangesOnly entries streams doc (doc.setEntry a key value) where
  length := SameBut.setEntry.length
  catalog := rfl
  pages := rfl
  dictionary := SameBut.setEntry.dictionary
  entry := by
    intro b _ other unchanged
    by_cases sameKey : other = key
    · subst sameKey
      refine Document.get_setEntry_of_address_ne ?_
      rintro rfl
      exact unchanged changed
    · exact Document.get_setEntry_of_ne sameKey
  array := fun b _ => Document.array?_setEntry
  stream := fun b _ _ => Document.stream?_setEntry

end ChangesOnly

end DicePipeline.Pdf
