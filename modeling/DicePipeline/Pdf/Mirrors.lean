import DicePipeline.Pdf.Frame

/-!
# Two documents that read alike

`Mirrors origin unread doc again` says that whatever is read of `again`, at an address,
is read of `doc` at its `origin`, but for the entries under the keys that are `unread`.
It holds of a document that was saved and read again (`Reopened.mirrors_saved`), and of
one next to what it became by changes under those keys (`ChangesOnly.mirrors`), whatever
new objects there are.

A walk that does not look at these keys goes the same way over both.
-/

namespace DicePipeline.Pdf

/-- The one document reads like the other, at other addresses. -/
structure Mirrors (origin : ℕ → ℕ) (unread : String → Prop) (doc again : Document) : Prop where
  catalog : origin again.catalog = doc.catalog
  pages : again.pages.map origin = doc.pages
  dictionary : ∀ value, again.Within value →
    doc.isDictionary (value.relocate origin) = again.isDictionary value
  entry : ∀ value key, again.Within value → ¬ unread key →
    doc.get (value.relocate origin) key = (again.get value key).map (Value.relocate origin)
  array : ∀ value, again.Within value →
    doc.array? (value.relocate origin) = (again.array? value).map (List.map (Value.relocate origin))

section

variable {doc saved again : Document} {origin : ℕ → ℕ} {unread : String → Prop}
variable {entries : ℕ → String → Prop} {streams : ℕ → Prop}

/-- What was changed under these keys only, saved and read again. -/
theorem Reopened.mirrors (reopened : Reopened saved again origin)
    (catalog : saved.catalog = doc.catalog) (pages : saved.pages = doc.pages)
    (dictionary : ∀ value, saved.isDictionary value = doc.isDictionary value)
    (entry : ∀ value key, ¬ unread key → saved.get value key = doc.get value key)
    (array : ∀ value, saved.array? value = doc.array? value) : Mirrors origin unread doc again where
  catalog := reopened.catalog.trans catalog
  pages := reopened.pages.trans pages
  dictionary := fun _ within => (dictionary _).symm.trans (reopened.isDictionary within)
  entry := fun _ _ within other => (entry _ _ other).symm.trans (reopened.get within)
  array := fun _ within => (array _).symm.trans (reopened.array? within)

/-- What was saved and read again. -/
theorem Reopened.mirrors_saved (reopened : Reopened saved again origin) :
    Mirrors origin (fun _ => False) saved again :=
  reopened.mirrors rfl rfl (fun _ => rfl) (fun _ _ _ => rfl) fun _ => rfl

/-- What it was and what it became, at the same addresses. -/
theorem ChangesOnly.mirrors (changes : ChangesOnly entries streams doc saved)
    (changed : ∀ a key, entries a key → unread key) : Mirrors id unread saved doc where
  catalog := changes.catalog.symm
  pages := by rw [List.map_id, changes.pages]
  dictionary := by
    intro value within
    rw [Value.relocate_id]
    cases value with
    | object a => exact changes.dictionary a (within a rfl)
    | _ => rfl
  entry := by
    intro value key within read
    have identical : Value.relocate id = id := funext Value.relocate_id
    rw [identical, Option.map_id]
    cases value with
    | object a => exact changes.entry a (within a rfl) key fun own => read (changed a key own)
    | _ => rfl
  array := by
    intro value within
    have identical : Value.relocate id = id := funext Value.relocate_id
    rw [identical, List.map_id_fun, Option.map_id]
    cases value with
    | object a => exact changes.array a (within a rfl)
    | _ => rfl

end

namespace Mirrors

variable {origin : ℕ → ℕ} {unread : String → Prop} {key : String} {doc again : Document}
variable {value node : Value}

theorem textOf (mirrors : Mirrors origin unread doc again) (within : again.Within value)
    (read : ¬ unread key) : doc.textOf (value.relocate origin) key = again.textOf value key := by
  unfold Document.textOf
  rw [mirrors.entry value key within read]
  cases again.get value key with
  | none => rfl
  | some found => simp

theorem kidsOf (mirrors : Mirrors origin unread doc again) (opened : Opened again)
    (within : again.Within node) (read : ¬ unread "/K") :
    doc.kidsOf (node.relocate origin) = (again.kidsOf node).map (Value.relocate origin) := by
  have entry := mirrors.entry node "/K" within read
  cases present : again.get node "/K" with
  | none =>
    rw [present] at entry
    rw [Document.kidsOf_of_none present, Document.kidsOf_of_none entry]
    rfl
  | some kids =>
    rw [present] at entry
    rw [Document.kidsOf_of_some present, Document.kidsOf_of_some entry,
      mirrors.array kids (opened.within_of_get present)]
    cases again.array? kids <;> rfl

end Mirrors

end DicePipeline.Pdf
