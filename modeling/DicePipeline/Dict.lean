import Mathlib.Data.List.Nodup

/-!
# Dictionaries

A `dict` is a list of entries, in the order in which they were made, with one value a key.
-/

namespace DicePipeline

/-- A `dict`: one value a key. -/
structure Dict (K V : Type) where
  entries : List (K × V)
  nodup : (entries.map Prod.fst).Nodup

namespace Dict

variable {K V : Type} [DecidableEq K]

def keys (dict : Dict K V) : List K := dict.entries.map Prod.fst

/-- `dict.get(key)`. -/
def get? (dict : Dict K V) (key : K) : Option V := dict.entries.lookup key

/-- A `dict` with one key. -/
def single (key : K) (value : V) : Dict K V := ⟨[(key, value)], List.nodup_singleton _⟩

/-- A key has the value that is listed under it, and no other. -/
theorem get?_eq_some_iff {dict : Dict K V} {key : K} {value : V} :
    dict.get? key = some value ↔ (key, value) ∈ dict.entries := by
  unfold get?
  rw [List.lookup_eq_some_iff]
  constructor
  · rintro ⟨before, after, split, -⟩
    rw [split]
    exact List.mem_append_right _ List.mem_cons_self
  · intro listed
    obtain ⟨before, after, split⟩ := List.append_of_mem listed
    refine ⟨before, after, split, fun other earlier => ?_⟩
    have nodup := dict.nodup
    rw [split, List.map_append, List.map_cons] at nodup
    have apart := (List.nodup_append'.mp nodup).2.2
    rw [bne_iff_ne]
    intro same
    exact apart (List.mem_map_of_mem earlier) (same ▸ List.mem_cons_self)

theorem mem_keys_of_get? {dict : Dict K V} {key : K} {value : V}
    (found : dict.get? key = some value) : key ∈ dict.keys :=
  List.mem_map_of_mem (get?_eq_some_iff.mp found)

theorem exists_get?_of_mem_keys {dict : Dict K V} {key : K} (member : key ∈ dict.keys) :
    ∃ value, dict.get? key = some value := by
  obtain ⟨entry, listed, rfl⟩ := List.mem_map.mp member
  exact ⟨entry.2, get?_eq_some_iff.mpr listed⟩

/-- Entries whose values change have the same keys. -/
theorem lookup_map_value {W : Type} {entries : List (K × V)} (f : K → V → W) (key : K) :
    (entries.map fun entry => (entry.1, f entry.1 entry.2)).lookup key =
      (entries.lookup key).map (f key) := by
  induction entries with
  | nil => rfl
  | cons entry rest ih =>
    rw [List.map_cons, List.lookup_cons, List.lookup_cons, ih]
    by_cases found : key = entry.1
    · subst found
      rw [beq_self_eq_true]
      rfl
    · have missed : (key == entry.1) = false := by simpa using found
      rw [missed]

/-- A `dict` with the same keys. -/
def mapValues {W : Type} (f : V → W) (dict : Dict K V) : Dict K W where
  entries := dict.entries.map fun entry => (entry.1, f entry.2)
  nodup := by
    rw [List.map_map]
    exact dict.nodup

theorem get?_mapValues {W : Type} (f : V → W) (dict : Dict K V) (key : K) :
    (dict.mapValues f).get? key = (dict.get? key).map f :=
  lookup_map_value (fun _ => f) key

/-- The order of the entries says nothing. -/
theorem get?_perm {dict other : Dict K V} (perm : other.entries.Perm dict.entries) (key : K) :
    other.get? key = dict.get? key := by
  ext value
  rw [get?_eq_some_iff, get?_eq_some_iff, perm.mem_iff]

end Dict

end DicePipeline
