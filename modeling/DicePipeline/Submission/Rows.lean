import Mathlib.Data.List.Nodup
import Mathlib.Data.List.Perm.Subperm
import DicePipeline.System

/-!
# The table of attempts

The rows other connections may still commit count as rows here, so that a
transaction's end only permutes or drops rows.  `Effect.rows` says what an
operation does to them: it drops some, rewrites one, or adds one.
-/

namespace DicePipeline

open Interaction

/-- Every attempt, committed or not. -/
def Store.rows (s : Store) : List Remediation := s.remediations ++ s.pending.map (·.2)

namespace Store

variable {s : Store}

theorem mem_rows_of_mem {row : Remediation} (member : row ∈ s.remediations) :
    row ∈ s.rows := List.mem_append_left _ member

/-- Ending a transaction loses at most the rows it inserted. -/
theorem endTransaction_rows (s : Store) (i : ℕ) (keep : Bool) :
    (s.endTransaction i keep).rows.Subperm s.rows := by
  have split : (s.pending.filter (fun entry => entry.1 = i) ++
      s.pending.filter (fun entry => entry.1 ≠ i)).Perm s.pending := by
    simpa using List.filter_append_perm (fun entry : ℕ × Remediation => entry.1 = i) s.pending
  cases keep with
  | true =>
      have rows : (s.endTransaction i true).rows =
          s.remediations ++ (s.pending.filter (fun entry => entry.1 = i) ++
            s.pending.filter (fun entry => entry.1 ≠ i)).map (·.2) := by
        simp [Store.rows, endTransaction, uncommitted]
      rw [rows]
      exact ((split.map _).append_left _).subperm
  | false =>
      refine List.Sublist.subperm (List.Sublist.append_left ?_ _)
      exact List.filter_sublist.map _

/-- An insert adds its row. -/
theorem insert_rows (s : Store) (entry : ℕ × Remediation) (nextId : ℕ) :
    ({ s with pending := s.pending ++ [entry], nextId := nextId } : Store).rows =
      s.rows ++ [entry.2] := by
  simp [Store.rows]

end Store

/-! ## Primary keys -/

/-- Primary keys are unique and below the next one. -/
structure WellKeyed (rows : List Remediation) (nextId : ℕ) : Prop where
  nodup : (rows.map (·.id)).Nodup
  fresh : ∀ row ∈ rows, row.id < nextId

namespace WellKeyed

variable {rows rows' : List Remediation} {nextId nextId' : ℕ}

/-- The rows with one key are one row. -/
theorem eq_of_id (keyed : WellKeyed rows nextId) {row row' : Remediation}
    (member : row ∈ rows) (member' : row' ∈ rows) (same : row.id = row'.id) : row = row' :=
  List.inj_on_of_nodup_map keyed.nodup member member' same

theorem of_subperm (keyed : WellKeyed rows nextId) (fewer : rows'.Subperm rows)
    (le : nextId ≤ nextId') : WellKeyed rows' nextId' where
  nodup := by
    obtain ⟨middle, perm, sublist⟩ := fewer
    exact (perm.map _).nodup_iff.mp ((sublist.map _).nodup keyed.nodup)
  fresh := fun row member =>
    Nat.lt_of_lt_of_le (keyed.fresh row (fewer.subset member)) le

theorem of_ids (keyed : WellKeyed rows nextId)
    (same : rows'.map (·.id) = rows.map (·.id)) : WellKeyed rows' nextId where
  nodup := same ▸ keyed.nodup
  fresh := by
    intro row member
    have listed : row.id ∈ rows.map (·.id) := same ▸ List.mem_map_of_mem member
    obtain ⟨old, oldMember, sameId⟩ := List.mem_map.mp listed
    exact sameId ▸ keyed.fresh old oldMember

theorem add (keyed : WellKeyed rows nextId) {row : Remediation} (isNext : row.id = nextId) :
    WellKeyed (rows ++ [row]) (nextId + 1) where
  nodup := by
    rw [List.map_append, List.nodup_append]
    refine ⟨keyed.nodup, by simp, ?_⟩
    rintro _ listed _ last rfl
    obtain ⟨old, oldMember, sameId⟩ := List.mem_map.mp listed
    obtain rfl := List.mem_singleton.mp last
    have below := keyed.fresh old oldMember
    simp only [sameId, isNext, lt_irrefl] at below
  fresh := by
    intro other member
    rcases List.mem_append.mp member with old | last
    · exact Nat.lt_succ_of_lt (keyed.fresh other old)
    · obtain rfl := List.mem_singleton.mp last
      omega

end WellKeyed

/-- A committed attempt is the one its key looks up. -/
theorem Store.row_of_mem {s : Store} (keyed : WellKeyed s.rows s.nextId) {row : Remediation}
    (member : row ∈ s.remediations) : s.row row.id = some row := by
  cases found : s.row row.id with
  | none =>
      have missing := List.find?_eq_none.mp found row member
      simp at missing
  | some other =>
      rw [keyed.eq_of_id (mem_rows_of_mem (row_mem found)) (mem_rows_of_mem member) (row_id found)]

namespace Store

variable {s : Store} {id : ℕ} {f : Remediation → Remediation}

/-- Rewriting one row keeps every projection the rewriting keeps. -/
theorem updateRow_rows_map {β : Type} (g : Remediation → β) (kept : ∀ row, g (f row) = g row) :
    (s.updateRow id f).rows.map g = s.rows.map g := by
  have each : ∀ row : Remediation, g (if row.id = id then f row else row) = g row := by
    intro row
    split
    · exact kept row
    · rfl
  simp [Store.rows, updateRow, Function.comp_def, each]

/-- A row after a rewriting was there before, or is what the rewriting made of
a committed row. -/
theorem mem_updateRow_rows {row : Remediation} (member : row ∈ (s.updateRow id f).rows) :
    (row ∈ s.rows) ∨ ∃ old ∈ s.remediations, old.id = id ∧ row = f old := by
  rcases List.mem_append.mp member with committed | pending
  · obtain ⟨old, oldMember, rfl⟩ := List.mem_map.mp committed
    by_cases hit : old.id = id
    · exact .inr ⟨old, oldMember, hit, by simp [hit]⟩
    · exact .inl (by simpa [hit] using mem_rows_of_mem oldMember)
  · exact .inl (List.mem_append_right _ pending)

end Store

variable {i : ℕ} {op : Op} {s t : Store}

/-- Every operation keeps primary keys unique. -/
theorem Effect.wellKeyed (effect : Effect i s op t) (keyed : WellKeyed s.rows s.nextId) :
    WellKeyed t.rows t.nextId := by
  cases effect with
  | saved found guarded => exact keyed.of_ids (Store.updateRow_rows_map _ fun _ => rfl)
  | claimed found unfinished unclaimed =>
      exact keyed.of_ids (Store.updateRow_rows_map _ fun _ => rfl)
  | @inserted new noClash noWait =>
      rw [Store.insert_rows]
      exact keyed.add rfl
  | committed => exact keyed.of_subperm (s.endTransaction_rows i true) le_rfl
  | abandoned => exact keyed.of_subperm (s.endTransaction_rows i false) le_rfl
  | rolledBack => exact keyed.of_subperm (s.endTransaction_rows i false) le_rfl
  | subscribed => exact keyed.of_subperm (List.Subperm.refl _) (Nat.le_succ _)
  | _ => exact keyed

end DicePipeline
