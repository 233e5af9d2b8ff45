import Mathlib.Data.Multiset.AddSub
import Mathlib.Order.Bounds.Basic
import Mathlib.Order.MinMax

/-!
# The fewest changes from one sequence to another

A `Change` swaps, drops or adds one item, at any position, and a `Script` is a number
of changes one after the other.  An `Alignment` goes through the two sequences once,
side by side.  The two have the same least cost: an alignment is a script
(`Alignment.script`), and a script is an alignment of no greater cost
(`Script.alignment`), since alignments compose (`Alignment.trans`).

`Fewest xs ys n` is what a dynamic program computes.  `Fewest.cons` is the recurrence
it computes it by.
-/

namespace DicePipeline.Sequence

variable {α : Type*}

/-! ## Scripts -/

/-- One item is swapped, dropped or added. -/
inductive Change : List α → List α → Prop
  | swap (before after : List α) (a b : α) :
      Change (before ++ a :: after) (before ++ b :: after)
  | drop (before after : List α) (a : α) : Change (before ++ a :: after) (before ++ after)
  | add (before after : List α) (b : α) : Change (before ++ after) (before ++ b :: after)

/-- A number of changes that turn one sequence into another. -/
inductive Script : ℕ → List α → List α → Prop
  | done (xs : List α) : Script 0 xs xs
  | change {n : ℕ} {xs ys zs : List α} : Change xs ys → Script n ys zs → Script (n + 1) xs zs

variable {xs ys zs : List α} {a b : α} {n m : ℕ}

namespace Change

theorem symm (change : Change xs ys) : Change ys xs := by
  cases change with
  | swap before after a b => exact .swap before after b a
  | drop before after a => exact .add before after a
  | add before after b => exact .drop before after b

theorem cons (change : Change xs ys) (c : α) : Change (c :: xs) (c :: ys) := by
  cases change with
  | swap before after a b => exact .swap (c :: before) after a b
  | drop before after a => exact .drop (c :: before) after a
  | add before after b => exact .add (c :: before) after b

theorem reverse (change : Change xs ys) : Change xs.reverse ys.reverse := by
  cases change with
  | swap before after a b => simpa using Change.swap after.reverse before.reverse a b
  | drop before after a => simpa using Change.drop after.reverse before.reverse a
  | add before after b => simpa using Change.add after.reverse before.reverse b

end Change

namespace Script

theorem trans (first : Script n xs ys) (second : Script m ys zs) : Script (n + m) xs zs := by
  induction first with
  | done xs => simpa using second
  | @change n xs ys' ys change _ ih =>
      rw [Nat.add_right_comm]
      exact .change change (ih second)

theorem symm (script : Script n xs ys) : Script n ys xs := by
  induction script with
  | done xs => exact .done xs
  | change change _ ih => exact ih.trans (.change change.symm (.done _))

theorem cons (script : Script n xs ys) (c : α) : Script n (c :: xs) (c :: ys) := by
  induction script with
  | done xs => exact .done _
  | change change _ ih => exact .change (change.cons c) ih

theorem reverse (script : Script n xs ys) : Script n xs.reverse ys.reverse := by
  induction script with
  | done xs => exact .done _
  | change change _ ih => exact .change change.reverse ih

theorem reverse_iff : Script n xs.reverse ys.reverse ↔ Script n xs ys := by
  refine ⟨fun script => ?_, Script.reverse⟩
  simpa using script.reverse

theorem eq_of_zero (script : Script 0 xs ys) : xs = ys := by
  cases script
  rfl

end Script

/-! ## Alignments -/

/-- What it costs to put one item next to another. -/
def cost [DecidableEq α] (a b : α) : ℕ := if a = b then 0 else 1

/-- Two sequences gone through side by side, and what it costs. -/
inductive Alignment [DecidableEq α] : List α → List α → ℕ → Prop
  | nil : Alignment [] [] 0
  | pair {xs ys : List α} {n : ℕ} (a b : α) :
      Alignment xs ys n → Alignment (a :: xs) (b :: ys) (n + cost a b)
  | drop {xs ys : List α} {n : ℕ} (a : α) : Alignment xs ys n → Alignment (a :: xs) ys (n + 1)
  | add {xs ys : List α} {n : ℕ} (b : α) : Alignment xs ys n → Alignment xs (b :: ys) (n + 1)

variable [DecidableEq α]

@[simp] theorem cost_self (a : α) : cost a a = 0 := if_pos rfl

theorem cost_le_one (a b : α) : cost a b ≤ 1 := by
  unfold cost
  split <;> omega

theorem cost_comm (a b : α) : cost a b = cost b a := by
  unfold cost
  simp only [eq_comm]

theorem cost_triangle (a b c : α) : cost a c ≤ cost a b + cost b c := by
  by_cases same : a = b
  · subst same
    simp
  · have apart : cost a b = 1 := if_neg same
    have := cost_le_one a c
    omega

namespace Alignment

theorem refl (xs : List α) : Alignment xs xs 0 := by
  induction xs with
  | nil => exact .nil
  | cons x xs ih => simpa using ih.pair x x

theorem symm (alignment : Alignment xs ys n) : Alignment ys xs n := by
  induction alignment with
  | nil => exact .nil
  | pair a b _ ih =>
      rw [cost_comm]
      exact ih.pair b a
  | drop a _ ih => exact ih.add a
  | add b _ ih => exact ih.drop b

/-- A prefix in common costs nothing. -/
theorem append_left (before : List α) (alignment : Alignment xs ys n) :
    Alignment (before ++ xs) (before ++ ys) n := by
  induction before with
  | nil => exact alignment
  | cons c before ih => simpa using ih.pair c c

/-- **Alignments compose.** -/
theorem trans (first : Alignment xs ys n) (second : Alignment ys zs m) :
    ∃ k ≤ n + m, Alignment xs zs k := by
  induction first generalizing zs m with
  | nil => exact ⟨m, by omega, second⟩
  | drop a _ ih =>
      obtain ⟨k, le, alignment⟩ := ih second
      exact ⟨k + 1, by omega, alignment.drop a⟩
  | @add xs ys n b first ih =>
      generalize middle : b :: ys = bys at second
      induction second with
      | nil => cases middle
      | pair b' c second =>
          cases middle
          obtain ⟨k, le, alignment⟩ := ih second
          exact ⟨k + 1, by omega, alignment.add c⟩
      | drop b' second =>
          cases middle
          obtain ⟨k, le, alignment⟩ := ih second
          exact ⟨k, by omega, alignment⟩
      | add c _ ihSecond =>
          obtain ⟨k, le, alignment⟩ := ihSecond middle
          exact ⟨k + 1, by omega, alignment.add c⟩
  | @pair xs ys n a b first ih =>
      generalize middle : b :: ys = bys at second
      induction second with
      | nil => cases middle
      | pair b' c second =>
          cases middle
          obtain ⟨k, le, alignment⟩ := ih second
          have := cost_triangle a b c
          exact ⟨k + cost a c, by omega, alignment.pair a c⟩
      | drop b' second =>
          cases middle
          obtain ⟨k, le, alignment⟩ := ih second
          exact ⟨k + 1, by omega, alignment.drop a⟩
      | add c _ ihSecond =>
          obtain ⟨k, le, alignment⟩ := ihSecond middle
          exact ⟨k + 1, by omega, alignment.add c⟩

/-- An alignment is a script of changes from the left to the right. -/
theorem script (alignment : Alignment xs ys n) : Script n xs ys := by
  induction alignment with
  | nil => exact .done []
  | @pair xs ys n a b _ ih =>
      by_cases same : a = b
      · subst same
        simpa using ih.cons a
      · rw [cost, if_neg same]
        exact .change (.swap [] xs a b) (ih.cons b)
  | @drop xs ys n a _ ih => exact .change (.drop [] xs a) ih
  | @add xs ys n b _ ih => exact ih.trans (.change (.add [] ys b) (.done _))

/-- What one side has and the other has not costs at least its number. -/
theorem card_sub_le (alignment : Alignment xs ys n) :
    ((xs : Multiset α) - (ys : Multiset α)).card ≤ n := by
  have added : ∃ rest : Multiset α, rest.card ≤ n ∧ (xs : Multiset α) ≤ ys + rest := by
    induction alignment with
    | nil => exact ⟨0, by simp, by simp⟩
    | @pair xs ys n a b _ ih =>
        obtain ⟨rest, few, covered⟩ := ih
        by_cases same : a = b
        · subst same
          refine ⟨rest, by omega, ?_⟩
          rw [← Multiset.cons_coe, ← Multiset.cons_coe, Multiset.cons_add]
          exact Multiset.cons_le_cons a covered
        · refine ⟨a ::ₘ rest, ?_, ?_⟩
          · rw [Multiset.card_cons, cost, if_neg same]
            omega
          · rw [← Multiset.cons_coe, ← Multiset.cons_coe, Multiset.add_cons, Multiset.cons_add]
            exact Multiset.cons_le_cons a (covered.trans (Multiset.le_cons_self _ b))
    | @drop xs ys n a _ ih =>
        obtain ⟨rest, few, covered⟩ := ih
        refine ⟨a ::ₘ rest, ?_, ?_⟩
        · rw [Multiset.card_cons]
          omega
        · rw [← Multiset.cons_coe, Multiset.add_cons]
          exact Multiset.cons_le_cons a covered
    | @add xs ys n b _ ih =>
        obtain ⟨rest, few, covered⟩ := ih
        refine ⟨rest, by omega, ?_⟩
        rw [← Multiset.cons_coe, Multiset.cons_add]
        exact covered.trans (Multiset.le_cons_self _ b)
  obtain ⟨rest, few, covered⟩ := added
  exact (Multiset.card_le_card (Multiset.sub_le_iff_le_add'.mpr covered)).trans few

end Alignment

theorem Change.alignment (change : Change xs ys) : ∃ k ≤ 1, Alignment xs ys k := by
  cases change with
  | swap before after a b =>
      refine ⟨0 + cost a b, ?_, ((Alignment.refl after).pair a b).append_left before⟩
      have := cost_le_one a b
      omega
  | drop before after a => exact ⟨1, le_rfl, ((Alignment.refl after).drop a).append_left before⟩
  | add before after b => exact ⟨1, le_rfl, ((Alignment.refl after).add b).append_left before⟩

/-- A script aligns the two sequences at no greater cost. -/
theorem Script.alignment (script : Script n xs ys) : ∃ k ≤ n, Alignment xs ys k := by
  induction script with
  | done xs => exact ⟨0, le_rfl, .refl xs⟩
  | change change _ ih =>
      obtain ⟨j, one, first⟩ := change.alignment
      obtain ⟨k, le, rest⟩ := ih
      obtain ⟨l, le', alignment⟩ := first.trans rest
      exact ⟨l, by omega, alignment⟩

/-! ## The fewest changes -/

/-- The least number of changes that turn `xs` into `ys`. -/
def Fewest (xs ys : List α) (n : ℕ) : Prop := IsLeast {k | Script k xs ys} n

theorem fewest_iff : Fewest xs ys n ↔ IsLeast {k | Alignment xs ys k} n := by
  constructor
  · rintro ⟨script, least⟩
    obtain ⟨k, le, alignment⟩ := Script.alignment script
    have ge := least alignment.script
    obtain rfl : k = n := le_antisymm le ge
    exact ⟨alignment, fun j other => least (Alignment.script other)⟩
  · rintro ⟨alignment, least⟩
    refine ⟨Alignment.script alignment, fun j script => ?_⟩
    obtain ⟨k, le, other⟩ := Script.alignment script
    exact (least other).trans le

namespace Fewest

omit [DecidableEq α] in
theorem reverse_iff : Fewest xs.reverse ys.reverse n ↔ Fewest xs ys n := by
  unfold Fewest
  simp only [Script.reverse_iff]

theorem nil_left (ys : List α) : Fewest [] ys ys.length := by
  rw [fewest_iff]
  constructor
  · induction ys with
    | nil => exact .nil
    | cons y ys ih => exact Alignment.add y ih
  · intro k alignment
    generalize start : ([] : List α) = xs at alignment
    induction alignment with
    | nil => simp
    | pair a b _ ih => cases start
    | drop a _ ih => cases start
    | add b _ ih =>
        have := ih start
        simpa using this

theorem nil_right (xs : List α) : Fewest xs [] xs.length := by
  obtain ⟨script, least⟩ := nil_left xs
  exact ⟨script.symm, fun k other => least (Script.symm other)⟩

/-- **The recurrence.** -/
theorem cons {drop add keep : ℕ} (isDrop : Fewest xs (b :: ys) drop)
    (isAdd : Fewest (a :: xs) ys add) (isKeep : Fewest xs ys keep) :
    Fewest (a :: xs) (b :: ys) (min (min (drop + 1) (add + 1)) (keep + cost a b)) := by
  rw [fewest_iff] at *
  constructor
  · rcases min_choice (min (drop + 1) (add + 1)) (keep + cost a b) with least | least
    · rw [least]
      rcases min_choice (drop + 1) (add + 1) with least | least
      · rw [least]
        exact Alignment.drop a isDrop.1
      · rw [least]
        exact Alignment.add b isAdd.1
    · rw [least]
      exact Alignment.pair a b isKeep.1
  · intro k alignment
    cases alignment with
    | pair _ _ rest =>
        have := isKeep.2 rest
        omega
    | drop _ rest =>
        have := isDrop.2 rest
        omega
    | add _ rest =>
        have := isAdd.2 rest
        omega

/-- No fewer changes than there are items on one side only. -/
theorem card_sub_le (fewest : Fewest xs ys n) :
    ((xs : Multiset α) - (ys : Multiset α)).card ≤ n ∧
      ((ys : Multiset α) - (xs : Multiset α)).card ≤ n := by
  have alignment := (fewest_iff.mp fewest).1
  exact ⟨Alignment.card_sub_le alignment, Alignment.card_sub_le (Alignment.symm alignment)⟩

omit [DecidableEq α] in
theorem eq_zero_iff (fewest : Fewest xs ys n) : n = 0 ↔ xs = ys := by
  constructor
  · rintro rfl
    exact Script.eq_of_zero fewest.1
  · rintro rfl
    exact Nat.le_zero.mp (fewest.2 (Script.done xs))

omit [DecidableEq α] in
theorem symm (fewest : Fewest xs ys n) : Fewest ys xs n :=
  ⟨Script.symm fewest.1, fun _ script => fewest.2 (Script.symm script)⟩

omit [DecidableEq α] in
theorem triangle {k : ℕ} (first : Fewest xs ys n) (second : Fewest ys zs m)
    (whole : Fewest xs zs k) : k ≤ n + m :=
  whole.2 (Script.trans first.1 second.1)

omit [DecidableEq α] in
theorem unique (first : Fewest xs ys n) (second : Fewest xs ys m) : n = m :=
  IsLeast.unique first second

end Fewest

end DicePipeline.Sequence
