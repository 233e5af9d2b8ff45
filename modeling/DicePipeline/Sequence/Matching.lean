import Mathlib.Algebra.Order.Group.Multiset
import Mathlib.Data.Multiset.FinsetOps
import Mathlib.Data.Multiset.UnionInter

/-!
# Matching the longest blocks of two sequences

The longest block that two sequences have in common is matched, the earliest if there
are several, and then what is before it and what is after it on both sides, in the
same way.  `blockMatches` is the number of items matched.

It is at most the number of items the two sequences share (`blockMatches_le_shared`).  It
may be less, also where the shared items stand in the same order on both sides.
-/

namespace DicePipeline.Sequence

variable {α : Type*} [DecidableEq α]

/-! ## The longest block -/

/-- A block of `size` items that starts at `i` on the left and at `j` on the right. -/
structure Block where
  i : ℕ
  j : ℕ
  size : ℕ
  deriving DecidableEq, Repr

/-- The number of items that two sequences start with in common. -/
def commonPrefix : List α → List α → ℕ
  | a :: xs, b :: ys => if a = b then commonPrefix xs ys + 1 else 0
  | _, _ => 0

/-- The blocks from each pair of starts on, the earliest on the left first. -/
def blocks (xs ys : List α) : List Block :=
  (List.range xs.length).flatMap fun i => (List.range ys.length).map fun j =>
    ⟨i, j, commonPrefix (xs.drop i) (ys.drop j)⟩

/-- Only a longer block takes the place of the best so far. -/
def longer (best next : Block) : Block := if best.size < next.size then next else best

/-- The earliest of the longest blocks. -/
def longestBlock (xs ys : List α) : Block := (blocks xs ys).foldl longer ⟨0, 0, 0⟩

/-- The items matched, if the blocks nest no deeper than `depth`. -/
def matchedBelow : ℕ → List α → List α → ℕ
  | 0, _, _ => 0
  | depth + 1, xs, ys =>
      let block := longestBlock xs ys
      if block.size = 0 then 0
      else block.size + matchedBelow depth (xs.take block.i) (ys.take block.j) +
        matchedBelow depth (xs.drop (block.i + block.size)) (ys.drop (block.j + block.size))

/-- The number of items matched. -/
def blockMatches (xs ys : List α) : ℕ := matchedBelow xs.length xs ys

/-- The number of items that two sequences share, in whatever order. -/
def shared (xs ys : List α) : ℕ := ((xs : Multiset α) ∩ (ys : Multiset α)).card

variable {xs ys : List α} {i j : ℕ}

/-! ## Where the longest block is -/

theorem take_commonPrefix (xs ys : List α) :
    xs.take (commonPrefix xs ys) = ys.take (commonPrefix xs ys) := by
  induction xs generalizing ys with
  | nil => simp [commonPrefix]
  | cons a xs ih =>
      cases ys with
      | nil => simp [commonPrefix]
      | cons b ys =>
          rw [commonPrefix]
          split
          · rename_i same
            rw [same, List.take_succ_cons, List.take_succ_cons, ih]
          · rfl

theorem commonPrefix_le_left (xs ys : List α) : commonPrefix xs ys ≤ xs.length := by
  induction xs generalizing ys with
  | nil => simp [commonPrefix]
  | cons a xs ih =>
      cases ys with
      | nil => simp [commonPrefix]
      | cons b ys =>
          have := ih ys
          rw [commonPrefix, List.length_cons]
          split <;> omega

theorem commonPrefix_comm (xs ys : List α) : commonPrefix xs ys = commonPrefix ys xs := by
  induction xs generalizing ys with
  | nil => cases ys <;> rfl
  | cons a xs ih =>
      cases ys with
      | nil => rfl
      | cons b ys =>
          rw [commonPrefix, commonPrefix, ih]
          simp only [eq_comm]

/-- The best block so far is one of those gone through, or the first. -/
theorem foldl_longer_mem (best : Block) (rest : List Block) :
    rest.foldl longer best ∈ best :: rest := by
  induction rest generalizing best with
  | nil => exact List.mem_cons_self
  | cons next rest ih =>
      rw [List.foldl_cons]
      have chosen : longer best next = next ∨ longer best next = best := by
        unfold longer
        split
        · exact .inl rfl
        · exact .inr rfl
      rcases List.mem_cons.mp (ih (longer best next)) with first | later
      · rw [first]
        rcases chosen with same | same
        · simp [same]
        · simp [same]
      · exact List.mem_cons_of_mem _ (List.mem_cons_of_mem _ later)

/-- None of them is longer. -/
theorem size_le_foldl_longer {best block : Block} {rest : List Block}
    (member : block ∈ best :: rest) : block.size ≤ (rest.foldl longer best).size := by
  induction rest generalizing best block with
  | nil =>
      rw [List.mem_singleton.mp member]
      rfl
  | cons next rest ih =>
      rw [List.foldl_cons]
      have first : best.size ≤ (longer best next).size ∧ next.size ≤ (longer best next).size := by
        unfold longer
        split <;> omega
      have kept : (longer best next).size ≤ _ := ih List.mem_cons_self
      rcases List.mem_cons.mp member with rfl | later
      · omega
      · rcases List.mem_cons.mp later with rfl | inRest
        · omega
        · exact ih (List.mem_cons_of_mem _ inRest)

/-- A block: the same items on both sides. -/
structure IsBlock (xs ys : List α) (block : Block) : Prop where
  left : block.i + block.size ≤ xs.length
  right : block.j + block.size ≤ ys.length
  same : (xs.drop block.i).take block.size = (ys.drop block.j).take block.size

theorem isBlock_longestBlock (xs ys : List α) : IsBlock xs ys (longestBlock xs ys) := by
  rcases List.mem_cons.mp (foldl_longer_mem ⟨0, 0, 0⟩ (blocks xs ys)) with first | listed
  · rw [longestBlock, first]
    exact ⟨by simp, by simp, by simp⟩
  · obtain ⟨i, inXs, inner⟩ := List.mem_flatMap.mp listed
    obtain ⟨j, inYs, isBlock⟩ := List.mem_map.mp inner
    rw [longestBlock, ← isBlock]
    have left := commonPrefix_le_left (xs.drop i) (ys.drop j)
    have right := commonPrefix_le_left (ys.drop j) (xs.drop i)
    rw [commonPrefix_comm] at right
    rw [List.length_drop] at left right
    rw [List.mem_range] at inXs inYs
    exact ⟨by simp only; omega, by simp only; omega, take_commonPrefix _ _⟩

/-- Without a block nothing is shared. -/
theorem shared_eq_zero (none : (longestBlock xs ys).size = 0) : shared xs ys = 0 := by
  rw [shared, Multiset.card_eq_zero, Multiset.eq_zero_iff_forall_notMem]
  intro a member
  rw [Multiset.mem_inter, Multiset.mem_coe, Multiset.mem_coe] at member
  obtain ⟨i, inXs, atI⟩ := List.getElem_of_mem member.1
  obtain ⟨j, inYs, atJ⟩ := List.getElem_of_mem member.2
  have listed : (⟨i, j, commonPrefix (xs.drop i) (ys.drop j)⟩ : Block) ∈ blocks xs ys :=
    List.mem_flatMap.mpr ⟨i, List.mem_range.mpr inXs,
      List.mem_map.mpr ⟨j, List.mem_range.mpr inYs, rfl⟩⟩
  have bound : commonPrefix (xs.drop i) (ys.drop j) ≤ (longestBlock xs ys).size :=
    size_le_foldl_longer (List.mem_cons_of_mem _ listed)
  rw [none, List.drop_eq_getElem_cons inXs, List.drop_eq_getElem_cons inYs, commonPrefix,
    if_pos (atI.trans atJ.symm)] at bound
  omega

/-! ## What is matched and what is shared -/

omit [DecidableEq α] in
/-- What is before a block, the block, and what is after it. -/
theorem take_block_append (zs : List α) (start size : ℕ) :
    zs = zs.take start ++ ((zs.drop start).take size ++ zs.drop (start + size)) := by
  rw [← List.drop_drop, List.take_append_drop, List.take_append_drop]

/-- What is shared on either side of a block is shared besides the block. -/
theorem IsBlock.shared_le {block : Block} (isBlock : IsBlock xs ys block) :
    block.size + shared (xs.take block.i) (ys.take block.j) +
      shared (xs.drop (block.i + block.size)) (ys.drop (block.j + block.size)) ≤
        shared xs ys := by
  obtain ⟨left, right, same⟩ := isBlock
  generalize block.i = i at *
  generalize block.j = j at *
  generalize block.size = size at *
  have parts : ∀ (zs : List α) (start : ℕ), (zs : Multiset α) =
      (zs.drop start).take size + (zs.take start : List α) + (zs.drop (start + size) : List α) := by
    intro zs start
    conv_lhs => rw [take_block_append zs start size]
    rw [← Multiset.coe_add, ← Multiset.coe_add, ← add_assoc, add_comm (zs.take start : Multiset α)]
  have length : ((ys.drop j).take size).length = size := by
    rw [List.length_take, List.length_drop]
    omega
  have covered : ((ys.drop j).take size : Multiset α) +
      ((xs.take i : Multiset α) ∩ (ys.take j : List α)) +
        ((xs.drop (i + size) : Multiset α) ∩ (ys.drop (j + size) : List α)) ≤
          (xs : Multiset α) ∩ (ys : List α) := by
    rw [Multiset.le_inter_iff, parts xs i, parts ys j, same]
    constructor
    · exact add_le_add (add_le_add le_rfl Multiset.inter_le_left) Multiset.inter_le_left
    · exact add_le_add (add_le_add le_rfl Multiset.inter_le_right) Multiset.inter_le_right
  have cards := Multiset.card_le_card covered
  rw [Multiset.card_add, Multiset.card_add, Multiset.coe_card, length] at cards
  exact cards

/-- The items before the longest block on both sides. -/
def before (xs ys : List α) : List α × List α :=
  (xs.take (longestBlock xs ys).i, ys.take (longestBlock xs ys).j)

/-- The items after it. -/
def after (xs ys : List α) : List α × List α :=
  (xs.drop ((longestBlock xs ys).i + (longestBlock xs ys).size),
    ys.drop ((longestBlock xs ys).j + (longestBlock xs ys).size))

/-- What is shared before the block and after it is shared besides the block. -/
theorem cut_le (xs ys : List α) : (longestBlock xs ys).size +
    shared (before xs ys).1 (before xs ys).2 + shared (after xs ys).1 (after xs ys).2 ≤
      shared xs ys :=
  (isBlock_longestBlock xs ys).shared_le

omit [DecidableEq α] in
/-- A block that is matched leaves fewer items. -/
theorem length_lt {block : Block} (isBlock : IsBlock xs ys block) (matched : block.size ≠ 0) :
    (xs.take block.i).length < xs.length ∧
      (xs.drop (block.i + block.size)).length < xs.length := by
  have inside := isBlock.left
  rw [List.length_take, List.length_drop]
  omega

/-- No nesting is deeper than the items on the left. -/
theorem matchedBelow_eq {depth : ℕ} (deep : xs.length ≤ depth) :
    matchedBelow depth xs ys = blockMatches xs ys := by
  unfold blockMatches
  induction depth using Nat.strongRecOn generalizing xs ys with
  | ind depth ih =>
      cases depth with
      | zero => rw [Nat.le_zero.mp deep]
      | succ depth =>
          cases length : xs.length with
          | zero =>
              have none : (longestBlock xs ys).size = 0 := by
                have := (isBlock_longestBlock xs ys).left
                omega
              simp [matchedBelow, none]
          | succ n =>
              rw [matchedBelow, matchedBelow]
              split
              · rfl
              · rename_i matched
                obtain ⟨less, less'⟩ := length_lt (isBlock_longestBlock xs ys) matched
                rw [ih depth (by omega) (by omega), ih depth (by omega) (by omega),
                  ih n (by omega) (by omega), ih n (by omega) (by omega)]

/-- **The recursion**: the longest block, and what is matched on either side of it. -/
theorem blockMatches_eq (matched : (longestBlock xs ys).size ≠ 0) :
    blockMatches xs ys = (longestBlock xs ys).size +
      blockMatches (before xs ys).1 (before xs ys).2 +
        blockMatches (after xs ys).1 (after xs ys).2 := by
  obtain ⟨less, less'⟩ := length_lt (isBlock_longestBlock xs ys) matched
  obtain ⟨n, length⟩ : ∃ n, xs.length = n + 1 := ⟨xs.length - 1, by omega⟩
  rw [blockMatches, length, matchedBelow]
  rw [if_neg matched, matchedBelow_eq (by omega), matchedBelow_eq (by omega)]
  rfl

theorem blockMatches_eq_zero (none : (longestBlock xs ys).size = 0) : blockMatches xs ys = 0 := by
  unfold blockMatches
  cases xs.length with
  | zero => rfl
  | succ n => simp [matchedBelow, none]

/-- **What is matched is shared**, by induction on the length of the left sequence. -/
theorem blockMatches_le_shared (xs ys : List α) : blockMatches xs ys ≤ shared xs ys := by
  induction length : xs.length using Nat.strongRecOn generalizing xs ys with
  | ind n ih =>
      by_cases none : (longestBlock xs ys).size = 0
      · rw [blockMatches_eq_zero none]
        exact Nat.zero_le _
      · obtain ⟨less, less'⟩ := length_lt (isBlock_longestBlock xs ys) none
        have left := ih _ (length ▸ less) (before xs ys).1 (before xs ys).2 rfl
        have right := ih _ (length ▸ less') (after xs ys).1 (after xs ys).2 rfl
        have cut := cut_le xs ys
        rw [blockMatches_eq none]
        omega

end DicePipeline.Sequence
