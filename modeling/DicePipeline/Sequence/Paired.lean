import Mathlib.Data.Finset.Card
import Mathlib.Data.Finset.Image
import Mathlib.Data.List.Duplicate
import Mathlib.Data.List.NodupEquivFin
import DicePipeline.Sequence.Matching

/-!
# Items that are paired off in order

Where two sequences have the same item there is a *place*: a position on the left and one
on the right.  A pairing takes some of the places, in the order of both sequences.  The
other places are strays.

The block matching does not look for the largest pairing.  It takes the longest block, and
what the block crosses is lost.  `blockMatches_eq_card` says when it finds all of a pairing
nevertheless: when each stray is crossed by a run of pairs that the matching takes before
any block through the stray.

### What is load-bearing

The run that guards against a stray is one of the whole sequences, and so are the blocks
through the stray.  In the parts that are matched later both may have been cut.  That the
run has not been is what `guarded_before` and `guarded_after` show: a block that cut it
could be extended along it, so that it was not the longest.
-/

namespace DicePipeline.Sequence

variable {α : Type*} [DecidableEq α] {xs ys : List α} {pairs : Finset (ℕ × ℕ)} {i j : ℕ}

/-! ## Places and runs -/

/-- The same item stands at `i` on the left and at `j` on the right. -/
def SameItem (xs ys : List α) (i j : ℕ) : Prop := ∃ a, xs[i]? = some a ∧ ys[j]? = some a

namespace Block

/-- The block has the same items on both sides. -/
def IsRun (xs ys : List α) (block : Block) : Prop :=
  ∀ k < block.size, SameItem xs ys (block.i + k) (block.j + k)

/-- The place is one of the block's. -/
def Through (block : Block) (i j : ℕ) : Prop :=
  ∃ k < block.size, i = block.i + k ∧ j = block.j + k

/-- The place is neither before the block on both sides nor after it on both sides. -/
def Crosses (block : Block) (i j : ℕ) : Prop :=
  ¬ (i < block.i ∧ j < block.j) ∧ ¬ (block.i + block.size ≤ i ∧ block.j + block.size ≤ j)

/-- The block starts earlier: on the left, or there at the same item and then on the
right. -/
def Earlier (block other : Block) : Prop :=
  block.i < other.i ∨ block.i = other.i ∧ block.j < other.j

/-- The block is taken before the other one: it is longer, or as long and earlier. -/
def Preferred (block other : Block) : Prop :=
  other.size < block.size ∨ other.size = block.size ∧ block.Earlier other

end Block

/-- **A pairing**: places in the order of both sequences, no item in two of them. -/
structure Pairing (xs ys : List α) (pairs : Finset (ℕ × ℕ)) : Prop where
  same : ∀ p ∈ pairs, SameItem xs ys p.1 p.2
  inOrder : ∀ p ∈ pairs, ∀ q ∈ pairs, p.1 < q.1 ↔ p.2 < q.2

/-- **Every stray is guarded against**: a run of pairs crosses it, and is preferred to every
block through it. -/
def Guarded (xs ys : List α) (pairs : Finset (ℕ × ℕ)) : Prop :=
  ∀ i j, SameItem xs ys i j → (i, j) ∉ pairs →
    ∃ run : Block, (∀ k < run.size, (run.i + k, run.j + k) ∈ pairs) ∧ run.Crosses i j ∧
      ∀ stray : Block, stray.IsRun xs ys → stray.Through i j → run.Preferred stray

omit [DecidableEq α] in
theorem SameItem.lt (same : SameItem xs ys i j) : i < xs.length ∧ j < ys.length := by
  obtain ⟨a, atI, atJ⟩ := same
  exact ⟨(List.getElem?_eq_some_iff.mp atI).1, (List.getElem?_eq_some_iff.mp atJ).1⟩

omit [DecidableEq α] in
/-- A place before two positions. -/
theorem sameItem_take_iff {m n : ℕ} :
    SameItem (xs.take m) (ys.take n) i j ↔ i < m ∧ j < n ∧ SameItem xs ys i j := by
  have taken : ∀ {zs : List α} {k n : ℕ} {a : α},
      (zs.take n)[k]? = some a ↔ k < n ∧ zs[k]? = some a := by
    intro zs k n a
    rw [List.getElem?_take]
    split <;> simp [*]
  unfold SameItem
  simp only [taken]
  constructor
  · rintro ⟨a, ⟨beforeM, atI⟩, beforeN, atJ⟩
    exact ⟨beforeM, beforeN, a, atI, atJ⟩
  · rintro ⟨beforeM, beforeN, a, atI, atJ⟩
    exact ⟨a, ⟨beforeM, atI⟩, beforeN, atJ⟩

omit [DecidableEq α] in
/-- A place after two positions. -/
theorem sameItem_drop_iff {m n : ℕ} :
    SameItem (xs.drop m) (ys.drop n) i j ↔ SameItem xs ys (m + i) (n + j) := by
  unfold SameItem
  simp only [List.getElem?_drop]

/-! ## The longest block -/

/-- The items in common from two positions on are as many as those of a run. -/
theorem le_commonPrefix {size : ℕ} (run : ∀ k < size, SameItem xs ys k k) :
    size ≤ commonPrefix xs ys := by
  induction size generalizing xs ys with
  | zero => exact Nat.zero_le _
  | succ size ih =>
      obtain ⟨a, first, first'⟩ := run 0 (Nat.zero_lt_succ _)
      obtain ⟨x, xs, rfl⟩ := List.exists_cons_of_length_pos (List.getElem?_eq_some_iff.mp first).1
      obtain ⟨y, ys, rfl⟩ := List.exists_cons_of_length_pos (List.getElem?_eq_some_iff.mp first').1
      obtain rfl : x = a := Option.some.inj first
      obtain rfl : y = x := Option.some.inj first'
      rw [commonPrefix, if_pos rfl]
      refine Nat.succ_le_succ (ih fun k inside => ?_)
      obtain ⟨b, atK, atK'⟩ := run (k + 1) (Nat.succ_lt_succ inside)
      exact ⟨b, by simpa using atK, by simpa using atK'⟩

theorem isRun_longestBlock (xs ys : List α) : (longestBlock xs ys).IsRun xs ys := by
  obtain ⟨left, right, same⟩ := isBlock_longestBlock xs ys
  intro k inside
  have item := congrArg (·[k]?) same
  simp only [List.getElem?_take_of_lt inside, List.getElem?_drop] at item
  obtain ⟨a, atK⟩ : ∃ a, xs[(longestBlock xs ys).i + k]? = some a :=
    ⟨_, List.getElem?_eq_getElem (by omega)⟩
  exact ⟨a, atK, item ▸ atK⟩

/-- The best block comes first of its size. -/
theorem foldl_longer_split (best : Block) (rest : List Block) : ∃ earlier later,
    best :: rest = earlier ++ rest.foldl longer best :: later ∧
      ∀ block ∈ earlier, block.size < (rest.foldl longer best).size := by
  induction rest generalizing best with
  | nil => exact ⟨[], [], rfl, by simp⟩
  | cons next rest ih =>
      obtain ⟨earlier, later, split, smaller⟩ := ih (longer best next)
      have atLeast : (longer best next).size ≤ (rest.foldl longer (longer best next)).size :=
        size_le_foldl_longer List.mem_cons_self
      rw [List.foldl_cons]
      generalize rest.foldl longer (longer best next) = found at *
      by_cases replaced : best.size < next.size
      · rw [longer, if_pos replaced] at split atLeast
        refine ⟨best :: earlier, later, by rw [split]; rfl, ?_⟩
        rintro block (_ | ⟨_, inEarlier⟩)
        · omega
        · exact smaller block inEarlier
      · rw [longer, if_neg replaced] at split
        cases earlier with
        | nil =>
            obtain ⟨rfl, rfl⟩ := List.cons.inj split
            exact ⟨[], next :: rest, rfl, by simp⟩
        | cons first earlier =>
            obtain ⟨rfl, rfl⟩ := List.cons.inj split
            have less := smaller best List.mem_cons_self
            refine ⟨best :: next :: earlier, later, rfl, ?_⟩
            rintro block (_ | ⟨_, _ | ⟨_, inEarlier⟩⟩)
            · exact less
            · omega
            · exact smaller block (List.mem_cons_of_mem _ inEarlier)

/-- The blocks are gone through in their order. -/
theorem pairwise_blocks (xs ys : List α) : (blocks xs ys).Pairwise Block.Earlier := by
  unfold blocks
  rw [List.pairwise_flatMap]
  constructor
  · intro i _
    rw [List.pairwise_map]
    exact List.pairwise_lt_range.imp fun less => .inr ⟨rfl, less⟩
  · refine List.pairwise_lt_range.imp fun less => ?_
    rintro _ inFirst _ inSecond
    obtain ⟨j, -, rfl⟩ := List.mem_map.mp inFirst
    obtain ⟨k, -, rfl⟩ := List.mem_map.mp inSecond
    exact .inl less

/-- **No run is preferred to the longest block.** -/
theorem not_preferred_longestBlock {run : Block} (isRun : run.IsRun xs ys) (some : run.size ≠ 0) :
    ¬ run.Preferred (longestBlock xs ys) := by
  obtain ⟨inXs, inYs⟩ := (isRun 0 (Nat.pos_of_ne_zero some)).lt
  have listed : (⟨run.i, run.j, commonPrefix (xs.drop run.i) (ys.drop run.j)⟩ : Block) ∈
      blocks xs ys :=
    List.mem_flatMap.mpr ⟨run.i, List.mem_range.mpr inXs,
      List.mem_map.mpr ⟨run.j, List.mem_range.mpr inYs, rfl⟩⟩
  have long : run.size ≤ commonPrefix (xs.drop run.i) (ys.drop run.j) :=
    le_commonPrefix fun k inside => sameItem_drop_iff.mpr (isRun k inside)
  have most : commonPrefix (xs.drop run.i) (ys.drop run.j) ≤ (longestBlock xs ys).size :=
    size_le_foldl_longer (List.mem_cons_of_mem _ listed)
  rintro (longer | ⟨sameSize, earlier⟩)
  · omega
  · -- The block from there on is as long, so it is not listed before the longest.
    obtain ⟨before, after, split, smaller⟩ := foldl_longer_split ⟨0, 0, 0⟩ (blocks xs ys)
    rw [← longestBlock] at split smaller
    have inOrder := pairwise_blocks xs ys
    cases before with
    | nil =>
        obtain ⟨isFirst, -⟩ := List.cons.inj split
        rw [← isFirst] at sameSize
        exact some sameSize.symm
    | cons first before =>
        obtain ⟨-, isBlocks⟩ := List.cons.inj split
        rw [isBlocks] at listed inOrder
        rcases List.mem_append.mp listed with inBefore | inRest
        · have less := smaller _ (List.mem_cons_of_mem _ inBefore)
          simp only at less
          omega
        · have later := (List.pairwise_append.mp inOrder).2.1
          rcases List.mem_cons.mp inRest with isLongest | inAfter
          · rw [← isLongest] at earlier
            unfold Block.Earlier at earlier
            simp only at earlier
            omega
          · have afterLongest := (List.pairwise_cons.mp later).1 _ inAfter
            unfold Block.Earlier at earlier afterLongest
            simp only at afterLongest
            omega

omit [DecidableEq α] in
/-- A block that is preferred to every run through a place has an item. -/
theorem size_pos_of_preferred {run : Block} (same : SameItem xs ys i j)
    (preferred : ∀ stray : Block, stray.IsRun xs ys → stray.Through i j → run.Preferred stray) :
    0 < run.size := by
  have single : Block.IsRun xs ys ⟨i, j, 1⟩ := by
    intro k inside
    obtain rfl : k = 0 := Nat.lt_one_iff.mp inside
    exact same
  rcases preferred _ single ⟨0, Nat.one_pos, rfl, rfl⟩ with longer | ⟨asLong, -⟩
  · exact Nat.zero_lt_of_lt longer
  · exact asLong ▸ Nat.one_pos

theorem size_le_longestBlock {run : Block} (isRun : run.IsRun xs ys) :
    run.size ≤ (longestBlock xs ys).size := by
  by_contra longer
  exact not_preferred_longestBlock isRun (by omega) (.inl (by omega))

/-! ## One block of the matching -/

/-- The pairs before the longest block. -/
def pairsBefore (xs ys : List α) (pairs : Finset (ℕ × ℕ)) : Finset (ℕ × ℕ) :=
  pairs.filter fun p => p.1 < (longestBlock xs ys).i

/-- The pairs after it, counted from its end. -/
def pairsAfter (xs ys : List α) (pairs : Finset (ℕ × ℕ)) : Finset (ℕ × ℕ) :=
  (pairs.filter fun p => (longestBlock xs ys).i + (longestBlock xs ys).size ≤ p.1).image
    fun p => (p.1 - ((longestBlock xs ys).i + (longestBlock xs ys).size),
      p.2 - ((longestBlock xs ys).j + (longestBlock xs ys).size))

section Step

variable (pairing : Pairing xs ys pairs) (guarded : Guarded xs ys pairs)
  (matched : (longestBlock xs ys).size ≠ 0)

include pairing

omit [DecidableEq α] in
/-- A run of pairs has the same items on both sides. -/
theorem Pairing.isRun {run : Block} (paired : ∀ k < run.size, (run.i + k, run.j + k) ∈ pairs) :
    run.IsRun xs ys := fun k inside => pairing.same _ (paired k inside)

omit [DecidableEq α] in
/-- An item is in one pair only. -/
theorem Pairing.right_unique {k : ℕ} (first : (i, j) ∈ pairs) (second : (i, k) ∈ pairs) :
    j = k := by
  have less := pairing.inOrder _ first _ second
  have more := pairing.inOrder _ second _ first
  simp only at less more
  omega

include guarded

/-- **The longest block is one of pairs**: a stray in it would be guarded against by a run
that is preferred to it. -/
theorem longestBlock_paired : ∀ k < (longestBlock xs ys).size,
    ((longestBlock xs ys).i + k, (longestBlock xs ys).j + k) ∈ pairs := by
  intro k inside
  by_contra stray
  obtain ⟨run, paired, -, preferred⟩ :=
    guarded _ _ (isRun_longestBlock xs ys k inside) stray
  have first := preferred _ (isRun_longestBlock xs ys) ⟨k, inside, rfl, rfl⟩
  refine not_preferred_longestBlock (pairing.isRun paired) ?_ first
  rcases first with longer | ⟨asLong, -⟩ <;> omega

include matched

/-- A pair before the block on the left is before it on the right. -/
theorem before_iff {p : ℕ × ℕ} (isPair : p ∈ pairs) :
    p.1 < (longestBlock xs ys).i ↔ p.2 < (longestBlock xs ys).j :=
  pairing.inOrder p isPair _
    (longestBlock_paired pairing guarded 0 (Nat.pos_of_ne_zero matched))

/-- A pair after the block on the left is after it on the right. -/
theorem after_iff {p : ℕ × ℕ} (isPair : p ∈ pairs) :
    (longestBlock xs ys).i + (longestBlock xs ys).size ≤ p.1 ↔
      (longestBlock xs ys).j + (longestBlock xs ys).size ≤ p.2 := by
  have last := longestBlock_paired pairing guarded ((longestBlock xs ys).size - 1) (by omega)
  have inOrder := pairing.inOrder _ last p isPair
  simp only at inOrder
  omega

theorem mem_pairsAfter_iff {q : ℕ × ℕ} : q ∈ pairsAfter xs ys pairs ↔
    ((longestBlock xs ys).i + (longestBlock xs ys).size + q.1,
      (longestBlock xs ys).j + (longestBlock xs ys).size + q.2) ∈ pairs := by
  unfold pairsAfter
  rw [Finset.mem_image]
  constructor
  · rintro ⟨p, isPair, rfl⟩
    obtain ⟨isPair, afterLeft⟩ := Finset.mem_filter.mp isPair
    have afterRight := (after_iff pairing guarded matched isPair).mp afterLeft
    simp only
    rwa [Nat.add_sub_cancel' afterLeft, Nat.add_sub_cancel' afterRight]
  · intro isPair
    exact ⟨_, Finset.mem_filter.mpr ⟨isPair, by simp⟩, by simp⟩

theorem pairing_before : Pairing (before xs ys).1 (before xs ys).2 (pairsBefore xs ys pairs) where
  same := by
    intro p member
    obtain ⟨isPair, isBefore⟩ := Finset.mem_filter.mp member
    exact sameItem_take_iff.mpr ⟨isBefore, (before_iff pairing guarded matched isPair).mp isBefore,
      pairing.same p isPair⟩
  inOrder := fun p inP q inQ =>
    pairing.inOrder p (Finset.mem_filter.mp inP).1 q (Finset.mem_filter.mp inQ).1

theorem pairing_after : Pairing (after xs ys).1 (after xs ys).2 (pairsAfter xs ys pairs) where
  same := by
    intro p member
    exact sameItem_drop_iff.mpr
      (pairing.same _ ((mem_pairsAfter_iff pairing guarded matched).mp member))
  inOrder := by
    intro p inP q inQ
    have inOrder := pairing.inOrder _ ((mem_pairsAfter_iff pairing guarded matched).mp inP) _
      ((mem_pairsAfter_iff pairing guarded matched).mp inQ)
    simp only at inOrder
    omega

/-- **A stray before the block is guarded against there.**  The run does not reach into the
block, which could then be extended by the run's item before it. -/
theorem guarded_before :
    Guarded (before xs ys).1 (before xs ys).2 (pairsBefore xs ys pairs) := by
  intro i j same notPair
  obtain ⟨beforeLeft, beforeRight, same⟩ := sameItem_take_iff.mp same
  have stray : (i, j) ∉ pairs := fun isPair =>
    notPair (Finset.mem_filter.mpr ⟨isPair, beforeLeft⟩)
  obtain ⟨run, paired, crosses, preferred⟩ := guarded i j same stray
  have first := paired 0 (size_pos_of_preferred same preferred)
  have startsBefore : run.i < (longestBlock xs ys).i := by
    have starts := before_iff pairing guarded matched first
    have notAfter := crosses.1
    simp only [Nat.add_zero] at starts
    omega
  have inside : run.i + run.size ≤ (longestBlock xs ys).i := by
    by_contra reaches
    -- The run has the block's first pair, and so the item before it on both sides.
    obtain ⟨back, isBack⟩ : ∃ back, run.i + (back + 1) = (longestBlock xs ys).i :=
      ⟨(longestBlock xs ys).i - run.i - 1, by omega⟩
    have onRun := paired (back + 1) (by omega)
    rw [isBack] at onRun
    have onBlock := longestBlock_paired pairing guarded 0 (Nat.pos_of_ne_zero matched)
    have sameRight := pairing.right_unique onRun onBlock
    have extended : Block.IsRun xs ys
        ⟨run.i + back, run.j + back, (longestBlock xs ys).size + 1⟩ := by
      intro k within
      cases k with
      | zero => exact pairing.same _ (paired back (by omega))
      | succ k =>
          have onLongest := isRun_longestBlock xs ys k (by simpa using within)
          simp only
          convert onLongest using 1 <;> omega
    have tooLong := size_le_longestBlock extended
    simp only at tooLong
    omega
  refine ⟨run, fun k within => Finset.mem_filter.mpr ⟨paired k within, ?_⟩, crosses,
    fun other isRun through => preferred other (fun k within =>
      (sameItem_take_iff.mp (isRun k within)).2.2) through⟩
  simp only
  omega

/-- **A stray after the block is guarded against there.**  The run does not start in the
block, which could then be extended by the run's item after it. -/
theorem guarded_after :
    Guarded (after xs ys).1 (after xs ys).2 (pairsAfter xs ys pairs) := by
  intro i j same notPair
  have same := sameItem_drop_iff.mp same
  have stray := mt (mem_pairsAfter_iff pairing guarded matched (q := (i, j))).mpr notPair
  obtain ⟨run, paired, crosses, preferred⟩ := guarded _ _ same stray
  have some := size_pos_of_preferred same preferred
  have first := paired 0 some
  have startsAfter : (longestBlock xs ys).i + (longestBlock xs ys).size ≤ run.i := by
    by_contra starts
    by_cases ends : run.i + run.size ≤ (longestBlock xs ys).i + (longestBlock xs ys).size
    · -- The run ends where the block does or before, so it does not cross the stray.
      have last := after_iff pairing guarded matched (paired (run.size - 1) (by omega))
      have notBefore := crosses.2
      simp only at last
      omega
    · -- The run has the block's last pair, and so the item after it on both sides.
      obtain ⟨back, isBack⟩ : ∃ back, run.i + back =
          (longestBlock xs ys).i + ((longestBlock xs ys).size - 1) :=
        ⟨(longestBlock xs ys).i + ((longestBlock xs ys).size - 1) - run.i, by omega⟩
      have onRun := paired back (by omega)
      rw [isBack] at onRun
      have onBlock := longestBlock_paired pairing guarded ((longestBlock xs ys).size - 1) (by omega)
      have sameRight := pairing.right_unique onRun onBlock
      have extended : Block.IsRun xs ys
          ⟨(longestBlock xs ys).i, (longestBlock xs ys).j, (longestBlock xs ys).size + 1⟩ := by
        intro k within
        rcases Nat.lt_succ_iff_lt_or_eq.mp within with inBlock | isNext
        · exact isRun_longestBlock xs ys k inBlock
        · have next := pairing.same _ (paired (back + 1) (by omega))
          simp only at next ⊢
          convert next using 1 <;> omega
      have tooLong := size_le_longestBlock extended
      simp only at tooLong
      omega
  have startsAfterRight := (after_iff pairing guarded matched first).mp (by simpa using startsAfter)
  simp only [Nat.add_zero] at startsAfterRight
  refine ⟨⟨run.i - ((longestBlock xs ys).i + (longestBlock xs ys).size),
    run.j - ((longestBlock xs ys).j + (longestBlock xs ys).size), run.size⟩,
    fun k within => ?_, ?_, fun other isRun through => ?_⟩
  · rw [mem_pairsAfter_iff pairing guarded matched]
    have isPair := paired k within
    simp only
    convert isPair using 2 <;> omega
  · unfold Block.Crosses at crosses ⊢
    simp only
    omega
  · -- What is counted from the end of the block is counted from the start again.
    have whole := preferred ⟨(longestBlock xs ys).i + (longestBlock xs ys).size + other.i,
      (longestBlock xs ys).j + (longestBlock xs ys).size + other.j, other.size⟩
      (fun k within => by
        simp only [Nat.add_assoc]
        simpa only [Nat.add_assoc] using sameItem_drop_iff.mp (isRun k within))
      (by
        obtain ⟨k, within, rfl, rfl⟩ := through
        exact ⟨k, within, by simp only; omega, by simp only; omega⟩)
    unfold Block.Preferred Block.Earlier at whole ⊢
    simp only at whole ⊢
    omega

/-- The pairs are those before the block, those in it and those after it. -/
theorem card_pairs : pairs.card = (longestBlock xs ys).size + (pairsBefore xs ys pairs).card +
    (pairsAfter xs ys pairs).card := by
  -- By `longestBlock_paired` the pairs in the block are its own, one for each place.
  have inBlock : (pairs.filter fun p => (longestBlock xs ys).i ≤ p.1 ∧
      p.1 < (longestBlock xs ys).i + (longestBlock xs ys).size).card =
        (longestBlock xs ys).size := by
    have isImage : (pairs.filter fun p => (longestBlock xs ys).i ≤ p.1 ∧
        p.1 < (longestBlock xs ys).i + (longestBlock xs ys).size) =
          (Finset.range (longestBlock xs ys).size).image fun k =>
            ((longestBlock xs ys).i + k, (longestBlock xs ys).j + k) := by
      ext ⟨i, j⟩
      rw [Finset.mem_filter, Finset.mem_image]
      constructor
      · rintro ⟨isPair, fromStart, toEnd⟩
        obtain ⟨k, rfl⟩ := Nat.exists_eq_add_of_le fromStart
        have within : k < (longestBlock xs ys).size := by
          simp only at toEnd
          omega
        have onBlock := longestBlock_paired pairing guarded k within
        exact ⟨k, Finset.mem_range.mpr within,
          Prod.ext rfl (pairing.right_unique onBlock isPair)⟩
      · rintro ⟨k, within, same⟩
        obtain ⟨rfl, rfl⟩ := Prod.mk.inj same
        rw [Finset.mem_range] at within
        exact ⟨longestBlock_paired pairing guarded k within, by simp only; omega,
          by simp only; omega⟩
    rw [isImage, Finset.card_image_of_injective _ fun a b same => by
      have := congrArg Prod.fst same
      simp only at this
      omega, Finset.card_range]
  -- Counting from the end of the block is injective there.
  have isAfter : (pairsAfter xs ys pairs).card = (pairs.filter fun p =>
      (longestBlock xs ys).i + (longestBlock xs ys).size ≤ p.1).card := by
    unfold pairsAfter
    refine Finset.card_image_of_injOn fun p inP q inQ same => ?_
    obtain ⟨pIs, pAfter⟩ := Finset.mem_filter.mp (Finset.mem_coe.mp inP)
    obtain ⟨qIs, qAfter⟩ := Finset.mem_filter.mp (Finset.mem_coe.mp inQ)
    obtain ⟨left, right⟩ := Prod.mk.inj same
    have pRight := (after_iff pairing guarded matched pIs).mp pAfter
    have qRight := (after_iff pairing guarded matched qIs).mp qAfter
    exact Prod.ext (by omega) (by omega)
  have notBefore : (pairs.filter fun p => ¬ p.1 < (longestBlock xs ys).i).card =
      (longestBlock xs ys).size + (pairs.filter fun p =>
        (longestBlock xs ys).i + (longestBlock xs ys).size ≤ p.1).card := by
    rw [← inBlock, ← Finset.card_filter_add_card_filter_not
      fun p : ℕ × ℕ => p.1 < (longestBlock xs ys).i + (longestBlock xs ys).size,
      Finset.filter_filter, Finset.filter_filter]
    congr 2
    · exact Finset.filter_congr fun p _ => by rw [not_lt]
    · exact Finset.filter_congr fun p _ => by omega
  have parts := Finset.card_filter_add_card_filter_not (s := pairs)
    fun p => p.1 < (longestBlock xs ys).i
  rw [isAfter, pairsBefore]
  omega

end Step

/-- **A pairing of which every stray is guarded against is found**, by induction on the
length of the left sequence: the longest block is one of pairs, and before and after it
the strays are guarded against. -/
theorem blockMatches_eq_card (pairing : Pairing xs ys pairs) (guarded : Guarded xs ys pairs) :
    blockMatches xs ys = pairs.card := by
  induction length : xs.length using Nat.strongRecOn generalizing xs ys pairs with
  | ind n ih =>
      by_cases none : (longestBlock xs ys).size = 0
      · have empty : pairs = ∅ := by
          refine Finset.eq_empty_of_forall_notMem fun p isPair => ?_
          have single : Block.IsRun xs ys ⟨p.1, p.2, 1⟩ := by
            intro k inside
            obtain rfl : k = 0 := Nat.lt_one_iff.mp inside
            exact pairing.same p isPair
          have atLeast := size_le_longestBlock single
          simp only at atLeast
          omega
        rw [blockMatches_eq_zero none, empty, Finset.card_empty]
      · obtain ⟨less, less'⟩ := length_lt (isBlock_longestBlock xs ys) none
        have left := ih _ (length ▸ less) (pairing_before pairing guarded none)
          (guarded_before pairing guarded none) rfl
        have right := ih _ (length ▸ less') (pairing_after pairing guarded none)
          (guarded_after pairing guarded none) rfl
        rw [blockMatches_eq none, left, right, card_pairs pairing guarded none]


/-! ## Pairings without strays, and of one block -/

omit [DecidableEq α] in
/-- A sequence that both have is a pairing of its items. -/
theorem exists_pairing {common : List α} (left : common.Sublist xs) (right : common.Sublist ys) :
    ∃ pairs, Pairing xs ys pairs ∧ pairs.card = common.length ∧
      ∀ a ∈ common, ∃ p ∈ pairs, xs[p.1]? = some a ∧ ys[p.2]? = some a := by
  obtain ⟨f, inXs⟩ := List.sublist_iff_exists_orderEmbedding_getElem?_eq.mp left
  obtain ⟨g, inYs⟩ := List.sublist_iff_exists_orderEmbedding_getElem?_eq.mp right
  refine ⟨(Finset.range common.length).image fun k => (f k, g k), ⟨?_, ?_⟩, ?_, ?_⟩
  · rintro p member
    obtain ⟨k, inside, rfl⟩ := Finset.mem_image.mp member
    rw [Finset.mem_range] at inside
    exact ⟨common[k], by rw [← inXs, List.getElem?_eq_getElem inside],
      by rw [← inYs, List.getElem?_eq_getElem inside]⟩
  · intro p inP q inQ
    obtain ⟨k, -, rfl⟩ := Finset.mem_image.mp inP
    obtain ⟨l, -, rfl⟩ := Finset.mem_image.mp inQ
    simp only [OrderEmbedding.lt_iff_lt]
  · rw [Finset.card_image_of_injective _ fun k l same => f.injective (Prod.mk.inj same).1,
      Finset.card_range]
  · intro a member
    obtain ⟨k, inside, rfl⟩ := List.getElem_of_mem member
    exact ⟨_, Finset.mem_image_of_mem _ (Finset.mem_range.mpr inside),
      by rw [← inXs, List.getElem?_eq_getElem inside],
      by rw [← inYs, List.getElem?_eq_getElem inside]⟩

/-- An item that is not repeated stands at one position. -/
theorem position_unique {a : α} (once : xs.count a ≤ 1) {k l : ℕ} (atK : xs[k]? = some a)
    (atL : xs[l]? = some a) : k = l := by
  obtain ⟨inK, isK⟩ := List.getElem?_eq_some_iff.mp atK
  obtain ⟨inL, isL⟩ := List.getElem?_eq_some_iff.mp atL
  by_contra apart
  have twice : List.Duplicate a xs := by
    rw [List.duplicate_iff_exists_distinct_get]
    rcases lt_or_gt_of_ne apart with less | more
    · exact ⟨⟨k, inK⟩, ⟨l, inL⟩, less, isK.symm, isL.symm⟩
    · exact ⟨⟨l, inL⟩, ⟨k, inK⟩, more, isL.symm, isK.symm⟩
  have two := List.duplicate_iff_two_le_count.mp twice
  omega

/-- Where no shared item is repeated, a sequence of all that is shared leaves no stray. -/
theorem exists_guarded_of_once {common : List α} (left : common.Sublist xs)
    (right : common.Sublist ys) (all : common.length = shared xs ys)
    (once : ∀ a ∈ xs, a ∈ ys → xs.count a = 1 ∧ ys.count a = 1) :
    ∃ pairs, Pairing xs ys pairs ∧ pairs.card = shared xs ys ∧ Guarded xs ys pairs := by
  obtain ⟨pairs, pairing, card, each⟩ := exists_pairing left right
  refine ⟨pairs, pairing, card.trans all, fun i j same stray => ?_⟩
  obtain ⟨a, atI, atJ⟩ := same
  have inXs := List.mem_of_getElem? atI
  have inYs := List.mem_of_getElem? atJ
  -- All that is shared is in the common sequence.
  have inter : (common : Multiset α) = (xs : Multiset α) ∩ (ys : List α) :=
    Multiset.eq_of_le_of_card_le (Multiset.le_inter left.subperm right.subperm) all.ge
  have inCommon : a ∈ common := by
    rw [← Multiset.mem_coe, inter, Multiset.mem_inter]
    exact ⟨inXs, inYs⟩
  obtain ⟨p, isPair, atLeft, atRight⟩ := each a inCommon
  obtain ⟨onceLeft, onceRight⟩ := once a inXs inYs
  have isPlace : p = (i, j) := Prod.ext (position_unique onceLeft.le atLeft atI)
    (position_unique onceRight.le atRight atJ)
  exact absurd (isPlace ▸ isPair) stray

/-- The pairs of the longest block are guarded if it crosses every place: it is preferred to
every other run. -/
theorem guarded_longestBlock
    (whole : ∀ i j, SameItem xs ys i j → (longestBlock xs ys).Crosses i j) :
    Guarded xs ys ((Finset.range (longestBlock xs ys).size).image fun k =>
      ((longestBlock xs ys).i + k, (longestBlock xs ys).j + k)) := by
  intro i j same stray
  refine ⟨longestBlock xs ys, fun k inside =>
    Finset.mem_image_of_mem _ (Finset.mem_range.mpr inside), whole i j same,
    fun other isRun through => ?_⟩
  obtain ⟨k, inside, rfl, rfl⟩ := through
  have notPreferred := not_preferred_longestBlock isRun (Nat.ne_zero_of_lt inside)
  -- The other run is not the block itself, since the stray is none of the block's pairs.
  have apart : ¬ (other.size = (longestBlock xs ys).size ∧ other.i = (longestBlock xs ys).i ∧
      other.j = (longestBlock xs ys).j) := by
    rintro ⟨sameSize, sameLeft, sameRight⟩
    refine stray (Finset.mem_image.mpr ⟨k, Finset.mem_range.mpr (sameSize ▸ inside), ?_⟩)
    rw [sameLeft, sameRight]
  unfold Block.Preferred Block.Earlier at notPreferred ⊢
  omega

omit [DecidableEq α] in
/-- A part that stands in a sequence in one piece is a run, on either side. -/
theorem exists_isRun_of_infix (piece : xs <:+: ys) : ∃ start,
    Block.IsRun xs ys ⟨0, start, xs.length⟩ ∧ Block.IsRun ys xs ⟨start, 0, xs.length⟩ := by
  obtain ⟨before, after, rfl⟩ := piece
  have item : ∀ k < xs.length,
      (before ++ xs ++ after)[before.length + k]? = xs[0 + k]? := by
    intro k inside
    rw [List.append_assoc, List.getElem?_append_right (Nat.le_add_right _ _),
      Nat.add_sub_cancel_left, List.getElem?_append_left inside, Nat.zero_add]
  have isItem : ∀ k < xs.length, ∃ a, xs[0 + k]? = some a := fun k inside =>
    ⟨_, List.getElem?_eq_getElem (by omega)⟩
  refine ⟨before.length, fun k inside => ?_, fun k inside => ?_⟩
  · obtain ⟨a, atK⟩ := isItem k inside
    exact ⟨a, atK, (item k inside).trans atK⟩
  · obtain ⟨a, atK⟩ := isItem k inside
    exact ⟨a, (item k inside).trans atK, atK⟩

/-- A part shares all it has. -/
theorem shared_of_subperm (part : xs.Subperm ys) :
    shared xs ys = xs.length ∧ shared ys xs = xs.length := by
  have all : (xs : Multiset α) ∩ (ys : List α) = xs :=
    le_antisymm Multiset.inter_le_left (Multiset.le_inter le_rfl part)
  refine ⟨congrArg Multiset.card all, ?_⟩
  rw [shared, Multiset.inter_comm, all, Multiset.coe_card]

/-- Where one of the two sequences stands in the other in one piece, the longest block is
all of it. -/
theorem exists_guarded_of_infix (piece : xs <:+: ys ∨ ys <:+: xs) :
    ∃ pairs, Pairing xs ys pairs ∧ pairs.card = shared xs ys ∧ Guarded xs ys pairs := by
  have isBlock := isBlock_longestBlock xs ys
  have left := isBlock.left
  have right := isBlock.right
  have whole : (longestBlock xs ys).size = shared xs ys ∧
      ((longestBlock xs ys).size = xs.length ∨ (longestBlock xs ys).size = ys.length) := by
    rcases piece with inYs | inXs
    · obtain ⟨start, isRun, -⟩ := exists_isRun_of_infix inYs
      have long : xs.length ≤ _ := size_le_longestBlock isRun
      have all := (shared_of_subperm inYs.sublist.subperm).1
      omega
    · obtain ⟨start, -, isRun⟩ := exists_isRun_of_infix inXs
      have long : ys.length ≤ _ := size_le_longestBlock isRun
      have all := (shared_of_subperm inXs.sublist.subperm).2
      omega
  refine ⟨_, ⟨?_, ?_⟩, ?_, guarded_longestBlock fun i j same => ?_⟩
  · intro p member
    obtain ⟨k, inside, rfl⟩ := Finset.mem_image.mp member
    exact isRun_longestBlock xs ys k (Finset.mem_range.mp inside)
  · intro p inP q inQ
    obtain ⟨k, -, rfl⟩ := Finset.mem_image.mp inP
    obtain ⟨l, -, rfl⟩ := Finset.mem_image.mp inQ
    simp only
    omega
  · rw [Finset.card_image_of_injective _ fun k l same => by
      have left := (Prod.mk.inj same).1
      omega, Finset.card_range, whole.1]
  · have inside := same.lt
    unfold Block.Crosses
    omega

end DicePipeline.Sequence
