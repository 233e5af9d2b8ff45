import Mathlib.Algebra.Order.Field.Basic
import Mathlib.Order.Bounds.Basic
import DicePipeline.Ocr.Truth
import DicePipeline.Sequence.Paired

/-!
# Reading order that is as it should be

`reading_order_score` divides what a block matching finds by what the two lists of words
share, so that a word which only one side has does not lower it.  It is 1 if and only if
everything shared is matched (`readingOrderScore_eq_one_iff`).

Words that are shared in the same order are not always matched: the longest block may
be of words that stand together elsewhere on the page (`same_order_scored_lower`).
`same_order_scores_one` gives a condition on the two lists under which they are.

### What is load-bearing

`PairedOff` speaks of the two lists and of nothing that the matching computes.  A word that
stands at several places gives rise to strays, places where the two lists have the same
word by coincidence.  A stray does no harm if a run of words that belong together crosses
it and is longer than whatever stands together around the stray.  So the words of a page
may be repeated, as `the` and `of` are, as long as what is repeated is shorter than the
runs of text around it.  Two kinds of pages are always such: those on which no shared word
is repeated (`pairedOff_of_once`), and those of which one is a piece of the other
(`pairedOff_of_infix`).
-/

namespace DicePipeline.Ocr

open Sequence

/-- The longest sequence of words that both have, in the order of both, has all the words
they share. -/
def SameOrder (truth output : List Text) : Prop :=
  IsGreatest {n | ∃ common : List Text, common.Sublist truth ∧ common.Sublist output ∧
    common.length = n} (shared truth output)

/-- **The condition.**  What the two lists share can be paired off in order, in such a way
that every other place at which they have the same word is crossed by a run of pairs that
is longer than any run through that place, or as long and earlier. -/
def PairedOff (truth output : List Text) : Prop :=
  ∃ pairs, Pairing truth output pairs ∧ pairs.card = shared truth output ∧
    Guarded truth output pairs

variable {truth output : List Text}

/-- No common sequence is longer than what is shared. -/
theorem length_le_shared {common : List Text} (left : common.Sublist truth)
    (right : common.Sublist output) : common.length ≤ shared truth output := by
  have both : (common : Multiset Text) ≤ (truth : Multiset Text) ∩ (output : Multiset Text) :=
    Multiset.le_inter left.subperm right.subperm
  exact Multiset.card_le_card both

theorem sameOrder_iff : SameOrder truth output ↔ ∃ common : List Text,
    common.Sublist truth ∧ common.Sublist output ∧ common.length = shared truth output := by
  refine ⟨fun order => order.1, fun common => ⟨common, ?_⟩⟩
  rintro n ⟨other, left, right, rfl⟩
  exact length_le_shared left right

/-- The score is 1 if and only if all that is shared is matched. -/
theorem readingOrderScore_eq_one_iff (share : shared truth output ≠ 0) :
    readingOrderScore truth output = 1 ↔ blockMatches truth output = shared truth output := by
  have some : 0 < shared truth output := Nat.pos_of_ne_zero share
  have total : truth.length + output.length ≠ 0 := by
    intro none
    obtain ⟨isNil, -⟩ : truth.length = 0 ∧ output.length = 0 := by omega
    rw [List.length_eq_zero_iff.mp isNil, shared] at some
    simp at some
  have matched := blockMatches_le_shared truth output
  have positive : (0 : ℚ) < shared truth output := by exact_mod_cast some
  have length : ((truth.length + output.length : ℕ) : ℚ) ≠ 0 := by exact_mod_cast total
  have quotient : ratio truth output /
      (2 * shared truth output / (truth.length + output.length : ℕ)) =
        blockMatches truth output / shared truth output := by
    rw [ratio, if_neg total, div_div_div_cancel_right₀ length, mul_div_mul_left _ _ two_ne_zero]
  rw [readingOrderScore, if_neg share, quotient, min_eq_left_iff, one_le_div₀ positive, Nat.cast_le]
  omega

/-- Where no shared word is repeated there is no other place. -/
theorem pairedOff_of_once (order : SameOrder truth output)
    (once : ∀ word ∈ truth, word ∈ output → truth.count word = 1 ∧ output.count word = 1) :
    PairedOff truth output := by
  obtain ⟨common, inTruth, inOutput, length⟩ := sameOrder_iff.mp order
  refine exists_guarded_of_once inTruth inOutput length fun word inLeft inRight => ?_
  convert once word inLeft inRight

/-- Where the one list is a piece of the other, the piece crosses every other place. -/
theorem pairedOff_of_infix (piece : truth <:+: output ∨ output <:+: truth) :
    PairedOff truth output := exists_guarded_of_infix piece

/-- **Words in the same order** score 1 if they are paired off: all that is paired is matched,
and all that is shared is paired.

The matching takes the longest run of equal words first, and what it takes cuts the lists in
two.  `PairedOff` says that no run off the pairs is ever the longest one left: across each place
of it there is a run of pairs that is longer, or as long and earlier. -/
theorem same_order_scores_one (truth output : List Text) (share : shared truth output ≠ 0)
    (paired : SameOrder truth output → PairedOff truth output) :
    SameOrder truth output → readingOrderScore truth output = 1 := by
  intro order
  obtain ⟨pairs, pairing, card, guarded⟩ := paired order
  rw [readingOrderScore_eq_one_iff share, blockMatches_eq_card pairing guarded, card]

section Cut

/-- `b c a x b x c`: the three words of `shortOutput` stand in it in order, among others. -/
private def longTruth : List Text :=
  ["b".toList, "c".toList, "a".toList, "x".toList, "b".toList, "x".toList, "c".toList]

private def shortOutput : List Text := ["a".toList, "b".toList, "c".toList]

/-- Every word of `a b c` stands in `b c a x b x c` in the same order, but the block
`b c` at its start is matched first, and leaves `a` with nothing to be matched with. -/
theorem same_order_scored_lower : ¬ ∀ truth output : List Text, shared truth output ≠ 0 →
    SameOrder truth output → readingOrderScore truth output = 1 := by
  intro claim
  have share : shared longTruth shortOutput ≠ 0 := by decide
  have order : SameOrder longTruth shortOutput :=
    sameOrder_iff.mpr ⟨shortOutput, by decide, by decide, by decide⟩
  have all := claim longTruth shortOutput share order
  rw [readingOrderScore_eq_one_iff share] at all
  exact absurd all (by decide)

/-- `b c a x b x c b`: words of which some are repeated on the page. -/
private def longerOutput : List Text := longTruth ++ ["b".toList]

/-- An instance of the condition: repeated words that stand in the output as they do in the
truth, with one more after them. -/
theorem same_order_scores_one_longerOutput : readingOrderScore longTruth longerOutput = 1 := by
  have share : shared longTruth longerOutput ≠ 0 := by decide
  have order : SameOrder longTruth longerOutput :=
    sameOrder_iff.mpr ⟨longTruth, by decide, by decide, by decide⟩
  exact same_order_scores_one longTruth longerOutput share
    (fun _ => pairedOff_of_infix (.inl ⟨[], ["b".toList], rfl⟩)) order

end Cut

end DicePipeline.Ocr
