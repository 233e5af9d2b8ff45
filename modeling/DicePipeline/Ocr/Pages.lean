import Mathlib.Algebra.Order.Sub.Basic
import Mathlib.Data.Multiset.OrderedMonoid
import DicePipeline.Ocr.Truth

/-!
# The numbers of a page's score

The numbers `score_page` gives a page are about the same two lists of words, and agree
with each other: what is not missing on the one side is not extra on the other, numbers
are missing no more often than words, and no fewer changes turn one list into the other
than there are words on one side only.
-/

namespace DicePipeline.Ocr

open Sequence

variable {words others : List Text}

/-- `numbers_in` as an operation on the multiset of the words. -/
theorem numbersIn_eq (words : List Text) : numbersIn words =
    ((words : Multiset Text).filter fun word => hasDigit word = true).map
      (stripOf numberEdges) := by
  rw [numbersIn, Multiset.filter_coe, Multiset.map_coe]
  simp

/-- A number that is missing is in a word that is missing, though words may be the same
number once they are stripped. -/
theorem card_numbers_sub_le (words others : List Text) :
    (numbersIn words - numbersIn others).card ≤
      ((words : Multiset Text) - (others : Multiset Text)).card := by
  have covered : (words : Multiset Text) ≤ others + ((words : Multiset Text) - others) :=
    Multiset.le_add_sub
  have numbers : numbersIn words ≤ numbersIn others +
      (((words : Multiset Text) - others).filter fun word => hasDigit word = true).map
        (stripOf numberEdges) := by
    rw [numbersIn_eq, numbersIn_eq, ← Multiset.map_add, ← Multiset.filter_add]
    exact Multiset.map_le_map (Multiset.filter_le_filter _ covered)
  calc (numbersIn words - numbersIn others).card
      ≤ ((((words : Multiset Text) - others).filter fun word => hasDigit word = true).map
          (stripOf numberEdges)).card :=
        Multiset.card_le_card (Multiset.sub_le_iff_le_add'.mpr numbers)
    _ = (((words : Multiset Text) - others).filter fun word => hasDigit word = true).card :=
        Multiset.card_map _ _
    _ ≤ ((words : Multiset Text) - others).card :=
        Multiset.card_le_card (Multiset.filter_le _ _)

/-- What is not on one side only is shared. -/
theorem card_sub_add_shared (words others : List Text) :
    ((words : Multiset Text) - (others : Multiset Text)).card + shared words others =
      words.length := by
  rw [shared, ← Multiset.card_add, Multiset.sub_add_inter, Multiset.coe_card]

theorem shared_comm (words others : List Text) : shared words others = shared others words := by
  rw [shared, shared, Multiset.inter_comm]

/-- Nothing is on one side only if and only if the lists are the same up to their order. -/
theorem none_missing_iff : (((words : Multiset Text) - (others : Multiset Text)).card = 0 ∧
    ((others : Multiset Text) - (words : Multiset Text)).card = 0) ↔ words.Perm others := by
  rw [Multiset.card_eq_zero, Multiset.card_eq_zero, tsub_eq_zero_iff_le, tsub_eq_zero_iff_le,
    ← Multiset.coe_eq_coe]
  exact ⟨fun both => le_antisymm both.1 both.2, fun same => ⟨same.le, same.ge⟩⟩

/-- **The numbers of a page agree with each other.**  Both sides share as many words; the numbers
that are missing or extra are words that are; the edit distance is at least what is missing
and at least what is extra; and nothing is either just if the one side is a permutation of
the other.

All of it is about the words as they are after `normalizeWords`, whatever NFKC makes of the
texts. -/
theorem page_scores_agree (nfkc : Text → Text) (round4 : ℚ → ℚ) (truthText outputText : Text) :
    let truth := normalizeWords nfkc truthText
    let output := normalizeWords nfkc outputText
    let page := scorePage nfkc round4 truthText outputText
    (page.truthWords : ℤ) - page.wordsMissing = page.outputWords - page.wordsExtra ∧
      page.numbersMissing ≤ page.wordsMissing ∧ page.numbersExtra ≤ page.wordsExtra ∧
      max page.wordsMissing page.wordsExtra ≤ editDistance truth output ∧
      ((page.wordsMissing = 0 ∧ page.wordsExtra = 0) ↔ truth.Perm output) := by
  intro truth output page
  have missing : page.wordsMissing + shared truth output = page.truthWords :=
    card_sub_add_shared truth output
  have extra : page.wordsExtra + shared output truth = page.outputWords :=
    card_sub_add_shared output truth
  have same := shared_comm truth output
  refine ⟨by omega, card_numbers_sub_le truth output, card_numbers_sub_le output truth, ?_,
    none_missing_iff⟩
  obtain ⟨left, right⟩ := (editDistance_fewest truth output).card_sub_le
  exact max_le left right

end DicePipeline.Ocr
