import Mathlib.Algebra.BigOperators.Group.Finset.Basic
import Mathlib.Algebra.Order.BigOperators.Group.Finset
import Mathlib.Algebra.Order.Group.Multiset
import Mathlib.Algebra.Order.Sub.Basic
import DicePipeline.Text.Words

/-!
# Text against the text of the original (`remediation/pdf_quality.py`)

`_text_against_source` counts the runs of five words that a page has more often than the
page of the original, and the words that are missing or added.

A page that has the words of the original in another order has none missing and none
added, but it may have a run of the original's more often than the original
(`reflowed_text_repeated`).  `reflowed_text_iff` says that this is the only reason for
which something is reported of it, and `gainsNoRun_of_nodup` that there is none on a page
on which no word is repeated.
-/

namespace DicePipeline

/-! ## Phrases -/

/-- `PHRASE_LENGTH`. -/
def phraseLength : ℕ := 5

/-- `_phrases`. -/
def phrases (words : List Text) : Multiset (List Text) :=
  ((List.range (words.length + 1 - phraseLength)).map fun i =>
    (words.drop i).take phraseLength : List (List Text))

/-- How much more often each phrase of the original's stands in the words. -/
def repeatedPhrases (words sourceWords : List Text) : ℕ :=
  ∑ phrase ∈ (phrases words).toFinset with
    0 < (phrases sourceWords).count phrase ∧
      (phrases sourceWords).count phrase < (phrases words).count phrase,
    ((phrases words).count phrase - (phrases sourceWords).count phrase)

/-- `_text_against_source`: the repeated phrases, the words that are missing and the words
that are added. -/
def textAgainstSource (words sourceWords : List Text) : ℕ × ℕ × ℕ :=
  (repeatedPhrases words sourceWords,
    ((sourceWords : Multiset Text) - (words : Multiset Text)).card,
    ((words : Multiset Text) - (sourceWords : Multiset Text)).card)

/-! ## Re-flowed text -/

/-- The places where a run of words stands. -/
def places (run words : List Text) : Finset ℕ :=
  (Finset.range (words.length + 1)).filter fun i => run <+: words.drop i

/-- **No run is gained.**  No five words that stand together in the original stand together at
more places than there.

Places are counted and may overlap, as windows of five words do.  A run that is no run of the
original is not looked for. -/
def GainsNoRun (words sourceWords : List Text) : Prop :=
  ∀ run : List Text, run.length = phraseLength → run <:+: sourceWords →
    (places run words).card ≤ (places run sourceWords).card

variable {words sourceWords run : List Text}

/-- A run stands at a place if it is what is taken there. -/
theorem mem_places_iff {i : ℕ} (length : run.length = phraseLength) :
    i ∈ places run words ↔
      i < words.length + 1 - phraseLength ∧ run = (words.drop i).take phraseLength := by
  unfold places
  rw [Finset.mem_filter, Finset.mem_range, List.prefix_iff_eq_take, length]
  constructor
  · rintro ⟨inside, isTaken⟩
    refine ⟨?_, isTaken⟩
    have enough := congrArg List.length isTaken
    rw [length, List.length_take, List.length_drop] at enough
    unfold phraseLength at *
    omega
  · rintro ⟨inside, isTaken⟩
    exact ⟨by omega, isTaken⟩

/-- A phrase is counted once for each place. -/
theorem count_phrases (length : run.length = phraseLength) :
    (phrases words).count run = (places run words).card := by
  have isPlaces : places run words =
      (Finset.range (words.length + 1 - phraseLength)).filter fun i =>
        run = (words.drop i).take phraseLength := by
    ext i
    rw [mem_places_iff length, Finset.mem_filter, Finset.mem_range]
  rw [isPlaces, phrases, ← Multiset.map_coe, Multiset.count_map]
  rfl

theorem length_of_mem_phrases (member : run ∈ phrases words) : run.length = phraseLength := by
  obtain ⟨i, inRange, rfl⟩ := List.mem_map.mp (Multiset.mem_coe.mp member)
  rw [List.mem_range] at inRange
  rw [List.length_take, List.length_drop]
  omega

/-- A run that stands somewhere is a part. -/
theorem places_nonempty_iff : (places run words).Nonempty ↔ run <:+: words := by
  constructor
  · rintro ⟨i, member⟩
    exact (Finset.mem_filter.mp member).2.isInfix.trans (List.drop_suffix i words).isInfix
  · rintro ⟨before, after, isWords⟩
    refine ⟨before.length, Finset.mem_filter.mpr ⟨?_, ?_⟩⟩
    · rw [Finset.mem_range, ← isWords]
      simp only [List.length_append]
      omega
    · rw [← isWords, List.append_assoc, List.drop_left]
      exact List.prefix_append run after

/-- Nothing is repeated if and only if no run of the original stands at more places. -/
theorem repeatedPhrases_eq_zero_iff :
    repeatedPhrases words sourceWords = 0 ↔ GainsNoRun words sourceWords := by
  unfold repeatedPhrases GainsNoRun
  rw [Finset.sum_eq_zero_iff]
  constructor
  · intro noneRepeated run length inSource
    by_contra gained
    rw [not_le, ← count_phrases length, ← count_phrases length] at gained
    have counted : 0 < (phrases sourceWords).count run := by
      rw [count_phrases length, Finset.card_pos]
      exact places_nonempty_iff.mpr inSource
    have isPhrase : run ∈ phrases words := Multiset.count_pos.mp (counted.trans gained)
    have none := noneRepeated run
      (Finset.mem_filter.mpr ⟨Multiset.mem_toFinset.mpr isPhrase, counted, gained⟩)
    omega
  · intro gainsNone run repeated
    obtain ⟨isPhrase, counted, gained⟩ := Finset.mem_filter.mp repeated
    have length := length_of_mem_phrases (Multiset.mem_toFinset.mp isPhrase)
    rw [count_phrases length] at counted gained ⊢
    rw [count_phrases length] at gained ⊢
    have inSource := places_nonempty_iff.mp (Finset.card_pos.mp counted)
    exact absurd (gainsNone run length inSource) (not_le.mpr gained)

/-- **Words in another order.**  None is missing and none is added, and none is reported as
repeated if and only if no five words that stand together in the original stand together
more often. -/
theorem reflowed_text_iff (reflowed : words.Perm sourceWords) :
    (textAgainstSource words sourceWords).2 = (0, 0) ∧
      ((textAgainstSource words sourceWords).1 = 0 ↔ GainsNoRun words sourceWords) := by
  have same : (words : Multiset Text) = sourceWords := Multiset.coe_eq_coe.mpr reflowed
  refine ⟨?_, repeatedPhrases_eq_zero_iff⟩
  unfold textAgainstSource
  rw [same, tsub_self, Multiset.card_zero]

/-- A run of words without repeats stands at one place at most. -/
theorem places_card_le_one (nodup : words.Nodup) (length : run.length = phraseLength) :
    (places run words).card ≤ 1 := by
  rw [Finset.card_le_one]
  intro i atI j atJ
  obtain ⟨insideI, isAtI⟩ := (mem_places_iff length).mp atI
  obtain ⟨insideJ, isAtJ⟩ := (mem_places_iff length).mp atJ
  -- The first word of the run is the word at either place.
  have first : ∀ k < words.length + 1 - phraseLength,
      run = (words.drop k).take phraseLength → run[0]? = words[k]? := by
    intro k inside isAt
    rw [isAt, List.getElem?_take_of_lt (by decide), List.getElem?_drop, Nat.add_zero]
  have same := (first i insideI isAtI).symm.trans (first j insideJ isAtJ)
  have inside : i < words.length := by
    unfold phraseLength at insideI
    omega
  exact (List.getElem?_inj inside nodup).mp same

/-- Where no word is repeated, no order of the words gains a run. -/
theorem gainsNoRun_of_nodup (nodup : sourceWords.Nodup) (reflowed : words.Perm sourceWords) :
    GainsNoRun words sourceWords := by
  intro run length inSource
  calc (places run words).card
      ≤ 1 := places_card_le_one (reflowed.nodup_iff.mpr nodup) length
    _ ≤ (places run sourceWords).card := Finset.card_pos.mpr (places_nonempty_iff.mpr inSource)

section Reflow

/-- `a b c d e`, forwards and then backwards. -/
private def thereAndBack : List Text :=
  ["a", "b", "c", "d", "e", "e", "d", "c", "b", "a"].map String.toList

/-- The same ten words: `a b c d e`, twice forwards. -/
private def twiceForwards : List Text :=
  ["a", "b", "c", "d", "e", "a", "b", "c", "d", "e"].map String.toList

/-- Ten words in another order, none missing and none added, of which five are reported as
repeated. -/
theorem reflowed_text_repeated : ¬ ∀ words sourceWords : List Text,
    words.Perm sourceWords → textAgainstSource words sourceWords = (0, 0, 0) := by
  intro claim
  have none := claim twiceForwards thereAndBack (by decide)
  exact absurd none (by decide)

/-- An instance: the words that are reported gain a run, and those that stand as in the
original do not. -/
theorem reflowed_text_iff_thereAndBack :
    ¬ GainsNoRun twiceForwards thereAndBack ∧
      textAgainstSource thereAndBack thereAndBack = (0, 0, 0) := by
  constructor
  · rw [← (reflowed_text_iff (by decide)).2]
    decide
  · obtain ⟨noneElse, noneRepeated⟩ := reflowed_text_iff (.refl thereAndBack)
    exact Prod.ext (noneRepeated.mpr fun run _ _ => le_rfl) noneElse

end Reflow

end DicePipeline
