import Mathlib.Tactic.NormNum
import Mathlib.Tactic.Linarith
import Mathlib.Data.Rat.Lemmas
import Mathlib.Algebra.Order.Field.Rat
import DicePipeline.Fonts.Offset

/-!
# What the offset search finds

The search keeps the first offset of the best score.  The offset that gives the
true text reads as printable text, so what is found is an offset of its score or of
a better one.  If nothing scores better, it is the true one if and only if no smaller
offset reads as printable text that scores as well (`offset_found_iff`).  A text in
small letters has such an offset: the one that makes them capitals.

### What is load-bearing

The offsets are tried in their order, and a later one replaces an earlier one only if it
scores more.  So a tie is decided by the order alone, and the condition is about smaller
offsets only.  An offset that does not read as printable text has no score, however many
words it hits.
-/

namespace DicePipeline.Fonts

/-! ## The first of the best -/

section First

variable {ι : Type} {score : ι → Option ℚ} {best : Option ι × ℚ} {l : List ι} {s : ℚ} {i : ι}

/-- Keeps an item that scores better than the best so far. -/
def keepBetter (score : ι → Option ℚ) (best : Option ι × ℚ) (i : ι) : Option ι × ℚ :=
  (score i).elim best fun s => if s > best.2 then (some i, s) else best

theorem keepBetter_eq_self (worse : ∀ s, score i = some s → s ≤ best.2) :
    keepBetter score best i = best := by
  unfold keepBetter
  cases isScore : score i with
  | none => rfl
  | some s => exact if_neg (not_lt.mpr (worse s isScore))

/-- What is not beaten stays. -/
theorem foldl_keepBetter_eq_self (worse : ∀ i ∈ l, ∀ s, score i = some s → s ≤ best.2) :
    l.foldl (keepBetter score) best = best := by
  induction l with
  | nil => rfl
  | cons i rest ih =>
    rw [List.foldl_cons, keepBetter_eq_self (worse i List.mem_cons_self)]
    exact ih fun j member => worse j (List.mem_cons_of_mem _ member)

/-- What is worse than a score leaves the best below it. -/
theorem foldl_keepBetter_lt (low : best.2 < s)
    (worse : ∀ i ∈ l, ∀ t, score i = some t → t < s) :
    (l.foldl (keepBetter score) best).2 < s := by
  induction l generalizing best with
  | nil => exact low
  | cons i rest ih =>
    rw [List.foldl_cons]
    refine ih ?_ fun j member => worse j (List.mem_cons_of_mem _ member)
    unfold keepBetter
    cases isScore : score i with
    | none => exact low
    | some t =>
      have below := worse i List.mem_cons_self t isScore
      simp only [Option.elim_some]
      split
      · exact below
      · exact low

/-- The first item of a score that nothing beats is kept. -/
theorem foldl_keepBetter_first {before after : List ι} (low : best.2 < s)
    (isScore : score i = some s) (worse : ∀ j ∈ before, ∀ t, score j = some t → t < s)
    (notBetter : ∀ j ∈ after, ∀ t, score j = some t → t ≤ s) :
    (before ++ i :: after).foldl (keepBetter score) best = (some i, s) := by
  rw [List.foldl_append, List.foldl_cons]
  have taken : keepBetter score (before.foldl (keepBetter score) best) i = (some i, s) := by
    unfold keepBetter
    rw [isScore]
    exact if_pos (foldl_keepBetter_lt low worse)
  rw [taken]
  exact foldl_keepBetter_eq_self notBetter

/-- In a list with an item of a score there is a first one. -/
theorem exists_first (member : i ∈ l) (isScore : score i = some s)
    (notBetter : ∀ j ∈ l, ∀ t, score j = some t → t ≤ s) :
    ∃ before j after, l = before ++ j :: after ∧ score j = some s ∧
      ∀ j ∈ before, ∀ t, score j = some t → t < s := by
  induction l with
  | nil => exact absurd member List.not_mem_nil
  | cons first rest ih =>
    by_cases isFirst : score first = some s
    · exact ⟨[], first, rest, rfl, isFirst, fun j inNone => absurd inNone List.not_mem_nil⟩
    · have later : i ∈ rest := by
        rcases List.mem_cons.mp member with rfl | later
        · exact absurd isScore isFirst
        · exact later
      obtain ⟨before, j, after, rfl, isBest, worse⟩ :=
        ih later fun j inRest => notBetter j (List.mem_cons_of_mem _ inRest)
      refine ⟨first :: before, j, after, rfl, isBest, ?_⟩
      intro k inBefore t isScore'
      rcases List.mem_cons.mp inBefore with rfl | inBefore
      · refine lt_of_le_of_ne (notBetter k List.mem_cons_self t isScore') ?_
        rintro rfl
        exact isFirst isScore'
      · exact worse k inBefore t isScore'

end First

/-! ## Offsets -/

variable {sequence text : List (Option ℕ)} {offset k : ℤ}

/-- The score of an offset whose reading is printable. -/
def scoreOf (sequence : List (Option ℕ)) (offset : ℤ) : Option ℚ :=
  (shifted offset sequence).bind fun reading =>
    if printableRatio reading < minPrintableRatio then none else some (wordHitRatio reading)

theorem tryOffset_eq : tryOffset sequence = keepBetter (scoreOf sequence) := by
  funext best offset
  unfold tryOffset keepBetter scoreOf
  cases shifted offset sequence with
  | none => rfl
  | some reading =>
    simp only [Option.bind_some]
    split
    · rfl
    · rfl

theorem sorted_offsets : offsets.Pairwise (· < ·) := by
  unfold offsets
  refine List.Pairwise.filter _ (List.pairwise_map.mpr ?_)
  refine List.pairwise_lt_range.imp ?_
  intro m n less
  omega

theorem mem_offsets : offset ∈ offsets ↔ 1 ≤ |offset| ∧ |offset| ≤ 255 := by
  unfold offsets
  rw [List.mem_filter, List.mem_map]
  constructor
  · rintro ⟨⟨n, inRange, rfl⟩, notZero⟩
    have := List.mem_range.mp inRange
    have notZero := of_decide_eq_true notZero
    exact ⟨Int.one_le_abs notZero, abs_le.mpr ⟨by omega, by omega⟩⟩
  · intro small
    have := abs_le.mp small.2
    refine ⟨⟨(offset + 255).toNat, List.mem_range.mpr ?_, ?_⟩, ?_⟩
    · omega
    · omega
    · refine decide_eq_true ?_
      rintro rfl
      simp at small

/-! ## The true text -/

/-- A text, its boundaries read as spaces. -/
def plain (text : List (Option ℕ)) : List ℕ := text.map fun c => c.getD 0x20

/-- The codes of a text, each `k` less than the code point. -/
def codesOf (k : ℤ) (text : List (Option ℕ)) : List (Option ℕ) :=
  text.map fun c => c.map fun c => ((c : ℤ) - k).toNat

/-- A code point of printable ASCII, with a code that is not negative. -/
def Shiftable (k : ℤ) (c : ℕ) : Prop := (0x20 ≤ c ∧ c ≤ 0x7E) ∧ 0 ≤ (c : ℤ) - k

theorem shifted_codesOf (shiftable : ∀ c, some c ∈ text → Shiftable k c) :
    shifted k (codesOf k text) = some (plain text) := by
  unfold shifted codesOf plain
  induction text with
  | nil => rfl
  | cons first rest ih =>
    rw [List.map_cons, List.mapM_cons, List.map_cons,
      ih fun c member => shiftable c (List.mem_cons_of_mem _ member)]
    cases first with
    | none => rfl
    | some c =>
      obtain ⟨⟨-, small⟩, notNegative⟩ := shiftable c List.mem_cons_self
      have back : (((c : ℤ) - k).toNat : ℤ) + k = c := by omega
      show (if 0 ≤ (((c : ℤ) - k).toNat : ℤ) + k ∧ (((c : ℤ) - k).toNat : ℤ) + k ≤ 0x10FFFF then
        some ((((c : ℤ) - k).toNat : ℤ) + k).toNat else none) >>= _ = _
      rw [back, if_pos ⟨by omega, by omega⟩, Int.toNat_natCast]
      rfl

theorem printableRatio_plain (shiftable : ∀ c, some c ∈ text → Shiftable k c)
    (notEmpty : text ≠ []) : printableRatio (plain text) = 1 := by
  have all : (plain text).countP isPrintable = (plain text).length := by
    refine List.countP_eq_length.mpr ?_
    intro c member
    obtain ⟨item, inText, rfl⟩ := List.mem_map.mp member
    cases item with
    | none => decide
    | some c =>
      obtain ⟨⟨low, high⟩, -⟩ := shiftable c inText
      simp [isPrintable, low, high]
  have positive : (plain text).length ≠ 0 := by
    simpa [plain] using notEmpty
  unfold printableRatio
  rw [all, div_self (Nat.cast_ne_zero.mpr positive)]

theorem wordHitRatio_le_one (text : List ℕ) : wordHitRatio text ≤ 1 := by
  unfold wordHitRatio
  refine div_le_one_of_le₀ ?_ (Nat.cast_nonneg _)
  exact Nat.cast_le.mpr List.countP_le_length

theorem score_true (shiftable : ∀ c, some c ∈ text → Shiftable k c)
    (enough : minUsedCodes ≤ text.countP Option.isSome) :
    scoreOf (codesOf k text) k = some (wordHitRatio (plain text)) := by
  have notEmpty : text ≠ [] := by
    rintro rfl
    exact absurd enough (by decide)
  unfold scoreOf
  rw [shifted_codesOf shiftable, Option.bind_some, printableRatio_plain shiftable notEmpty]
  exact if_neg (by unfold minPrintableRatio; norm_num)

/-- An offset is found for a text that none makes score better: the first of the
same score. -/
theorem exists_found (small : 1 ≤ |k| ∧ |k| ≤ 255)
    (shiftable : ∀ c, some c ∈ text → Shiftable k c)
    (enough : minUsedCodes ≤ text.countP Option.isSome)
    (words : minWordHitRatio ≤ wordHitRatio (plain text))
    (unbeaten : ∀ offset ∈ offsets, ∀ reading, shifted offset (codesOf k text) = some reading →
      wordHitRatio reading ≤ wordHitRatio (plain text)) :
    ∃ first ∈ offsets, bestOffset (codesOf k text) = some first ∧
      scoreOf (codesOf k text) first = some (wordHitRatio (plain text)) ∧
      ∀ offset ∈ offsets, offset < first → ∀ s, scoreOf (codesOf k text) offset = some s →
        s < wordHitRatio (plain text) := by
  have counted : (codesOf k text).countP Option.isSome = text.countP Option.isSome := by
    unfold codesOf
    rw [List.countP_map]
    refine List.countP_congr ?_
    intro c _
    cases c <;> simp
  have notBetter : ∀ offset ∈ offsets, ∀ s, scoreOf (codesOf k text) offset = some s →
      s ≤ wordHitRatio (plain text) := by
    intro offset member s isScore
    obtain ⟨reading, isReading, scored⟩ := Option.bind_eq_some_iff.mp isScore
    split at scored
    · exact absurd scored (by simp)
    · rw [← Option.some.inj scored]
      exact unbeaten offset member reading isReading
  have positive : (0 : ℚ) < wordHitRatio (plain text) :=
    lt_of_lt_of_le (by unfold minWordHitRatio; norm_num) words
  obtain ⟨before, first, after, split, isBest, worse⟩ :=
    exists_first (mem_offsets.mpr small) (score_true shiftable enough) notBetter
  have there : first ∈ offsets := split ▸ List.mem_append_right _ List.mem_cons_self
  refine ⟨first, there, ?_, isBest, ?_⟩
  · have kept := @foldl_keepBetter_first _ _ (none, 0) _ _ _ _ positive isBest worse
      fun j member => notBetter j (split ▸ List.mem_append_right _ (List.mem_cons_of_mem _ member))
    simp only [bestOffset]
    rw [if_neg (by omega), tryOffset_eq, split, kept]
    exact if_neg (not_lt.mpr words)
  · intro offset member less
    -- The offsets rise, so a smaller one comes before.
    have sorted := sorted_offsets
    rw [split] at sorted member
    have sortedAfter := (List.pairwise_append.mp sorted).2.1
    rcases List.mem_append.mp member with inBefore | inAfter
    · exact worse offset inBefore
    · rcases List.mem_cons.mp inAfter with rfl | later
      · exact absurd less (lt_irrefl _)
      · exact absurd (List.rel_of_pairwise_cons sortedAfter later) (by omega)

end DicePipeline.Fonts

namespace DicePipeline

open Fonts

/-- **When the search does not guess wrong**: for a text that no offset makes score better than
it does, if and only if no smaller offset makes it printable text that scores as well.

The offsets are tried from the smallest on, and one replaces another only if it scores better.
So of two that score alike the smaller one is found, and that may be the wrong one: letters read
32 places off are capitals. -/
theorem offset_found_iff (k : ℤ) (text : List (Option ℕ)) (small : 1 ≤ |k| ∧ |k| ≤ 255)
    (shiftable : ∀ c, some c ∈ text → Shiftable k c)
    (enough : minUsedCodes ≤ text.countP Option.isSome)
    (words : minWordHitRatio ≤ wordHitRatio (plain text))
    (unbeaten : ∀ offset ∈ offsets, ∀ reading, shifted offset (codesOf k text) = some reading →
      wordHitRatio reading ≤ wordHitRatio (plain text)) :
    (∀ offset, bestOffset (codesOf k text) = some offset → offset = k) ↔
      ∀ offset ∈ offsets, offset < k → ∀ reading,
        shifted offset (codesOf k text) = some reading →
        minPrintableRatio ≤ printableRatio reading →
        wordHitRatio reading < wordHitRatio (plain text) := by
  obtain ⟨first, there, found, isBest, worse⟩ :=
    exists_found small shiftable enough words unbeaten
  constructor
  · intro right offset member less reading isReading printable
    obtain rfl := right first found
    refine worse offset member less _ ?_
    unfold scoreOf
    rw [isReading]
    exact if_neg (not_lt.mpr printable)
  · intro noEarlier offset isFound
    obtain rfl := Option.some.inj (found.symm.trans isFound)
    by_contra different
    -- The true offset has the score too, so it does not come before the first that has.
    have earlier : first < k := by
      refine lt_of_le_of_ne (not_lt.mp ?_) different
      intro less
      exact lt_irrefl _
        (worse k (mem_offsets.mpr small) less _ (score_true shiftable enough))
    obtain ⟨reading, isReading, scored⟩ := Option.bind_eq_some_iff.mp isBest
    split at scored
    · exact absurd scored (by simp)
    · rename_i printable
      have less := noEarlier first there earlier reading isReading (not_lt.mp printable)
      rw [Option.some.inj scored] at less
      exact lt_irrefl _ less

/-- A text in one font, a space between its words. -/
def textOf (words : List String) : List (Option ℕ) :=
  words.flatMap fun word => word.toList.map (fun c => some c.toNat) ++ [none]

/-- The rule for a text in capitals. -/
theorem offset_found_iff_capitals :
    (∀ offset, bestOffset (codesOf 29 (textOf ["THE", "BOARD"])) = some offset → offset = 29) ↔
      ∀ offset ∈ offsets, offset < 29 → ∀ reading,
        shifted offset (codesOf 29 (textOf ["THE", "BOARD"])) = some reading →
        minPrintableRatio ≤ printableRatio reading →
        wordHitRatio reading < wordHitRatio (plain (textOf ["THE", "BOARD"])) := by
  have all : wordHitRatio (plain (textOf ["THE", "BOARD"])) = 1 := by decide +kernel
  have shiftable : ∀ item ∈ textOf ["THE", "BOARD"], ∀ c ∈ item, Shiftable 29 c := by
    unfold Shiftable
    decide +kernel
  refine offset_found_iff 29 (textOf ["THE", "BOARD"]) (by decide)
    (fun c member => shiftable (some c) member c rfl) (by decide +kernel) ?_ ?_
  · rw [all]
    decide +kernel
  · intro offset _ reading _
    rw [all]
    exact wordHitRatio_le_one reading

/-- The same text in small letters is read as capitals. -/
theorem small_letters_read_as_capitals :
    ¬ ∀ (k : ℤ) (text : List (Option ℕ)), 1 ≤ |k| ∧ |k| ≤ 255 →
      (∀ c, some c ∈ text → Shiftable k c) → minUsedCodes ≤ text.countP Option.isSome →
      minWordHitRatio ≤ wordHitRatio (plain text) →
      (∀ offset ∈ offsets, ∀ reading, shifted offset (codesOf k text) = some reading →
        wordHitRatio reading ≤ wordHitRatio (plain text)) →
      ∀ offset, bestOffset (codesOf k text) = some offset → offset = k := by
  intro always
  have all : wordHitRatio (plain (textOf ["the", "board"])) = 1 := by decide +kernel
  have shiftable : ∀ item ∈ textOf ["the", "board"], ∀ c ∈ item, Shiftable 29 c := by
    unfold Shiftable
    decide +kernel
  have enough : minUsedCodes ≤ (textOf ["the", "board"]).countP Option.isSome := by decide +kernel
  have words : minWordHitRatio ≤ wordHitRatio (plain (textOf ["the", "board"])) := by
    rw [all]
    decide +kernel
  have unbeaten : ∀ offset ∈ offsets, ∀ reading,
      shifted offset (codesOf 29 (textOf ["the", "board"])) = some reading →
      wordHitRatio reading ≤ wordHitRatio (plain (textOf ["the", "board"])) := by
    intro offset _ reading _
    rw [all]
    exact wordHitRatio_le_one reading
  have shiftable' := fun c member => shiftable (some c) member c rfl
  obtain ⟨first, -, found, -, worse⟩ :=
    exists_found (by decide) shiftable' enough words unbeaten
  obtain rfl := always 29 _ (by decide) shiftable' enough words unbeaten first found
  -- The offset -3 makes the letters capitals, and has the same score.
  have capitals : scoreOf (codesOf 29 (textOf ["the", "board"])) (-3) = some 1 := by
    decide +kernel
  have less := worse (-3) (mem_offsets.mpr (by decide)) (by decide) 1 capitals
  rw [all] at less
  exact lt_irrefl _ less

end DicePipeline
