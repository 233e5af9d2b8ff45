import Mathlib.Algebra.Order.Ring.Rat
import Mathlib.Data.List.Dedup
import Mathlib.Data.List.GetD
import Mathlib.Data.List.Induction
import Mathlib.Data.List.Lex
import Mathlib.Data.List.Sort
import Mathlib.Data.Char
import DicePipeline.Sequence.Edits
import DicePipeline.Sequence.Matching
import DicePipeline.Text.Words

/-!
# Scoring a text against a transcription (`remediation/ocr_truth.py`)

`score_page` compares the words of a page's text with the words of its transcription:
how many are missing or extra, how many of these are numbers, how many changes turn one
list into the other, and whether the words that the two share come out in the same
order.

A `Counter` is the multiset of what it counts: `-` keeps what is counted more often on
the left, and `&` the lesser of the two counts.  Rates are exact, and `round4` stands
for what rounding does to them.  The table of Unicode's NFKC forms is a parameter.

`editDistance_fewest` is what the table of `edit_distance` computes.
-/

namespace DicePipeline.Ocr

open Sequence

/-! ## Words -/

/-- `_PUNCTUATION_FIXES`: curly quotes and dashes, and the plain ones. -/
def punctuationFixes : List (ℕ × ℕ) :=
  [(0x2018, 0x27), (0x2019, 0x27), (0x201C, 0x22), (0x201D, 0x22), (0x2013, 0x2D), (0x2014, 0x2D)]

/-- `str.translate(_PUNCTUATION_FIXES)`, of one character. -/
def fixPunctuation (c : Char) : Char :=
  match punctuationFixes.lookup c.toNat with
  | some plain => Char.ofNat plain
  | none => c

/-- `normalize_words`. -/
def normalizeWords (nfkc : Text → Text) (text : Text) : List Text :=
  Text.words ((nfkc text).map fixPunctuation)

/-- `_NUMBER.search`: the word has a digit in it. -/
def hasDigit (word : Text) : Bool := word.any Text.isDecimalDigit

/-- The punctuation that `numbers_in` strips. -/
def numberEdges : List Char := ".,;:()[]".toList ++ [Char.ofNat 0x22, Char.ofNat 0x27]

/-- `text.strip(characters)`. -/
def stripOf (characters : List Char) (text : Text) : Text :=
  ((text.dropWhile (· ∈ characters)).reverse.dropWhile (· ∈ characters)).reverse

/-- `numbers_in`. -/
def numbersIn (words : List Text) : Multiset Text :=
  ((words.filter hasDigit).map (stripOf numberEdges) : List Text)

/-! ## Error rates -/

section Distance

variable {α : Type*} [DecidableEq α]

/-- The body of the loop over `b`. -/
def nextCell (previous : List ℕ) (itemA : α) (current : List ℕ) (entry : α × ℕ) : List ℕ :=
  current ++ [min (min (previous.getD entry.2 0 + 1) (current.getD (entry.2 - 1) 0 + 1))
    (previous.getD (entry.2 - 1) 0 + cost itemA entry.1)]

/-- The body of the loop over `a`. -/
def nextRow (b : List α) (previous : List ℕ) (entry : α × ℕ) : List ℕ :=
  (b.zipIdx 1).foldl (nextCell previous entry.1) [entry.2]

/-- `edit_distance`. -/
def editDistance (a b : List α) : ℕ :=
  ((a.zipIdx 1).foldl (nextRow b) (List.range (b.length + 1))).getLastD 0

/-- `error_rate`. -/
def errorRate (truth output : List α) : ℚ :=
  if truth = [] then
    if output = [] then 0 else 1
  else editDistance truth output / truth.length

end Distance

/-! ## Reading order -/

/-- `SequenceMatcher(None, a, b, autojunk=False).ratio()`. -/
def ratio (a b : List Text) : ℚ :=
  if a.length + b.length = 0 then 1 else 2 * blockMatches a b / (a.length + b.length : ℕ)

/-- `reading_order_score`. -/
def readingOrderScore (truth output : List Text) : ℚ :=
  if shared truth output = 0 then
    if truth = [] ∧ output = [] then 1 else 0
  else min 1 (ratio truth output / (2 * shared truth output / (truth.length + output.length : ℕ)))

/-! ## Pages -/

/-- What `score_page` returns. -/
structure ScoredPage where
  truthWords : ℕ
  outputWords : ℕ
  wordErrorRate : ℚ
  charErrorRate : ℚ
  wordsMissing : ℕ
  wordsExtra : ℕ
  numbersMissing : ℕ
  numbersExtra : ℕ
  readingOrder : ℚ
  exampleMissing : List Text
  exampleExtra : List Text

/-- `sorted(Counter(words) - Counter(others))[:10]`. -/
def examples (words others : List Text) : List Text :=
  ((words.dedup.filter fun word => others.count word < words.count word).insertionSort
    (· ≤ ·)).take 10

/-- `score_page`. -/
def scorePage (nfkc : Text → Text) (round4 : ℚ → ℚ) (truthText outputText : Text) : ScoredPage :=
  let truth := normalizeWords nfkc truthText
  let output := normalizeWords nfkc outputText
  { truthWords := truth.length
    outputWords := output.length
    wordErrorRate := round4 (errorRate truth output)
    charErrorRate := round4 (errorRate (Text.join ' ' truth) (Text.join ' ' output))
    wordsMissing := ((truth : Multiset Text) - (output : Multiset Text)).card
    wordsExtra := ((output : Multiset Text) - (truth : Multiset Text)).card
    numbersMissing := (numbersIn truth - numbersIn output).card
    numbersExtra := (numbersIn output - numbersIn truth).card
    readingOrder := round4 (readingOrderScore truth output)
    exampleMissing := examples truth output
    exampleExtra := examples output truth }

/-! ## The table of `edit_distance` -/

section Distance

variable {α : Type*} [DecidableEq α] {xs b : List α} {x : α} {previous : List ℕ}

/-- A row of the table: for each start of `b` the fewest changes that make it of `xs`,
which is gone through from its end. -/
def IsRow (xs b : List α) (row : List ℕ) : Prop :=
  row.length = b.length + 1 ∧ ∀ j ≤ b.length, Fewest xs (b.take j).reverse (row.getD j 0)

omit [DecidableEq α] in
theorem IsRow.of_append {y : α} (isRow : ∀ j ≤ (b ++ [y]).length,
    Fewest xs ((b ++ [y]).take j).reverse (previous.getD j 0)) :
    ∀ j ≤ b.length, Fewest xs (b.take j).reverse (previous.getD j 0) := by
  intro j inside
  have whole := isRow j (by simp; omega)
  rwa [List.take_append_of_le_length inside] at whole

/-- The first row. -/
theorem isRow_range (b : List α) : IsRow [] b (List.range (b.length + 1)) := by
  refine ⟨List.length_range, fun j inside => ?_⟩
  have cell : (List.range (b.length + 1)).getD j 0 = (b.take j).reverse.length := by
    rw [List.getD_eq_getElem _ _ (by simp; omega), List.getElem_range, List.length_reverse,
      List.length_take]
    omega
  rw [cell]
  exact .nil_left _

/-- **One more row**, by induction on how far the loop over `b` has come. -/
theorem isRow_nextRow (isRow : ∀ j ≤ b.length, Fewest xs (b.take j).reverse (previous.getD j 0)) :
    IsRow (x :: xs) b (nextRow b previous (x, xs.length + 1)) := by
  unfold nextRow
  induction b using List.reverseRecOn with
  | nil =>
      refine ⟨rfl, fun j inside => ?_⟩
      obtain rfl : j = 0 := Nat.le_zero.mp inside
      exact Fewest.nil_right (x :: xs)
  | append_singleton b y ih =>
      obtain ⟨length, cells⟩ := ih (IsRow.of_append isRow)
      rw [List.zipIdx_append, List.foldl_append]
      generalize (b.zipIdx 1).foldl (nextCell previous x) [xs.length + 1] = current at *
      have last : List.zipIdx [y] (1 + b.length) = [(y, b.length + 1)] := by
        rw [List.zipIdx_singleton, Nat.add_comm]
      rw [last, List.foldl_cons, List.foldl_nil, nextCell, Nat.add_sub_cancel]
      refine ⟨by simp [length], fun j inside => ?_⟩
      rw [List.length_append, List.length_singleton] at inside
      by_cases earlier : j ≤ b.length
      · rw [List.take_append_of_le_length earlier, List.getD_append _ _ _ _ (by omega)]
        exact cells j earlier
      · obtain rfl : j = b.length + 1 := by omega
        rw [List.getD_append_right _ _ _ _ (by omega), length, Nat.sub_self, List.getD_cons_zero,
          List.take_of_length_le (by simp), List.reverse_append, List.reverse_singleton,
          List.singleton_append]
        -- The three cells the new one is made of.
        have drop := isRow (b.length + 1) (by simp)
        have add := cells b.length le_rfl
        have keep := isRow b.length (by simp)
        rw [List.take_of_length_le (by simp), List.reverse_append, List.reverse_singleton,
          List.singleton_append] at drop
        rw [List.take_length] at add
        rw [List.take_append_of_le_length le_rfl, List.take_length] at keep
        exact Fewest.cons drop add keep

/-- **`edit_distance`** is the least number of changes. -/
theorem editDistance_fewest (a b : List α) : Fewest a b (editDistance a b) := by
  have rows : ∀ a : List α,
      IsRow a.reverse b ((a.zipIdx 1).foldl (nextRow b) (List.range (b.length + 1))) := by
    intro a
    induction a using List.reverseRecOn with
    | nil => exact isRow_range b
    | append_singleton a x ih =>
        have last : List.zipIdx [x] (1 + a.length) = [(x, a.reverse.length + 1)] := by
          rw [List.zipIdx_singleton, Nat.add_comm, List.length_reverse]
        rw [List.zipIdx_append, List.foldl_append, last, List.foldl_cons, List.foldl_nil,
          List.reverse_append, List.reverse_singleton, List.singleton_append]
        exact isRow_nextRow ih.2
  obtain ⟨length, cells⟩ := rows a
  have corner := cells b.length le_rfl
  unfold editDistance
  generalize (a.zipIdx 1).foldl (nextRow b) (List.range (b.length + 1)) = row at *
  have isLast : row.getLastD 0 = row.getD b.length 0 := by
    rw [List.getLastD_eq_getLast?, List.getLast?_eq_getElem?, List.getD_eq_getElem?_getD, length,
      Nat.add_sub_cancel]
  rw [isLast, ← Fewest.reverse_iff]
  rwa [List.take_length] at corner

/-- **`edit_distance` is the Levenshtein distance**: the least number of swaps, drops and
additions of one item, and so a metric. -/
theorem edit_distance_is_levenshtein (a b c : List α) :
    IsLeast {n | Script n a b} (editDistance a b) ∧
      (editDistance a b = 0 ↔ a = b) ∧ editDistance a b = editDistance b a ∧
      editDistance a c ≤ editDistance a b + editDistance b c :=
  ⟨editDistance_fewest a b, (editDistance_fewest a b).eq_zero_iff,
    (editDistance_fewest a b).unique (editDistance_fewest b a).symm,
    (editDistance_fewest a b).triangle (editDistance_fewest b c) (editDistance_fewest a c)⟩

end Distance

end DicePipeline.Ocr
