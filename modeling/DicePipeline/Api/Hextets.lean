import Mathlib.Data.List.Induction
import Mathlib.Data.List.Nodup
import DicePipeline.Text.Words
import DicePipeline.Api.IpAddress

/-!
# The parts of an IPv6 address

An IPv6 text is its eight hextets in base sixteen, the first longest run of two
zeros or more left out.  `compressHextets_cases` says which parts it may have, and
`readHextets_compressHextets` that the parts spell the eight hextets again.

`ZeroRuns.Of` is the invariant of the loop that looks for the run: the best run so
far and the one being read are zeros of the texts that were read.
-/

namespace DicePipeline

namespace IpAddress

/-! ## Hextets -/

theorem parseHextet_hex (hextet : BitVec 16) :
    parseHextet (Text.hex hextet.toNat) = some hextet := by
  have short : (Text.hex hextet.toNat).length ≤ 4 :=
    (Nat.length_toDigits_le_iff (by decide) (by decide)).mpr hextet.isLt
  have digits : (Text.hex hextet.toNat).all Text.isHexDigit = true :=
    List.all_eq_true.mpr fun c => Text.isHexDigit_of_mem_hex
  unfold parseHextet
  rw [if_neg, Text.ofDigits_hex, BitVec.ofNat_toNat, BitVec.setWidth_eq]
  simp [Text.hex_ne_nil, digits, short]

/-- The number of some bits further down, once the next hextet is read. -/
theorem shiftLeft_or_hextet (ip : BitVec 128) (low : ℕ) :
    ((ip >>> (low + 16)) <<< 16) ||| (ip.extractLsb' low 16).setWidth 128 = ip >>> low := by
  refine BitVec.eq_of_getLsbD_eq fun i inside => ?_
  simp only [BitVec.getLsbD_or, BitVec.getLsbD_shiftLeft, BitVec.getLsbD_setWidth,
    BitVec.getLsbD_extractLsb', BitVec.getLsbD_ushiftRight]
  by_cases last : i < 16
  · simp [last, inside]
  · simp only [last, inside, decide_true, decide_false, Bool.not_false, Bool.true_and,
      Bool.false_and, Bool.or_false]
    congr 1
    omega

theorem ofHextets_hextets (ip : BitVec 128) : ofHextets (hextets ip) = ip := by
  have none : (0 : BitVec 128) = ip >>> 128 := by
    refine BitVec.eq_of_getLsbD_eq fun i _ => ?_
    simp
  show List.foldl _ 0 [ip.extractLsb' 112 16, ip.extractLsb' 96 16, ip.extractLsb' 80 16,
    ip.extractLsb' 64 16, ip.extractLsb' 48 16, ip.extractLsb' 32 16, ip.extractLsb' 16 16,
    ip.extractLsb' 0 16] = ip
  simp only [List.foldl_cons, List.foldl_nil]
  rw [none, shiftLeft_or_hextet ip 112, shiftLeft_or_hextet ip 96, shiftLeft_or_hextet ip 80,
    shiftLeft_or_hextet ip 64, shiftLeft_or_hextet ip 48, shiftLeft_or_hextet ip 32,
    shiftLeft_or_hextet ip 16, shiftLeft_or_hextet ip 0]
  simp

/-! ## The run of zeros that is left out -/

variable {texts high run low : List Text} {runs : ZeroRuns}

/-- What is known of the runs of the texts that have been read. -/
structure ZeroRuns.Of (runs : ZeroRuns) (texts : List Text) : Prop where
  bestInside : runs.bestStart + runs.bestLength ≤ texts.length
  best : ∀ i, runs.bestStart ≤ i → i < runs.bestStart + runs.bestLength → texts[i]? = some ['0']
  atEnd : 0 < runs.length → runs.start + runs.length = texts.length
  current : ∀ i, 0 < runs.length → runs.start ≤ i → i < texts.length → texts[i]? = some ['0']

/-- **One turn of the loop.** -/
theorem ZeroRuns.Of.next (known : runs.Of texts) (hextet : Text) :
    (runs.next texts.length hextet).Of (texts ++ [hextet]) := by
  have kept : ∀ (i : ℕ) (value : Text), texts[i]? = some value →
      (texts ++ [hextet])[i]? = some value := by
    intro i value found
    rw [List.getElem?_append_left (List.getElem?_eq_some_iff.mp found).1, found]
  have length : (texts ++ [hextet]).length = texts.length + 1 := by simp
  have best : ∀ i, runs.bestStart ≤ i → i < runs.bestStart + runs.bestLength →
      (texts ++ [hextet])[i]? = some ['0'] := fun i low high => kept i _ (known.best i low high)
  have inside := known.bestInside
  unfold ZeroRuns.next
  by_cases isZero : hextet = ['0']
  · subst isZero
    rw [if_pos rfl]
    simp only
    generalize started : (if runs.length = 0 then texts.length else runs.start) = start
    have ends : start + (runs.length + 1) = (texts ++ [['0']]).length := by
      rw [length, ← started]
      split
      · omega
      · have := known.atEnd (by omega)
        omega
    -- The run being read is all zeros, with the one that is new.
    have current : ∀ i, start ≤ i → i < (texts ++ [['0']]).length →
        (texts ++ [['0']])[i]? = some ['0'] := by
      intro i above below
      rw [length] at below
      by_cases isLast : i = texts.length
      · subst isLast
        simp
      · refine kept i _ ?_
        rw [← started] at above
        split at above
        · omega
        · exact known.current i (by omega) above (by omega)
    split
    · refine ⟨Nat.le_of_eq ends, ?_, fun _ => ends, fun i _ => current i⟩
      intro i above below
      have inRun : i < start + (runs.length + 1) := below
      exact current i above (by omega)
    · refine ⟨?_, best, fun _ => ends, fun i _ => current i⟩
      show runs.bestStart + runs.bestLength ≤ _
      omega
  · rw [if_neg isZero]
    refine ⟨?_, best, fun some => absurd some (Nat.lt_irrefl 0),
      fun i some => absurd some (Nat.lt_irrefl 0)⟩
    show runs.bestStart + runs.bestLength ≤ _
    omega

theorem zeroRuns_of (texts : List Text) :
    (texts.zipIdx.foldl (fun (runs : ZeroRuns) (hextet, index) => runs.next index hextet)
      { bestStart := 0, bestLength := 0, start := 0, length := 0 }).Of texts := by
  induction texts using List.reverseRecOn with
  | nil =>
    refine ⟨Nat.le_refl _, ?_, fun some => absurd some (Nat.lt_irrefl 0),
      fun i some => absurd some (Nat.lt_irrefl 0)⟩
    intro i _ below
    exact absurd below (Nat.not_lt_zero i)
  | append_singleton before hextet ih =>
    rw [List.zipIdx_append, List.foldl_append]
    have last := ih.next hextet
    simpa using last

/-- The parts on one side of a `::`, an empty one if there are none. -/
def side (parts : List Text) : List Text := if parts = [] then [[]] else parts

/-- The texts as they are, or one run of zeros of them left out. -/
theorem compressHextets_cases (texts : List Text) : compressHextets texts = texts ∨
    ∃ high run low, texts = high ++ run ++ low ∧ 2 ≤ run.length ∧ (∀ part ∈ run, part = ['0']) ∧
      compressHextets texts = side high ++ [[]] ++ side low := by
  have known := zeroRuns_of texts
  unfold compressHextets
  simp only
  generalize texts.zipIdx.foldl (fun (runs : ZeroRuns) (hextet, index) => runs.next index hextet)
    { bestStart := 0, bestLength := 0, start := 0, length := 0 } = runs at known
  have inside := known.bestInside
  split
  · rename_i long
    refine .inr ⟨texts.take runs.bestStart, (texts.drop runs.bestStart).take runs.bestLength,
      texts.drop (runs.bestStart + runs.bestLength), ?_, ?_, ?_, ?_⟩
    · rw [List.append_assoc, ← List.drop_drop, List.take_append_drop, List.take_append_drop]
    · rw [List.length_take, List.length_drop]
      omega
    · intro part member
      obtain ⟨i, below, isPart⟩ := List.mem_iff_getElem.mp member
      rw [List.length_take, List.length_drop] at below
      have zero := known.best (runs.bestStart + i) (by omega) (by omega)
      rw [List.getElem?_eq_getElem (by omega)] at zero
      rw [← isPart, List.getElem_take, List.getElem_drop]
      exact Option.some.inj zero
    · have tail : (if runs.bestStart + runs.bestLength = texts.length then [[]]
          else texts.drop (runs.bestStart + runs.bestLength)) =
          side (texts.drop (runs.bestStart + runs.bestLength)) := by
        unfold side
        by_cases atEnd : runs.bestStart + runs.bestLength = texts.length
        · rw [if_pos atEnd, if_pos (List.drop_eq_nil_iff.mpr (by omega))]
        · rw [if_neg atEnd, if_neg]
          intro none
          have := List.drop_eq_nil_iff.mp none
          omega
      have head : (if runs.bestStart = 0 then [[]] else texts.take runs.bestStart) =
          side (texts.take runs.bestStart) := by
        unfold side
        by_cases zero : runs.bestStart = 0
        · rw [if_pos zero, if_pos (List.take_eq_nil_iff.mpr (.inl zero))]
        · rw [if_neg zero, if_neg]
          intro none
          rcases List.take_eq_nil_iff.mp none with none | none
          · exact zero none
          · rw [none] at inside
            simp only [List.length_nil] at inside
            omega
      rw [tail, head]
  · exact .inl rfl

/-! ## Reading the parts -/

theorem side_ne_nil : side low ≠ [] := by
  unfold side
  split
  · exact List.cons_ne_nil _ _
  · assumption

theorem length_side (parts : List Text) :
    (side parts).length = if parts = [] then 1 else parts.length := by
  unfold side
  split <;> rfl

/-- The parts of a text that a run is left out of. -/
def compressed (high low : List Text) : List Text := side high ++ [[]] ++ side low

theorem length_compressed : (compressed high low).length =
    (side high).length + 1 + (side low).length := by
  unfold compressed
  rw [List.length_append, List.length_append, List.length_singleton]

/-- If there are parts on a side, they are the side. -/
theorem side_of_ne_nil {parts : List Text} (some : parts ≠ []) : side parts = parts := if_neg some

/-- The empty part inside is the one between the sides. -/
theorem emptyInside_compressed (full : ∀ part ∈ high ++ low, part ≠ []) :
    emptyInside (compressed high low) = [(side high).length] := by
  have one : 0 < (side high).length := List.length_pos_iff.mpr side_ne_nil
  have one' : 0 < (side low).length := List.length_pos_iff.mpr side_ne_nil
  have inside : ∀ i < (compressed high low).length,
      (1 ≤ i && i + 1 < (compressed high low).length &&
        ((compressed high low)[i]?.getD []).isEmpty) = (i == (side high).length) := by
    intro i below
    rw [length_compressed] at below ⊢
    unfold compressed
    rcases Nat.lt_trichotomy i (side high).length with before | rfl | after
    · -- Before it there is a part of `high`, or the empty one at the start.
      rw [List.append_assoc, List.getElem?_append_left before, List.getElem?_eq_getElem before]
      have other : (i == (side high).length) = false := by
        rw [beq_eq_false_iff_ne]
        omega
      rw [other]
      by_cases none : high = []
      · have first : i = 0 := by
          rw [length_side, if_pos none] at before
          omega
        simp [first]
      · have isPart : (side high)[i] ∈ high := by
          have inSide := List.getElem_mem before
          generalize (side high)[i] = part at inSide ⊢
          rwa [side_of_ne_nil none] at inSide
        have notEmpty := full _ (List.mem_append_left _ isPart)
        simp [notEmpty]
    · rw [List.append_assoc, List.getElem?_append_right (Nat.le_refl _), Nat.sub_self]
      simp only [List.singleton_append, List.getElem?_cons_zero, Option.getD_some,
        List.isEmpty_nil, Bool.and_true, BEq.rfl]
      rw [Bool.and_eq_true, decide_eq_true_iff, decide_eq_true_iff]
      omega
    · rw [List.append_assoc, List.getElem?_append_right (by omega), List.singleton_append]
      have other : (i == (side high).length) = false := by
        rw [beq_eq_false_iff_ne]
        omega
      have index : i - (side high).length = (i - (side high).length - 1) + 1 := by omega
      have place : i - (side high).length - 1 < (side low).length := by omega
      rw [other, index, List.getElem?_cons_succ, List.getElem?_eq_getElem place]
      by_cases none : low = []
      · rw [length_side low, if_pos none] at below ⊢
        have last : ¬ i + 1 < (side high).length + 1 + 1 := by omega
        simp [last]
      · have isPart : (side low)[i - (side high).length - 1] ∈ low := by
          have inSide := List.getElem_mem place
          generalize (side low)[i - (side high).length - 1] = part at inSide ⊢
          rwa [side_of_ne_nil none] at inSide
        have notEmpty := full _ (List.mem_append_right _ isPart)
        simp [notEmpty]
  unfold emptyInside
  rw [List.filter_congr fun i member => inside i (List.mem_range.mp member)]
  have here : (side high).length ∈ List.range (compressed high low).length := by
    rw [List.mem_range, length_compressed]
    omega
  rw [List.filter_beq, List.count_eq_one_of_mem List.nodup_range here]
  rfl

/-- The texts of some hextets. -/
def hextetTexts (hextets : List (BitVec 16)) : List Text :=
  hextets.map fun hextet => Text.hex hextet.toNat

variable {highs lows : List (BitVec 16)}

theorem ne_nil_of_mem_hextetTexts {part : Text} (member : part ∈ hextetTexts highs) :
    part ≠ [] := by
  obtain ⟨hextet, -, rfl⟩ := List.mem_map.mp member
  exact Text.hex_ne_nil

theorem mapM_parseHextet (hextets : List (BitVec 16)) :
    (hextetTexts hextets).mapM parseHextet = some hextets := by
  unfold hextetTexts
  induction hextets with
  | nil => rfl
  | cons hextet rest ih =>
    rw [List.map_cons, List.mapM_cons, parseHextet_hex, ih]
    rfl

theorem startsEmpty_side (notEmpty : ∀ part ∈ high, part ≠ []) (after : List Text) :
    (((side high ++ after).head?.getD []).isEmpty) = decide (high = []) := by
  unfold side
  cases high with
  | nil => rfl
  | cons first rest =>
    have isSome : first ≠ [] := notEmpty first List.mem_cons_self
    simp [isSome]

theorem endsEmpty_side (notEmpty : ∀ part ∈ low, part ≠ []) (before : List Text) :
    (((before ++ side low).getLast?.getD []).isEmpty) = decide (low = []) := by
  unfold side
  by_cases none : low = []
  · simp [none]
  · have isSome : low.getLast none ≠ [] := notEmpty _ (List.getLast_mem none)
    simp [none, List.getLast?_append, List.getLast?_eq_some_getLast none, isSome]

/-- The hextets on both sides of a `::` are read, and zeros between them. -/
theorem readHextets_compressed (fits : highs.length + lows.length ≤ 7) :
    readHextets (compressed (hextetTexts highs) (hextetTexts lows)) =
      some (highs ++ List.replicate (8 - (highs.length + lows.length)) 0 ++ lows) := by
  have highLength : (hextetTexts highs).length = highs.length := List.length_map _
  have lowLength : (hextetTexts lows).length = lows.length := List.length_map _
  have full : ∀ part ∈ hextetTexts highs ++ hextetTexts lows, part ≠ [] := by
    intro part member
    rcases List.mem_append.mp member with inHigh | inLow
    · exact ne_nil_of_mem_hextetTexts inHigh
    · exact ne_nil_of_mem_hextetTexts inLow
  have starts : ((compressed (hextetTexts highs) (hextetTexts lows)).head?.getD []).isEmpty =
      decide (hextetTexts highs = []) := by
    unfold compressed
    rw [List.append_assoc]
    exact startsEmpty_side (fun part => ne_nil_of_mem_hextetTexts) _
  have ends : ((compressed (hextetTexts highs) (hextetTexts lows)).getLast?.getD []).isEmpty =
      decide (hextetTexts lows = []) :=
    endsEmpty_side (fun part => ne_nil_of_mem_hextetTexts) _
  have after : (compressed (hextetTexts highs) (hextetTexts lows)).length -
      (side (hextetTexts highs)).length - 1 = (side (hextetTexts lows)).length := by
    rw [length_compressed]
    omega
  -- An empty end is the one that belongs to the `::`.
  have oneHigh : hextetTexts highs = [] → (side (hextetTexts highs)).length = 1 := by
    intro none
    rw [length_side, if_pos none]
  have oneLow : hextetTexts lows = [] → (side (hextetTexts lows)).length = 1 := by
    intro none
    rw [length_side, if_pos none]
  have partsHi : (if hextetTexts highs = [] then 0 else (side (hextetTexts highs)).length) =
      highs.length := by
    by_cases none : hextetTexts highs = []
    · rw [if_pos none, ← highLength, none]
      rfl
    · rw [if_neg none, side_of_ne_nil none, highLength]
  have partsLo : (if hextetTexts lows = [] then 0 else (side (hextetTexts lows)).length) =
      lows.length := by
    by_cases none : hextetTexts lows = []
    · rw [if_pos none, ← lowLength, none]
      rfl
    · rw [if_neg none, side_of_ne_nil none, lowLength]
  have taken : (compressed (hextetTexts highs) (hextetTexts lows)).take highs.length =
      hextetTexts highs := by
    unfold compressed side
    split
    · rename_i none
      rw [← highLength, none]
      rfl
    · rw [List.append_assoc, ← highLength]
      exact List.take_left'  rfl
  have dropped : (compressed (hextetTexts highs) (hextetTexts lows)).drop
      ((compressed (hextetTexts highs) (hextetTexts lows)).length - lows.length) =
      hextetTexts lows := by
    by_cases none : hextetTexts lows = []
    · have zero : lows.length = 0 := by rw [← lowLength, none]; rfl
      rw [zero, Nat.sub_zero, List.drop_length, none]
    · rw [length_compressed, side_of_ne_nil none, lowLength, Nat.add_sub_cancel]
      unfold compressed
      rw [side_of_ne_nil none]
      exact List.drop_left' (by rw [List.length_append, List.length_singleton])
  unfold readHextets
  simp only [emptyInside_compressed full, starts, ends, after, decide_eq_true_eq]
  rw [if_neg (by rintro (⟨none, other⟩ | ⟨none, other⟩)
                 · exact other (oneHigh none)
                 · exact other (oneLow none)),
    partsHi, partsLo, if_neg (by omega), taken, dropped, mapM_parseHextet, mapM_parseHextet]
  rfl

/-- Eight hextets that are all written are all read. -/
theorem readHextets_hextetTexts {hextets : List (BitVec 16)} (eight : hextets.length = 8) :
    readHextets (hextetTexts hextets) = some hextets := by
  have length : (hextetTexts hextets).length = 8 := by
    rw [← eight]
    exact List.length_map _
  have noneEmpty : emptyInside (hextetTexts hextets) = [] := by
    refine List.filter_eq_nil_iff.mpr fun i member => ?_
    have inside : i < (hextetTexts hextets).length := List.mem_range.mp member
    have isPart := ne_nil_of_mem_hextetTexts (List.getElem_mem inside)
    rw [List.getElem?_eq_getElem inside]
    simp [isPart]
  have starts : ((hextetTexts hextets).head?.getD []).isEmpty = false := by
    cases whole : hextetTexts hextets with
    | nil => rw [whole] at length; exact absurd length (by decide)
    | cons first rest =>
      have isFirst : first ∈ hextetTexts hextets := whole ▸ List.mem_cons_self
      have isPart : first ≠ [] := ne_nil_of_mem_hextetTexts isFirst
      simp [isPart]
  have ends : ((hextetTexts hextets).getLast?.getD []).isEmpty = false := by
    have some : hextetTexts hextets ≠ [] := List.ne_nil_of_length_pos (by omega)
    have isPart := ne_nil_of_mem_hextetTexts (List.getLast_mem some)
    rw [List.getLast?_eq_some_getLast some]
    simp [isPart]
  unfold readHextets
  simp only [noneEmpty, starts, ends, length]
  rw [if_neg (by simp), mapM_parseHextet]

/-- A hextet that is written `0` is zero. -/
theorem eq_zero_of_hex {hextet : BitVec 16} (zero : Text.hex hextet.toNat = ['0']) :
    hextet = 0 := by
  have read := parseHextet_hex hextet
  rw [zero] at read
  exact (Option.some.inj read).symm

theorem hextetTexts_eq_append {hextets : List (BitVec 16)}
    (whole : hextetTexts hextets = high ++ run ++ low)
    (zeros : ∀ part ∈ run, part = ['0']) : ∃ highs lows,
      hextets = highs ++ List.replicate run.length 0 ++ lows ∧
        high = hextetTexts highs ∧ low = hextetTexts lows := by
  obtain ⟨before, lows, split, isBefore, isLow⟩ := List.map_eq_append_iff.mp whole
  obtain ⟨highs, runs, split', isHigh, isRun⟩ := List.map_eq_append_iff.mp isBefore
  have allZero : runs = List.replicate run.length 0 := by
    refine List.eq_replicate_iff.mpr ⟨?_, fun hextet member => ?_⟩
    · rw [← isRun, List.length_map]
    · exact eq_zero_of_hex (zeros _ (isRun ▸ List.mem_map_of_mem member))
  exact ⟨highs, lows, by rw [split, split', allZero], isHigh.symm, isLow.symm⟩

theorem length_hextets (ip : BitVec 128) : (hextets ip).length = 8 := rfl

/-- The parts of an address's text: read again they spell its hextets. -/
theorem readHextets_compressHextets {hextets : List (BitVec 16)} (eight : hextets.length = 8) :
    readHextets (compressHextets (hextetTexts hextets)) = some hextets := by
  rcases compressHextets_cases (hextetTexts hextets) with same | ⟨high, run, low, whole, long,
    zeros, shorter⟩
  · rw [same, readHextets_hextetTexts eight]
  · obtain ⟨highs, lows, split, rfl, rfl⟩ := hextetTexts_eq_append whole zeros
    have total : highs.length + run.length + lows.length = 8 := by
      rw [← eight, split]
      simp only [List.length_append, List.length_replicate]
    have left : 8 - (highs.length + lows.length) = run.length := by omega
    rw [shorter]
    show readHextets (compressed _ _) = _
    rw [readHextets_compressed (by omega), left, split]

/-- What the parts of an address's text are made of, and how many they can be. -/
theorem parts_of_compressHextets {hextets : List (BitVec 16)} (eight : hextets.length = 8) :
    (∀ part ∈ compressHextets (hextetTexts hextets),
        part.length ≤ 4 ∧ part.all Text.isHexDigit = true) ∧
      3 ≤ (compressHextets (hextetTexts hextets)).length ∧
      (compressHextets (hextetTexts hextets)).length ≤ 8 := by
  have written : ∀ part ∈ hextetTexts hextets,
      part.length ≤ 4 ∧ part.all Text.isHexDigit = true := by
    intro part member
    obtain ⟨hextet, -, rfl⟩ := List.mem_map.mp member
    exact ⟨(Nat.length_toDigits_le_iff (by decide) (by decide)).mpr hextet.isLt,
      List.all_eq_true.mpr fun c => Text.isHexDigit_of_mem_hex⟩
  have length : (hextetTexts hextets).length = 8 := by
    rw [← eight]
    exact List.length_map _
  rcases compressHextets_cases (hextetTexts hextets) with same | ⟨high, run, low, whole, long,
    zeros, shorter⟩
  · rw [same]
    exact ⟨written, by omega, by omega⟩
  · have ofSide : ∀ parts : List Text, (∀ part ∈ parts, part ∈ hextetTexts hextets) →
        ∀ part ∈ side parts, part.length ≤ 4 ∧ part.all Text.isHexDigit = true := by
      intro parts among part member
      unfold side at member
      split at member
      · rw [List.mem_singleton.mp member]
        exact ⟨Nat.zero_le _, rfl⟩
      · exact written part (among part member)
    rw [whole, List.length_append, List.length_append] at length
    rw [shorter]
    refine ⟨?_, ?_, ?_⟩
    · intro part member
      rcases List.mem_append.mp member with member | inLow
      · rcases List.mem_append.mp member with inHigh | between
        · exact ofSide high (fun part isPart => by simp [whole, isPart]) part inHigh
        · rw [List.mem_singleton.mp between]
          exact ⟨Nat.zero_le _, rfl⟩
      · exact ofSide low (fun part isPart => by simp [whole, isPart]) part inLow
    · have total : (compressed high low).length = _ := length_compressed
      have someHigh : 0 < (side high).length := List.length_pos_iff.mpr side_ne_nil
      have someLow : 0 < (side low).length := List.length_pos_iff.mpr side_ne_nil
      unfold compressed at total
      omega
    · have total : (compressed high low).length = _ := length_compressed
      rw [length_side, length_side] at total
      unfold compressed at total
      split at total <;> split at total <;> omega

end IpAddress

end DicePipeline
