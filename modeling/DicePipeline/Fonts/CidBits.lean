import Mathlib.Algebra.Order.Floor.Div
import DicePipeline.Fonts.CidSet

/-!
# The bits of a CIDSet

`bits` are the bits of a byte string, the high-order bit of each byte first.
`_cidset_covers_all_glyphs` holds if and only if the first bits are set, and
`_build_full_cidset` builds the shortest string whose first bits are, and no others.

`coversOrRaises` is the check with an index that may be out of range.
-/

namespace DicePipeline.Fonts

/-- The bits of a byte, the high-order bit first. -/
def byteBits (byte : UInt8) : List Bool := (List.range 8).map fun k => byte.toNat.testBit (7 - k)

/-- The bits of a byte string. -/
def bits (bytes : List UInt8) : List Bool := bytes.flatMap byteBits

/-- The bit at this position is set. -/
def IsSet (bytes : List UInt8) (position : ℕ) : Prop := (bits bytes)[position]? = some true

/-- The loop of `_cidset_covers_all_glyphs`; `none` is the `IndexError` of an index past the
end. -/
def coversLoop (cidset : List UInt8) : List ℕ → Option Bool
  | [] => some true
  | cid :: cids =>
      match cidset[cid / 8]? with
      | none => none
      | some byte =>
          if (byte.toNat >>> (7 - cid % 8)) &&& 1 = 0 then some false else coversLoop cidset cids

/-- `_cidset_covers_all_glyphs`, with what it may raise. -/
def coversOrRaises (cidset : List UInt8) (numGlyphs : ℕ) : Option Bool :=
  if cidset.length * 8 < numGlyphs then some false
  else coversLoop cidset (List.range numGlyphs)

variable {cidset : List UInt8} {n position : ℕ}

/-- Eight bits a byte. -/
theorem getElem?_bits (bytes : List UInt8) (position : ℕ) : (bits bytes)[position]? =
    bytes[position / 8]?.map fun byte => byte.toNat.testBit (7 - position % 8) := by
  induction bytes generalizing position with
  | nil => simp [bits]
  | cons byte rest ih =>
    have length : (byteBits byte).length = 8 := by simp [byteBits]
    rw [bits, List.flatMap_cons, ← bits]
    by_cases first : position < 8
    · have inFirst : position / 8 = 0 ∧ position % 8 = position := by omega
      rw [List.getElem?_append_left (by omega), inFirst.1, inFirst.2]
      simp [byteBits, first]
    · have later : position / 8 = (position - 8) / 8 + 1 ∧ position % 8 = (position - 8) % 8 := by
        omega
      rw [List.getElem?_append_right (by omega), length, ih, later.1, later.2,
        List.getElem?_cons_succ]

theorem isSet_iff_marks : IsSet cidset position ↔ marks cidset position = true := by
  rw [IsSet, getElem?_bits, marks_iff, List.getD_eq_getElem?_getD]
  cases cidset[position / 8]? <;> simp

/-- The loop raises nothing while the CIDs are inside. -/
theorem coversLoop_eq {cids : List ℕ} (inside : ∀ cid ∈ cids, cid < cidset.length * 8) :
    coversLoop cidset cids = some (cids.all (marks cidset)) := by
  induction cids with
  | nil => rfl
  | cons cid cids ih =>
    have here : cid / 8 < cidset.length := by
      have := inside cid List.mem_cons_self
      omega
    rw [coversLoop, List.getElem?_eq_getElem here, List.all_cons,
      ih fun other member => inside other (List.mem_cons_of_mem _ member)]
    have isByte : cidset.getD (cid / 8) 0 = cidset[cid / 8] := List.getD_eq_getElem _ _ here
    have isBit : marks cidset cid = decide ((cidset[cid / 8].toNat >>> (7 - cid % 8)) &&& 1 = 1) := by
      rw [marks, isByte]
    have small : (cidset[cid / 8].toNat >>> (7 - cid % 8)) &&& 1 < 2 :=
      Nat.lt_of_le_of_lt Nat.and_le_right (by decide)
    simp only
    split
    · rename_i clear
      rw [isBit, clear]
      rfl
    · rename_i set
      have isOne : (cidset[cid / 8].toNat >>> (7 - cid % 8)) &&& 1 = 1 := by omega
      rw [isBit, isOne]
      rfl

/-- **The check raises nothing**, and gives what it gives. -/
theorem coversOrRaises_eq : coversOrRaises cidset n = some (cidsetCoversAllGlyphs cidset n) := by
  unfold coversOrRaises cidsetCoversAllGlyphs
  split
  · rfl
  · rename_i long
    refine coversLoop_eq fun cid member => ?_
    rw [List.mem_range] at member
    omega

/-- **The check** is whether the first bits are set. -/
theorem cidsetCoversAllGlyphs_iff_isSet :
    cidsetCoversAllGlyphs cidset n = true ↔ ∀ position < n, IsSet cidset position := by
  rw [cidsetCoversAllGlyphs_iff]
  exact forall₂_congr fun position _ => isSet_iff_marks.symm

/-- **CIDSets**: the check never raises and holds if and only if every bit below `n` is
set; the full CIDSet of `n` glyphs has the least number of bytes for `n` bits, of which the
first `n` are set and no others; and so it passes the check for `m` glyphs if and only if
`m` is at most `n`. -/
theorem cidset_codec (n m : ℕ) (cidset : List UInt8) :
    (coversOrRaises cidset n = some (cidsetCoversAllGlyphs cidset n) ∧
      (cidsetCoversAllGlyphs cidset n = true ↔ ∀ position < n, IsSet cidset position)) ∧
    ((buildFullCidset n).length = n ⌈/⌉ 8 ∧
      ∀ position, IsSet (buildFullCidset n) position ↔ position < n) ∧
    (cidsetCoversAllGlyphs (buildFullCidset n) m = true ↔ m ≤ n) := by
  refine ⟨⟨coversOrRaises_eq, cidsetCoversAllGlyphs_iff_isSet⟩, ⟨?_, fun position => ?_⟩, ?_⟩
  · rw [Nat.ceilDiv_eq_add_pred_div]
    exact (build_loop le_rfl).1
  · rw [isSet_iff_marks, marks_buildFullCidset_iff]
  · rw [cidsetCoversAllGlyphs_iff]
    simp only [marks_buildFullCidset_iff]
    constructor
    · intro all
      by_contra more
      exact lt_irrefl n (all n (not_le.mp more))
    · exact fun atMost cid below => below.trans_le atMost

end DicePipeline.Fonts
