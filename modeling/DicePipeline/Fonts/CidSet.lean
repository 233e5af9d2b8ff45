import Mathlib.Data.Nat.Bitwise
import DicePipeline.Fonts.Coverage

/-!
# CIDSet repair (`_repair_cidsets`)

`repairCidsets` goes through the fonts of every page to their descriptors, and
replaces the `/CIDSet` of a descriptor that does not mark every glyph of the font
program.  It leaves a descriptor out whose object number has come up before; a
descriptor that is written in place has the number 0.

The glyph count of a font program is a parameter, `none` for one that `fontTools`
cannot read.  `none` is an exception everywhere else.
-/

namespace DicePipeline.Fonts

open Pdf

/-! ## The bits of a CIDSet -/

/-- The bit of a CID. -/
def marks (cidset : List UInt8) (cid : ℕ) : Bool :=
  ((cidset.getD (cid / 8) 0).toNat >>> (7 - cid % 8)) &&& 1 = 1

/-- `_cidset_covers_all_glyphs`. -/
def cidsetCoversAllGlyphs (cidset : List UInt8) (numGlyphs : ℕ) : Bool :=
  if cidset.length * 8 < numGlyphs then false
  else (List.range numGlyphs).all (marks cidset)

/-- The body of the loop of `_build_full_cidset`. -/
def markCid (result : List UInt8) (cid : ℕ) : List UInt8 :=
  result.modify (cid / 8) fun byte => byte ||| UInt8.ofNat (1 <<< (7 - cid % 8))

/-- `_build_full_cidset`. -/
def buildFullCidset (numGlyphs : ℕ) : List UInt8 :=
  (List.range numGlyphs).foldl markCid (List.replicate ((numGlyphs + 7) / 8) 0)

/-! ## The loop -/

/-- `font_descriptor` of a font, if it is looked at.  `descendants[0]` raises unless
there is one, and `get` unless it is a dictionary. -/
def fontDescriptor (doc : Document) (font : Value) : Option (Option Value) :=
  if !doc.isDictionary font then none
  else if doc.textOf font "/Subtype" ≠ "/Type0" then some none
  else
    match doc.get font "/DescendantFonts" with
    | none => some none
    | some descendants =>
        match doc.array? descendants with
        | some [] => some none
        | some (first :: _) =>
            if doc.isDictionary first then some (doc.get first "/FontDescriptor") else none
        | none => if doc.dictionary? descendants = some [] then some none else none

/-- `_repair_cidset`. -/
def repairCidset (glyphs : List UInt8 → Option ℕ) (doc : Document) (descriptor : Value) :
    Option Document :=
  match descriptor with
  | .object address =>
      if !doc.isDictionary descriptor then none
      else
        match doc.get descriptor "/CIDSet", doc.get descriptor "/FontFile2" with
        | some cidset, some fontFile => do
            let fontData ← doc.stream? fontFile
            match glyphs fontData with
            | none => some doc
            | some numGlyphs => do
                let current ← doc.stream? cidset
                if cidsetCoversAllGlyphs current numGlyphs then some doc
                else
                  some ((doc.push ⟨.stream (buildFullCidset numGlyphs), doc.freshNumber⟩).setEntry
                    address "/CIDSet" (.object doc.objects.length))
        | _, _ => some doc
  | _ => none

/-- The document, and `seen_descriptor_ids`. -/
structure Walk where
  doc : Document
  seenDescriptorIds : List ℕ

/-- What is done with a descriptor.  A number has no `objgen`. -/
def walkDescriptor (glyphs : List UInt8 → Option ℕ) (state : Walk) (descriptor : Value) :
    Option Walk :=
  match descriptor with
  | .number _ => none
  | _ =>
      if state.doc.number descriptor ∈ state.seenDescriptorIds then some state
      else
        (repairCidset glyphs state.doc descriptor).map fun doc =>
          ⟨doc, state.doc.number descriptor :: state.seenDescriptorIds⟩

/-- The body of the loop over the fonts of a page. -/
def walkFont (glyphs : List UInt8 → Option ℕ) (state : Walk) (entry : String × Value) :
    Option Walk :=
  match fontDescriptor state.doc entry.2 with
  | none => none
  | some none => some state
  | some (some descriptor) => walkDescriptor glyphs state descriptor

/-- The body of the loop over the pages. -/
def walkPage (glyphs : List UInt8 → Option ℕ) (state : Walk) (page : ℕ) : Option Walk :=
  match state.doc.get (.object page) "/Resources" with
  | none => some state
  | some resources =>
      if !state.doc.isDictionary resources then none
      else
        match state.doc.get resources "/Font" with
        | none => some state
        | some fonts => do
            let entries ← state.doc.dictionary? fonts
            entries.foldlM (walkFont glyphs) state

/-- `_repair_cidsets`. -/
def repairCidsets (glyphs : List UInt8 → Option ℕ) (doc : Document) : Option Document :=
  (doc.pages.foldlM (walkPage glyphs) ⟨doc, []⟩).map Walk.doc

/-! ## A full CIDSet -/

variable {cidset result : List UInt8} {cid other n : ℕ}

theorem marks_iff : marks cidset cid = true ↔
    (cidset.getD (cid / 8) 0).toNat.testBit (7 - cid % 8) = true := by
  unfold marks Nat.testBit
  rw [Nat.and_comm 1, decide_eq_true_iff]
  have small : (cidset.getD (cid / 8) 0).toNat >>> (7 - cid % 8) &&& 1 < 2 :=
    Nat.lt_of_le_of_lt Nat.and_le_right (by decide)
  constructor
  · intro isOne
    rw [isOne]
    decide
  · intro notZero
    have := bne_iff_ne.mp notZero
    omega

theorem length_markCid : (markCid result cid).length = result.length := by
  simp [markCid]

/-- **Marking a CID** sets its bit, and no other. -/
theorem marks_markCid_iff (inside : cid / 8 < result.length) :
    marks (markCid result cid) other = true ↔ marks result other = true ∨ other = cid := by
  have bit : (UInt8.ofNat (1 <<< (7 - cid % 8))).toNat = 2 ^ (7 - cid % 8) := by
    have small : 7 - cid % 8 < 8 := by omega
    generalize 7 - cid % 8 = k at small
    revert k
    decide
  rw [marks_iff, marks_iff, markCid, List.getD_eq_getElem?_getD, List.getElem?_modify,
    List.getD_eq_getElem?_getD]
  by_cases same : cid / 8 = other / 8
  · have isBit : 7 - cid % 8 = 7 - other % 8 ↔ other = cid := by omega
    rw [← same, List.getElem?_eq_getElem inside]
    simp [Nat.testBit_or, bit, Nat.testBit_two_pow, isBit]
  · have notSame : other ≠ cid := fun equal => same (by rw [equal])
    simp [same, notSame]

theorem marks_zeros {length : ℕ} : marks (List.replicate length 0) cid = false := by
  rw [← Bool.not_eq_true, marks_iff, List.getD_eq_getElem?_getD, List.getElem?_replicate]
  split <;> simp

/-- The loop of `_build_full_cidset`, by induction on how far it has come. -/
theorem build_loop {m : ℕ} (within : m ≤ n) :
    ((List.range m).foldl markCid (List.replicate ((n + 7) / 8) 0)).length = (n + 7) / 8 ∧
    ∀ cid, marks ((List.range m).foldl markCid (List.replicate ((n + 7) / 8) 0)) cid = true ↔
      cid < m := by
  induction m with
  | zero =>
    refine ⟨by simp, fun cid => ?_⟩
    rw [List.range_zero, List.foldl_nil, marks_zeros]
    simp
  | succ m ih =>
    obtain ⟨length, marked⟩ := ih (by omega)
    rw [List.range_succ, List.foldl_append, List.foldl_cons, List.foldl_nil]
    refine ⟨length_markCid.trans length, fun cid => ?_⟩
    rw [marks_markCid_iff (by omega), marked, Nat.lt_succ_iff_lt_or_eq]

/-- **A full CIDSet marks every glyph**, and nothing else. -/
theorem marks_buildFullCidset_iff : marks (buildFullCidset n) cid = true ↔ cid < n :=
  (build_loop le_rfl).2 cid

theorem cidsetCoversAllGlyphs_iff :
    cidsetCoversAllGlyphs cidset n = true ↔ ∀ cid < n, marks cidset cid = true := by
  unfold cidsetCoversAllGlyphs
  split
  · rename_i short
    refine iff_of_false Bool.false_ne_true ?_
    intro all
    have beyond := marks_iff.mp (all (cidset.length * 8) short)
    rw [List.getD_eq_getElem?_getD, List.getElem?_eq_none (by omega)] at beyond
    simp at beyond
  · rw [List.all_eq_true]
    exact ⟨fun all cid below => all cid (List.mem_range.mpr below),
      fun all cid member => all cid (List.mem_range.mp member)⟩

end DicePipeline.Fonts
