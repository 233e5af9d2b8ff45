import Mathlib.Data.List.Nodup
import DicePipeline.Fonts.CMap

/-!
# A CMap is read back

`cmap_round_trip` reads the bytes that `_build_tounicode_cmap` prints: the entries of the
blocks are the codes that stay code points of sixteen bits when the offset is added, each
with its sum and each once.  A block declares as many entries as it has, from one to a
hundred, and every numeral has four digits, so that it is a code of two bytes.
-/

namespace DicePipeline.Fonts

/-- A numeral of two bytes: four digits in angle brackets. -/
def IsTwoBytes (word : Text) : Prop :=
  ∃ digits : Text, word = '<' :: digits ++ ['>'] ∧ digits.length = 4 ∧
    ∀ c ∈ digits, Text.isHexDigit c = true

variable {codes chunk : List ℕ} {offset : ℤ} {n : ℕ} {word : Text}

theorem isTwoBytes_hex4 (small : n ≤ 0xFFFF) : IsTwoBytes ('<' :: Text.hex4 n ++ ['>']) := by
  refine ⟨Text.hex4 n, rfl, ?_, fun c member => (Text.isHex_of_mem_hex4 member).1⟩
  have few : (Nat.toDigits 16 n).length ≤ 4 :=
    (Nat.length_toDigits_le_iff (by decide) (by decide)).mpr (by omega)
  simp only [Text.hex4, List.length_append, List.length_replicate, List.length_map]
  omega

theorem inRange_iff {code : ℕ} :
    inRange offset code = true ↔ 0 ≤ code + offset ∧ code + offset ≤ 0xFFFF := by
  unfold inRange
  rw [Bool.and_eq_true, decide_eq_true_iff, decide_eq_true_iff]

/-- The words of a chunk that open an angle bracket are numerals of two bytes. -/
theorem isTwoBytes_of_mem_chunkLines (small : ∀ code ∈ chunk, code ≤ 0xFFFF)
    (few : chunk.length ≤ 100) (member : word ∈ (chunkLines offset chunk).flatMap Text.words)
    (opens : word.head? = some '<') : IsTwoBytes word := by
  obtain ⟨line, isLine, inLine⟩ := List.mem_flatMap.mp member
  simp only [chunkLines] at isLine
  split at isLine
  · cases isLine
  · have fewer := List.length_filter_le (inRange offset) chunk
    rcases List.mem_append.mp isLine with opening | closing
    · rcases List.mem_cons.mp opening with rfl | entry
      · have noBracket : ∀ n < 101, (Text.decimal n).head? ≠ some '<' := by decide +kernel
        obtain ⟨twoWords, -⟩ := count_line (chunk.filter (inRange offset)).length (by omega)
        rw [twoWords] at inLine
        rcases List.mem_cons.mp inLine with rfl | keyword
        · exact absurd opens (noBracket _ (by omega))
        · rw [List.mem_singleton.mp keyword] at opens
          exact absurd opens (by decide)
      · obtain ⟨code, valid, rfl⟩ := List.mem_map.mp entry
        obtain ⟨listed, ranged⟩ := List.mem_filter.mp valid
        have inside := inRange_iff.mp ranged
        rw [words_bfcharLine] at inLine
        rcases List.mem_cons.mp inLine with rfl | rest
        · exact isTwoBytes_hex4 (small code listed)
        · rw [List.mem_singleton.mp rest]
          exact isTwoBytes_hex4 (by omega)
    · rw [List.mem_singleton.mp closing] at inLine
      have isKeyword : word ∈ ["endbfchar".toList] := inLine
      rw [List.mem_singleton.mp isKeyword] at opens
      exact absurd opens (by decide)

/-- Of the words of a CMap that open an angle bracket, all but the one that opens a
dictionary are numerals of two bytes. -/
theorem isTwoBytes_of_mem_words (small : ∀ code ∈ codes, code ≤ 0xFFFF)
    (member : word ∈ Text.words (buildTounicodeCmap codes offset))
    (opens : word.head? = some '<') : word = "<<".toList ∨ IsTwoBytes word := by
  unfold buildTounicodeCmap at member
  rw [Text.words_join (by decide), List.flatMap_append, List.flatMap_append, List.mem_append,
    List.mem_append] at member
  rcases member with (inHead | inBody) | inTail
  · have brackets : (cmapHead.flatMap Text.words).filter (fun word => word.head? = some '<') =
        ["<<".toList, '<' :: Text.hex4 0 ++ ['>'], '<' :: Text.hex4 0xFFFF ++ ['>']] := by
      decide +kernel
    have kept : word ∈ (cmapHead.flatMap Text.words).filter fun word => word.head? = some '<' :=
      List.mem_filter.mpr ⟨inHead, decide_eq_true opens⟩
    rw [brackets] at kept
    rcases List.mem_cons.mp kept with isDictionary | codespace
    · exact .inl isDictionary
    · rcases List.mem_cons.mp codespace with rfl | last
      · exact .inr (isTwoBytes_hex4 (by decide))
      · rw [List.mem_singleton.mp last]
        exact .inr (isTwoBytes_hex4 le_rfl)
  · rw [List.flatMap_assoc] at inBody
    obtain ⟨chunk, isChunk, inChunk⟩ := List.mem_flatMap.mp inBody
    refine .inr (isTwoBytes_of_mem_chunkLines (fun code listed => small code ?_)
      (length_le_of_mem_chunks isChunk) inChunk opens)
    rw [← List.mem_insertionSort (· ≤ ·), ← @chunks_flatten (codes.insertionSort (· ≤ ·))]
    exact List.mem_flatten.mpr ⟨chunk, isChunk, listed⟩
  · have noBracket : ∀ word ∈ cmapTail.flatMap Text.words, word.head? ≠ some '<' := by
      decide +kernel
    exact absurd opens (noBracket word inTail)

/-- A block of a chunk declares what it has: one entry to a hundred. -/
theorem count_of_blockOf {block : Block} (few : chunk.length ≤ 100)
    (isBlock : blockOf offset chunk = some block) :
    block.count = block.entries.length ∧ 1 ≤ block.entries.length ∧
      block.entries.length ≤ 100 := by
  have fewer := List.length_filter_le (inRange offset) chunk
  simp only [blockOf] at isBlock
  split at isBlock
  · cases isBlock
  · rename_i some
    obtain rfl := Option.some.inj isBlock
    have positive := List.length_pos_iff.mpr fun none => some (List.isEmpty_iff.mpr none)
    rw [List.length_map]
    exact ⟨rfl, positive, by omega⟩

/-- **A CMap is read back.**  What the encoder writes for distinct codes is ASCII, is parsed by
the grammar of CMaps, and maps exactly the codes whose sum with the offset has sixteen bits,
each to that sum and once.

Every block has its own count before it and a hundred entries at most, as the grammar asks, and
whatever is written between angle brackets is two bytes. -/
theorem cmap_round_trip (codes : List ℕ) (offset : ℤ) (nodup : codes.Nodup)
    (small : ∀ code ∈ codes, code ≤ 0xFFFF) :
    ∃ blocks, readBlocks (Text.decodeAscii (Text.encodeAscii (buildTounicodeCmap codes offset))) =
        some blocks ∧
      (∀ code value, (code, value) ∈ blocks.flatMap Block.entries ↔
        code ∈ codes ∧ 0 ≤ (code : ℤ) + offset ∧ (code : ℤ) + offset ≤ 0xFFFF ∧
          (value : ℤ) = code + offset) ∧
      ((blocks.flatMap Block.entries).map Prod.fst).Nodup ∧
      (∀ block ∈ blocks, block.count = block.entries.length ∧ 1 ≤ block.entries.length ∧
        block.entries.length ≤ 100) ∧
      ∀ word ∈ Text.words (buildTounicodeCmap codes offset), word.head? = some '<' →
        word = "<<".toList ∨ IsTwoBytes word := by
  rw [Text.decodeAscii_encodeAscii fun c => ascii_buildTounicodeCmap, readBlocks_build]
  refine ⟨_, rfl, fun code value => ?_, ?_, fun block isBlock => ?_,
    fun word => isTwoBytes_of_mem_words small⟩
  · rw [mem_entries_iff, inRange_iff]
    constructor
    · rintro ⟨⟨listed, inside⟩, rfl⟩
      exact ⟨listed, inside.1, inside.2, Int.toNat_of_nonneg inside.1⟩
    · rintro ⟨listed, atLeast, atMost, isSum⟩
      exact ⟨⟨listed, atLeast, atMost⟩, by omega⟩
  · have codesOf : Prod.fst ∘ entryOf offset = id := rfl
    rw [entries_blocks, chunks_flatten, List.map_map, codesOf, List.map_id]
    exact ((List.perm_insertionSort (· ≤ ·) codes).nodup_iff.mpr nodup).filter _
  · obtain ⟨chunk, isChunk, blockOfChunk⟩ := List.mem_filterMap.mp isBlock
    exact count_of_blockOf (length_le_of_mem_chunks isChunk) blockOfChunk

/-- An instance: of the codes 3, 7 and 65535 with an offset of one the last has no sum of
sixteen bits. -/
theorem cmap_round_trip_three : ∃ blocks,
    readBlocks (Text.decodeAscii (Text.encodeAscii (buildTounicodeCmap [7, 0xFFFF, 3] 1))) =
        some blocks ∧
      (7, 8) ∈ blocks.flatMap Block.entries ∧ (3, 4) ∈ blocks.flatMap Block.entries ∧
        ∀ value, (0xFFFF, value) ∉ blocks.flatMap Block.entries := by
  obtain ⟨blocks, areRead, entries, -⟩ :=
    cmap_round_trip [7, 0xFFFF, 3] 1 (by decide) (by decide)
  refine ⟨blocks, areRead, (entries 7 8).mpr (by decide), (entries 3 4).mpr (by decide),
    fun value mapped => ?_⟩
  have sum := ((entries 0xFFFF value).mp mapped).2.2.1
  exact absurd sum (by decide)

end DicePipeline.Fonts
