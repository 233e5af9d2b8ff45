import Mathlib.Data.Int.Notation
import Mathlib.Data.List.Sort
import DicePipeline.Text.Words

/-!
# `/ToUnicode` CMaps (`_build_tounicode_cmap`)

`buildTounicodeCmap` prints a CMap that sends each code to the code plus an
offset, a hundred codes to a `bfchar` block.  `readBlocks` reads the blocks of a
CMap: a count before `beginbfchar`, then pairs of numerals in angle brackets up
to `endbfchar`.  What is printed is read back: one block for each hundred codes
that has any in range (`readBlocks_build`).
-/

namespace DicePipeline.Fonts

/-! ## Printing -/

/-- Whether a code plus the offset is a code point of sixteen bits. -/
def inRange (offset : ℤ) (code : ℕ) : Bool := 0 ≤ code + offset && code + offset ≤ 0xFFFF

/-- `sorted_codes[start : start + 100]` for each start. -/
def chunks (codes : List ℕ) : List (List ℕ) :=
  (List.range ((codes.length + 99) / 100)).map fun k => (codes.drop (100 * k)).take 100

/-- One line of a block. -/
def bfcharLine (offset : ℤ) (code : ℕ) : Text :=
  '<' :: Text.hex4 code ++ "> <".toList ++ Text.hex4 (code + offset).toNat ++ ['>']

/-- The lines of one chunk. -/
def chunkLines (offset : ℤ) (chunk : List ℕ) : List Text :=
  let valid := chunk.filter (inRange offset)
  if valid.isEmpty then []
  else
    (Text.decimal valid.length ++ " beginbfchar".toList) ::
      valid.map (bfcharLine offset) ++ ["endbfchar".toList]

def cmapHead : List Text := [
  "/CIDInit /ProcSet findresource begin",
  "12 dict begin",
  "begincmap",
  "/CIDSystemInfo << /Registry (Adobe) /Ordering (UCS) /Supplement 0 >> def",
  "/CMapName /Adobe-Identity-UCS def",
  "/CMapType 2 def",
  "1 begincodespacerange",
  "<0000> <FFFF>",
  "endcodespacerange"].map String.toList

def cmapTail : List Text := [
  "endcmap",
  "CMapName currentdict /CMap defineresource pop",
  "end",
  "end",
  ""].map String.toList

/-- `_build_tounicode_cmap`, before it is encoded. -/
def buildTounicodeCmap (codes : List ℕ) (offset : ℤ) : Text :=
  let sortedCodes := codes.insertionSort (· ≤ ·)
  Text.join '\n' (cmapHead ++ (chunks sortedCodes).flatMap (chunkLines offset) ++ cmapTail)

/-! ## Reading -/

/-- A `bfchar` block: the count it declares, and its entries. -/
structure Block where
  count : ℕ
  entries : List (ℕ × ℕ)
  deriving DecidableEq, Repr

/-- Where the reader is: outside a block, the last word being `last`, or inside
one, perhaps between the two numerals of an entry. -/
inductive Place where
  | outside (last : Text)
  | inside (block : Block) (code : Option ℕ)
  deriving DecidableEq, Repr

/-- What has been read so far. -/
structure Reader where
  blocks : List Block
  place : Place
  deriving DecidableEq, Repr

/-- A numeral in angle brackets. -/
def readNumeral (word : Text) : Option ℕ :=
  match word with
  | '<' :: rest =>
      if rest.getLast? = some '>' ∧ rest.dropLast ≠ [] ∧ rest.dropLast.all Text.isHexDigit then
        some (Text.ofDigits 16 rest.dropLast)
      else none
  | _ => none

/-- Reads one word. -/
def readWord (reader : Reader) (word : Text) : Option Reader :=
  match reader.place with
  | .outside last =>
      if word = "beginbfchar".toList then
        (Text.int last).map fun count => { reader with place := .inside ⟨count, []⟩ none }
      else some { reader with place := .outside word }
  | .inside block none =>
      if word = "endbfchar".toList then
        some ⟨reader.blocks ++ [block], .outside word⟩
      else (readNumeral word).map fun code => { reader with place := .inside block (some code) }
  | .inside block (some code) =>
      (readNumeral word).map fun value =>
        { reader with place := .inside { block with entries := block.entries ++ [(code, value)] } none }

/-- The `bfchar` blocks of a CMap. -/
def readBlocks (cmap : Text) : Option (List Block) :=
  ((Text.words cmap).foldlM readWord ⟨[], .outside []⟩).bind fun reader =>
    match reader.place with
    | .outside _ => some reader.blocks
    | .inside _ _ => none

/-! ## What is printed is read back -/

variable {codes chunk : List ℕ} {offset : ℤ} {code n : ℕ} {blocks : List Block} {last : Text}

/-- The hundreds make up the list. -/
theorem chunks_flatten : (chunks codes).flatten = codes := by
  have taken : ∀ count, ((List.range count).map fun k => (codes.drop (100 * k)).take 100).flatten =
      codes.take (100 * count) := by
    intro count
    induction count with
    | zero => rfl
    | succ count ih =>
      rw [List.range_succ, List.map_append, List.flatten_append, ih, List.map_singleton,
        List.flatten_singleton, Nat.mul_succ, List.take_add]
  unfold chunks
  rw [taken]
  exact List.take_of_length_le (by omega)

theorem length_le_of_mem_chunks (member : chunk ∈ chunks codes) : chunk.length ≤ 100 := by
  obtain ⟨k, -, rfl⟩ := List.mem_map.mp member
  exact List.length_take_le _ _

/-- The entry of a code. -/
def entryOf (offset : ℤ) (code : ℕ) : ℕ × ℕ := (code, (code + offset).toNat)

/-- The block of a chunk, if any of its codes is in range. -/
def blockOf (offset : ℤ) (chunk : List ℕ) : Option Block :=
  let valid := chunk.filter (inRange offset)
  if valid.isEmpty then none
  else some ⟨valid.length, valid.map (entryOf offset)⟩

theorem bfcharLine_eq : bfcharLine offset code = ('<' :: Text.hex4 code ++ ['>']) ++ ' ' ::
    ('<' :: Text.hex4 (code + offset).toNat ++ ['>']) := by
  simp [bfcharLine]

theorem words_bfcharLine : Text.words (bfcharLine offset code) =
    ['<' :: Text.hex4 code ++ ['>'], '<' :: Text.hex4 (code + offset).toNat ++ ['>']] := by
  have numeral : ∀ n, Text.words ('<' :: Text.hex4 n ++ ['>']) = ['<' :: Text.hex4 n ++ ['>']] := by
    intro n
    refine Text.words_of_no_space (by simp) ?_
    intro c member
    rcases List.mem_append.mp member with inside | close
    · rcases List.mem_cons.mp inside with rfl | digit
      · decide
      · exact (Text.isHex_of_mem_hex4 digit).2.1
    · rw [List.mem_singleton.mp close]
      decide
  rw [bfcharLine_eq, Text.words_append_space (by decide), numeral, numeral]
  rfl

theorem readNumeral_hex4 : readNumeral ('<' :: Text.hex4 n ++ ['>']) = some n := by
  have digits : (Text.hex4 n).all Text.isHexDigit = true := by
    rw [List.all_eq_true]
    intro c member
    exact (Text.isHex_of_mem_hex4 member).1
  have cut : (Text.hex4 n ++ ['>']).dropLast = Text.hex4 n := List.dropLast_concat
  show (if (Text.hex4 n ++ ['>']).getLast? = some '>' ∧ (Text.hex4 n ++ ['>']).dropLast ≠ [] ∧
      (Text.hex4 n ++ ['>']).dropLast.all Text.isHexDigit = true then
    some (Text.ofDigits 16 (Text.hex4 n ++ ['>']).dropLast) else none) = some n
  rw [cut, if_pos ⟨by simp, Text.hex4_ne_nil, digits⟩, Text.ofDigits_hex4]

/-- A numeral is no keyword. -/
theorem numeral_ne_endbfchar : '<' :: Text.hex4 n ++ ['>'] ≠ "endbfchar".toList := by
  intro same
  have first := congrArg List.head? same
  simp at first

theorem readWord_outside {word : Text} (noKeyword : word ≠ "beginbfchar".toList) :
    readWord ⟨blocks, .outside last⟩ word = some ⟨blocks, .outside word⟩ := by
  simp only [readWord, if_neg noKeyword]

theorem readWord_begin : readWord ⟨blocks, .outside last⟩ "beginbfchar".toList =
    (Text.int last).map fun count => ⟨blocks, .inside ⟨count, []⟩ none⟩ := by
  simp only [readWord, if_true]

/-- The lines of the entries are read one after the other. -/
theorem read_entries {block : Block} :
    ((codes.map (bfcharLine offset)).flatMap Text.words).foldlM readWord
        ⟨blocks, .inside block none⟩ =
      some ⟨blocks, .inside { block with
        entries := block.entries ++ codes.map (entryOf offset) } none⟩ := by
  induction codes generalizing block with
  | nil => simp
  | cons code rest ih =>
    rw [List.map_cons, List.flatMap_cons, words_bfcharLine, List.foldlM_append]
    have two : [('<' :: Text.hex4 code ++ ['>'] : Text),
          '<' :: Text.hex4 (code + offset).toNat ++ ['>']].foldlM readWord
        ⟨blocks, .inside block none⟩ =
        some ⟨blocks, .inside { block with
          entries := block.entries ++ [entryOf offset code] } none⟩ := by
      simp only [List.foldlM_cons, List.foldlM_nil, readWord, readNumeral_hex4,
        if_neg numeral_ne_endbfchar, Option.map_some]
      rfl
    rw [two]
    show List.foldlM readWord _ _ = _
    rw [ih]
    simp

/-- The count of a block, as it is printed and read. -/
theorem count_line : ∀ n < 101, Text.words (Text.decimal n ++ " beginbfchar".toList) =
    [Text.decimal n, "beginbfchar".toList] ∧ Text.int (Text.decimal n) = some n ∧
    Text.decimal n ≠ "beginbfchar".toList ∧
    ((Text.decimal n).all fun c => c.toNat < 128) = true := by
  decide +kernel

/-- The lines of a chunk are read as its block. -/
theorem read_chunk (few : chunk.length ≤ 100) :
    ∃ last', ((chunkLines offset chunk).flatMap Text.words).foldlM readWord
        ⟨blocks, .outside last⟩ =
      some ⟨blocks ++ (blockOf offset chunk).toList, .outside last'⟩ := by
  unfold chunkLines blockOf
  by_cases empty : (chunk.filter (inRange offset)).isEmpty = true
  · rw [if_pos empty, if_pos empty]
    exact ⟨last, by simp⟩
  · rw [if_neg empty, if_neg empty]
    generalize valids : chunk.filter (inRange offset) = valid
    have small : valid.length < 101 := by
      have := List.length_filter_le (inRange offset) chunk
      rw [valids] at this
      omega
    obtain ⟨head, count, noKeyword, -⟩ := count_line valid.length small
    refine ⟨"endbfchar".toList, ?_⟩
    -- The count and the keyword open the block, its entries are read, a keyword closes it.
    have opened : [Text.decimal valid.length, "beginbfchar".toList].foldlM readWord
        ⟨blocks, .outside last⟩ = some ⟨blocks, .inside ⟨valid.length, []⟩ none⟩ := by
      rw [List.foldlM_cons, readWord_outside noKeyword]
      show List.foldlM readWord _ _ = _
      rw [List.foldlM_cons, readWord_begin, count]
      rfl
    have closed : ∀ block : Block, (Text.words "endbfchar".toList).foldlM readWord
        ⟨blocks, .inside block none⟩ = some ⟨blocks ++ [block], .outside "endbfchar".toList⟩ :=
      fun block => rfl
    rw [List.cons_append, List.flatMap_cons, head, List.flatMap_append, List.foldlM_append, opened]
    show List.foldlM readWord _ _ = _
    rw [List.foldlM_append, read_entries]
    show List.foldlM readWord _ _ = _
    rw [List.flatMap_singleton, closed, List.nil_append]
    rfl

/-- The blocks of the chunks are read one after the other. -/
theorem read_chunks {all : List (List ℕ)} (few : ∀ chunk ∈ all, chunk.length ≤ 100) :
    ∃ last', ((all.flatMap (chunkLines offset)).flatMap Text.words).foldlM readWord
        ⟨blocks, .outside last⟩ =
      some ⟨blocks ++ all.filterMap (blockOf offset), .outside last'⟩ := by
  induction all generalizing blocks last with
  | nil => exact ⟨last, by simp⟩
  | cons chunk rest ih =>
    obtain ⟨between, first⟩ := @read_chunk chunk offset blocks last (few chunk List.mem_cons_self)
    obtain ⟨last', later⟩ := @ih (blocks ++ (blockOf offset chunk).toList) between
      fun other member => few other (List.mem_cons_of_mem _ member)
    refine ⟨last', ?_⟩
    rw [List.flatMap_cons, List.flatMap_append, List.foldlM_append, first]
    show List.foldlM readWord _ _ = _
    rw [later, List.append_assoc]
    cases isBlock : blockOf offset chunk <;> simp [isBlock]

/-- **A CMap is read back**: one block for each hundred codes with any in range. -/
theorem readBlocks_build : readBlocks (buildTounicodeCmap codes offset) =
    some ((chunks (codes.insertionSort (· ≤ ·))).filterMap (blockOf offset)) := by
  unfold readBlocks buildTounicodeCmap
  rw [Text.words_join (by decide), List.flatMap_append, List.flatMap_append]
  have head : (cmapHead.flatMap Text.words).foldlM readWord ⟨[], .outside []⟩ =
      some ⟨[], .outside "endcodespacerange".toList⟩ := by
    decide +kernel
  have tail : ∀ blocks last, (cmapTail.flatMap Text.words).foldlM readWord
      ⟨blocks, .outside last⟩ = some ⟨blocks, .outside "end".toList⟩ := fun blocks last => rfl
  obtain ⟨last', body⟩ := @read_chunks offset [] "endcodespacerange".toList
    (chunks (codes.insertionSort (· ≤ ·))) fun chunk => length_le_of_mem_chunks
  rw [List.foldlM_append, List.foldlM_append, head]
  show Option.bind (Option.bind (List.foldlM readWord _ _) _) _ = _
  rw [body]
  show Option.bind (List.foldlM readWord _ _) _ = _
  rw [tail, List.nil_append]
  rfl

/-! ## The stream -/

private theorem ascii_of_all {text : Text} {c : Char}
    (all : (text.all fun c => c.toNat < 128) = true) (member : c ∈ text) : c.toNat < 128 :=
  of_decide_eq_true (List.all_eq_true.mp all c member)

/-- A CMap is all ASCII. -/
theorem ascii_buildTounicodeCmap {c : Char} (member : c ∈ buildTounicodeCmap codes offset) :
    c.toNat < 128 := by
  have numeral : ∀ n, ∀ c ∈ '<' :: Text.hex4 n ++ ['>'], c.toNat < 128 := by
    intro n c member
    rcases List.mem_append.mp member with inside | close
    · rcases List.mem_cons.mp inside with rfl | digit
      · decide
      · exact (Text.isHex_of_mem_hex4 digit).2.2
    · rw [List.mem_singleton.mp close]
      decide
  rcases Text.mem_join member with rfl | ⟨line, isLine, inLine⟩
  · decide
  rcases List.mem_append.mp isLine with before | inTail
  · rcases List.mem_append.mp before with inHead | inBody
    · have ascii : (cmapHead.flatten.all fun c => c.toNat < 128) = true := by decide +kernel
      exact ascii_of_all ascii (List.mem_flatten.mpr ⟨line, inHead, inLine⟩)
    · obtain ⟨chunk, isChunk, inChunk⟩ := List.mem_flatMap.mp inBody
      have few := length_le_of_mem_chunks isChunk
      simp only [chunkLines] at inChunk
      split at inChunk
      · exact absurd inChunk List.not_mem_nil
      · rcases List.mem_append.mp inChunk with opening | closing
        · rcases List.mem_cons.mp opening with rfl | entry
          · have small := List.length_filter_le (inRange offset) chunk
            rcases List.mem_append.mp inLine with digit | keyword
            · exact ascii_of_all (count_line _ (by omega)).2.2.2 digit
            · exact ascii_of_all (by decide) keyword
          · obtain ⟨code, -, rfl⟩ := List.mem_map.mp entry
            rw [bfcharLine_eq] at inLine
            rcases List.mem_append.mp inLine with inCode | rest
            · exact numeral _ c inCode
            · rcases List.mem_cons.mp rest with rfl | inValue
              · decide
              · exact numeral _ c inValue
        · rw [List.mem_singleton.mp closing] at inLine
          exact ascii_of_all (by decide) inLine
  · have ascii : (cmapTail.flatten.all fun c => c.toNat < 128) = true := by decide +kernel
    exact ascii_of_all ascii (List.mem_flatten.mpr ⟨line, inTail, inLine⟩)

/-- The data of a `/ToUnicode` stream maps a code. -/
def MapsCode (data : List UInt8) (code : ℕ) : Prop :=
  ∃ blocks, readBlocks (Text.decodeAscii data) = some blocks ∧
    ∃ block ∈ blocks, ∃ value, (code, value) ∈ block.entries

/-- The entries of the blocks are those of the codes in range, in their order. -/
theorem entries_blocks {all : List (List ℕ)} :
    (all.filterMap (blockOf offset)).flatMap Block.entries =
      (all.flatten.filter (inRange offset)).map (entryOf offset) := by
  induction all with
  | nil => rfl
  | cons chunk rest ih =>
    rw [List.flatten_cons, List.filter_append, List.map_append, ← ih]
    cases isBlock : blockOf offset chunk with
    | none =>
      have empty : chunk.filter (inRange offset) = [] := by
        by_contra some
        simp [blockOf, some] at isBlock
      rw [List.filterMap_cons_none isBlock, empty]
      rfl
    | some block =>
      rw [List.filterMap_cons_some isBlock, List.flatMap_cons]
      simp only [blockOf] at isBlock
      split at isBlock
      · cases isBlock
      · cases isBlock
        rfl

/-- The entries that are read from a printed CMap. -/
theorem mem_entries_iff {value : ℕ} :
    (code, value) ∈ ((chunks (codes.insertionSort (· ≤ ·))).filterMap (blockOf offset)).flatMap
        Block.entries ↔
      (code ∈ codes ∧ inRange offset code = true) ∧ value = (code + offset).toNat := by
  rw [entries_blocks, chunks_flatten, List.mem_map]
  constructor
  · rintro ⟨found, listed, same⟩
    cases same
    rw [List.mem_filter, List.mem_insertionSort] at listed
    exact ⟨listed, rfl⟩
  · rintro ⟨listed, rfl⟩
    refine ⟨code, ?_, rfl⟩
    rwa [List.mem_filter, List.mem_insertionSort]

/-- **What a printed CMap maps**: the codes that are in range. -/
theorem mapsCode_build : MapsCode (Text.encodeAscii (buildTounicodeCmap codes offset)) code ↔
    code ∈ codes ∧ inRange offset code = true := by
  unfold MapsCode
  rw [Text.decodeAscii_encodeAscii fun c => ascii_buildTounicodeCmap, readBlocks_build]
  constructor
  · rintro ⟨blocks, areBlocks, block, isBlock, value, isEntry⟩
    obtain rfl := Option.some.inj areBlocks
    exact (mem_entries_iff.mp (List.mem_flatMap.mpr ⟨block, isBlock, isEntry⟩)).1
  · intro mapped
    obtain ⟨block, isBlock, isEntry⟩ := List.mem_flatMap.mp (mem_entries_iff.mpr ⟨mapped, rfl⟩)
    exact ⟨_, rfl, block, isBlock, _, isEntry⟩

end DicePipeline.Fonts
