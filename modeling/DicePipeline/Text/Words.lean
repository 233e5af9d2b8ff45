import DicePipeline.Text.Strings

/-!
# Words of a text, and numerals read back

`words` goes through at every space (`words_append_space`), so a text that is put
together from pieces with a space or a line break between them has the words of
the pieces.  A numeral of base sixteen is read back as the number it was printed
from (`ofDigits_hex4`).
-/

namespace DicePipeline.Text

variable {text other word : Text} {c separator : Char} {n : ℕ}

/-! ## Words -/

/-- A space ends the words before it. -/
theorem words_append_space (space : isSpace c = true) :
    words (text ++ c :: other) = words text ++ words other := by
  unfold words
  rw [List.splitOnP_append_cons text other space, List.filter_append]

/-- A text without spaces is one word. -/
theorem words_of_no_space (notEmpty : word ≠ []) (noSpace : ∀ c ∈ word, isSpace c = false) :
    words word = [word] := by
  unfold words
  rw [List.splitOnP_eq_singleton noSpace]
  simp [notEmpty]

theorem intercalate_cons_cons {line next : Text} {rest : List Text} :
    [c].intercalate (line :: next :: rest) = line ++ c :: [c].intercalate (next :: rest) := by
  simp [List.intercalate, List.intersperse]

/-- The words of a text of lines are those of the lines. -/
theorem words_join {lines : List Text} (space : isSpace c = true) :
    words (join c lines) = lines.flatMap words := by
  unfold join
  induction lines with
  | nil => rfl
  | cons line rest ih =>
    cases rest with
    | nil => simp [List.intercalate, List.intersperse]
    | cons next rest =>
      rw [intercalate_cons_cons, words_append_space space, ih]
      exact List.flatMap_cons.symm

/-! ## Cutting a text -/

/-- `text.rpartition(separator)[2]`: what is after the last separator. -/
def afterLast (separator : Char) (text : Text) : Text :=
  ((text.splitOn separator).getLast?).getD []

theorem partition_of_not_mem (absent : separator ∉ text) :
    partition separator text = (text, none) := by
  induction text with
  | nil => rfl
  | cons c rest ih =>
    have other : c ≠ separator := fun same => absent (same ▸ List.mem_cons_self)
    simp only [partition]
    rw [if_neg other, ih fun member => absent (List.mem_cons_of_mem _ member)]

theorem partition_append {after : Text} (absent : separator ∉ text) :
    partition separator (text ++ separator :: after) = (text, some after) := by
  induction text with
  | nil => simp [partition]
  | cons c rest ih =>
    have other : c ≠ separator := fun same => absent (same ▸ List.mem_cons_self)
    rw [List.cons_append]
    simp only [partition]
    rw [if_neg other, ih fun member => absent (List.mem_cons_of_mem _ member)]

theorem partition_eq_some {before after : Text}
    (split : partition separator text = (before, some after)) :
    text = before ++ separator :: after := by
  induction text generalizing before with
  | nil => simp [partition] at split
  | cons c text ih =>
    simp only [partition] at split
    split at split
    · rename_i same
      obtain ⟨rfl, isAfter⟩ := Prod.mk.inj split
      rw [same, Option.some.inj isAfter]
      rfl
    · obtain ⟨rfl, isAfter⟩ := Prod.mk.inj split
      rw [List.cons_append, ← ih (Prod.ext rfl isAfter)]

theorem partition_append_of_some {before after : Text}
    (split : partition separator text = (before, some after)) (rest : Text) :
    partition separator (text ++ rest) = (before, some (after ++ rest)) := by
  induction text generalizing before with
  | nil => simp [partition] at split
  | cons c text ih =>
    rw [List.cons_append]
    simp only [partition] at split ⊢
    split at split
    · rename_i same
      rw [Prod.mk.injEq, Option.some.injEq] at split
      rw [if_pos same, split.1, split.2]
    · rename_i other
      rw [Prod.mk.injEq] at split
      rw [if_neg other, ih (Prod.ext rfl split.2), ← split.1]

theorem partition_eq_none_iff :
    (partition separator text).2 = none ↔ separator ∉ text := by
  induction text with
  | nil => simp [partition]
  | cons c text ih =>
    simp only [partition]
    split
    · rename_i same
      simp [same]
    · rename_i other
      rw [List.mem_cons, not_or]
      exact ⟨fun none => ⟨fun same => other same.symm, ih.mp none⟩,
        fun absent => ih.mpr absent.2⟩

/-! ## Numerals -/

theorem ofDigits_append {base : ℕ} {digits more : Text} :
    ofDigits base (digits ++ more) =
      more.foldl (fun value c => base * value + digitValue c) (ofDigits base digits) := by
  unfold ofDigits
  rw [List.foldl_append]

theorem ofDigits_concat {base : ℕ} {digits : Text} :
    ofDigits base (digits ++ [c]) = base * ofDigits base digits + digitValue c := by
  rw [ofDigits_append]
  rfl

/-- Zeros before a numeral count nothing. -/
theorem ofDigits_zeros {base count : ℕ} {digits : Text} :
    ofDigits base (List.replicate count '0' ++ digits) = ofDigits base digits := by
  have zeros : ofDigits base (List.replicate count '0') = 0 := by
    induction count with
    | zero => rfl
    | succ count ih =>
      rw [List.replicate_succ', ofDigits_concat, ih]
      rfl
  rw [ofDigits_append, zeros]
  rfl

/-- A digit of base sixteen: no space, and of ASCII. -/
def IsHex (c : Char) : Prop := isHexDigit c = true ∧ isSpace c = false ∧ c.toNat < 128

instance : Decidable (IsHex c) := inferInstanceAs (Decidable (_ ∧ _ ∧ _))

/-- The digits of base sixteen, in upper case. -/
theorem digit_toUpper : ∀ d < 16, digitValue (Nat.digitChar d).toUpper = d ∧
    IsHex (Nat.digitChar d).toUpper := by
  decide

section Digits

variable {base : ℕ} {f : Char → Char} (large : 1 < base) (small : base ≤ 16)
include large small

/-- The digits of a number are read back as the number, however they are written. -/
theorem ofDigits_map_toDigits (value : ∀ d < 16, digitValue (f (Nat.digitChar d)) = d) :
    ofDigits base ((Nat.toDigits base n).map f) = n := by
  induction n using Nat.strongRecOn with
  | ind n ih =>
    rw [Nat.toDigits_eq_if large]
    by_cases digit : n < base
    · rw [if_pos digit, List.map_singleton]
      show base * 0 + digitValue (f (Nat.digitChar n)) = n
      rw [value n (by omega)]
      omega
    · have fewer : n / base < n := Nat.div_lt_self (by omega) large
      have last : n % base < base := Nat.mod_lt n (by omega)
      rw [if_neg digit, List.map_append, List.map_singleton, ofDigits_concat, ih _ fewer,
        value _ (by omega)]
      exact Nat.div_add_mod n base

theorem of_mem_map_toDigits {P : Char → Prop} (holds : ∀ d < 16, P (f (Nat.digitChar d)))
    (member : c ∈ (Nat.toDigits base n).map f) : P c := by
  induction n using Nat.strongRecOn with
  | ind n ih =>
    rw [Nat.toDigits_eq_if large] at member
    by_cases digit : n < base
    · rw [if_pos digit, List.map_singleton] at member
      rw [List.mem_singleton.mp member]
      exact holds n (by omega)
    · have fewer : n / base < n := Nat.div_lt_self (by omega) large
      have lastDigit : n % base < base := Nat.mod_lt n (by omega)
      rw [if_neg digit, List.map_append] at member
      rcases List.mem_append.mp member with before | last
      · exact ih _ fewer before
      · rw [List.mem_singleton.mp last]
        exact holds _ (by omega)

end Digits

/-- The digits of base sixteen, in lower case. -/
theorem digit_lower : ∀ d < 16, digitValue (Nat.digitChar d) = d ∧
    isHexDigit (Nat.digitChar d) = true := by
  decide

theorem ofDigits_hex : ofDigits 16 (hex n) = n := by
  have read := @ofDigits_map_toDigits n 16 id (by decide) (by decide) fun d small =>
    (digit_lower d small).1
  rwa [List.map_id] at read

theorem isHexDigit_of_mem_hex (member : c ∈ hex n) : isHexDigit c = true := by
  have written : c ∈ (Nat.toDigits 16 n).map id := by
    rwa [List.map_id]
  exact @of_mem_map_toDigits c n 16 id (by decide) (by decide) (fun c => isHexDigit c = true)
    (fun d small => (digit_lower d small).2) written

theorem hex_ne_nil : hex n ≠ [] :=
  List.length_pos_iff.mp Nat.length_toDigits_pos

/-- Two numbers have two numerals. -/
theorem decimal_injective {m : ℕ} (same : decimal n = decimal m) : n = m := by
  have read := fun n => @ofDigits_map_toDigits n 10 id (by decide) (by decide) fun d small =>
    (digit_lower d small).1
  simp only [List.map_id] at read
  have both := congrArg (ofDigits 10) same
  rwa [decimal, decimal, read, read] at both

theorem decimal_ne_nil : decimal n ≠ [] := List.length_pos_iff.mp Nat.length_toDigits_pos

/-- The digits of base ten, as `int` takes them. -/
theorem isDecimalDigit_of_mem_decimal (member : c ∈ decimal n) :
    isDecimalDigit c = true ∧ isIntBlank c = false ∧ c ≠ '-' ∧ c ≠ '+' ∧ (c == '_') = false := by
  have digits : ∀ d < 16, (Nat.digitChar d).isDigit = true →
      isDecimalDigit (Nat.digitChar d) = true ∧ isIntBlank (Nat.digitChar d) = false ∧
        Nat.digitChar d ≠ '-' ∧ Nat.digitChar d ≠ '+' ∧ (Nat.digitChar d == '_') = false := by
    decide
  have written : c ∈ (Nat.toDigits 10 n).map id := by rwa [List.map_id]
  exact @of_mem_map_toDigits c n 10 id (by decide) (by decide) (fun c => c.isDigit = true →
    isDecimalDigit c = true ∧ isIntBlank c = false ∧ c ≠ '-' ∧ c ≠ '+' ∧ (c == '_') = false)
    digits written (Nat.isDigit_of_mem_toDigits (by decide) (by decide) member)

/-- `int` reads what `str` writes, as long as it is not too long. -/
theorem isSome_readInt_decimal (short : (decimal n).length ≤ maxStrDigits) :
    (readInt (decimal n)).isSome = true := by
  have digits := fun c => @isDecimalDigit_of_mem_decimal c n
  have trimmed : (((decimal n).dropWhile isIntBlank).reverse.dropWhile isIntBlank).reverse =
      decimal n := by
    have noBlank : ∀ text : Text, (∀ c ∈ text, isIntBlank c = false) →
        text.dropWhile isIntBlank = text := by
      intro text none
      cases text with
      | nil => rfl
      | cons c rest => rw [List.dropWhile_cons_of_neg (by simp [none c List.mem_cons_self])]
    rw [noBlank _ fun c member => (digits c member).2.1,
      noBlank _ fun c member => (digits c (List.mem_reverse.mp member)).2.1, List.reverse_reverse]
  have read : (readDigits (decimal n)).isSome = true := by
    have one : (decimal n).splitOn '_' = [decimal n] :=
      List.splitOnP_eq_singleton fun c member => (digits c member).2.2.2.2
    unfold readDigits
    simp only [one, List.flatten_singleton]
    rw [if_pos]
    · rfl
    · refine ⟨?_, short⟩
      simpa [decimal_ne_nil] using fun c member => (digits c member).1
  unfold readInt
  rw [trimmed]
  split
  · rename_i rest isText
    exact absurd rfl (digits '-' (isText ▸ List.mem_cons_self)).2.2.1
  · rename_i rest isText
    exact absurd rfl (digits '+' (isText ▸ List.mem_cons_self)).2.2.2.1
  · rw [Option.isSome_map]
    exact read

/-- A number is read back from its four digits. -/
theorem ofDigits_hex4 : ofDigits 16 (hex4 n) = n := by
  unfold hex4
  rw [ofDigits_zeros]
  exact ofDigits_map_toDigits (by decide) (by decide) fun d small => (digit_toUpper d small).1

theorem isHex_of_mem_hex4 (member : c ∈ hex4 n) : IsHex c := by
  rcases List.mem_append.mp member with zero | digit
  · rw [List.eq_of_mem_replicate zero]
    decide
  · exact of_mem_map_toDigits (by decide) (by decide)
      (fun d small => (digit_toUpper d small).2) digit

theorem hex4_ne_nil : hex4 n ≠ [] := by
  simp [hex4]

/-! ## ASCII -/

/-- The text some bytes are in ASCII. -/
def decodeAscii (bytes : List UInt8) : Text := bytes.map fun byte => Char.ofNat byte.toNat

/-- A text of ASCII is what its bytes are decoded to. -/
theorem decodeAscii_encodeAscii (ascii : ∀ c ∈ text, c.toNat < 128) :
    decodeAscii (encodeAscii text) = text := by
  unfold decodeAscii encodeAscii
  rw [List.map_map]
  conv => rhs; rw [← List.map_id text]
  refine List.map_congr_left ?_
  intro c member
  have small := ascii c member
  have byte : (UInt8.ofNat c.toNat).toNat = c.toNat := by
    rw [UInt8.toNat_ofNat']
    omega
  simp [small, byte]

theorem mem_join {lines : List Text} (member : c ∈ join separator lines) :
    c = separator ∨ ∃ line ∈ lines, c ∈ line := by
  unfold join at member
  induction lines with
  | nil => exact absurd member List.not_mem_nil
  | cons line rest ih =>
    cases rest with
    | nil =>
      exact .inr ⟨line, List.mem_cons_self, by simpa [List.intercalate, List.intersperse] using member⟩
    | cons next rest =>
      rw [intercalate_cons_cons] at member
      rcases List.mem_append.mp member with here | later
      · exact .inr ⟨line, List.mem_cons_self, here⟩
      · rcases List.mem_cons.mp later with isSeparator | later
        · exact .inl isSeparator
        · refine (ih later).imp_right ?_
          rintro ⟨found, inRest, inLine⟩
          exact ⟨found, List.mem_cons_of_mem _ inRest, inLine⟩

end DicePipeline.Text
