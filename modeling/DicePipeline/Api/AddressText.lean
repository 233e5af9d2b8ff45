import DicePipeline.Api.Hextets

/-!
# Addresses are read back from their texts

`str` of an address, and `ip_address` of that text, give the address back with its
scope id (`ofText_text`): for every IPv4 address, for every IPv6 address, and for
every scope id that an address can have been read with (`ScopeRead`).

So two addresses that were read have two texts (`text_injective`), and but for the
scope id a text is short (`length_text_v4`, `length_text_v6`).
-/

namespace DicePipeline

variable {text : Text} {c separator : Char} {m : ℕ}

namespace Text

/-! ## Cutting a text -/

theorem splitOn_join {parts : List Text} (notEmpty : parts ≠ [])
    (apart : ∀ part ∈ parts, separator ∉ part) :
    (join separator parts).splitOn separator = parts :=
  List.splitOn_intercalate separator apart notEmpty

/-- A text without a character splits into itself. -/
theorem not_mem_join {parts : List Text} (different : c ≠ separator)
    (absent : ∀ part ∈ parts, c ∉ part) : c ∉ join separator parts := by
  intro member
  rcases mem_join member with same | ⟨part, isPart, inPart⟩
  · exact different same
  · exact absent part isPart inPart

end Text

namespace IpAddress

/-! ## IPv4 -/

theorem parseOctet_decimal : ∀ octet : BitVec 8,
    parseOctet (Text.decimal octet.toNat) = some octet ∧
      (Text.decimal octet.toNat).all Char.isDigit = true ∧
      (Text.decimal octet.toNat).length ≤ 3 := by
  intro octet
  have all : ∀ n < 256, parseOctet (Text.decimal n) = some (BitVec.ofNat 8 n) ∧
      (Text.decimal n).all Char.isDigit = true ∧ (Text.decimal n).length ≤ 3 := by
    decide +kernel
  have read := all octet.toNat octet.isLt
  rwa [BitVec.ofNat_toNat, BitVec.setWidth_eq] at read

theorem append_octets (ip : BitVec 32) :
    ip.extractLsb' 24 8 ++ ip.extractLsb' 16 8 ++ ip.extractLsb' 8 8 ++ ip.extractLsb' 0 8 = ip := by
  refine BitVec.eq_of_getLsbD_eq fun i inside => ?_
  simp only [BitVec.getLsbD_append, BitVec.getLsbD_extractLsb']
  rcases Nat.lt_or_ge i 8 with first | first
  · simp [first]
  rcases Nat.lt_or_ge i 16 with second | second
  · have below : i - 8 < 8 := by omega
    simp [Nat.not_lt.mpr first, below, Nat.add_sub_cancel' first]
  rcases Nat.lt_or_ge i 24 with third | third
  · have above : ¬ i - 8 < 8 := by omega
    have below : i - 8 - 8 < 8 := by omega
    simp only [Nat.not_lt.mpr first, above, below, decide_true, decide_false, if_true, if_false,
      Bool.true_and]
    congr 1
    omega
  · have above : ¬ i - 8 < 8 := by omega
    have above' : ¬ i - 8 - 8 < 8 := by omega
    have below : i - 8 - 8 - 8 < 8 := by omega
    simp only [Nat.not_lt.mpr first, above, above', below, decide_true, decide_false, if_false,
      Bool.true_and]
    congr 1
    omega

/-- The texts of the four octets. -/
def octetTexts (ip : BitVec 32) : List Text :=
  [ip.extractLsb' 24 8, ip.extractLsb' 16 8, ip.extractLsb' 8 8, ip.extractLsb' 0 8].map
    fun octet => Text.decimal octet.toNat

theorem text_v4 (ip : BitVec 32) : (IpAddress.v4 ip).text = Text.join '.' (octetTexts ip) := rfl

theorem isDigit_of_mem_octetTexts {ip : BitVec 32} {part : Text} (isPart : part ∈ octetTexts ip)
    (member : c ∈ part) : c.isDigit = true := by
  obtain ⟨octet, -, rfl⟩ := List.mem_map.mp isPart
  exact List.all_eq_true.mp (parseOctet_decimal octet).2.1 c member

theorem ofTextV4_text (ip : BitVec 32) : ofTextV4 (IpAddress.v4 ip).text = some ip := by
  have noSlash : '/' ∉ (IpAddress.v4 ip).text := by
    rw [text_v4]
    refine Text.not_mem_join (by decide) fun part isPart member => ?_
    exact absurd (isDigit_of_mem_octetTexts isPart member) (by decide)
  have pieces : (IpAddress.v4 ip).text.splitOn '.' = octetTexts ip := by
    rw [text_v4]
    refine Text.splitOn_join (by simp [octetTexts]) fun part isPart member => ?_
    exact absurd (isDigit_of_mem_octetTexts isPart member) (by decide)
  unfold ofTextV4 parseV4
  rw [if_neg noSlash, pieces]
  simp only [octetTexts, List.map_cons, List.map_nil, (parseOctet_decimal _).1]
  show some (ip.extractLsb' 24 8 ++ ip.extractLsb' 16 8 ++ ip.extractLsb' 8 8 ++
    ip.extractLsb' 0 8) = some ip
  rw [append_octets]

/-- What is read as an IPv4 address has no colon. -/
theorem noColon_of_parseV4 {ip : BitVec 32} (read : parseV4 text = some ip) : ':' ∉ text := by
  have digits : ∀ octet value, parseOctet octet = some value → ':' ∉ octet := by
    intro octet value isOctet member
    unfold parseOctet at isOctet
    split at isOctet
    · exact absurd isOctet (by simp)
    · rename_i fine
      have isDigits : Text.isAsciiDigits octet = true := by
        by_contra other
        exact fine (.inl other)
      unfold Text.isAsciiDigits at isDigits
      rw [Bool.and_eq_true, List.all_eq_true] at isDigits
      exact absurd (isDigits.2 ':' member) (by decide)
  unfold parseV4 at read
  split at read
  · rename_i first second third fourth pieces
    obtain ⟨a, isA, read⟩ := Option.bind_eq_some_iff.mp read
    obtain ⟨b, isB, read⟩ := Option.bind_eq_some_iff.mp read
    obtain ⟨d, isC, read⟩ := Option.bind_eq_some_iff.mp read
    obtain ⟨e, isD, read⟩ := Option.bind_eq_some_iff.mp read
    rw [← @List.intercalate_splitOn _ text _ _ '.', pieces]
    refine Text.not_mem_join (by decide) fun part isPart => ?_
    simp only [List.mem_cons, List.not_mem_nil, or_false] at isPart
    rcases isPart with rfl | rfl | rfl | rfl
    · exact digits _ _ isA
    · exact digits _ _ isB
    · exact digits _ _ isC
    · exact digits _ _ isD
  · exact absurd read (by simp)

/-! ## IPv6 -/

variable {ip : BitVec 128} {scopeId : Option Text}

/-- `str` of an address without a scope id. -/
theorem text_v6 (ip : BitVec 128) : (IpAddress.v6 ip none).text =
    Text.join ':' (compressHextets (hextetTexts (hextets ip))) := rfl

theorem text_v6_scope (ip : BitVec 128) (scope : Text) :
    (IpAddress.v6 ip (some scope)).text = (IpAddress.v6 ip none).text ++ '%' :: scope := rfl

theorem isHexDigit_of_mem_parts {part : Text}
    (isPart : part ∈ compressHextets (hextetTexts (hextets ip))) (member : c ∈ part) :
    Text.isHexDigit c = true :=
  List.all_eq_true.mp ((parts_of_compressHextets (length_hextets ip)).1 part isPart).2 c member

/-- An address is hexadecimal digits and colons. -/
theorem not_mem_text_v6 (notDigit : Text.isHexDigit c = false) (notColon : c ≠ ':') :
    c ∉ (IpAddress.v6 ip none).text := by
  rw [text_v6]
  refine Text.not_mem_join notColon fun part isPart member => ?_
  rw [isHexDigit_of_mem_parts isPart member] at notDigit
  exact absurd notDigit (by decide)

theorem splitOn_text_v6 : (IpAddress.v6 ip none).text.splitOn ':' =
    compressHextets (hextetTexts (hextets ip)) := by
  have three := (parts_of_compressHextets (length_hextets ip)).2.1
  rw [text_v6]
  refine Text.splitOn_join (List.ne_nil_of_length_pos (by omega)) fun part isPart member => ?_
  exact absurd (isHexDigit_of_mem_parts isPart member) (by decide)

theorem colon_mem_text_v6 : ':' ∈ (IpAddress.v6 ip none).text := by
  have three := (parts_of_compressHextets (length_hextets ip)).2.1
  by_contra absent
  have single := List.splitOn_eq_singleton absent
  rw [splitOn_text_v6] at single
  rw [single, List.length_singleton] at three
  omega

theorem splitHextets_text_v6 : splitHextets (IpAddress.v6 ip none).text =
    some (compressHextets (hextetTexts (hextets ip))) := by
  have three := (parts_of_compressHextets (length_hextets ip)).2.1
  have some : compressHextets (hextetTexts (hextets ip)) ≠ [] :=
    List.ne_nil_of_length_pos (by omega)
  have noDot : '.' ∉ (compressHextets (hextetTexts (hextets ip))).getLast some := fun member =>
    absurd (isHexDigit_of_mem_parts (List.getLast_mem some) member) (by decide)
  unfold splitHextets
  simp only [splitOn_text_v6, List.getLast?_eq_some_getLast some]
  rw [if_neg (by omega), if_neg noDot]

theorem parseV6_text (ip : BitVec 128) : parseV6 (IpAddress.v6 ip none).text = some ip := by
  have few := (parts_of_compressHextets (length_hextets ip)).2.2
  unfold parseV6
  rw [splitHextets_text_v6, Option.bind_eq_bind, Option.bind_some, if_neg (by omega),
    readHextets_compressHextets (length_hextets ip)]
  show some (ofHextets (hextets ip)) = some ip
  rw [ofHextets_hextets]

/-- What an address can have been read with as its scope id. -/
def ScopeRead (scopeId : Option Text) : Prop :=
  ∀ scope ∈ scopeId, scope ≠ [] ∧ '%' ∉ scope ∧ '/' ∉ scope

theorem scopeRead_none : ScopeRead none := fun scope member =>
  absurd member (Option.not_mem_none scope)

theorem not_mem_partition {before after : Text}
    (split : Text.partition separator text = (before, some after)) (absent : c ∉ text) :
    c ∉ after := by
  rw [Text.partition_eq_some split] at absent
  intro member
  exact absent (List.mem_append_right _ (List.mem_cons_of_mem _ member))

theorem scopeRead_of_ofTextV6 (read : ofTextV6 text = some (ip, scopeId)) : ScopeRead scopeId := by
  unfold ofTextV6 at read
  split at read
  · exact absurd read (by simp)
  · rename_i noSlash
    obtain ⟨⟨address, scope'⟩, split, read⟩ := Option.bind_eq_some_iff.mp read
    obtain ⟨ip', -, read⟩ := Option.bind_eq_some_iff.mp read
    have same : scope' = scopeId := (Prod.mk.inj (Option.some.inj read)).2
    subst same
    unfold splitScopeId at split
    split at split
    · rw [(Prod.mk.inj (Option.some.inj split)).2.symm]
      exact scopeRead_none
    · rename_i before scope parts
      split at split
      · exact absurd split (by simp)
      · rename_i fine
        rw [not_or] at fine
        intro found isScope
        rw [← (Prod.mk.inj (Option.some.inj split)).2, Option.mem_def, Option.some.injEq]
          at isScope
        subst isScope
        refine ⟨fun none => fine.1 (by rw [none]; rfl), fine.2, ?_⟩
        exact not_mem_partition parts noSlash

theorem noSlash_text_v6 (isRead : ScopeRead scopeId) : '/' ∉ (IpAddress.v6 ip scopeId).text := by
  have noSlash : '/' ∉ (IpAddress.v6 ip none).text := not_mem_text_v6 (by decide) (by decide)
  cases scopeId with
  | none => exact noSlash
  | some scope =>
    rw [text_v6_scope]
    intro member
    rcases List.mem_append.mp member with member | member
    · exact noSlash member
    · rcases List.mem_cons.mp member with same | member
      · exact absurd same (by decide)
      · exact (isRead scope rfl).2.2 member

theorem ofTextV6_text (isRead : ScopeRead scopeId) :
    ofTextV6 (IpAddress.v6 ip scopeId).text = some (ip, scopeId) := by
  have noPercent : '%' ∉ (IpAddress.v6 ip none).text := not_mem_text_v6 (by decide) (by decide)
  have split : splitScopeId (IpAddress.v6 ip scopeId).text =
      some ((IpAddress.v6 ip none).text, scopeId) := by
    unfold splitScopeId
    cases scopeId with
    | none => rw [Text.partition_of_not_mem noPercent]
    | some scope =>
      obtain ⟨isSome, noOther, -⟩ := isRead scope rfl
      rw [text_v6_scope, Text.partition_append noPercent]
      simp [isSome, noOther]
  unfold ofTextV6
  rw [if_neg (noSlash_text_v6 isRead), split]
  simp only [Option.bind_eq_bind, Option.bind_some, parseV6_text]
  rfl

theorem ofTextV4_text_v6 : ofTextV4 (IpAddress.v6 ip scopeId).text = none := by
  have colon : ':' ∈ (IpAddress.v6 ip scopeId).text := by
    cases scopeId with
    | none => exact colon_mem_text_v6
    | some scope => exact List.mem_append_left _ colon_mem_text_v6
  unfold ofTextV4
  split
  · rfl
  · refine Option.eq_none_iff_forall_ne_some.mpr fun other read => ?_
    exact noColon_of_parseV4 read colon

/-! ## Read back -/

/-- The addresses that can have been read. -/
def Read : IpAddress → Prop
  | v4 _ => True
  | v6 _ scopeId => ScopeRead scopeId

theorem read_of_ofText {address : IpAddress} (isRead : ofText text = some address) :
    address.Read := by
  unfold ofText at isRead
  rcases Option.or_eq_some_iff.mp isRead with isV4 | ⟨-, isV6⟩
  · obtain ⟨ip, -, rfl⟩ := Option.map_eq_some_iff.mp isV4
    exact trivial
  · obtain ⟨⟨ip, scopeId⟩, read, rfl⟩ := Option.map_eq_some_iff.mp isV6
    exact scopeRead_of_ofTextV6 read

/-- **The text of an address that was read is read as that address.** -/
theorem ofText_text {address : IpAddress} (isRead : address.Read) :
    ofText address.text = some address := by
  unfold ofText
  cases address with
  | v4 ip => rw [ofTextV4_text]; rfl
  | v6 ip scopeId => rw [ofTextV4_text_v6, ofTextV6_text isRead]; rfl

/-- Two addresses that can be read have two texts. -/
theorem text_injective {first second : IpAddress} (firstRead : first.Read)
    (secondRead : second.Read) (same : first.text = second.text) : first = second := by
  have read := ofText_text firstRead
  rw [same, ofText_text secondRead] at read
  exact (Option.some.inj read).symm

/-! ## How long a text is -/

theorem length_join_le {parts : List Text} (short : ∀ part ∈ parts, part.length ≤ m) :
    (Text.join separator parts).length ≤ parts.length * (m + 1) := by
  unfold Text.join
  induction parts with
  | nil => simp
  | cons first rest ih =>
    have head := short first List.mem_cons_self
    have tail := ih fun part member => short part (List.mem_cons_of_mem _ member)
    cases rest with
    | nil =>
      rw [List.intercalate_singleton, List.length_singleton]
      omega
    | cons next rest =>
      rw [List.intercalate_cons_cons, List.length_append, List.length_append,
        List.length_singleton, List.length_cons, Nat.add_mul]
      omega

theorem length_text_v4 (ip : BitVec 32) : (IpAddress.v4 ip).text.length ≤ 16 := by
  rw [text_v4]
  refine @length_join_le _ 3 _ fun part isPart => ?_
  obtain ⟨octet, -, rfl⟩ := List.mem_map.mp isPart
  exact (parseOctet_decimal octet).2.2

theorem length_text_v6 (ip : BitVec 128) : (IpAddress.v6 ip none).text.length ≤ 40 := by
  have parts := parts_of_compressHextets (length_hextets ip)
  rw [text_v6]
  have length := @length_join_le ':' 4 _ fun part isPart => (parts.1 part isPart).1
  omega

end IpAddress

end DicePipeline
