import Mathlib.Data.List.Infix
import DicePipeline.Text.Words

/-!
# Shell patterns

Standard shell patterns, in the words of Python's `fnmatch`, and what `glob.glob` finds in
a directory.  A pattern is read into tokens: `*`, `?`, a set between brackets, and
characters that stand for themselves.  A bracket that is never closed stands for itself
too, and a set may start with a `!` and with a `]`.

A range whose ends are the wrong way round contains nothing, as in a shell.  Python's
module cuts such a range out of the text of the set before it looks for the `!`, so that
it reads `[b-a!c]` as everything but `c`; here it is `!` and `c`.

A pattern is matched piece by piece (`isMatch_append`), and what follows a pattern and
closes no bracket is read apart from it (`translate_append`).
-/

namespace DicePipeline

/-- A piece of a pattern. -/
inductive GlobToken where
  /-- `*` -/
  | star
  /-- `?` -/
  | any
  | literal (c : Char)
  /-- `[...]`, or `[!...]` if negated. -/
  | oneOf (negated : Bool) (items : Text)
  deriving DecidableEq, Repr

namespace Glob

variable {c : Char} {text rest items pattern : Text} {tokens more : List GlobToken}

/-! ## Reading a pattern -/

/-- The text up to the next `]`, and the text after it. -/
def untilBracket (text : Text) : Option (Text × Text) :=
  match Text.partition ']' text with
  | (items, some after) => some (items, after)
  | (_, none) => none

/-- The items of a set, of which the first may be a `]`, and the text after the set. -/
def setItems (text : Text) : Option (Text × Text) :=
  match text with
  | ']' :: rest => (untilBracket rest).map fun (items, after) => (']' :: items, after)
  | _ => untilBracket text

/-- The set after a `[`, and the text after the set.  It is negated if a `!` is the first
character after the bracket. -/
def readSet (text : Text) : Option (GlobToken × Text) :=
  match text with
  | '!' :: rest => (setItems rest).map fun (items, after) => (.oneOf true items, after)
  | _ => (setItems text).map fun (items, after) => (.oneOf false items, after)

/-- The loop of `translate`, which reads at least a character a turn. -/
def translateFrom : ℕ → Text → List GlobToken
  | 0, _ => []
  | _ + 1, [] => []
  | turns + 1, c :: rest =>
      if c = '*' then .star :: translateFrom turns rest
      else if c = '?' then .any :: translateFrom turns rest
      else if c = '[' then
        match readSet rest with
        | none => .literal '[' :: translateFrom turns rest
        | some (set, after) => set :: translateFrom turns after
      else .literal c :: translateFrom turns rest

/-- `fnmatch.translate`. -/
def translate (pattern : Text) : List GlobToken := translateFrom pattern.length pattern

/-! ## Matching -/

/-- A character is among the items of a set: the ranges between two characters with a
`-` between them, and the other characters. -/
def isItem (c : Char) : Text → Bool
  | low :: '-' :: high :: items => (low ≤ c && c ≤ high) || isItem c items
  | item :: items => item == c || isItem c items
  | [] => false

/-- One character is what the token stands for; a `*` stands for no one character. -/
def GlobToken.accepts : GlobToken → Char → Bool
  | .star, _ => false
  | .any, _ => true
  | .literal other, c => other == c
  | .oneOf negated items, c => isItem c items != negated

/-- The tokens match all of the text. -/
def isMatch : List GlobToken → Text → Bool
  | [], text => text.isEmpty
  | .star :: tokens, text => text.tails.any (isMatch tokens)
  | _ :: _, [] => false
  | token :: tokens, c :: rest => GlobToken.accepts token c && isMatch tokens rest

/-- `fnmatch.fnmatchcase`. -/
def fnmatch (name pattern : Text) : Bool := isMatch (translate pattern) name

/-- `_ishidden`. -/
def isHidden (name : Text) : Bool := name.head? == some '.'

/-- `_glob1`: the names in a directory that a pattern finds. -/
def globIn (names : List Text) (pattern : Text) : List Text :=
  names.filter fun name => (isHidden pattern || !isHidden name) && fnmatch name pattern

/-- `has_magic`. -/
def hasMagic (path : Text) : Bool := path.any fun c => c == '*' || c == '?' || c == '['

/-! ## Matching piece by piece -/

theorem isMatch_star_iff : isMatch (.star :: tokens) text = true ↔
    ∃ before after, text = before ++ after ∧ isMatch tokens after = true := by
  show text.tails.any (isMatch tokens) = true ↔ _
  rw [List.any_eq_true]
  constructor
  · rintro ⟨after, isTail, isMatched⟩
    obtain ⟨before, split⟩ := (List.mem_tails after text).mp isTail
    exact ⟨before, after, split.symm, isMatched⟩
  · rintro ⟨before, after, split, isMatched⟩
    exact ⟨after, (List.mem_tails after text).mpr ⟨before, split.symm⟩, isMatched⟩

theorem isMatch_token_iff {token : GlobToken} (notStar : token ≠ .star) :
    isMatch (token :: tokens) text = true ↔
      ∃ c rest, text = c :: rest ∧ GlobToken.accepts token c = true ∧
        isMatch tokens rest = true := by
  have step : isMatch (token :: tokens) text = true ↔ ∃ c rest, text = c :: rest ∧
      (GlobToken.accepts token c && isMatch tokens rest) = true := by
    cases text with
    | nil => cases token <;> simp_all [isMatch]
    | cons first rest =>
      have turn : isMatch (token :: tokens) (first :: rest) =
          (GlobToken.accepts token first && isMatch tokens rest) := by
        cases token with
        | star => exact absurd rfl notStar
        | any => rfl
        | literal other => rfl
        | oneOf negated items => rfl
      rw [turn]
      constructor
      · intro both
        exact ⟨first, rest, rfl, both⟩
      · rintro ⟨_, _, same, both⟩
        obtain ⟨rfl, rfl⟩ := List.cons.inj same
        exact both
  simpa only [Bool.and_eq_true] using step

/-- **Two patterns, one after the other, match a text that is cut between them.** -/
theorem isMatch_append : isMatch (tokens ++ more) text = true ↔
    ∃ before after, text = before ++ after ∧ isMatch tokens before = true ∧
      isMatch more after = true := by
  induction tokens generalizing text with
  | nil =>
    constructor
    · intro isMatched
      exact ⟨[], text, rfl, rfl, isMatched⟩
    · rintro ⟨before, after, rfl, isEmpty, isMatched⟩
      rw [List.isEmpty_iff.mp isEmpty]
      exact isMatched
  | cons token tokens ih =>
    rw [List.cons_append]
    by_cases isStar : token = .star
    · subst isStar
      simp only [isMatch_star_iff, ih]
      constructor
      · rintro ⟨skipped, _, rfl, before, after, rfl, first, second⟩
        exact ⟨skipped ++ before, after, by simp, ⟨skipped, before, rfl, first⟩, second⟩
      · rintro ⟨_, after, rfl, ⟨skipped, before, rfl, first⟩, second⟩
        exact ⟨skipped, before ++ after, by simp, before, after, rfl, first, second⟩
    · simp only [isMatch_token_iff isStar, ih]
      constructor
      · rintro ⟨c, _, rfl, accepted, before, after, rfl, first, second⟩
        exact ⟨c :: before, after, rfl, ⟨c, before, rfl, accepted, first⟩, second⟩
      · rintro ⟨_, after, rfl, ⟨c, before, rfl, accepted, first⟩, second⟩
        exact ⟨c, before ++ after, rfl, accepted, before, after, rfl, first, second⟩

/-- Characters that stand for themselves match themselves only. -/
theorem isMatch_literals : isMatch (rest.map .literal) text = true ↔ text = rest := by
  induction rest generalizing text with
  | nil => exact List.isEmpty_iff
  | cons c rest ih =>
    rw [List.map_cons, isMatch_token_iff (by simp)]
    simp only [ih, GlobToken.accepts, beq_iff_eq]
    constructor
    · rintro ⟨_, _, rfl, rfl, rfl⟩
      rfl
    · rintro rfl
      exact ⟨c, rest, rfl, rfl, rfl⟩

/-! ## Reading piece by piece -/

theorem untilBracket_eq_none_iff : untilBracket text = none ↔ ']' ∉ text := by
  rw [← Text.partition_eq_none_iff]
  unfold untilBracket
  split
  · rename_i items after split
    simp [split]
  · rename_i items split
    simp [split]

theorem untilBracket_append {after : Text} (found : untilBracket text = some (items, after))
    (rest : Text) : untilBracket (text ++ rest) = some (items, after ++ rest) := by
  unfold untilBracket at found
  split at found
  · rename_i items' after' split
    obtain ⟨rfl, rfl⟩ := Prod.mk.inj (Option.some.inj found)
    unfold untilBracket
    rw [Text.partition_append_of_some split rest]
  · exact absurd found (by simp)

theorem setItems_of_ne {c : Char} (other : c ≠ ']') :
    setItems (c :: text) = untilBracket (c :: text) := by
  unfold setItems
  split
  · rename_i same
    exact absurd (List.cons.inj same).1 other
  · rfl

theorem setItems_append {after : Text} (found : setItems text = some (items, after))
    (rest : Text) : setItems (text ++ rest) = some (items, after ++ rest) := by
  cases text with
  | nil => exact absurd found (by simp [setItems, untilBracket, Text.partition])
  | cons c text =>
    by_cases bracket : c = ']'
    · subst bracket
      obtain ⟨⟨items', after'⟩, isUntil, same⟩ := Option.map_eq_some_iff.mp found
      obtain ⟨rfl, rfl⟩ := Prod.mk.inj same
      show (untilBracket (text ++ rest)).map _ = _
      rw [untilBracket_append isUntil rest]
      rfl
    · rw [setItems_of_ne bracket] at found
      rw [List.cons_append, setItems_of_ne bracket, ← List.cons_append]
      exact untilBracket_append found rest

theorem setItems_append_of_none (notFound : setItems text = none) (absent : ']' ∉ rest) :
    setItems (text ++ rest) = none := by
  have unclosed : ∀ text : Text, ']' ∉ text → setItems text = none := by
    intro text absent
    cases text with
    | nil => rfl
    | cons c text =>
      rw [setItems_of_ne fun same => absent (same ▸ List.mem_cons_self)]
      exact untilBracket_eq_none_iff.mpr absent
  cases text with
  | nil => exact unclosed rest absent
  | cons c text =>
    by_cases bracket : c = ']'
    · subst bracket
      have none : untilBracket text = none := Option.map_eq_none_iff.mp notFound
      have both : ']' ∉ text ++ rest := by
        rw [List.mem_append, not_or]
        exact ⟨untilBracket_eq_none_iff.mp none, absent⟩
      show (untilBracket (text ++ rest)).map _ = _
      rw [untilBracket_eq_none_iff.mpr both]
      rfl
    · rw [setItems_of_ne bracket] at notFound
      refine unclosed _ ?_
      rw [List.mem_append, not_or]
      exact ⟨untilBracket_eq_none_iff.mp notFound, absent⟩

theorem readSet_of_ne {c : Char} (other : c ≠ '!') :
    readSet (c :: text) = (setItems (c :: text)).map fun (items, after) =>
      (.oneOf false items, after) := by
  unfold readSet
  split
  · rename_i same
    exact absurd (List.cons.inj same).1 other
  · rfl

/-- A set is read whatever follows it. -/
theorem readSet_append {set : GlobToken} {after : Text} (found : readSet text = some (set, after))
    (rest : Text) : readSet (text ++ rest) = some (set, after ++ rest) := by
  cases text with
  | nil => exact absurd found (by simp [readSet, setItems, untilBracket, Text.partition])
  | cons c text =>
    by_cases negated : c = '!'
    · subst negated
      obtain ⟨⟨items, after'⟩, isSet, same⟩ := Option.map_eq_some_iff.mp found
      obtain ⟨rfl, rfl⟩ := Prod.mk.inj same
      show (setItems (text ++ rest)).map _ = _
      rw [setItems_append isSet rest]
      rfl
    · rw [readSet_of_ne negated] at found
      obtain ⟨⟨items, after'⟩, isSet, same⟩ := Option.map_eq_some_iff.mp found
      obtain ⟨rfl, rfl⟩ := Prod.mk.inj same
      rw [List.cons_append, readSet_of_ne negated, ← List.cons_append, setItems_append isSet rest]
      rfl

/-- A bracket that is not closed is not closed by what closes none. -/
theorem readSet_append_of_none (notFound : readSet text = none) (absent : ']' ∉ rest) :
    readSet (text ++ rest) = none := by
  cases text with
  | nil =>
    cases rest with
    | nil => rfl
    | cons c rest =>
      by_cases negated : c = '!'
      · subst negated
        show (setItems ([] ++ rest)).map _ = _
        rw [setItems_append_of_none rfl fun member => absent (List.mem_cons_of_mem _ member)]
        rfl
      · rw [List.nil_append, readSet_of_ne negated, ← List.nil_append (c :: rest),
          setItems_append_of_none rfl absent]
        rfl
  | cons c text =>
    by_cases negated : c = '!'
    · subst negated
      have none : setItems text = none := Option.map_eq_none_iff.mp notFound
      show (setItems (text ++ rest)).map _ = _
      rw [setItems_append_of_none none absent]
      rfl
    · rw [readSet_of_ne negated] at notFound
      have none := Option.map_eq_none_iff.mp notFound
      rw [List.cons_append, readSet_of_ne negated, ← List.cons_append,
        setItems_append_of_none none absent]
      rfl

theorem untilBracket_eq_some {after : Text} (found : untilBracket text = some (items, after)) :
    text = items ++ ']' :: after := by
  unfold untilBracket at found
  split at found
  · rename_i items' after' split
    obtain ⟨rfl, rfl⟩ := Prod.mk.inj (Option.some.inj found)
    exact Text.partition_eq_some split
  · exact absurd found (by simp)

/-- A set ends before the text does. -/
theorem length_of_readSet {set : GlobToken} {after : Text}
    (found : readSet text = some (set, after)) : after.length < text.length := by
  have ofItems : ∀ {text items after : Text}, setItems text = some (items, after) →
      after.length < text.length := by
    intro text items after found
    unfold setItems at found
    split at found
    · obtain ⟨⟨items', after'⟩, isUntil, same⟩ := Option.map_eq_some_iff.mp found
      obtain ⟨-, rfl⟩ := Prod.mk.inj same
      rw [untilBracket_eq_some isUntil]
      simp only [List.length_cons, List.length_append]
      omega
    · rw [untilBracket_eq_some found]
      simp only [List.length_cons, List.length_append]
      omega
  unfold readSet at found
  split at found
  · obtain ⟨⟨items, after'⟩, isSet, same⟩ := Option.map_eq_some_iff.mp found
    obtain ⟨-, rfl⟩ := Prod.mk.inj same
    have := ofItems isSet
    rw [List.length_cons]
    omega
  · obtain ⟨⟨items, after'⟩, isSet, same⟩ := Option.map_eq_some_iff.mp found
    obtain ⟨-, rfl⟩ := Prod.mk.inj same
    exact ofItems isSet

/-- More turns than characters read nothing more. -/
theorem translateFrom_eq {turns : ℕ} (enough : text.length ≤ turns) :
    translateFrom turns text = translate text := by
  have any : ∀ (turns turns' : ℕ) (text : Text), text.length ≤ turns → text.length ≤ turns' →
      translateFrom turns text = translateFrom turns' text := by
    intro turns
    induction turns with
    | zero =>
      intro turns' text none _
      rw [List.length_eq_zero_iff.mp (Nat.le_zero.mp none)]
      cases turns' <;> rfl
    | succ turns ih =>
      intro turns' text enough enough'
      cases text with
      | nil => cases turns' <;> rfl
      | cons c rest =>
        cases turns' with
        | zero => exact absurd enough' (by simp)
        | succ turns' =>
          rw [List.length_cons] at enough enough'
          have next := ih turns' rest (by omega) (by omega)
          unfold translateFrom
          rw [next]
          cases found : readSet rest with
          | none => rfl
          | some read =>
            have shorter := @length_of_readSet rest read.1 read.2 found
            simp only
            rw [ih turns' read.2 (by omega) (by omega)]
  exact any _ _ _ enough (Nat.le_refl _)

/-- **One turn of the loop.** -/
theorem translate_cons : translate (c :: rest) =
    if c = '*' then .star :: translate rest
    else if c = '?' then .any :: translate rest
    else if c = '[' then
      (readSet rest).elim (.literal '[' :: translate rest) fun read =>
        read.1 :: translate read.2
    else .literal c :: translate rest := by
  show translateFrom (rest.length + 1) (c :: rest) = _
  unfold translateFrom
  rw [translateFrom_eq (Nat.le_refl _)]
  cases found : readSet rest with
  | none => rfl
  | some read =>
    have shorter := @length_of_readSet rest read.1 read.2 found
    simp only [Option.elim_some]
    rw [translateFrom_eq (by omega)]

/-- **A pattern is read apart from what follows it and closes no bracket.** -/
theorem translate_append (absent : ']' ∉ rest) :
    translate (text ++ rest) = translate text ++ translate rest := by
  have any : ∀ (n : ℕ) (text : Text), text.length ≤ n →
      translate (text ++ rest) = translate text ++ translate rest := by
    intro n
    induction n with
    | zero =>
      intro text none
      rw [List.length_eq_zero_iff.mp (Nat.le_zero.mp none)]
      rfl
    | succ n ih =>
      intro text short
      cases text with
      | nil => rfl
      | cons c text =>
        rw [List.length_cons] at short
        have next := ih text (by omega)
        rw [List.cons_append, translate_cons, translate_cons, next]
        cases found : readSet text with
        | none =>
          rw [readSet_append_of_none found absent]
          simp only [Option.elim_none]
          split
          · rfl
          · split
            · rfl
            · split <;> rfl
        | some read =>
          have shorter := @length_of_readSet text read.1 read.2 found
          rw [@readSet_append text read.1 read.2 found rest]
          simp only [Option.elim_some]
          rw [ih read.2 (by omega)]
          split
          · rfl
          · split
            · rfl
            · split <;> rfl
  exact any _ text (Nat.le_refl _)

/-- A text without `[` matches itself. -/
theorem fnmatch_self (noBracket : '[' ∉ text) : fnmatch text text = true := by
  show isMatch (translate text) text = true
  induction text with
  | nil => rfl
  | cons c text ih =>
    rw [List.mem_cons, not_or] at noBracket
    have rest := ih noBracket.2
    rw [translate_cons]
    by_cases isStar : c = '*'
    · rw [if_pos isStar]
      exact isMatch_star_iff.mpr ⟨[c], text, rfl, rest⟩
    · rw [if_neg isStar]
      by_cases isAny : c = '?'
      · rw [if_pos isAny]
        exact (isMatch_token_iff (by simp)).mpr ⟨c, text, rfl, rfl, rest⟩
      · rw [if_neg isAny, if_neg fun same => noBracket.1 same.symm]
        exact (isMatch_token_iff (by simp)).mpr ⟨c, text, rfl, beq_self_eq_true c, rest⟩

end Glob

end DicePipeline
