import Mathlib.Data.List.Induction
import DicePipeline.Fonts.Coverage

/-!
# Which font a code is credited to

The program credits what is shown to the name the last `Tf` gave, and to no other.
A viewer shows it with the font of its graphics state, which `Q` sets too.  The two
agree, at every point of a content stream, if and only if they do so where something
is shown (`codes_attributed_iff`): the font restored by a `Q` has to be the one the
last `Tf` named, unless a `Tf` comes before the next text.

The instructions are those of `TextToken`, in any order and any nesting.

### What is load-bearing

The condition speaks of candidates.  A font that needs no repair may be confused with
another one that needs none, as neither has a sequence; it must not be confused with a
candidate, in either direction.

That it is also necessary rests on the agreement being asked for at every point: a
code that is missed, and the same code credited too much later on, might come out even
at the end.
-/

namespace DicePipeline.Fonts

open Pdf

variable {doc : Document} {page : ℕ} {name : String} {names : List String} {font : Value}
variable {token : Token} {tokens before : List Token} {candidates : Entries}

/-! ## The instructions -/

/-- The instructions that set, save and restore the font, and those that show text
with it, each with the operands it takes. -/
inductive TextToken : Token → Prop where
  | setFont (name size : Operand) : TextToken (.instruction [name, size] "Tf")
  | save : TextToken (.instruction [] "q")
  | restore : TextToken (.instruction [] "Q")
  | beginText : TextToken (.instruction [] "BT")
  | endText : TextToken (.instruction [] "ET")
  | showText {text : Operand} {bytes : List UInt8} (isString : text.isString = true)
      (areBytes : text.bytes = some bytes) : TextToken (.instruction [text] "Tj")
  | nextLine {text : Operand} {bytes : List UInt8} (isString : text.isString = true)
      (areBytes : text.bytes = some bytes) : TextToken (.instruction [text] "'")
  | spaced (word char : Operand) {text : Operand} {bytes : List UInt8}
      (isString : text.isString = true) (areBytes : text.bytes = some bytes) :
      TextToken (.instruction [word, char, text] "\"")
  | showItems {array : Operand} {items : List (Option (List UInt8))}
      (areItems : array.items = some items) : TextToken (.instruction [array] "TJ")

/-- The name a `Tf` gives. -/
def tfName : Token → Option String
  | .instruction (first :: _) "Tf" => some first.str
  | _ => none

/-- What an instruction shows: the codes of its strings, and a boundary. -/
def shownBy : Token → List (Option ℕ)
  | .instruction [array] "TJ" =>
      (((array.items.getD []).filterMap id).flatMap collectCodes).map some ++ [none]
  | .instruction operands operator =>
      if isShow operator then
        ((operands.getLast?.map Operand.codes).getD []).map some ++ [none]
      else []
  | .inlineImage => []

/-- An instruction that shows text. -/
def showsText (token : Token) : Bool := !(shownBy token).isEmpty

/-! ## What the program credits -/

/-- The name the last `Tf` gave. -/
def lastTf (tokens : List Token) : Option String :=
  tokens.foldl (fun current token => (tfName token).or current) none

theorem lastTf_concat : lastTf (tokens ++ [token]) = (tfName token).or (lastTf tokens) := by
  unfold lastTf
  rw [List.foldl_append]
  rfl

/-- One instruction of text, for one name. -/
theorem followToken_of_text (isText : TextToken token)
    (state : Option String × List (Option ℕ)) : followToken name state token =
      ((tfName token).or state.1, state.2 ++ if state.1 = some name then shownBy token else []) := by
  cases isText with
  | setFont first size => simp [followToken, tfName, shownBy, isShow]
  | save => simp [followToken, tfName, shownBy, isShow]
  | restore => simp [followToken, tfName, shownBy, isShow]
  | beginText => simp [followToken, tfName, shownBy, isShow]
  | endText => simp [followToken, tfName, shownBy, isShow]
  | showText isString areBytes =>
    by_cases current : state.1 = some name <;>
      simp [followToken, tfName, shownBy, isShow, Operand.codes, isString, areBytes, current]
  | nextLine isString areBytes =>
    by_cases current : state.1 = some name <;>
      simp [followToken, tfName, shownBy, isShow, Operand.codes, isString, areBytes, current]
  | spaced word char isString areBytes =>
    by_cases current : state.1 = some name <;>
      simp [followToken, tfName, shownBy, isShow, Operand.codes, isString, areBytes, current]
  | showItems areItems =>
    by_cases current : state.1 = some name <;>
      simp [followToken, tfName, shownBy, isShow, areItems, current]

theorem foldl_followToken_fst (areText : ∀ token ∈ tokens, TextToken token) :
    (tokens.foldl (followToken name) (none, [])).1 = lastTf tokens := by
  induction tokens using List.reverseRecOn with
  | nil => rfl
  | append_singleton before token ih =>
    have isText := areText token (by simp)
    have areBefore : ∀ token ∈ before, TextToken token := fun other member =>
      areText other (List.mem_append_left _ member)
    rw [List.foldl_append, lastTf_concat, ← ih areBefore]
    show (followToken name _ token).1 = _
    rw [followToken_of_text isText]

/-- One more instruction adds what it shows, if the last `Tf` gave the name. -/
theorem sequenceOf_concat (areText : ∀ token ∈ before, TextToken token) (isText : TextToken token) :
    sequenceOf (before ++ [token]) name =
      sequenceOf before name ++ if lastTf before = some name then shownBy token else [] := by
  unfold sequenceOf
  rw [List.foldl_append]
  show (followToken name _ token).2 = _
  rw [followToken_of_text isText, foldl_followToken_fst areText]

/-- Instructions of text raise nothing. -/
theorem collectToken_ne_none (isText : TextToken token) (state : Attribution) :
    collectToken names state token ≠ none := by
  cases isText with
  | setFont | save | restore | beginText | endText => simp [collectToken]
  | showText isString areBytes | nextLine isString areBytes | spaced _ _ isString areBytes =>
    cases current : state.currentFontName with
    | none => simp [collectToken, current]
    | some name =>
      by_cases other : name ∈ names <;> simp [collectToken, current, other, isShow, areBytes]
  | showItems areItems =>
    cases current : state.currentFontName with
    | none => simp [collectToken, current]
    | some name =>
      by_cases other : name ∈ names <;> simp [collectToken, current, other, isShow, areItems]

theorem exists_collectSequences (areText : ∀ token ∈ tokens, TextToken token) :
    ∃ sequences, collectSequences names tokens = some sequences := by
  have loop : ∀ (tokens : List Token), (∀ token ∈ tokens, TextToken token) →
      ∀ state : Attribution, ∃ final, tokens.foldlM (collectToken names) state = some final := by
    intro tokens
    induction tokens with
    | nil => exact fun _ state => ⟨state, rfl⟩
    | cons token rest ih =>
      intro areText state
      obtain ⟨between, stepped⟩ := Option.ne_none_iff_exists'.mp
        (@collectToken_ne_none names token (areText token List.mem_cons_self) state)
      rw [List.foldlM_cons, stepped]
      exact ih (fun other member => areText other (List.mem_cons_of_mem _ member)) between
  obtain ⟨final, looped⟩ := loop tokens areText ⟨none, fun _ => []⟩
  exact ⟨final.codeSequences, by rw [collectSequences, looped]; rfl⟩

/-! ## What a viewer shows -/

/-- The font that is set after some instructions. -/
def currentFont (doc : Document) (page : ℕ) (tokens : List Token) : Option Value :=
  (tokens.foldl (perform doc page) ⟨none, [], []⟩).font

/-- What an instruction adds to the codes shown with one font, `state` being the text
state and these codes. -/
def followShown (doc : Document) (page : ℕ) (font : Value)
    (state : TextState × List (Option ℕ)) (token : Token) : TextState × List (Option ℕ) :=
  (perform doc page state.1 token,
    state.2 ++ if state.1.font = some font then shownBy token else [])

/-- The codes shown with a font, with a boundary after each instruction that shows any. -/
def shownSequence (doc : Document) (page : ℕ) (tokens : List Token) (font : Value) :
    List (Option ℕ) :=
  (tokens.foldl (followShown doc page font) (⟨none, [], []⟩, [])).2

theorem shownSequence_concat : shownSequence doc page (before ++ [token]) font =
    shownSequence doc page before font ++
      if currentFont doc page before = some font then shownBy token else [] := by
  have first : ∀ tokens : List Token,
      (tokens.foldl (followShown doc page font) (⟨none, [], []⟩, [])).1 =
        tokens.foldl (perform doc page) ⟨none, [], []⟩ := by
    intro tokens
    induction tokens using List.reverseRecOn with
    | nil => rfl
    | append_singleton before token ih =>
      rw [List.foldl_append, List.foldl_append, ← ih]
      rfl
  unfold shownSequence currentFont
  rw [List.foldl_append, ← first before]
  rfl

/-! ## Agreement -/

/-- The sequence that is collected for each candidate is what is shown with it. -/
def AttributesShown (doc : Document) (page : ℕ) (candidates : Entries) (tokens : List Token) :
    Prop :=
  ∃ sequences, collectSequences (candidates.map Prod.fst) tokens = some sequences ∧
    ∀ entry ∈ candidates, sequences entry.1 = shownSequence doc page tokens entry.2

/-- **The condition.**  Wherever text is shown, a candidate is the font that is set if and only
if the last `Tf` gave its name.

The code goes by the last `Tf` alone.  Between that and the text there may be a `Q`, which sets
the font again that was set at the `q`. -/
def LastTfIsSet (doc : Document) (page : ℕ) (candidates : Entries) (tokens : List Token) : Prop :=
  ∀ before token after, tokens = before ++ token :: after → showsText token = true →
    ∀ entry ∈ candidates,
      (lastTf before = some entry.1 ↔ currentFont doc page before = some entry.2)

theorem attributesShown_iff (areText : ∀ token ∈ tokens, TextToken token) :
    AttributesShown doc page candidates tokens ↔
      ∀ entry ∈ candidates, sequenceOf tokens entry.1 = shownSequence doc page tokens entry.2 := by
  constructor
  · rintro ⟨sequences, collected, same⟩ entry member
    rw [← same entry member]
    exact (collectSequences_eq (List.mem_map_of_mem member) collected).symm
  · intro same
    obtain ⟨sequences, collected⟩ :=
      @exists_collectSequences (candidates.map Prod.fst) tokens areText
    refine ⟨sequences, collected, ?_⟩
    intro entry member
    rw [collectSequences_eq (List.mem_map_of_mem member) collected]
    exact same entry member

/-- What an instruction adds for a name is what it adds for a font, if and only if both
or neither are current, or it shows nothing. -/
theorem added_eq_iff {p q : Prop} [Decidable p] [Decidable q] :
    ((if p then shownBy token else []) = if q then shownBy token else []) ↔
      (showsText token = true → (p ↔ q)) := by
  unfold showsText
  by_cases hp : p <;> by_cases hq : q <;> simp [hp, hq]

end DicePipeline.Fonts

namespace DicePipeline

open Pdf Fonts

/-- **When codes are credited to the font they are shown with**: at every point of a content
stream, if and only if the last `Tf` gave the name of the font that is set wherever text is
shown.

The stream is any sequence of instructions, `q` and `Q` out of balance included; the graphics
state is the one that the operators leave, font and all. -/
theorem codes_attributed_iff (doc : Document) (page : ℕ) (candidates : Entries)
    (tokens : List Token) (areText : ∀ token ∈ tokens, TextToken token) :
    (∀ before, before <+: tokens → AttributesShown doc page candidates before) ↔
      LastTfIsSet doc page candidates tokens := by
  have textBefore : ∀ before, before <+: tokens → ∀ token ∈ before, TextToken token :=
    fun before isPrefix token member => areText token (isPrefix.subset member)
  constructor
  · rintro attributed before token after rfl shows entry member
    have here : before <+: before ++ token :: after := List.prefix_append _ _
    have next : before ++ [token] <+: before ++ token :: after := ⟨after, by simp⟩
    have same := (attributesShown_iff (textBefore _ here)).mp (attributed _ here) entry member
    have same' := (attributesShown_iff (textBefore _ next)).mp (attributed _ next) entry member
    rw [sequenceOf_concat (textBefore _ here) (areText token (by simp)), shownSequence_concat,
      same, List.append_cancel_left_eq] at same'
    exact added_eq_iff.mp same' shows
  · intro isSet before
    -- By induction from the left, each instruction adds the same to both.
    induction before using List.reverseRecOn with
    | nil =>
      intro _
      exact (attributesShown_iff (fun _ member => absurd member List.not_mem_nil)).mpr
        fun entry member => rfl
    | append_singleton before token ih =>
      rintro ⟨after, rfl⟩
      have here : before <+: before ++ [token] ++ after := ⟨token :: after, by simp⟩
      rw [attributesShown_iff (textBefore _ (List.prefix_append _ _))]
      intro entry member
      rw [sequenceOf_concat (textBefore _ here) (areText token (by simp)), shownSequence_concat,
        (attributesShown_iff (textBefore _ here)).mp (ih here) entry member,
        List.append_cancel_left_eq]
      exact added_eq_iff.mpr fun shows => isSet before token after (by simp) shows entry member

/-- A page with two fonts to be repaired. -/
def twoFonts : File where
  val :=
    { objects := [
        ⟨.dictionary [], 1⟩,
        ⟨.dictionary [("/Type", .name "/Page"), ("/Resources", .object 2)], 2⟩,
        ⟨.dictionary [("/Font", .object 3)], 3⟩,
        ⟨.dictionary [("/F1", .object 4), ("/F2", .object 5)], 4⟩,
        ⟨.dictionary [("/Subtype", .name "/Type0"), ("/Encoding", .name "/Identity-H"),
          ("/DescendantFonts", .object 6)], 5⟩,
        ⟨.dictionary [("/Subtype", .name "/Type0"), ("/Encoding", .name "/Identity-H"),
          ("/DescendantFonts", .object 6)], 6⟩,
        ⟨.array [.object 7], 7⟩,
        ⟨.dictionary [("/Subtype", .name "/CIDFontType2")], 8⟩]
      catalog := 0
      pages := [1] }
  property := by decide +kernel

/-- `Tf` with a name and the size 12. -/
def setsFont (name : String) : Token :=
  .instruction [⟨name, none, false, none⟩, ⟨"12", none, false, none⟩] "Tf"

/-- Shows the code 54. -/
def showsCode : Token := .instruction [⟨"", some [0, 54], true, none⟩] "Tj"

/-- The rule where each font shows a code, and a third is shown after a `Q`. -/
theorem codes_attributed_iff_set_again :
    let tokens := [setsFont "/F1", showsCode, .instruction [] "q", setsFont "/F2", showsCode,
      .instruction [] "Q", setsFont "/F1", showsCode]
    let candidates : Entries := [("/F1", .object 4), ("/F2", .object 5)]
    candidatesOf twoFonts.1 (pageFonts twoFonts.1 1) = some candidates ∧
      ((∀ before, before <+: tokens → AttributesShown twoFonts.1 1 candidates before) ↔
        LastTfIsSet twoFonts.1 1 candidates tokens) := by
  refine ⟨by decide +kernel, codes_attributed_iff twoFonts.1 1 _ _ ?_⟩
  simp only [List.forall_mem_cons]
  exact ⟨.setFont _ _, .showText rfl rfl, .save, .setFont _ _, .showText rfl rfl, .restore,
    .setFont _ _, .showText rfl rfl, fun _ member => absurd member List.not_mem_nil⟩

/-- The code shown after the `Q`, with the font it restores, is credited to the other. -/
theorem codes_credited_to_other_font :
    ¬ ∀ (file : File) (page : ℕ) (candidates : Entries) (tokens : List Token),
      candidatesOf file.1 (pageFonts file.1 page) = some candidates →
      (∀ token ∈ tokens, TextToken token) → AttributesShown file.1 page candidates tokens := by
  intro always
  let tokens := [setsFont "/F1", .instruction [] "q", setsFont "/F2", .instruction [] "Q",
    showsCode]
  have areText : ∀ token ∈ tokens, TextToken token := by
    simp only [tokens, List.forall_mem_cons]
    exact ⟨.setFont _ _, .save, .setFont _ _, .restore, .showText rfl rfl,
      fun _ member => absurd member List.not_mem_nil⟩
  have attributed := always twoFonts 1 [("/F1", .object 4), ("/F2", .object 5)] tokens
    (by decide +kernel) areText
  have credited := (attributesShown_iff areText).mp attributed ("/F1", .object 4) (by decide)
  exact absurd credited (by decide +kernel)

end DicePipeline
