import Mathlib.Data.Int.Notation
import Mathlib.Logic.Function.Basic
import DicePipeline.Pdf.Structure

/-!
# The text a content stream shows

`collectSequences` is the loop of `_repair_page_fonts` over a page's instructions:
the codes shown after each `Tf`, by the name it gives.  `shownBy` is what a viewer
does: `Tf` sets the font of the graphics state, `gs` may set it too, `q` saves the
state and `Q` restores it, and the codes shown are those of the font that is set.

An instruction's operands are what the program asks of them: `str`, `bytes`,
whether one is a string, and its items.
-/

namespace DicePipeline.Fonts

open Pdf

/-- An operand.  `none` is an exception: `bytes` of what has none, a loop over
what has no items. -/
structure Operand where
  /-- `str(operand)`. -/
  str : String
  /-- `bytes(operand)`. -/
  bytes : Option (List UInt8)
  /-- `isinstance(operand, pikepdf.String)`. -/
  isString : Bool
  /-- Its items, each the bytes of a string or something else. -/
  items : Option (List (Option (List UInt8)))
  deriving DecidableEq, Repr

/-- What `parse_content_stream` yields. -/
inductive Token where
  | instruction (operands : List Operand) (operator : String)
  | inlineImage
  deriving DecidableEq, Repr

/-- `_collect_codes`: the codes of two bytes, an odd byte at the end left out. -/
def collectCodes : List UInt8 → List ℕ
  | high :: low :: rest => (high.toNat <<< 8 ||| low.toNat) :: collectCodes rest
  | _ => []

/-- `Tj`, `'` and `"`. -/
def isShow (operator : String) : Bool := operator = "Tj" || operator = "'" || operator = "\""

/-! ## What the program collects -/

/-- `current_font_name` and `code_sequences`. -/
structure Attribution where
  currentFontName : Option String
  codeSequences : String → List (Option ℕ)

/-- Appends the codes of a show operation, and a boundary, to the sequence of a name. -/
def Attribution.shown (state : Attribution) (name : String) (codes : List ℕ) : Attribution :=
  { state with
    codeSequences := Function.update state.codeSequences name
      (state.codeSequences name ++ codes.map some ++ [none]) }

/-- The body of the loop over the tokens. -/
def collectToken (candidates : List String) (state : Attribution) : Token → Option Attribution
  | .inlineImage => some state
  | .instruction [] _ => some state
  | .instruction (first :: rest) operator =>
      if operator = "Tf" then some { state with currentFontName := some first.str }
      else
        match state.currentFontName with
        | none => some state
        | some name =>
            if name ∉ candidates then some state
            else if isShow operator then
              ((first :: rest).getLast (List.cons_ne_nil _ _)).bytes.map fun raw =>
                state.shown name (collectCodes raw)
            else if operator = "TJ" then
              first.items.map fun items =>
                state.shown name ((items.filterMap id).flatMap collectCodes)
            else some state

/-- `code_sequences`, once the loop is through. -/
def collectSequences (candidates : List String) (tokens : List Token) :
    Option (String → List (Option ℕ)) :=
  (tokens.foldlM (collectToken candidates) ⟨none, fun _ => []⟩).map Attribution.codeSequences

/-! ## What a viewer shows -/

/-- The resources of a page: its own, or those of the nearest node above it that
has any. -/
def resourcesOf (doc : Document) : ℕ → Value → Option Value
  | 0, _ => none
  | levels + 1, node =>
      (doc.get node "/Resources").or
        ((doc.get node "/Parent").bind (resourcesOf doc levels))

/-- A resource by its category and its name. -/
def resource (doc : Document) (page : ℕ) (category name : String) : Option Value :=
  (resourcesOf doc doc.objects.length (.object page)).bind fun resources =>
    (doc.get resources category).bind fun named => doc.get named name

/-- The font of a graphics state, the ones that are saved, and the codes shown so
far, each with its font. -/
structure TextState where
  font : Option Value
  saved : List (Option Value)
  shown : List (Value × ℕ)
  deriving DecidableEq, Repr

/-- Shows codes with the font that is set. -/
def TextState.showCodes (state : TextState) (codes : List ℕ) : TextState :=
  { state with
    shown := state.shown ++ (state.font.map fun font => codes.map (font, ·)).getD [] }

/-- The codes of an operand, if it is a string. -/
def Operand.codes (operand : Operand) : List ℕ :=
  if operand.isString then collectCodes (operand.bytes.getD []) else []

/-- What an instruction does to the text state. -/
def perform (doc : Document) (page : ℕ) (state : TextState) : Token → TextState
  | .inlineImage => state
  | .instruction operands operator =>
      match operator, operands with
      | "q", _ => { state with saved := state.font :: state.saved }
      | "Q", _ =>
          match state.saved with
          | [] => state
          | font :: saved => { state with font, saved }
      | "Tf", name :: _ => { state with font := resource doc page "/Font" name.str }
      | "gs", name :: _ =>
          -- The `/Font` of a graphics state dictionary is an array of a font and its size.
          let font := ((resource doc page "/ExtGState" name.str).bind (doc.get · "/Font")).bind
            fun value => (doc.array? value).bind List.head?
          if font.isSome then { state with font } else state
      | "TJ", array :: _ =>
          state.showCodes (((array.items.getD []).filterMap id).flatMap collectCodes)
      | operator, operands =>
          if isShow operator then
            state.showCodes ((operands.getLast?.map Operand.codes).getD [])
          else state

/-- The codes a page's content stream shows with a font. -/
def shownWith (doc : Document) (page : ℕ) (tokens : List Token) (font : Value) : List ℕ :=
  ((tokens.foldl (perform doc page) ⟨none, [], []⟩).shown.filter (·.1 = font)).map Prod.snd

end DicePipeline.Fonts
