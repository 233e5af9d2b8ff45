import Mathlib.Data.Rat.Defs
import Mathlib.Data.Rat.Lemmas
import Mathlib.Data.Int.Notation
import DicePipeline.Text.Strings

/-!
# The offset of a font (`_best_offset`)

The codes a font is shown with are shifted by every offset in turn; the offset is
kept whose text is printable and has the most common words in it, the first of
those that are equally good.

A text is the list of its code points, as a code may land on one that is no
character.  Ratios are compared as fractions.  The program compares them as
doubles, which order fractions of fewer than 2 ^ 26 words in the same way.
-/

namespace DicePipeline.Fonts

/-- `_COMMON_WORDS`. -/
def commonWords : List String :=
  ["the", "of", "and", "to", "in", "a", "is", "that", "for", "on", "with", "as", "this", "by",
    "be", "or", "at", "from", "an", "are", "it", "was", "will", "shall", "not", "department",
    "board", "county", "employee", "employees", "plan", "date", "name", "title", "form",
    "please", "action", "if", "any", "all", "may", "must", "should", "request", "requested",
    "description", "background", "funding", "source", "amount", "purpose", "prepared",
    "subject", "specific", "meeting", "proposed", "budget", "number", "street", "city", "state",
    "zip", "phone", "email", "office", "administrator", "commissioner", "director", "manager",
    "staff", "public", "agenda", "item", "resolution", "motion", "approve", "approved",
    "denied", "vote", "yes", "no", "signature", "print", "effective", "january", "february",
    "march", "april", "june", "july", "august", "september", "october", "november", "december",
    "monday", "tuesday", "wednesday", "thursday", "friday", "saturday", "sunday", "page",
    "attachment", "exhibit", "section", "article", "division", "fund", "account", "general",
    "information", "contact", "address", "telephone", "fax", "website", "michigan", "sheriff",
    "clerk", "treasurer", "prosecutor", "court", "dispatch", "department", "program",
    "services", "employer", "contribution", "benefit", "compensation", "adoption", "agreement",
    "committee", "resolution", "ordinance", "permit", "application"]

/-- `MIN_PRINTABLE_RATIO`. -/
def minPrintableRatio : ℚ := 19 / 20

/-- `MIN_WORD_HIT_RATIO`. -/
def minWordHitRatio : ℚ := 1 / 5

/-- `MIN_USED_CODES`. -/
def minUsedCodes : ℕ := 8

/-- A printable character of ASCII, or a line break or tab. -/
def isPrintable (c : ℕ) : Bool := (0x20 ≤ c && c ≤ 0x7E) || c = 10 || c = 13 || c = 9

/-- `[A-Za-z]`. -/
def isLetter (c : ℕ) : Bool := (65 ≤ c && c ≤ 90) || (97 ≤ c && c ≤ 122)

/-- `str.lower()` of a letter of ASCII. -/
def lower (c : ℕ) : ℕ := if 65 ≤ c && c ≤ 90 then c + 32 else c

/-- `_printable_ratio`.  The quotient by 0 is 0, as for the empty text. -/
def printableRatio (text : List ℕ) : ℚ := text.countP isPrintable / text.length

/-- `re.findall(r"[A-Za-z]{2,}", text)`. -/
def letterWords (text : List ℕ) : List (List ℕ) :=
  (text.splitOnP fun c => !isLetter c).filter fun word => 2 ≤ word.length

/-- `w.lower() in _COMMON_WORDS`. -/
def isCommonWord (word : List ℕ) : Bool :=
  commonWords.any fun common => common.toList.map Char.toNat = word.map lower

/-- `_word_hit_ratio`. -/
def wordHitRatio (text : List ℕ) : ℚ :=
  (letterWords text).countP isCommonWord / (letterWords text).length

/-- The text under an offset: a boundary is a space.  `chr` raises unless there is
such a code point. -/
def shifted (offset : ℤ) (codeSequence : List (Option ℕ)) : Option (List ℕ) :=
  codeSequence.mapM fun code =>
    match code with
    | none => some 0x20
    | some c =>
        if 0 ≤ c + offset ∧ c + offset ≤ 0x10FFFF then some (c + offset).toNat else none

/-- `range(-255, 256)` without 0. -/
def offsets : List ℤ := ((List.range 511).map fun (n : ℕ) => (n : ℤ) - 255).filter fun n => n ≠ 0

/-- One round of the search, `best` being `best_offset` and `best_score`. -/
def tryOffset (codeSequence : List (Option ℕ)) (best : Option ℤ × ℚ) (offset : ℤ) :
    Option ℤ × ℚ :=
  match shifted offset codeSequence with
  | none => best
  | some candidate =>
      if printableRatio candidate < minPrintableRatio then best
      else if wordHitRatio candidate > best.2 then (some offset, wordHitRatio candidate)
      else best

/-- `_best_offset`. -/
def bestOffset (codeSequence : List (Option ℕ)) : Option ℤ :=
  if codeSequence.countP Option.isSome < minUsedCodes then none
  else
    let best := offsets.foldl (tryOffset codeSequence) (none, 0)
    if best.2 < minWordHitRatio then none else best.1

end DicePipeline.Fonts
