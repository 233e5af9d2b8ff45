import Mathlib.Data.Nat.Notation

/-!
# Texts and Python's string methods

A text is the list of its code points.  The methods are those of `str`, each
under the method's own name: `strip` drops what `str.isspace` holds of at both
ends, `partition` cuts at the first separator, and `List.splitOn` is `split`
with a one-character separator.

Numerals are read digit by digit and printed by `Nat.toDigits`.  `int` refuses
more than `maxStrDigits` digits, as the interpreter does by default.  `Text.int` is
`int` where the code has made sure of ASCII digits; `readInt` is `int` of any text.
-/

namespace DicePipeline

/-- `str`, as its code points. -/
abbrev Text := List Char

namespace Text

instance : LawfulBEq Text := inferInstanceAs (LawfulBEq (List Char))

/-- `str.isspace` of one code point. -/
def isSpace (c : Char) : Bool :=
  let n := c.toNat
  (9 ≤ n && n ≤ 13) || (28 ≤ n && n ≤ 32) || n == 0x85 || n == 0xA0 || n == 0x1680 ||
    (0x2000 ≤ n && n ≤ 0x200A) || n == 0x2028 || n == 0x2029 || n == 0x202F || n == 0x205F ||
    n == 0x3000

/-- `str.strip()`. -/
def strip (text : Text) : Text :=
  ((text.dropWhile isSpace).reverse.dropWhile isSpace).reverse

/-- `str.split()`: the runs of what is no space. -/
def words (text : Text) : List Text :=
  (text.splitOnP isSpace).filter fun word => !word.isEmpty

/-- `str.partition`: what is before the first `separator`, and what is after it
if there is one. -/
def partition (separator : Char) : Text → Text × Option Text
  | [] => ([], none)
  | c :: rest =>
      if c = separator then ([], some rest)
      else
        let (before, after) := partition separator rest
        (c :: before, after)

/-- `separator.join(parts)`. -/
def join (separator : Char) (parts : List Text) : Text := [separator].intercalate parts

/-- The zeros of the decimal digits there are, each the first of ten in a row. -/
def digitZeros : List ℕ :=
  [0x30, 0x660, 0x6F0, 0x7C0, 0x966, 0x9E6, 0xA66, 0xAE6, 0xB66, 0xBE6, 0xC66, 0xCE6, 0xD66,
    0xDE6, 0xE50, 0xED0, 0xF20, 0x1040, 0x1090, 0x17E0, 0x1810, 0x1946, 0x19D0, 0x1A80, 0x1A90,
    0x1B50, 0x1BB0, 0x1C40, 0x1C50, 0xA620, 0xA8D0, 0xA900, 0xA9D0, 0xA9F0, 0xAA50, 0xABF0,
    0xFF10, 0x104A0, 0x10D30, 0x11066, 0x110F0, 0x11136, 0x111D0, 0x112F0, 0x11450, 0x114D0,
    0x11650, 0x116C0, 0x11730, 0x118E0, 0x11950, 0x11C50, 0x11D50, 0x11DA0, 0x11F50, 0x16A60,
    0x16AC0, 0x16B50, 0x1D7CE, 0x1D7D8, 0x1D7E2, 0x1D7EC, 0x1D7F6, 0x1E140, 0x1E2F0, 0x1E4F0,
    0x1E950, 0x1FBF0]

/-- `\d` of a regular expression. -/
def isDecimalDigit (c : Char) : Bool :=
  digitZeros.any fun first => first ≤ c.toNat && c.toNat < first + 10

/-! ## Letters -/

/-- `[A-Z]` of a regular expression. -/
def isCapital (c : Char) : Bool := 'A' ≤ c && c ≤ 'Z'

/-- A letter as `re.IGNORECASE` compares it with a small ASCII letter. -/
def foldLetter (c : Char) : Char :=
  if isCapital c then Char.ofNat (c.toNat + 32)
  else if c.toNat = 0x130 ∨ c.toNat = 0x131 then 'i'
  else if c.toNat = 0x17F then 's'
  else if c.toNat = 0x212A then 'k'
  else c

/-! ## Numerals -/

/-- `str.isascii() and str.isdigit()`. -/
def isAsciiDigits (text : Text) : Bool := !text.isEmpty && text.all Char.isDigit

/-- A digit of base sixteen, in either case. -/
def isHexDigit (c : Char) : Bool :=
  c.isDigit || ('a' ≤ c && c ≤ 'f') || ('A' ≤ c && c ≤ 'F')

/-- What a digit of base sixteen counts. -/
def digitValue (c : Char) : ℕ :=
  if c.isDigit then c.toNat - '0'.toNat
  else if 'a' ≤ c then c.toNat - 'a'.toNat + 10
  else c.toNat - 'A'.toNat + 10

/-- The number a run of digits writes in a base. -/
def ofDigits (base : ℕ) (digits : Text) : ℕ :=
  digits.foldl (fun value c => base * value + digitValue c) 0

/-- The most digits `int` reads, `sys.int_info.default_max_str_digits`. -/
def maxStrDigits : ℕ := 4300

/-- `int(text)` of ASCII digits, or `ValueError`. -/
def int (text : Text) : Option ℕ :=
  if isAsciiDigits text ∧ text.length ≤ maxStrDigits then some (ofDigits 10 text) else none

/-- What a decimal digit counts, in whichever script it is written. -/
def decimalValue (c : Char) : ℕ :=
  ((digitZeros.find? fun first => first ≤ c.toNat && c.toNat < first + 10).map
    (c.toNat - ·)).getD 0

/-- What `int` drops at both ends: the blanks that `str.isspace` knows, less the four
separators of ASCII. -/
def isIntBlank (c : Char) : Bool := isSpace c && !(28 ≤ c.toNat && c.toNat < 32)

/-- The number that decimal digits write.  Single underscores may stand between them. -/
def readDigits (text : Text) : Option ℕ :=
  let groups := text.splitOn '_'
  if (groups.all fun group => !group.isEmpty && group.all isDecimalDigit) = true ∧
      groups.flatten.length ≤ maxStrDigits then
    some (groups.flatten.foldl (fun value c => 10 * value + decimalValue c) 0)
  else none

/-- `int(text)` of any text, or `ValueError`. -/
def readInt (text : Text) : Option Int :=
  match ((text.dropWhile isIntBlank).reverse.dropWhile isIntBlank).reverse with
  | '-' :: digits => (readDigits digits).map fun n : Nat => -Int.ofNat n
  | '+' :: digits => (readDigits digits).map Int.ofNat
  | digits => (readDigits digits).map Int.ofNat

/-- `str(n)`. -/
def decimal (n : ℕ) : Text := Nat.toDigits 10 n

/-- `"%x" % n`. -/
def hex (n : ℕ) : Text := Nat.toDigits 16 n

/-- `f"{n:04X}"`. -/
def hex4 (n : ℕ) : Text :=
  let digits := (Nat.toDigits 16 n).map Char.toUpper
  List.replicate (4 - digits.length) '0' ++ digits

/-- `text.encode("ascii", errors="replace")`. -/
def encodeAscii (text : Text) : List UInt8 :=
  text.map fun c => if c.toNat < 128 then UInt8.ofNat c.toNat else UInt8.ofNat '?'.toNat

end Text

end DicePipeline
