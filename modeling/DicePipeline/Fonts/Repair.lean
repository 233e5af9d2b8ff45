import Mathlib.Data.List.Dedup
import DicePipeline.Fonts.CMap
import DicePipeline.Fonts.Offset
import DicePipeline.Fonts.Content

/-!
# Font repair (`remediation/adapters/font_repair/pike_pdf.py`)

`repairPageFonts` looks for fonts of a page that have no `/ToUnicode`, collects
the codes the page shows with each, by its name among the page's resources, and
attaches a CMap to each that an offset is found for.  `repairFonts` does so page
by page, in the document the pages before have changed.

`parse_content_stream` is a parameter; `none` is an exception there, and an
adapter error everywhere else.
-/

namespace DicePipeline.Fonts

open Pdf

/-- `_is_candidate`.  `font.get` raises unless it is a dictionary, and so does
`descendants[0]` unless there is one. -/
def isCandidate (doc : Document) (font : Value) : Option Bool :=
  if !doc.isDictionary font then none
  else if doc.textOf font "/Subtype" ≠ "/Type0" then some false
  else if (doc.get font "/ToUnicode").isSome then some false
  else if doc.textOf font "/Encoding" ∉ ["/Identity-H", "/Identity-V"] then some false
  else
    match doc.get font "/DescendantFonts" with
    | none => some false
    | some descendants =>
        match doc.array? descendants with
        | some [] => some false
        | some (first :: _) =>
            if doc.isDictionary first then
              some (doc.textOf first "/Subtype" ∈ ["/CIDFontType0", "/CIDFontType2"])
            else none
        | none => if doc.dictionary? descendants = some [] then some false else none

/-- `candidates`: the fonts of a page that are to be repaired, by their names. -/
def candidatesOf (doc : Document) : Entries → Option Entries
  | [] => some []
  | entry :: rest => do
      let candidate ← isCandidate doc entry.2
      let others ← candidatesOf doc rest
      some (if candidate then entry :: others else others)

/-- `_attach_tounicode`. -/
def attachTounicode (doc : Document) (font : Value) (codes : List ℕ) (offset : ℤ) : Document :=
  match font with
  | .object address =>
      (doc.push ⟨.stream (Text.encodeAscii (buildTounicodeCmap codes offset)),
        doc.freshNumber⟩).setEntry address "/ToUnicode" (.object doc.objects.length)
  | _ => doc

/-- `used_codes`. -/
def usedCodes (sequence : List (Option ℕ)) : List ℕ := (sequence.filterMap id).dedup

/-- The body of the loop over `code_sequences`. -/
def repairFont (sequences : String → List (Option ℕ)) (doc : Document) (entry : String × Value) :
    Document :=
  let used := usedCodes (sequences entry.1)
  if used.isEmpty then doc
  else
    match bestOffset (sequences entry.1) with
    | none => doc
    | some offset => attachTounicode doc entry.2 used offset

/-- The rest of `_repair_page_fonts`, once the candidates are known. -/
def repairCandidates (contents : ℕ → Option (List Token)) (doc : Document) (page : ℕ)
    (candidates : Entries) : Option Document :=
  if candidates.isEmpty then some doc
  else
    match contents page with
    | none => some doc
    | some tokens => do
        let sequences ← collectSequences (candidates.map Prod.fst) tokens
        some (candidates.foldl (repairFont sequences) doc)

/-- `_repair_page_fonts`. -/
def repairPageFonts (contents : ℕ → Option (List Token)) (doc : Document) (page : ℕ) :
    Option Document :=
  match doc.get (.object page) "/Resources" with
  | none => some doc
  | some resources =>
      if !doc.isDictionary resources then none
      else
        match doc.get resources "/Font" with
        | none => some doc
        | some fonts => do
            let candidates ← candidatesOf doc (← doc.dictionary? fonts)
            repairCandidates contents doc page candidates

/-- The loop of `repair` over the pages. -/
def repairFonts (contents : ℕ → Option (List Token)) (doc : Document) : Option Document :=
  doc.pages.foldlM (repairPageFonts contents) doc

end DicePipeline.Fonts
