import DicePipeline.Pdf.Structure
import DicePipeline.Text.Strings
import Mathlib.Algebra.GroupWithZero.Nat
import Mathlib.Data.List.Sort
import Mathlib.Data.String.Basic

/-!
# The heuristic score (`remediation/adapters/scoring/pike_pdf.py`)

`_assess` looks for issues, in the text that PyMuPDF reads, in the structure tree,
and in the pages and the form; `_score_document` takes points off a hundred for
them.  A check that raises ends the assessment with what it has found so far.

Three things are parameters.  `FitzDocument` is what PyMuPDF reads.  `isSubstantive`
says whether an `/XObject` is an image of `IMAGE_MIN_SIZE` or more; images are
streams, whose entries the document here does not have.  `levels` is how many
nested calls the interpreter has room for.
-/

namespace DicePipeline.Scoring

open Pdf

/-! ## Issues -/

/-- What PyMuPDF reads of a file.  `none` is an exception there. -/
structure FitzDocument where
  pageCount : ℕ
  getText : ℕ → Option Text
  /-- Whether `get_toc` lists anything. -/
  getToc : Option Bool

/-- The keys of `issues` that the checks of pages and form write. -/
structure Surface where
  hasImages : Bool
  unembeddedFonts : List String
  hasForms : Bool
  formFieldsCount : ℕ
  formFieldsWithoutTooltips : ℕ
  vagueLinks : List String
  deriving DecidableEq, Repr

/-- The keys that the walk of the structure tree writes. -/
structure TreeIssues where
  hasHeadings : Bool
  hasTables : Bool
  imagesWithoutAlt : ℕ
  tablesWithoutHeaders : ℕ
  deriving DecidableEq, Repr

/-- `issues`. -/
structure Issues extends Surface, TreeIssues where
  hasStructureTree : Bool
  hasTextLayer : Bool
  hasBookmarks : Bool
  pageCount : ℕ
  deriving DecidableEq, Repr

/-! ## The text -/

/-- `[A-Z][A-Z\s]{2,50}\n`, at the start of a text. -/
def isCapitalLine : Text → Bool
  | [] => false
  | first :: rest =>
      Text.isCapital first && (List.range' 2 49).any fun count =>
        count ≤ rest.length && (rest.take count).all (fun c => Text.isCapital c || Text.isSpace c) &&
          rest[count]? == some '\n'

/-- `\d+\.\s+[A-Z]`, at the start of a text. -/
def isNumberedLine (text : Text) : Bool :=
  !(text.takeWhile Text.isDecimalDigit).isEmpty &&
    match text.dropWhile Text.isDecimalDigit with
    | '.' :: rest =>
        !(rest.takeWhile Text.isSpace).isEmpty &&
          ((rest.dropWhile Text.isSpace).head?.map Text.isCapital).getD false
    | _ => false

/-- What follows each line break. -/
def afterBreaks (text : Text) : List Text :=
  text.tails.filterMap fun rest =>
    match rest with
    | '\n' :: line => some line
    | _ => none

/-- The two searches for a heading in the text. -/
def hasHeadingText (sample : Text) : Bool :=
  (afterBreaks sample).any isCapitalLine || (sample :: afterBreaks sample).any isNumberedLine

/-- The checks of the text: `page_count` first, then what the text and the outline show. -/
def assessText (fitz : Option FitzDocument) : ℕ × Bool × Bool × Bool :=
  match fitz with
  | none => (0, false, false, false)
  | some doc =>
      match (List.range (min 5 doc.pageCount)).mapM doc.getText with
      | none => (doc.pageCount, false, false, false)
      | some texts =>
          let sample := texts.flatten
          let layer : Bool := 50 < (Text.strip sample).length
          match doc.getToc with
          | none => (doc.pageCount, layer, false, false)
          | some toc => (doc.pageCount, layer, toc, hasHeadingText sample)

/-! ## The structure tree -/

/-- `k if isinstance(k, pikepdf.Dictionary) else pdf.get_object(k.objgen)`, and its `/S`.
`none` is an exception. -/
def typeOf (doc : Document) (kid : Value) : Option String :=
  if doc.isDictionary kid then some (doc.textOf kid "/S") else none

/-- The items of an entry that is an array, none if it is not. -/
def itemsOf (doc : Document) (node : Value) : List Value :=
  ((doc.get node "/K").bind doc.array?).getD []

/-- `/THead`, `/TBody` and `/TFoot`. -/
def isRowGroup (kind : String) : Bool := kind == "/THead" || kind == "/TBody" || kind == "/TFoot"

/-- The rows under one kid of a table. -/
def rowsOfKid (doc : Document) (kid : Value) : List Value :=
  match typeOf doc kid with
  | none => []
  | some kind =>
      if kind = "/TR" then [kid]
      else if isRowGroup kind then
        (itemsOf doc kid).filter fun inner => typeOf doc inner = some "/TR"
      else []

/-- `_get_first_tr`. -/
def getFirstTr (doc : Document) (table : Value) : Option Value :=
  (itemsOf doc table).findSome? fun kid => (rowsOfKid doc kid).head?

/-- `_count_trs_in_table`. -/
def countTrsInTable (doc : Document) (table : Value) : ℕ :=
  ((itemsOf doc table).map fun kid => (rowsOfKid doc kid).length).sum

/-- Whether some cell of a row is a `/TH`.  `none` is an exception, at a cell that is
none before the first `/TH`. -/
def hasTh (doc : Document) : List Value → Option Bool
  | [] => some false
  | cell :: rest => do
      let kind ← typeOf doc cell
      if kind = "/TH" then some true else hasTh doc rest

/-- A table of two rows or more whose first has no header cell. -/
def lacksHeaders (doc : Document) (table : Value) : Bool :=
  match getFirstTr doc table with
  | none => false
  | some row => 2 ≤ countTrsInTable doc table && hasTh doc (itemsOf doc row) == some false

/-- A figure with no alternative text. -/
def lacksAlt (doc : Document) (elem : Value) : Bool :=
  doc.textOf elem "/S" == "/Figure" && (Text.strip (doc.textOf elem "/Alt").toList).isEmpty

/-- `/H` and `/H1` to `/H6`. -/
def isHeading (doc : Document) (elem : Value) : Bool :=
  ["/H", "/H1", "/H2", "/H3", "/H4", "/H5", "/H6"].contains (doc.textOf elem "/S")

/-- What `_walk_struct_tree` notes of one element. -/
def note (doc : Document) (issues : TreeIssues) (elem : Value) : TreeIssues :=
  let table := doc.textOf elem "/S" == "/Table"
  { hasHeadings := issues.hasHeadings || isHeading doc elem
    hasTables := issues.hasTables || table
    imagesWithoutAlt := issues.imagesWithoutAlt + if lacksAlt doc elem then 1 else 0
    tablesWithoutHeaders :=
      issues.tablesWithoutHeaders + if table && lacksHeaders doc elem then 1 else 0 }

/-- `_walk_struct_tree` with `levels` levels left: `depth > 20` leaves none. -/
def walkStructTree (doc : Document) : ℕ → Value → TreeIssues → TreeIssues
  | 0, _, issues => issues
  | levels + 1, elem, issues =>
      if !doc.isDictionary elem then issues
      else
        (doc.kidsOf elem).foldl (fun issues kid => walkStructTree doc levels kid issues)
          (note doc issues elem)

/-- The levels of `_walk_struct_tree`. -/
def structTreeLevels : ℕ := 21

/-- The checks of the structure tree, from what the text has shown. -/
def assessTree (doc : Document) (hasHeadings : Bool) : TreeIssues :=
  let start : TreeIssues := ⟨hasHeadings, false, 0, 0⟩
  match doc.get (.object doc.catalog) "/StructTreeRoot" with
  | none => start
  | some structRoot => walkStructTree doc structTreeLevels structRoot start

/-! ## Pages and form -/

/-- The keys of a dictionary, in the order a `for` loop has them. -/
def keysOf (entries : Entries) : List String := (entries.map Prod.fst).dedup.insertionSort (· ≤ ·)

/-- A `for` loop over the keys of a dictionary.  The items of an array are no keys, and
looking one up is caught; whatever else raises. -/
def loopKeys (doc : Document) (value : Value) : Option (List String) :=
  match doc.dictionary? value with
  | some entries => some (keysOf entries)
  | none => (doc.array? value).map fun _ => []

/-- A page's dictionary of resources of one kind.  `.get` raises unless the resources
are a dictionary. -/
def resourcesOf (doc : Document) (page : ℕ) (kind : String) : Option (Option Value) :=
  match doc.get (.object page) "/Resources" with
  | none => some none
  | some resources =>
      if doc.isDictionary resources then some (doc.get resources kind) else none

/-- The images of a page that count. -/
def substantiveOf (isSubstantive : Value → Bool) (doc : Document) (page : ℕ) : Option ℕ := do
  match ← resourcesOf doc page "/XObject" with
  | none => some 0
  | some xobjects =>
      let names ← loopKeys doc xobjects
      some (names.countP fun name => ((doc.get xobjects name).map isSubstantive).getD false)

/-- `_BASE14_FONTS`. -/
def base14Fonts : List String :=
  ["/Courier", "/Courier-Bold", "/Courier-Oblique", "/Courier-BoldOblique", "/Helvetica",
    "/Helvetica-Bold", "/Helvetica-Oblique", "/Helvetica-BoldOblique", "/Times-Roman",
    "/Times-Bold", "/Times-Italic", "/Times-BoldItalic", "/Symbol", "/ZapfDingbats"]

/-- `seen_bases` and `issues["unembedded_fonts"]`. -/
structure FontScan where
  seenBases : List String
  unembedded : List String
  deriving DecidableEq, Repr

/-- One font of a page. -/
def scanFont (doc : Document) (fonts : Value) (scan : FontScan) (fontKey : String) : FontScan :=
  match doc.get fonts fontKey with
  | none => scan
  | some font =>
      if !doc.isDictionary font then scan
      else
        let base := ((doc.get font "/BaseFont").map Value.str).getD fontKey
        if base ∈ scan.seenBases then scan
        else
          let ftype := doc.textOf font "/Subtype"
          let bare := (doc.get font "/FontDescriptor").isNone &&
            (ftype == "/Type1" || ftype == "/TrueType") && !base14Fonts.contains base
          { seenBases := base :: scan.seenBases
            unembedded := if bare then scan.unembedded ++ [base] else scan.unembedded }

/-- The fonts of the pages.  `false`: a page raised, and what was found before stands. -/
def scanFonts (doc : Document) : List ℕ → FontScan → FontScan × Bool
  | [], scan => (scan, true)
  | page :: rest, scan =>
      match resourcesOf doc page "/Font" with
      | none => (scan, false)
      | some none => scanFonts doc rest scan
      | some (some fonts) =>
          match loopKeys doc fonts with
          | none => (scan, false)
          | some names => scanFonts doc rest (names.foldl (scanFont doc fonts) scan)

/-- A field has no tooltip. -/
def lacksTooltip (doc : Document) (field : Value) : Bool :=
  match doc.get field "/TU" with
  | none => true
  | some tu => doc.isFalsy tu || (Text.strip tu.str.toList).isEmpty

/-- `_count_fields`: the fields, and those without a tooltip. -/
def countFields (doc : Document) : ℕ → Value → ℕ × ℕ
  | 0, _ => (0, 0)
  | levels + 1, fields =>
      ((doc.array? fields).getD []).foldl
        (fun count item =>
          if !doc.isDictionary item then count
          else
            let own : ℕ × ℕ :=
              if (doc.get item "/T").isSome then (1, if lacksTooltip doc item then 1 else 0)
              else (0, 0)
            let below : ℕ × ℕ :=
              match doc.get item "/Kids" with
              | none => (0, 0)
              | some kids => countFields doc levels kids
            (count.1 + own.1 + below.1, count.2 + own.2 + below.2))
        (0, 0)

/-- The texts of `VAGUE_LINK_RE`. -/
def vagueTexts : List String :=
  ["click here", "here", "this link", "read more", "more", "learn more", "click", "link"]

/-- `VAGUE_LINK_RE.match` of a text without blanks at its ends. -/
def isVague (contents : Text) : Bool :=
  vagueTexts.any fun text => text.toList == contents.map Text.foldLetter

/-- The vague text of an annotation, if it is a link that has one. -/
def vagueOf (doc : Document) (annot : Value) : Option String :=
  if doc.isDictionary annot && doc.textOf annot "/Subtype" == "/Link" then
    let contents := Text.strip (doc.textOf annot "/Contents").toList
    if isVague contents then some (String.ofList contents) else none
  else none

/-- The vague links of the pages, up to one that raises. -/
def scanLinks (doc : Document) : List ℕ → List String
  | [] => []
  | page :: rest =>
      match doc.get (.object page) "/Annots" with
      | none => scanLinks doc rest
      | some annots =>
          match doc.array? annots with
          | some items => items.filterMap (vagueOf doc) ++ scanLinks doc rest
          | none => if doc.isDictionary annots then scanLinks doc rest else []

/-- The checks of the pages and the form, one after the other, until one raises. -/
def assessSurface (isSubstantive : Value → Bool) (levels : ℕ) (doc : Document) : Surface :=
  let none : Surface := ⟨false, [], false, 0, 0, []⟩
  match doc.pages.mapM (substantiveOf isSubstantive doc) with
  | .none => none
  | some counts =>
      let images := { none with hasImages := 0 < counts.sum }
      let (scan, ended) := scanFonts doc doc.pages ⟨[], []⟩
      let fonts := { images with unembeddedFonts := scan.unembedded }
      if !ended then fonts
      else
        match doc.get (.object doc.catalog) "/AcroForm" with
        | .none => { fonts with vagueLinks := scanLinks doc doc.pages }
        | some acro =>
            let forms := { fonts with hasForms := true }
            if !doc.isDictionary acro then forms
            else
              let (count, bare) : ℕ × ℕ :=
                match doc.get acro "/Fields" with
                | .none => (0, 0)
                | some fields => countFields doc levels fields
              { forms with
                formFieldsCount := count
                formFieldsWithoutTooltips := bare
                vagueLinks := scanLinks doc doc.pages }

/-- `_assess`. -/
def assess (fitz : Option FitzDocument) (isSubstantive : Value → Bool) (levels : ℕ)
    (doc : Document) : Issues :=
  let (pageCount, textLayer, bookmarks, headingText) := assessText fitz
  { assessSurface isSubstantive levels doc, assessTree doc headingText with
    hasStructureTree := (doc.get (.object doc.catalog) "/StructTreeRoot").isSome
    hasTextLayer := textLayer
    hasBookmarks := bookmarks
    pageCount := pageCount }

end DicePipeline.Scoring
