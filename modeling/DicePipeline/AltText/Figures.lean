import Mathlib.Data.List.Sort
import DicePipeline.Pdf.Structure
import DicePipeline.Text.Strings

/-!
# Figures and their alt text (`remediation/adapters/alt_text/pike_pdf.py`)

`collect_figures` walks the structure tree and pairs the n-th `/Figure` of a page
that needs alt text with the n-th image PyMuPDF reports for the page;
`AltTextService._run` has each described; `write_alt_text` walks the tree again
and writes the texts by page and place in the list.

PyMuPDF is a parameter: the images of a page, the data of an image, and a page
drawn as one picture.  `none` is an exception there.
-/

namespace DicePipeline.AltText

open Pdf

abbrev Bytes := List UInt8

/-- `MAX_STRUCT_TREE_DEPTH`. -/
def maxStructTreeDepth : ℕ := 30

/-- `MIN_DECORATIVE_PX`. -/
def minDecorativePx : ℕ := 60 * 60

/-- `_PLACEHOLDER_ALT_PATTERN.fullmatch(alt_text)` of a text without blanks at its end. -/
def isPlaceholderAlt (altText : Text) : Bool :=
  "image ".toList.isPrefixOf altText &&
    !(altText.drop 6).isEmpty && (altText.drop 6).all Text.isDecimalDigit

/-- `needs_alt`: no `/Alt`, a blank one, or the placeholder. -/
def needsAlt (doc : Document) (figure : Value) : Bool :=
  let altText := Text.strip (doc.textOf figure "/Alt").toList
  altText.isEmpty || isPlaceholderAlt altText

/-- `page_map.get(number)`.  Of two pages with one number the later is in the map. -/
def pageIndex (doc : Document) (number : ℕ) : Option ℕ :=
  (doc.pages.zipIdx.map fun page => (doc.number (.object page.1), page.2)).reverse.lookup number

/-- `pg_ref`: a node's `/Pg`, or the one it inherits. -/
def pgRef (doc : Document) (inherited : Option Value) (node : Value) : Option Value :=
  (doc.get node "/Pg").or inherited

/-- `page_idx`. -/
def pageOf (doc : Document) (pg : Option Value) : Option ℕ :=
  (pg.filter doc.isDictionary).bind fun page => pageIndex doc (doc.number page)

/-- What `_collect_figure_elements` appends to `out`, page by page, in the order it
does so.  `depth > MAX_STRUCT_TREE_DEPTH` leaves no levels. -/
def collectFigureElements (doc : Document) : ℕ → Option Value → Value → List (ℕ × Value)
  | 0, _, _ => []
  | levels + 1, inherited, node =>
      if !doc.isDictionary node then []
      else
        let pg := pgRef doc inherited node
        let own :=
          if doc.textOf node "/S" = "/Figure" && needsAlt doc node then
            ((pageOf doc pg).map fun page => (page, node)).toList
          else []
        own ++ (doc.kidsOf node).flatMap fun kid =>
          if doc.isDictionary kid then collectFigureElements doc levels pg kid else []

/-- `_walk_figures`: the figures, each with its page. -/
def walkFigures (doc : Document) : List (ℕ × Value) :=
  match doc.get (.object doc.catalog) "/StructTreeRoot" with
  | none => []
  | some structRoot => collectFigureElements doc (maxStructTreeDepth + 1) none structRoot

/-- `figures_by_page[page]`. -/
def pageFigures (doc : Document) (page : ℕ) : List Value :=
  ((walkFigures doc).filter fun figure => figure.1 = page).map Prod.snd

/-- The keys of `figures_by_page`, in the order of their first figures. -/
def figurePages (doc : Document) : List ℕ := ((walkFigures doc).map Prod.fst).eraseDups

/-! ## Pictures -/

inductive ImageMediaType where
  | jpeg | png | gif | webp
  deriving DecidableEq, Repr

/-- `_SUPPORTED_MEDIA_TYPES.get(ext)`. -/
def supportedMediaType : String → Option ImageMediaType
  | "jpg" => some .jpeg
  | "jpeg" => some .jpeg
  | "png" => some .png
  | "gif" => some .gif
  | "webp" => some .webp
  | _ => none

/-- An image of a page, as `get_images` reports it. -/
structure Image where
  xref : ℕ
  width : ℕ
  height : ℕ
  deriving DecidableEq, Repr

/-- PyMuPDF, on the file. -/
structure PyMuPdf where
  /-- `doc[page_idx].get_images(full=True)`. -/
  getImages : ℕ → Option (List Image)
  /-- `doc.extract_image(xref)`, its `ext` and `image`. -/
  extractImage : ℕ → Option (String × Bytes)
  /-- `_render_page(doc[page_idx])`. -/
  renderPage : ℕ → Option Bytes

/-- What a candidate is described by. -/
structure Picture where
  imageBytes : Bytes
  mediaType : ImageMediaType
  decorative : Bool
  deriving DecidableEq, Repr

/-- `_extract_candidate_image`. -/
def extractCandidateImage (fitz : PyMuPdf) (page : ℕ) (images : List Image) (figN : ℕ) :
    Option Picture :=
  let rendered := (fitz.renderPage page).map fun bytes => Picture.mk bytes .png false
  match images[figN]? with
  | none => rendered
  | some image =>
      if image.width * image.height < minDecorativePx then some ⟨[], .png, true⟩
      else
        match fitz.extractImage image.xref with
        | none => rendered
        | some (ext, bytes) =>
            match supportedMediaType ext with
            | none => rendered
            | some mediaType => some ⟨bytes, mediaType, false⟩

/-- `FigureCandidate`. -/
structure FigureCandidate where
  ref : ℕ × ℕ
  pageNumber : ℕ
  picture : Picture
  deriving DecidableEq, Repr

/-- The candidates of one page. -/
def pageCandidates (doc : Document) (fitz : PyMuPdf) (page : ℕ) :
    Option (List FigureCandidate) := do
  let images ← fitz.getImages page
  (List.range (pageFigures doc page).length).mapM fun figN => do
    let picture ← extractCandidateImage fitz page images figN
    some ⟨(page, figN), page + 1, picture⟩

/-- `collect_figures`. -/
def collectFigures (doc : Document) (fitz : PyMuPdf) : Option (List FigureCandidate) :=
  (((figurePages doc).insertionSort (· ≤ ·)).mapM (pageCandidates doc fitz)).map List.flatten

/-! ## Writing -/

/-- The text of a candidate: none for a decorative one, else `client.describe` of it. -/
def describeCandidate (describe : Bytes → ImageMediaType → ℕ → String)
    (candidate : FigureCandidate) : String :=
  if candidate.picture.decorative then ""
  else describe candidate.picture.imageBytes candidate.picture.mediaType candidate.pageNumber

/-- `alt_by_ref` of `AltTextService._run`. -/
def altByRef (describe : Bytes → ImageMediaType → ℕ → String) (candidates : List FigureCandidate)
    (ref : ℕ × ℕ) : Option String :=
  (candidates.reverse.find? fun candidate => candidate.ref = ref).map (describeCandidate describe)

/-- The elements `write_alt_text` goes through, each with its `ref`. -/
def figureRefs (doc : Document) : List ((ℕ × ℕ) × Value) :=
  (figurePages doc).flatMap fun page =>
    (pageFigures doc page).zipIdx.map fun figure => ((page, figure.2), figure.1)

/-- Writes one text, unless it is falsy. -/
def writeAlt (alts : ℕ × ℕ → Option String) (doc : Document) (figure : (ℕ × ℕ) × Value) :
    Document :=
  match alts figure.1, figure.2 with
  | some alt, .object element =>
      if alt = "" then doc else doc.setEntry element "/Alt" (.string alt)
  | _, _ => doc

/-- `write_alt_text`, from the opened document to the saved one. -/
def writeAltText (doc : Document) (alts : ℕ × ℕ → Option String) : Document :=
  (figureRefs doc).foldl (writeAlt alts) doc

end DicePipeline.AltText
