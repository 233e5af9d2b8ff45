import DicePipeline.AltText.Figures
import DicePipeline.Links.Repair
import DicePipeline.Quality.Compare
import DicePipeline.Quality.Repeats

/-!
# The quality report of one file (`remediation/pdf_quality.py`)

`_structure_by_page` walks the structure tree once and counts, page by page, what it
comes to; `analyze_pdf` puts the counts together with the words of the pages and with
the properties of the document.

`none` is an exception: a node or an entry that is no dictionary where one is read, or a
tree deeper than `levels`, the nested calls the interpreter has room for.  What PyMuPDF
reads of the file (`PageText`), the outline, the scores and the digest are parameters.  A
page is known by its place among the pages, from 0.
-/

namespace DicePipeline.Quality

open Pdf

/-! ## The structure of the pages -/

/-- `HEADING_TAGS`. -/
def headingTags : List String := ["/H", "/H1", "/H2", "/H3", "/H4", "/H5", "/H6"]

/-- `_heading_level`. -/
def headingLevel (tag : String) : ℕ :=
  match tag.toList with
  | [_, _, digit] => if Text.isDecimalDigit digit then digit.toNat - '0'.toNat else 1
  | _ => 1

/-- `PLACEHOLDER_ALT.match` of a text without blanks at its ends. -/
def isPlaceholder (alt : Text) : Bool :=
  let blankOrDigits (text : Text) : Bool :=
    (text.dropWhile Text.isSpace).all Text.isDecimalDigit
  ["image", "figure", "picture", "img", ""].any fun word =>
    word.toList == (alt.take word.length).map Text.foldLetter &&
      blankOrDigits (alt.drop word.length)

/-- `_PageStructure`. -/
structure PageStructure where
  roles : List String := []
  headingLevels : List ℕ := []
  listSizes : List ℕ := []
  tables : ℕ := 0
  headerCells : ℕ := 0
  tablesWithoutHeaders : ℕ := 0
  figures : ℕ := 0
  figuresWithoutAlt : ℕ := 0
  figuresWithPlaceholderAlt : ℕ := 0
  links : ℕ := 0
  deriving DecidableEq, Repr

/-- `pages` and `order`. -/
structure Survey where
  pages : List PageStructure
  order : List ℕ
  deriving DecidableEq, Repr

/-- Changes what is counted of a page. -/
def Survey.onPage (survey : Survey) (page : Option ℕ) (f : PageStructure → PageStructure) : Survey :=
  match page with
  | none => survey
  | some page => { survey with pages := survey.pages.modify page f }

/-- The items of a list. -/
def listSize (doc : Document) (node : Value) : ℕ :=
  (doc.kidsOf node).countP fun kid => doc.isDictionary kid && doc.textOf kid "/S" == "/LI"

/-- What `visit` counts of a node before it goes on to the kids. -/
def PageStructure.enter (doc : Document) (node : Value) (tag : String) (target : PageStructure) :
    PageStructure :=
  let target := { target with roles := target.roles ++ [tag] }
  if tag ∈ headingTags then
    { target with headingLevels := target.headingLevels ++ [headingLevel tag] }
  else if tag = "/L" then { target with listSizes := target.listSizes ++ [listSize doc node] }
  else if tag = "/Table" then { target with tables := target.tables + 1 }
  else if tag = "/Figure" then
    let alt := Text.strip (doc.textOf node "/Alt").toList
    { target with
      figures := target.figures + 1
      figuresWithoutAlt := target.figuresWithoutAlt + if alt = [] then 1 else 0
      figuresWithPlaceholderAlt :=
        target.figuresWithPlaceholderAlt + if alt ≠ [] ∧ isPlaceholder alt then 1 else 0 }
  else if tag = "/Link" then { target with links := target.links + 1 }
  else target

/-- And after that, with the header cells that are under it. -/
def PageStructure.leave (tag : String) (headers : ℕ) (target : PageStructure) : PageStructure :=
  if tag = "/TH" then { target with headerCells := target.headerCells + 1 }
  else if tag = "/Table" ∧ headers = 0 then
    { target with tablesWithoutHeaders := target.tablesWithoutHeaders + 1 }
  else target

/-- The page of a node: the one it names, if that is one of the document, or else the one
it inherits. -/
def pageOf (doc : Document) (inherited : Option ℕ) (node : Value) : Option (Option ℕ) :=
  match doc.get node "/Pg" with
  | none => some inherited
  | some (.number _) => none  -- It has no `objgen`.
  | some (.object page) =>
      some ((AltText.pageIndex doc (doc.number (.object page))).or inherited)
  | some _ => some inherited  -- That of a name or a string is no page's.

/-- What is known of a node by its tag, on its way in. -/
def Survey.enter (doc : Document) (node : Value) (page : Option ℕ) (survey : Survey) : Survey :=
  let tag := doc.textOf node "/S"
  if tag = "" then survey
  else
    let order :=
      if page.isSome ∧ tag ∈ headingTags then survey.order ++ [headingLevel tag] else survey.order
    { survey.onPage page (PageStructure.enter doc node tag) with order := order }

/-- `visit`: the header cells under the node, and what has been counted so far. -/
def visit (doc : Document) : ℕ → Value → Option ℕ → Survey → Option (ℕ × Survey)
  | 0, _, _, _ => none
  | levels + 1, node, inherited, survey => do
      let page ← pageOf doc inherited node
      let tag := doc.textOf node "/S"
      let (headers, below) ← (doc.kidsOf node).foldlM
        (fun state kid =>
          if doc.isDictionary kid then
            (visit doc levels kid page state.2).map fun below => (state.1 + below.1, below.2)
          else some state)
        (if tag = "/TH" then 1 else 0, survey.enter doc node page)
      some (headers, below.onPage page (PageStructure.leave tag headers))

/-- One turn of the loop over the kids of the root. -/
def visitKid (doc : Document) (levels : ℕ) (survey : Survey) (kid : Value) : Option Survey :=
  if doc.isDictionary kid then (visit doc levels kid none survey).map Prod.snd else some survey

/-- `_structure_by_page`. -/
def structureByPage (doc : Document) (levels : ℕ) : Option Survey :=
  let start : Survey := ⟨List.replicate doc.pages.length {}, []⟩
  match doc.get (.object doc.catalog) "/StructTreeRoot" with
  | none => some start
  | some root =>
      if !doc.isDictionary root then none
      else (doc.kidsOf root).foldlM (visitKid doc levels) start

/-! ## Properties of the document -/

/-- What a property of the document is. -/
inductive Property where
  | text (text : String)
  | flag (isSet : Bool)
  | count (count : ℕ)
  deriving DecidableEq, Repr

/-- `bool(node is not None and node.get(key, False))` of an entry of the catalog. -/
def catalogFlag (doc : Document) (dictionary key : String) : Option Bool :=
  match doc.get (.object doc.catalog) dictionary with
  | none => some false
  | some node =>
      if doc.isDictionary node then
        some (((doc.get node key).map fun value => !doc.isFalsy value).getD false)
      else none

/-- The link annotations of a page. -/
def countLinks (doc : Document) (page : ℕ) : Option ℕ := do
  let items ← match doc.get (.object page) "/Annots" with
    | none => some []
    | some annots => Links.iterated doc annots
  if items.all doc.isDictionary then
    some (items.countP fun annot => doc.textOf annot "/Subtype" == "/Link")
  else none

/-- `_document_properties`.  `info` is the document information the trailer refers to. -/
def documentProperties (doc : Document) (info : Option ℕ) (outlineEntries : ℕ) :
    Option (Dict Text Property) := do
  let marked ← catalogFlag doc "/MarkInfo" "/Marked"
  let displayDocTitle ← catalogFlag doc "/ViewerPreferences" "/DisplayDocTitle"
  let linkAnnotations ← doc.pages.mapM (countLinks doc)
  some
    { entries := [
        ("title".toList, .text ((info.map fun a => doc.textOf (.object a) "/Title").getD "")),
        ("language".toList, .text (doc.textOf (.object doc.catalog) "/Lang")),
        ("marked".toList, .flag marked),
        ("display_doc_title".toList, .flag displayDocTitle),
        ("all_pages_tab_by_structure".toList,
          .flag (doc.pages.all fun page => doc.textOf (.object page) "/Tabs" == "/S")),
        ("outline_entries".toList, .count outlineEntries),
        ("link_annotations".toList, .count linkAnnotations.sum)]
      nodup := by
        show (["title", "language", "marked", "display_doc_title", "all_pages_tab_by_structure",
          "outline_entries", "link_annotations"].map String.toList).Nodup
        decide }

/-! ## The report -/

/-- What PyMuPDF reads: the words of the pages, and those of the original's. -/
structure PageText where
  words : List (List Text)
  sourceWords : Option (List (List Text))

/-- What is measured of a page against the page of the original. -/
def againstSource (text : PageText) (page : ℕ) : ℕ × ℕ × ℕ :=
  match text.sourceWords with
  | none => (0, 0, 0)
  | some source => textAgainstSource (text.words.getD page []) (source.getD page [])

/-- The entry of a page. -/
def pageEntry (sha1 : Text → Text) (words : List Text) (page : PageStructure) : PageEntry where
  words := words.length
  headings := page.headingLevels
  lists := page.listSizes
  tables := page.tables
  figures := page.figures
  tagSignature := (sha1 (" ".toList.intercalate (page.roles.map String.toList))).take 10

/-- The headings that skip a level, of the levels in the order of the document. -/
def levelSkips (order : List ℕ) : ℕ :=
  (order.zip order.tail).countP fun step => step.1 + 1 < step.2

/-- The totals of the structure and the words. -/
def baseTotals (text : PageText) (survey : Survey) : List (Text × ℕ) :=
  let total (f : PageStructure → ℕ) : ℕ := (survey.pages.map f).sum
  [("words".toList, (text.words.map List.length).sum),
    ("empty_pages".toList, text.words.countP fun words => words.length < 5),
    ("headings".toList, total (·.headingLevels.length)),
    ("heading_level_skips".toList, levelSkips survey.order),
    ("lists".toList, total (·.listSizes.length)),
    ("list_items".toList, total (·.listSizes.sum)),
    ("tables".toList, total (·.tables)),
    ("tables_without_headers".toList, total (·.tablesWithoutHeaders)),
    ("figures".toList, total (·.figures)),
    ("figures_without_alt".toList, total (·.figuresWithoutAlt)),
    ("figures_with_placeholder_alt".toList, total (·.figuresWithPlaceholderAlt)),
    ("links".toList, total (·.links))]

/-- And those of the text, if there is an original. -/
def sourceTotals (text : PageText) : List (Text × ℕ) :=
  let measured := (List.range text.words.length).map (againstSource text)
  if text.sourceWords.isSome then
    [("repeated_phrases".toList, (measured.map (·.1)).sum),
      ("words_missing_from_source".toList, (measured.map (·.2.1)).sum),
      ("words_added_to_source".toList, (measured.map (·.2.2)).sum)]
  else []

/-- `totals`. -/
def totals (text : PageText) (survey : Survey) : Dict Text ℕ where
  entries := baseTotals text survey ++ sourceTotals text
  nodup := by
    unfold sourceTotals
    split
    · show (["words", "empty_pages", "headings", "heading_level_skips", "lists", "list_items",
        "tables", "tables_without_headers", "figures", "figures_without_alt",
        "figures_with_placeholder_alt", "links", "repeated_phrases", "words_missing_from_source",
        "words_added_to_source"].map String.toList).Nodup
      decide
    · show (["words", "empty_pages", "headings", "heading_level_skips", "lists", "list_items",
        "tables", "tables_without_headers", "figures", "figures_without_alt",
        "figures_with_placeholder_alt", "links"].map String.toList).Nodup
      decide

/-- `pages`, under the texts of their numbers.  A page that PyMuPDF has and `pikepdf` has not
is a `KeyError`, and `str` raises of a number of more than `maxStrDigits` digits. -/
def pageEntries (sha1 : Text → Text) (text : PageText) (survey : Survey) :
    Option (Dict Text PageEntry) :=
  if text.words.length ≤ survey.pages.length ∧
      ∀ index < text.words.length, (Text.decimal (index + 1)).length ≤ Text.maxStrDigits then
    some
      { entries := (text.words.zip survey.pages).zipIdx.map fun page =>
          (Text.decimal (page.2 + 1), pageEntry sha1 page.1.1 page.1.2)
        nodup := by
          have numbers : ((text.words.zip survey.pages).zipIdx.map fun page =>
              (Text.decimal (page.2 + 1), pageEntry sha1 page.1.1 page.1.2)).map Prod.fst =
                ((text.words.zip survey.pages).zipIdx.map Prod.snd).map
                  fun index => Text.decimal (index + 1) := by
            rw [List.map_map, List.map_map]
            rfl
          rw [numbers, List.zipIdx_map_snd]
          exact (List.nodup_range' (s := 0)).map fun _ _ same =>
            Nat.succ_injective (Text.decimal_injective same) }
  else none

/-- The number is that of one of so many pages. -/
def isPageNumber (pageCount : ℕ) (number : Text) : Bool :=
  (Text.readInt number).any fun number : ℤ => 0 ≤ number - 1 ∧ number - 1 < pageCount

/-- `score_pdf`, of a file with so many pages: to score a page that it does not have is a
`ValueError`.  `scores` is what `score_page` gives the pages of the transcription. -/
def scorePdf {R : Type} (pageCount : ℕ) (scores : Dict Text (PageScore R)) :
    Option (Dict Text (Dict Text R)) :=
  if scores.keys.all (isPageNumber pageCount) then some (scores.mapValues PageScore.toDict)
  else none

/-- The scores, if there is a transcription. -/
def scoreTruth {R : Type} (pageCount : ℕ) :
    Option (Dict Text (PageScore R)) → Option (Option (Dict Text (Dict Text R)))
  | none => some none
  | some scores => (scorePdf pageCount scores).map some

/-- `analyze_pdf`.  `ocrTruth` is measured of the same text, if there is a transcription. -/
def analyzePdf {R : Type} (sha1 : Text → Text) (doc : Document) (levels : ℕ) (info : Option ℕ)
    (outlineEntries : ℕ) (text : PageText) (ocrTruth : Option (Dict Text (PageScore R))) :
    Option (Report R Property) := do
  let survey ← structureByPage doc levels
  let document ← documentProperties doc info outlineEntries
  if text.sourceWords.any fun source => source.length ≠ text.words.length then none
  else
    let pages ← pageEntries sha1 text survey
    let ocrTruth ← scoreTruth text.words.length ocrTruth
    some
      { failedSteps := []
        totals := totals text survey
        verapdf := none
        ocrTruth := ocrTruth
        document := document.mapValues some
        pages := pages }

/-! ## A report can be compared -/

theorem isSome_readInt_pageEntries {sha1 : Text → Text} {text : PageText} {survey : Survey}
    {pages : Dict Text PageEntry} (entries : pageEntries sha1 text survey = some pages)
    {page : Text} (member : page ∈ pages.keys) : (Text.readInt page).isSome = true := by
  unfold pageEntries at entries
  split at entries
  · rename_i enough
    obtain rfl := Option.some.inj entries
    obtain ⟨entry, listed, rfl⟩ := List.mem_map.mp member
    obtain ⟨numbered, inZip, rfl⟩ := List.mem_map.mp listed
    have index : numbered.2 < text.words.length := by
      have bound := List.snd_lt_of_mem_zipIdx inZip
      rw [List.length_zip] at bound
      omega
    exact Text.isSome_readInt_decimal (enough.2 _ index)
  · cases entries

/-- The scores of a report can be compared with themselves. -/
theorem bothScored_scoreTruth {R : Type} {pageCount : ℕ} {ocrTruth : Option (Dict Text (PageScore R))}
    {scored : Dict Text (Dict Text R)}
    (returned : scoreTruth pageCount ocrTruth = some (some scored)) : BothScored scored scored := by
  cases ocrTruth with
  | none => cases returned
  | some scores =>
    obtain ⟨_, isScored, ⟨⟩⟩ := Option.map_eq_some_iff.mp returned
    unfold scorePdf at isScored
    split at isScored
    · rename_i numbers
      obtain rfl := Option.some.inj isScored
      intro page first second isFirst isSecond
      rw [Dict.get?_mapValues] at isFirst isSecond
      obtain ⟨score, isScore, rfl⟩ := Option.map_eq_some_iff.mp isFirst
      obtain ⟨again, -, rfl⟩ := Option.map_eq_some_iff.mp isSecond
      have isNumber := List.all_eq_true.mp numbers page (Dict.mem_keys_of_get? isScore)
      exact ⟨Option.isSome_of_any isNumber, scored_toDict score again⟩
    · cases isScored

end DicePipeline.Quality
