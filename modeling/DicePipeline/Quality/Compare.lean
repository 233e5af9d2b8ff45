import Mathlib.Algebra.GroupWithZero.Nat
import Mathlib.Data.List.Sort
import Mathlib.Data.List.Dedup
import Mathlib.Data.List.Lex
import Mathlib.Data.Char
import DicePipeline.Dict
import DicePipeline.Loops
import DicePipeline.Text.Words

/-!
# Comparing two quality reports (`remediation/pdf_quality.py`, `remediation/ocr_truth.py`)

`compare_reports` goes through what two reports of one document have in common and
writes a line for everything that got worse or better.  A key, a veraPDF result or a
scored page that only one report has is passed over.

Two things make it raise.  The pages of the baseline, and those both sides scored, are
sorted by number, and the number of a page is the text of a JSON key.  And of a page that
both sides scored all seven numbers are looked up, on both sides.  `Readable` says that
neither happens.

`compareReports_iff` says when a comparison does not end well: it raises, or a step failed,
or there is a regression.  There is one for every measure that both reports took and that is
worse in the candidate's, and for a document property of the baseline's that is not as it
was in the candidate's.

### What is load-bearing

A report comes from a file, so what is missing in it is modelled as missing.  A page's
scores are a `dict` of their own, in which each number may be absent, and pages are known
by the texts of their keys: `1` and `01` are two pages.  A document property may be
`null`, which `.get` makes the same as one that is not there.
-/

namespace DicePipeline

/-! ## Reports -/

/-- What a report says of one page. -/
structure PageEntry where
  words : ℕ
  headings : List ℕ
  lists : List ℕ
  tables : ℕ
  figures : ℕ
  tagSignature : Text
  deriving DecidableEq, Repr

/-- The numbers `score_page` gives a page. -/
structure PageScore (R : Type) where
  wordErrorRate : R
  charErrorRate : R
  wordsMissing : R
  wordsExtra : R
  numbersMissing : R
  numbersExtra : R
  readingOrder : R
  deriving DecidableEq, Repr

/-- The numbers, under their keys. -/
def PageScore.toDict {R : Type} (score : PageScore R) : Dict Text R where
  entries := [("word_error_rate".toList, score.wordErrorRate),
    ("char_error_rate".toList, score.charErrorRate), ("words_missing".toList, score.wordsMissing),
    ("words_extra".toList, score.wordsExtra), ("numbers_missing".toList, score.numbersMissing),
    ("numbers_extra".toList, score.numbersExtra), ("reading_order".toList, score.readingOrder)]
  nodup := by
    show (["word_error_rate", "char_error_rate", "words_missing", "words_extra",
      "numbers_missing", "numbers_extra", "reading_order"].map String.toList).Nodup
    decide

/-- A report of `pdf_quality_report`, read from its file, as far as a comparison reads it.
Pages are known by the texts of their numbers. -/
structure Report (R V : Type) where
  failedSteps : List Text
  totals : Dict Text ℕ
  /-- the failed checks of each rule that has some, if veraPDF ran -/
  verapdf : Option (Dict Text ℕ)
  /-- the numbers of the scored pages, if there is a transcription -/
  ocrTruth : Option (Dict Text (Dict Text R))
  /-- `none` is `null` -/
  document : Dict Text (Option V)
  pages : Dict Text PageEntry

/-- What `compare_reports` raises. -/
inductive ComparisonError where
  /-- `KeyError` -/
  | keyError (key : Text)
  /-- `ValueError`, of `int` -/
  | valueError (text : Text)
  deriving DecidableEq, Repr

/-- The arithmetic of a score's numbers, and how they are written. -/
structure Numbers (R : Type) where
  sub : R → R → R
  abs : R → R
  le : R → R → Bool
  isPositive : R → Bool
  zero : R
  /-- `RATE_TOLERANCE` -/
  rateTolerance : R
  /-- `ORDER_TOLERANCE` -/
  orderTolerance : R
  text : R → Text

/-- What a part of a comparison adds to it. -/
structure ComparisonLines where
  rows : List (Text × ℕ × ℕ) := []
  regressions : List Text := []
  improvements : List Text := []
  pageChanges : List Text := []
  deriving DecidableEq, Repr

/-- `Comparison`. -/
structure Comparison extends ComparisonLines where
  invalid : List Text := []
  deriving DecidableEq, Repr

namespace ComparisonLines

/-- What one part of a comparison adds to another. -/
instance : Append ComparisonLines where
  append first second :=
    { rows := first.rows ++ second.rows
      regressions := first.regressions ++ second.regressions
      improvements := first.improvements ++ second.improvements
      pageChanges := first.pageChanges ++ second.pageChanges }

/-- The turns of a loop, one after the other. -/
def joined (turns : List ComparisonLines) : ComparisonLines := turns.foldr (· ++ ·) {}

/-- A list of lines that is joined with the others is what the turns write to it, one after
the other. -/
theorem lines_joined {lines : ComparisonLines → List Text} (none : lines {} = [])
    (append : ∀ first second : ComparisonLines, lines (first ++ second) = lines first ++ lines second)
    (turns : List ComparisonLines) : lines (joined turns) = turns.flatMap lines := by
  induction turns with
  | nil => exact none
  | cons turn rest ih => rw [List.flatMap_cons, ← ih, joined, List.foldr_cons, append, ← joined]

@[simp] theorem regressions_append (first second : ComparisonLines) :
    (first ++ second).regressions = first.regressions ++ second.regressions := rfl

@[simp] theorem regressions_joined (turns : List ComparisonLines) :
    (joined turns).regressions = turns.flatMap (·.regressions) :=
  lines_joined rfl regressions_append turns

end ComparisonLines

/-! ## Totals -/

/-- `WORSE_IF_HIGHER`. -/
def worseIfHigher : List Text :=
  ["empty_pages", "figures_without_alt", "figures_with_placeholder_alt", "tables_without_headers",
    "heading_level_skips", "repeated_phrases", "words_missing_from_source"].map String.toList

/-- `WORSE_IF_LOWER`. -/
def worseIfLower : List Text := ["headings"].map String.toList

/-- `NEUTRAL`. -/
def neutral : List Text :=
  ["words", "lists", "list_items", "tables", "figures", "links", "words_added_to_source"].map
    String.toList

/-- `f"{label}: {before} -> {after}"`. -/
def changeLine (label before after : Text) : Text :=
  label ++ ": ".toList ++ before ++ " -> ".toList ++ after

section Compare

variable {R V : Type}

/-- One turn of the loop over the totals. -/
def compareTotal (baseline candidate : Report R V) (key : Text) : ComparisonLines :=
  match baseline.totals.get? key, candidate.totals.get? key with
  | some before, some after =>
      let rows := [(key, before, after)]
      let line := changeLine key (Text.decimal before) (Text.decimal after)
      if before = after then { rows }
      else if key ∈ worseIfHigher then
        if before < after then { rows, regressions := [line] } else { rows, improvements := [line] }
      else if key ∈ worseIfLower then
        if after < before then { rows, regressions := [line] } else { rows, improvements := [line] }
      else { rows }
  | _, _ => {}

/-! ## veraPDF -/

/-- One turn of the loop over the rules. -/
def compareRule (before after : Dict Text ℕ) (rule : Text) : ComparisonLines :=
  let before := (before.get? rule).getD 0
  let after := (after.get? rule).getD 0
  let line := changeLine ("veraPDF ".toList ++ rule) (Text.decimal before) (Text.decimal after)
  if before < after then { regressions := [line] }
  else if after < before then { improvements := [line] }
  else {}

/-- The failed checks, if veraPDF ran on both sides. -/
def compareVerapdf (baseline candidate : Report R V) : ComparisonLines :=
  match baseline.verapdf, candidate.verapdf with
  | some before, some after =>
      let failed (checks : Dict Text ℕ) : ℕ := (checks.entries.map Prod.snd).sum
      let rules := ((before.keys ++ after.keys).dedup).insertionSort (· ≤ ·)
      { rows := [("verapdf failed checks".toList, failed before, failed after)] } ++
        ComparisonLines.joined (rules.map (compareRule before after))
  | _, _ => {}

/-! ## Scores of the OCR text -/

/-- One of the `checks` of `compare_scores`: its label, the key of the number it looks at,
the tolerance, and whether a higher number is worse. -/
structure ScoreCheck (R : Type) where
  label : Text
  key : Text
  tolerance : R
  higherIsWorse : Bool

variable (numbers : Numbers R)

/-- `checks`. -/
def scoreChecks : List (ScoreCheck R) :=
  [⟨"word error rate".toList, "word_error_rate".toList, numbers.rateTolerance, true⟩,
    ⟨"char error rate".toList, "char_error_rate".toList, numbers.rateTolerance, true⟩,
    ⟨"words missing".toList, "words_missing".toList, numbers.zero, true⟩,
    ⟨"words extra".toList, "words_extra".toList, numbers.zero, true⟩,
    ⟨"numbers missing".toList, "numbers_missing".toList, numbers.zero, true⟩,
    ⟨"numbers extra".toList, "numbers_extra".toList, numbers.zero, true⟩,
    ⟨"reading order".toList, "reading_order".toList, numbers.orderTolerance, false⟩]

/-- `score[key]`. -/
def scoreAt (score : Dict Text R) (key : Text) : Except ComparisonError R :=
  match score.get? key with
  | some number => .ok number
  | none => .error (.keyError key)

/-- What is written of a number of a page that went from `before` to `after`. -/
def scoreLines (page : Text) (check : ScoreCheck R) (before after : R) : ComparisonLines :=
  let change := numbers.sub after before
  if numbers.le (numbers.abs change) check.tolerance then {}
  else
    let line := changeLine ("OCR page ".toList ++ page ++ ' ' :: check.label)
      (numbers.text before) (numbers.text after)
    if numbers.isPositive change = check.higherIsWorse then { regressions := [line] }
    else { improvements := [line] }

/-- One turn of the loop over the checks of a page. -/
def compareScore (page : Text) (before after : Dict Text R) (check : ScoreCheck R) :
    Except ComparisonError ComparisonLines := do
  let second ← scoreAt after check.key
  let first ← scoreAt before check.key
  return scoreLines numbers page check first second

/-- `int(page)`, beside the page. -/
def numberedPage (page : Text) : Except ComparisonError (ℤ × Text) :=
  match Text.readInt page with
  | some number => .ok (number, page)
  | none => .error (.valueError page)

/-- `sorted(pages, key=int)`. -/
def sortedByNumber (pages : List Text) : Except ComparisonError (List Text) := do
  let numbered ← pages.mapM numberedPage
  return (numbered.insertionSort (·.1 ≤ ·.1)).map Prod.snd

/-- One turn of the loop over the pages that both sides scored. -/
def comparePageScores (before after : Dict Text (Dict Text R)) (page : Text) :
    Except ComparisonError ComparisonLines :=
  match before.get? page, after.get? page with
  | some first, some second =>
      ((scoreChecks numbers).mapM (compareScore numbers page first second)).map
        ComparisonLines.joined
  | _, _ => .ok {}

/-- `compare_scores`, of the pages both sides scored. -/
def compareScores (before after : Dict Text (Dict Text R)) :
    Except ComparisonError ComparisonLines := do
  let pages ← sortedByNumber (before.keys.filter (· ∈ after.keys))
  let turns ← pages.mapM (comparePageScores numbers before after)
  return ComparisonLines.joined turns

/-- The scores, if there is a transcription on both sides. -/
def compareOcrTruth (baseline candidate : Report R V) : Except ComparisonError ComparisonLines :=
  match baseline.ocrTruth, candidate.ocrTruth with
  | some before, some after => compareScores numbers before after
  | _, _ => .ok {}

/-! ## Document properties and pages -/

variable (repr : Option V → Text)

/-- One turn of the loop over the baseline's document properties. -/
def compareProperty [DecidableEq V] (candidate : Report R V) (property : Text × Option V) :
    ComparisonLines :=
  let after := (candidate.document.get? property.1).join
  if property.2 = after then {}
  else
    { regressions := [changeLine ("document ".toList ++ property.1) (repr property.2)
        (repr after)] }

/-- `str` of a list of numbers. -/
def listText (numbers : List ℕ) : Text :=
  '[' :: ", ".toList.intercalate (numbers.map Text.decimal) ++ [']']

/-- `f"{label} {before} -> {after}"`, if the two differ. -/
def pageChange {α : Type} [DecidableEq α] (label : String) (text : α → Text) (before after : α) :
    List Text :=
  if after = before then []
  else [label.toList ++ ' ' :: text before ++ " -> ".toList ++ text after]

/-- `_page_changes`. -/
def pageChanges (before after : PageEntry) : List Text :=
  let changes :=
    (if after.headings.length ≠ before.headings.length then
        pageChange "headings" Text.decimal before.headings.length after.headings.length
      else pageChange "heading levels" listText before.headings after.headings) ++
    pageChange "list sizes" listText before.lists after.lists ++
    pageChange "tables" Text.decimal before.tables after.tables ++
    pageChange "figures" Text.decimal before.figures after.figures ++
    pageChange "words" Text.decimal before.words after.words
  if changes = [] ∧ after.tagSignature ≠ before.tagSignature then
    ["tag order changed".toList]
  else changes

/-- One turn of the loop over the baseline's pages. -/
def comparePage (baseline candidate : Report R V) (page : Text) : ComparisonLines :=
  match baseline.pages.get? page, candidate.pages.get? page with
  | some before, some after =>
      let changes := pageChanges before after
      if changes = [] then {}
      else
        { pageChanges := ["page ".toList ++ page ++ ": ".toList ++
            "; ".toList.intercalate changes] }
  | _, _ => {}

/-- The line of a side on which a step of the pipeline failed. -/
def failedSide (side : String) (report : Report R V) : List Text :=
  if report.failedSteps = [] then []
  else [side.toList ++ ": pipeline step failed: ".toList ++
    ", ".toList.intercalate report.failedSteps]

/-- `compare_reports`. -/
def compareReports [DecidableEq V] (baseline candidate : Report R V) :
    Except ComparisonError Comparison :=
  let invalid := failedSide "baseline" baseline ++ failedSide "candidate" candidate
  if invalid ≠ [] then .ok { invalid }
  else do
    let scores ← compareOcrTruth numbers baseline candidate
    let pages ← sortedByNumber baseline.pages.keys
    .ok
      { toComparisonLines := ComparisonLines.joined ((worseIfHigher ++ worseIfLower ++ neutral).map
            (compareTotal baseline candidate)) ++
          compareVerapdf baseline candidate ++
          scores ++
          ComparisonLines.joined (baseline.document.entries.map (compareProperty repr candidate)) ++
          ComparisonLines.joined (pages.map (comparePage baseline candidate)) }

/-! ## What is worse -/

variable (baseline candidate : Report R V)

/-- A step of the pipeline failed on one side. -/
def FailedStep : Prop := baseline.failedSteps ≠ [] ∨ candidate.failedSteps ≠ []

/-- A total that both sides counted is worse. -/
def WorseTotal : Prop :=
  ∃ key before after, baseline.totals.get? key = some before ∧
    candidate.totals.get? key = some after ∧
    (key ∈ worseIfHigher ∧ before < after ∨ key ∈ worseIfLower ∧ after < before)

/-- veraPDF ran on both sides, and a rule has more failed checks. -/
def WorseRule : Prop :=
  ∃ before after, baseline.verapdf = some before ∧ candidate.verapdf = some after ∧
    ∃ rule, (before.get? rule).getD 0 < (after.get? rule).getD 0

/-- A number of a page has become worse by more than is tolerated. -/
def Worsened (check : ScoreCheck R) (before after : R) : Prop :=
  let change := numbers.sub after before
  numbers.le (numbers.abs change) check.tolerance = false ∧
    numbers.isPositive change = check.higherIsWorse

/-- There is a transcription on both sides, and a number of a page that both scored is
worse. -/
def WorseScore : Prop :=
  ∃ before after, baseline.ocrTruth = some before ∧ candidate.ocrTruth = some after ∧
    ∃ page first second, before.get? page = some first ∧ after.get? page = some second ∧
      ∃ check ∈ scoreChecks numbers, ∃ old new, first.get? check.key = some old ∧
        second.get? check.key = some new ∧ Worsened numbers check old new

/-- A document property of the baseline's is another one in the candidate's.  One that is
not there is `null`. -/
def ChangedProperty : Prop :=
  ∃ property ∈ baseline.document.entries,
    (candidate.document.get? property.1).join ≠ property.2

/-- Something that both sides measured is worse. -/
def Worse : Prop :=
  WorseTotal baseline candidate ∨ WorseRule baseline candidate ∨
    WorseScore numbers baseline candidate ∨ ChangedProperty baseline candidate

/-- The keys of the numbers that are looked up of a scored page. -/
def scoreKeys : List Text :=
  ["word_error_rate", "char_error_rate", "words_missing", "words_extra", "numbers_missing",
    "numbers_extra", "reading_order"].map String.toList

/-- Both have all the numbers that are looked up. -/
def Scored (first second : Dict Text R) : Prop :=
  ∀ key ∈ scoreKeys, (first.get? key).isSome = true ∧ (second.get? key).isSome = true

/-- A page that both sides scored has a number, and all that is looked up of it is there on
both sides. -/
def BothScored (before after : Dict Text (Dict Text R)) : Prop :=
  ∀ page first second, before.get? page = some first → after.get? page = some second →
    (Text.readInt page).isSome = true ∧ Scored first second

/-- **Nothing that is looked up is missing.**  The keys that are sorted by number are
numbers, and a page that both sides scored has its numbers on both sides.  Without this the
comparison raises, and so does the command (`compareReports_error`). -/
structure Readable : Prop where
  pages : ∀ page ∈ baseline.pages.keys, (Text.readInt page).isSome = true
  scores : ∀ before after, baseline.ocrTruth = some before → candidate.ocrTruth = some after →
    BothScored before after

variable {numbers repr baseline candidate}

/-- What `score_page` writes is all that is looked up. -/
theorem scored_toDict (first second : PageScore R) : Scored first.toDict second.toDict := by
  have all : ∀ score : PageScore R, ∀ key ∈ scoreKeys, (score.toDict.get? key).isSome = true := by
    intro score
    unfold scoreKeys
    simp only [List.map_cons, List.map_nil, List.forall_mem_cons, List.not_mem_nil, false_implies,
      implies_true, and_true]
    exact ⟨rfl, rfl, rfl, rfl, rfl, rfl, rfl⟩
  exact fun key isKey => ⟨all first key isKey, all second key isKey⟩

/-! ## When it raises -/

section Returned

variable (numbers baseline candidate)

/-- The pages by their numbers, each of which has one. -/
def pagesByNumber (pages : List Text) : List Text :=
  ((pages.map fun page => ((Text.readInt page).getD 0, page)).insertionSort
    (·.1 ≤ ·.1)).map Prod.snd

/-- What the turn for a check writes, if it does not raise. -/
def checkLines (page : Text) (before after : Dict Text R) (check : ScoreCheck R) :
    ComparisonLines :=
  match before.get? check.key, after.get? check.key with
  | some old, some new => scoreLines numbers page check old new
  | _, _ => {}

/-- What the turn for a page writes, if it does not raise. -/
def pageScoreLines (before after : Dict Text (Dict Text R)) (page : Text) : ComparisonLines :=
  match before.get? page, after.get? page with
  | some first, some second =>
      .joined ((scoreChecks numbers).map (checkLines numbers page first second))
  | _, _ => {}

/-- What is written of the scores, if nothing raises. -/
def ocrTruthLines : ComparisonLines :=
  match baseline.ocrTruth, candidate.ocrTruth with
  | some before, some after =>
      .joined ((pagesByNumber (before.keys.filter (· ∈ after.keys))).map
        (pageScoreLines numbers before after))
  | _, _ => {}

end Returned

theorem perm_pagesByNumber (pages : List Text) : (pagesByNumber pages).Perm pages := by
  have perm := (List.perm_insertionSort (fun a b : ℤ × Text => a.1 ≤ b.1)
    (pages.map fun page => ((Text.readInt page).getD 0, page))).map Prod.snd
  rw [List.map_map] at perm
  exact perm.trans (by simp [Function.comp_def])

theorem sortedByNumber_ok {pages : List Text}
    (numbered : ∀ page ∈ pages, (Text.readInt page).isSome = true) :
    sortedByNumber pages = .ok (pagesByNumber pages) := by
  have each : ∀ page ∈ pages, numberedPage page = .ok ((Text.readInt page).getD 0, page) := by
    intro page member
    obtain ⟨number, isNumber⟩ := Option.isSome_iff_exists.mp (numbered page member)
    unfold numberedPage
    rw [isNumber]
    rfl
  unfold sortedByNumber
  rw [mapM_eq_ok each]
  rfl

theorem sortedByNumber_error {pages : List Text} {page : Text} (member : page ∈ pages)
    (unnumbered : ¬ (Text.readInt page).isSome = true) :
    ∃ exc, sortedByNumber pages = .error exc := by
  have raises : numberedPage page = .error (.valueError page) := by
    unfold numberedPage
    rw [Option.not_isSome_iff_eq_none.mp unnumbered]
  obtain ⟨exc, raised⟩ := mapM_eq_error member raises
  refine ⟨exc, ?_⟩
  unfold sortedByNumber
  rw [raised]
  rfl

/-- The checks look up these numbers. -/
theorem map_key_scoreChecks (numbers : Numbers R) :
    (scoreChecks numbers).map ScoreCheck.key = scoreKeys := rfl

theorem compareScore_ok {page : Text} {before after : Dict Text R} {check : ScoreCheck R}
    (there : (before.get? check.key).isSome = true ∧ (after.get? check.key).isSome = true) :
    compareScore numbers page before after check =
      .ok (checkLines numbers page before after check) := by
  obtain ⟨old, isOld⟩ := Option.isSome_iff_exists.mp there.1
  obtain ⟨new, isNew⟩ := Option.isSome_iff_exists.mp there.2
  unfold compareScore checkLines scoreAt
  rw [isOld, isNew]
  rfl

theorem compareScore_error (numbers : Numbers R) (page : Text) {before after : Dict Text R}
    {check : ScoreCheck R}
    (missing : ¬ ((before.get? check.key).isSome = true ∧
      (after.get? check.key).isSome = true)) :
    ∃ exc, compareScore numbers page before after check = .error exc := by
  unfold compareScore scoreAt
  cases isNew : after.get? check.key with
  | none => exact ⟨_, rfl⟩
  | some new =>
    cases isOld : before.get? check.key with
    | none => exact ⟨_, rfl⟩
    | some old => exact absurd ⟨by rw [isOld]; rfl, by rw [isNew]; rfl⟩ missing

theorem comparePageScores_ok {before after : Dict Text (Dict Text R)} {page : Text}
    (scored : ∀ first second, before.get? page = some first → after.get? page = some second →
      Scored first second) :
    comparePageScores numbers before after page =
      .ok (pageScoreLines numbers before after page) := by
  unfold comparePageScores pageScoreLines
  cases isFirst : before.get? page with
  | none => rfl
  | some first =>
    cases isSecond : after.get? page with
    | none => rfl
    | some second =>
      have each : ∀ check ∈ scoreChecks numbers, compareScore numbers page first second check =
          .ok (checkLines numbers page first second check) := fun check isCheck =>
        compareScore_ok (scored first second isFirst isSecond check.key
          (map_key_scoreChecks numbers ▸ List.mem_map_of_mem isCheck))
      simp only
      rw [mapM_eq_ok each]
      rfl

theorem comparePageScores_error (numbers : Numbers R) {before after : Dict Text (Dict Text R)}
    {page : Text}
    {first second : Dict Text R} (isFirst : before.get? page = some first)
    (isSecond : after.get? page = some second) (missing : ¬ Scored first second) :
    ∃ exc, comparePageScores numbers before after page = .error exc := by
  unfold Scored at missing
  push Not at missing
  obtain ⟨key, isKey, lacks⟩ := missing
  rw [← map_key_scoreChecks numbers] at isKey
  obtain ⟨check, isCheck, rfl⟩ := List.mem_map.mp isKey
  obtain ⟨exc, raises⟩ := compareScore_error numbers page
    fun there => lacks there.1 there.2
  obtain ⟨other, raised⟩ := mapM_eq_error isCheck raises
  refine ⟨other, ?_⟩
  unfold comparePageScores
  rw [isFirst, isSecond]
  simp only
  rw [raised]
  rfl

/-- The pages that both sides scored. -/
theorem mem_scored_iff {before after : Dict Text (Dict Text R)} {page : Text} :
    page ∈ before.keys.filter (· ∈ after.keys) ↔
      ∃ first second, before.get? page = some first ∧ after.get? page = some second := by
  rw [List.mem_filter, decide_eq_true_iff]
  constructor
  · rintro ⟨inBefore, inAfter⟩
    obtain ⟨first, isFirst⟩ := Dict.exists_get?_of_mem_keys inBefore
    obtain ⟨second, isSecond⟩ := Dict.exists_get?_of_mem_keys inAfter
    exact ⟨first, second, isFirst, isSecond⟩
  · rintro ⟨first, second, isFirst, isSecond⟩
    exact ⟨Dict.mem_keys_of_get? isFirst, Dict.mem_keys_of_get? isSecond⟩

theorem compareScores_ok {before after : Dict Text (Dict Text R)}
    (scored : BothScored before after) : compareScores numbers before after =
      .ok (.joined ((pagesByNumber (before.keys.filter (· ∈ after.keys))).map
        (pageScoreLines numbers before after))) := by
  have numbered : ∀ page ∈ before.keys.filter (· ∈ after.keys),
      (Text.readInt page).isSome = true := by
    intro page member
    obtain ⟨first, second, isFirst, isSecond⟩ := mem_scored_iff.mp member
    exact (scored page first second isFirst isSecond).1
  have each : ∀ page ∈ pagesByNumber (before.keys.filter (· ∈ after.keys)),
      comparePageScores numbers before after page =
        .ok (pageScoreLines numbers before after page) := fun page _ =>
    comparePageScores_ok fun first second isFirst isSecond =>
      (scored page first second isFirst isSecond).2
  unfold compareScores
  rw [sortedByNumber_ok numbered]
  simp only [bind, Except.bind]
  rw [mapM_eq_ok each]
  rfl

theorem compareScores_error (numbers : Numbers R) {before after : Dict Text (Dict Text R)}
    (missing : ¬ BothScored before after) :
    ∃ exc, compareScores numbers before after = .error exc := by
  unfold BothScored at missing
  push Not at missing
  obtain ⟨page, first, second, isFirst, isSecond, lacks⟩ := missing
  have member := mem_scored_iff.mpr ⟨first, second, isFirst, isSecond⟩
  unfold compareScores
  by_cases numbered : ∀ page ∈ before.keys.filter (· ∈ after.keys),
      (Text.readInt page).isSome = true
  · obtain ⟨exc, raises⟩ := comparePageScores_error numbers isFirst isSecond
      (lacks (numbered page member))
    obtain ⟨other, raised⟩ := mapM_eq_error ((perm_pagesByNumber _).mem_iff.mpr member) raises
    refine ⟨other, ?_⟩
    rw [sortedByNumber_ok numbered]
    simp only [bind, Except.bind]
    rw [raised]
  · push Not at numbered
    obtain ⟨other, isOther, unnumbered⟩ := numbered
    obtain ⟨exc, raised⟩ := sortedByNumber_error isOther unnumbered
    refine ⟨exc, ?_⟩
    rw [raised]
    rfl

theorem compareOcrTruth_ok
    (scores : ∀ before after, baseline.ocrTruth = some before → candidate.ocrTruth = some after →
      BothScored before after) :
    compareOcrTruth numbers baseline candidate = .ok (ocrTruthLines numbers baseline candidate) := by
  unfold compareOcrTruth ocrTruthLines
  cases isBefore : baseline.ocrTruth with
  | none => rfl
  | some before =>
    cases isAfter : candidate.ocrTruth with
    | none => rfl
    | some after => exact compareScores_ok (scores before after isBefore isAfter)

theorem failedSide_iff : failedSide "baseline" baseline ++ failedSide "candidate" candidate ≠ [] ↔
    FailedStep baseline candidate := by
  have oneSide : ∀ (side : String) (report : Report R V),
      failedSide side report = [] ↔ report.failedSteps = [] := by
    intro side report
    unfold failedSide
    split
    · rename_i none
      simp [none]
    · rename_i some
      simp [some]
  unfold FailedStep
  rw [Ne, List.append_eq_nil_iff, oneSide, oneSide, not_and_or]

section Whole

variable [DecidableEq V]

/-- What a comparison writes, if it does not raise and no step failed. -/
theorem compareReports_ok (noFailure : ¬ FailedStep baseline candidate)
    (readable : Readable baseline candidate) : compareReports numbers repr baseline candidate = .ok
      { toComparisonLines := .joined ((worseIfHigher ++ worseIfLower ++ neutral).map
            (compareTotal baseline candidate)) ++
          compareVerapdf baseline candidate ++
          ocrTruthLines numbers baseline candidate ++
          .joined (baseline.document.entries.map (compareProperty repr candidate)) ++
          .joined ((pagesByNumber baseline.pages.keys).map (comparePage baseline candidate)) } := by
  unfold compareReports
  rw [if_neg fun failed => noFailure (failedSide_iff.mp failed), compareOcrTruth_ok readable.scores,
    sortedByNumber_ok readable.pages]
  rfl

theorem compareReports_error (noFailure : ¬ FailedStep baseline candidate)
    (unreadable : ¬ Readable baseline candidate) :
    ∃ exc, compareReports numbers repr baseline candidate = .error exc := by
  unfold compareReports
  rw [if_neg fun failed => noFailure (failedSide_iff.mp failed)]
  by_cases scores : ∀ before after, baseline.ocrTruth = some before →
      candidate.ocrTruth = some after → BothScored before after
  · have unnumbered : ¬ ∀ page ∈ baseline.pages.keys, (Text.readInt page).isSome = true :=
      fun pages => unreadable ⟨pages, scores⟩
    push Not at unnumbered
    obtain ⟨page, member, notNumber⟩ := unnumbered
    obtain ⟨exc, raised⟩ := sortedByNumber_error member notNumber
    refine ⟨exc, ?_⟩
    rw [compareOcrTruth_ok scores, raised]
    rfl
  · push Not at scores
    obtain ⟨before, after, isBefore, isAfter, missing⟩ := scores
    obtain ⟨exc, raised⟩ := compareScores_error numbers missing
    refine ⟨exc, ?_⟩
    unfold compareOcrTruth
    rw [isBefore, isAfter]
    simp only
    rw [raised]
    rfl

end Whole

/-! ## What makes a line -/

theorem higher_not_lower {key : Text} (lower : key ∈ worseIfLower) : key ∉ worseIfHigher := by
  have apart : ∀ key ∈ worseIfLower, key ∉ worseIfHigher := by decide
  exact apart key lower

/-- What is written of a total that both sides counted. -/
theorem compareTotal_lines {key : Text} {before after : ℕ}
    (isBefore : baseline.totals.get? key = some before)
    (isAfter : candidate.totals.get? key = some after) :
    ((compareTotal baseline candidate key).regressions ≠ [] ↔
      (key ∈ worseIfHigher ∧ before < after ∨ key ∈ worseIfLower ∧ after < before)) ∧
    ((compareTotal baseline candidate key).improvements ≠ [] ↔
      (key ∈ worseIfHigher ∧ after < before ∨ key ∈ worseIfLower ∧ before < after)) := by
  unfold compareTotal
  rw [isBefore, isAfter]
  simp only
  by_cases same : before = after
  · rw [if_pos same]
    simp [same]
  · rw [if_neg same]
    by_cases higher : key ∈ worseIfHigher
    · have notLower : key ∉ worseIfLower := fun lower => higher_not_lower lower higher
      rw [if_pos higher]
      split <;> simp [higher, notLower] <;> omega
    · rw [if_neg higher]
      by_cases lower : key ∈ worseIfLower
      · rw [if_pos lower]
        split <;> simp [higher, lower] <;> omega
      · rw [if_neg lower]
        simp [higher, lower]

/-- Of a total that one side did not count nothing is written. -/
theorem compareTotal_eq_empty {key : Text}
    (unmeasured : baseline.totals.get? key = none ∨ candidate.totals.get? key = none) :
    compareTotal baseline candidate key = {} := by
  unfold compareTotal
  rcases unmeasured with none | none <;> rw [none]
  cases baseline.totals.get? key <;> rfl

theorem compareTotal_regressions_iff {key : Text} :
    (compareTotal baseline candidate key).regressions ≠ [] ↔
      ∃ before after, baseline.totals.get? key = some before ∧
        candidate.totals.get? key = some after ∧
        (key ∈ worseIfHigher ∧ before < after ∨ key ∈ worseIfLower ∧ after < before) := by
  cases isBefore : baseline.totals.get? key with
  | none => simp [compareTotal_eq_empty (.inl isBefore)]
  | some before =>
    cases isAfter : candidate.totals.get? key with
    | none => simp [compareTotal_eq_empty (.inr isAfter)]
    | some after => simpa using (compareTotal_lines isBefore isAfter).1

/-- When a total is listed as an improvement. -/
theorem compareTotal_improvements_iff {key : Text} :
    (compareTotal baseline candidate key).improvements ≠ [] ↔
      ∃ before after, baseline.totals.get? key = some before ∧
        candidate.totals.get? key = some after ∧
        (key ∈ worseIfHigher ∧ after < before ∨ key ∈ worseIfLower ∧ before < after) := by
  cases isBefore : baseline.totals.get? key with
  | none => simp [compareTotal_eq_empty (.inl isBefore)]
  | some before =>
    cases isAfter : candidate.totals.get? key with
    | none => simp [compareTotal_eq_empty (.inr isAfter)]
    | some after => simpa using (compareTotal_lines isBefore isAfter).2

/-- Some turn of a loop writes a line. -/
theorem joined_regressions_iff {α : Type} {turns : List α} {turn : α → ComparisonLines} :
    (ComparisonLines.joined (turns.map turn)).regressions ≠ [] ↔
      ∃ a ∈ turns, (turn a).regressions ≠ [] := by
  rw [ComparisonLines.regressions_joined, List.flatMap_map, Ne, List.flatMap_eq_nil_iff]
  simp only [not_forall, exists_prop]

theorem worseTotal_iff : (ComparisonLines.joined ((worseIfHigher ++ worseIfLower ++ neutral).map
    (compareTotal baseline candidate))).regressions ≠ [] ↔ WorseTotal baseline candidate := by
  rw [joined_regressions_iff]
  simp only [compareTotal_regressions_iff]
  constructor
  · rintro ⟨key, -, worse⟩
    exact ⟨key, worse⟩
  · rintro ⟨key, before, after, isBefore, isAfter, worse⟩
    refine ⟨key, ?_, before, after, isBefore, isAfter, worse⟩
    rcases worse with ⟨higher, -⟩ | ⟨lower, -⟩
    · exact List.mem_append_left _ (List.mem_append_left _ higher)
    · exact List.mem_append_left _ (List.mem_append_right _ lower)

theorem compareRule_regressions_iff {before after : Dict Text ℕ} {rule : Text} :
    (compareRule before after rule).regressions ≠ [] ↔
      (before.get? rule).getD 0 < (after.get? rule).getD 0 := by
  unfold compareRule
  simp only
  split
  · rename_i worse
    simp [worse]
  · rename_i notWorse
    split
    · simp [notWorse]
    · simp [notWorse]

theorem worseRule_iff : (compareVerapdf baseline candidate).regressions ≠ [] ↔
    WorseRule baseline candidate := by
  unfold compareVerapdf WorseRule
  cases baseline.verapdf with
  | none => simp
  | some before =>
    cases candidate.verapdf with
    | none => simp
    | some after =>
      simp only [Option.some.injEq, exists_and_left, exists_eq_left', ComparisonLines.regressions_append,
        List.nil_append]
      rw [joined_regressions_iff]
      simp only [compareRule_regressions_iff, List.mem_insertionSort, List.mem_dedup,
        List.mem_append]
      constructor
      · rintro ⟨rule, -, worse⟩
        exact ⟨rule, worse⟩
      · rintro ⟨rule, worse⟩
        refine ⟨rule, .inr ?_, worse⟩
        -- A rule that is not listed has no failed check.
        cases isAfter : after.get? rule with
        | none =>
          rw [isAfter] at worse
          exact absurd worse (Nat.not_lt_zero _)
        | some count => exact Dict.mem_keys_of_get? isAfter

theorem scoreLines_regressions_iff {page : Text} {before after : R} {check : ScoreCheck R} :
    (scoreLines numbers page check before after).regressions ≠ [] ↔
      Worsened numbers check before after := by
  unfold scoreLines Worsened
  simp only
  split
  · rename_i tolerated
    simp [tolerated]
  · rename_i exceeded
    have isExceeded := Bool.eq_false_iff.mpr exceeded
    split
    · rename_i worse
      simp [isExceeded, worse]
    · rename_i better
      simp [better]

theorem checkLines_regressions_iff {page : Text} {first second : Dict Text R}
    {check : ScoreCheck R} :
    (checkLines numbers page first second check).regressions ≠ [] ↔
      ∃ old new, first.get? check.key = some old ∧ second.get? check.key = some new ∧
        Worsened numbers check old new := by
  unfold checkLines
  cases first.get? check.key with
  | none => simp
  | some old =>
    cases second.get? check.key with
    | none => simp
    | some new => simpa using scoreLines_regressions_iff

theorem worseScore_iff : (ocrTruthLines numbers baseline candidate).regressions ≠ [] ↔
    WorseScore numbers baseline candidate := by
  unfold ocrTruthLines WorseScore
  cases baseline.ocrTruth with
  | none => simp
  | some before =>
    cases candidate.ocrTruth with
    | none => simp
    | some after =>
      simp only [Option.some.injEq, exists_and_left, exists_eq_left']
      rw [joined_regressions_iff]
      constructor
      · rintro ⟨page, member, worse⟩
        obtain ⟨first, second, isFirst, isSecond⟩ :=
          mem_scored_iff.mp ((perm_pagesByNumber _).mem_iff.mp member)
        unfold pageScoreLines at worse
        rw [isFirst, isSecond] at worse
        obtain ⟨check, isCheck, line⟩ := joined_regressions_iff.mp worse
        obtain ⟨old, new, isOld, isNew, worsened⟩ := checkLines_regressions_iff.mp line
        exact ⟨page, first, isFirst, second, isSecond, check, isCheck, old, isOld, new, isNew,
          worsened⟩
      · rintro ⟨page, first, isFirst, second, isSecond, check, isCheck, old, isOld, new, isNew,
          worsened⟩
        have member := mem_scored_iff.mpr ⟨first, second, isFirst, isSecond⟩
        refine ⟨page, (perm_pagesByNumber _).mem_iff.mpr member, ?_⟩
        unfold pageScoreLines
        rw [isFirst, isSecond]
        exact joined_regressions_iff.mpr ⟨check, isCheck,
          checkLines_regressions_iff.mpr ⟨old, new, isOld, isNew, worsened⟩⟩

theorem changedProperty_iff [DecidableEq V] : (ComparisonLines.joined (baseline.document.entries.map
    (compareProperty repr candidate))).regressions ≠ [] ↔ ChangedProperty baseline candidate := by
  rw [joined_regressions_iff]
  refine exists_congr fun property => and_congr_right fun _ => ?_
  unfold compareProperty
  simp only
  split
  · rename_i same
    simp [same]
  · rename_i other
    simp [Ne.symm other]

theorem comparePage_regressions {page : Text} :
    (comparePage baseline candidate page).regressions = [] := by
  unfold comparePage
  split
  · simp only
    split <;> rfl
  · rfl

/-- **What a comparison tells.**  It raises, says that a step failed on one side, or lists a
regression, if and only if one of these three things is so of the reports. -/
theorem compareReports_iff [DecidableEq V] :
    (∀ comparison, compareReports numbers repr baseline candidate = .ok comparison →
      comparison.invalid ≠ [] ∨ comparison.regressions ≠ []) ↔
      FailedStep baseline candidate ∨ ¬ Readable baseline candidate ∨
        Worse numbers baseline candidate := by
  by_cases failed : FailedStep baseline candidate
  · refine ⟨fun _ => .inl failed, fun _ comparison compared => .inl ?_⟩
    have isInvalid := failedSide_iff.mpr failed
    unfold compareReports at compared
    rw [if_pos isInvalid] at compared
    obtain rfl := Except.ok.inj compared
    exact isInvalid
  · by_cases readable : Readable baseline candidate
    · have noPages : (ComparisonLines.joined ((pagesByNumber baseline.pages.keys).map
          (comparePage baseline candidate))).regressions = [] := by
        by_contra some
        obtain ⟨page, -, line⟩ := joined_regressions_iff.mp some
        exact line comparePage_regressions
      rw [compareReports_ok failed readable]
      simp only [Except.ok.injEq, forall_eq', ne_eq, not_true, false_or,
        ComparisonLines.regressions_append, noPages, List.append_nil]
      unfold Worse
      rw [or_iff_right failed, or_iff_right (not_not.mpr readable), ← worseTotal_iff,
        ← worseRule_iff, ← worseScore_iff, ← @changedProperty_iff _ _ repr]
      simp only [ne_eq, List.append_eq_nil_iff, not_and_or, or_assoc]
    · obtain ⟨exc, raised⟩ := @compareReports_error _ _ numbers repr _ _ _ failed readable
      refine ⟨fun _ => .inr (.inl readable), fun _ comparison compared => ?_⟩
      rw [raised] at compared
      cases compared

end Compare

end DicePipeline
