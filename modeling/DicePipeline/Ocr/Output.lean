import DicePipeline.Text.Glob
import DicePipeline.Remediation.Services

/-!
# The output of the OCR step (`remediation/adapters/ocr/open_data_loader.py`)

OpenDataLoader's `convert` writes into a directory and does not say under which name.
`extract` looks for the PDF whose name starts with the input's stem, and renames it to
that stem.  It looks with `glob`, and the stem is the first part of the pattern: a
bracket in the name of the input opens a set.

`ocr_output_found_iff` says for which stems and suffixes the PDF is found.  A stem
without a `[` always finds it (`findsOutput_of_noBracket`).
-/

namespace DicePipeline

variable {Bytes : Type} {pdfPath suffix name stem : Text} {bytes : Bytes}

/-- The directory `extract` is given: an empty one, under a name without pattern
characters, as `tempfile` makes it. -/
structure OutputDir where
  path : Text
  plain : Glob.hasMagic path = false

/-- `os.path.join(path, name)`, of a name that is no path from the root. -/
def OutputDir.join (directory : OutputDir) (name : Text) : Text :=
  if directory.path.isEmpty ∨ directory.path.getLast? = some '/' then directory.path ++ name
  else directory.path ++ '/' :: name

/-- What `convert` raises, as its text. -/
inductive ConvertError where
  /-- `CalledProcessError`, with `stderr` or else `stdout` -/
  | calledProcess (text : Text) (detail : Option Text)
  | other (text : Text)
  deriving DecidableEq, Repr

/-- The message of the `AdapterError`. -/
def ConvertError.message : ConvertError → Text
  | .calledProcess text detail =>
      let message := "opendataloader-pdf failed: ".toList ++ text
      if (Text.strip (detail.getD [])).isEmpty then message
      else message ++ '\n' :: Text.strip (detail.getD [])
  | .other text => "opendataloader-pdf failed: ".toList ++ text

/-- `os.path.splitext(os.path.basename(pdf_path))[0]`. -/
def stemOf (pdfPath : Text) : Text :=
  (splitextRoot (String.ofList (Text.afterLast '/' pdfPath))).toList

/-- `os.replace`: the file is renamed, and one that had the new name is gone. -/
def replaceFile (source target : Text) (files : List (Text × Bytes)) : List (Text × Bytes) :=
  (files.filter (·.1 ≠ target)).map fun file =>
    if file.1 = source then (target, file.2) else file

/-- `OpenDataLoaderAdapter.extract`: the path it returns and the files that are then in
the directory, or the text of its `AdapterError`.  `converted` is what `convert` raised,
or the files in the directory after it; `repr` is that of the paths in the message. -/
def extract (repr : List Text → Text) (converted : Except ConvertError (List (Text × Bytes)))
    (pdfPath : Text) (outputDir : OutputDir) : Except Text (Text × List (Text × Bytes)) :=
  match converted with
  | .error error => .error error.message
  | .ok files =>
      let stem := stemOf pdfPath
      match Glob.globIn (files.map (·.1)) (stem ++ "*.pdf".toList) with
      | [] => .error
          ("opendataloader-pdf produced no tagged PDF in ".toList ++ outputDir.path)
      | [output] =>
          let target := stem ++ ".pdf".toList
          .ok (outputDir.join target,
            if output = target then files else replaceFile output target files)
      | matched => .error
          ("opendataloader-pdf produced multiple candidate outputs in ".toList ++
            outputDir.path ++ ": ".toList ++ repr (matched.map outputDir.join))

/-! ## What is found -/

/-- The name ends as that of a PDF. -/
def isPdf (name : Text) : Bool := ".pdf".toList.isSuffixOf name

/-- `convert` wrote exactly one PDF: this one. -/
def OnePdf (files : List (Text × Bytes)) (name : Text) (bytes : Bytes) : Prop :=
  files.filter (fun file => isPdf file.1) = [(name, bytes)]

/-- The bytes of a file in the directory. -/
def bytesOf (files : List (Text × Bytes)) (name : Text) : Option Bytes :=
  (files.find? fun file => file.1 = name).map (·.2)

/-- **The condition.**  The stem, read as a pattern, matches the beginning of the name that was
written; and the name is no hidden one, if there is no stem.

A bracket in the stem opens a set where another one closes it, and stands for one character
then.  A star and a question mark match themselves among others, so they do no harm. -/
def FindsOutput (stem suffix : Text) : Prop :=
  (∃ before after, stem ++ suffix = before ++ after ∧ Glob.fnmatch before stem = true) ∧
    (stem = [] → Glob.isHidden (suffix ++ ".pdf".toList) = false)

theorem translate_pattern (stem : Text) : Glob.translate (stem ++ "*.pdf".toList) =
    Glob.translate stem ++ GlobToken.star :: ".pdf".toList.map GlobToken.literal := by
  rw [Glob.translate_append (by decide)]
  rfl

/-- What the pattern matches: something that the stem matches, anything, and `.pdf`. -/
theorem fnmatch_pattern_iff : Glob.fnmatch name (stem ++ "*.pdf".toList) = true ↔
    ∃ before after, name = before ++ after ++ ".pdf".toList ∧
      Glob.fnmatch before stem = true := by
  unfold Glob.fnmatch
  rw [translate_pattern, Glob.isMatch_append]
  simp only [Glob.isMatch_star_iff, Glob.isMatch_literals]
  constructor
  · rintro ⟨before, _, rfl, isStem, after, _, rfl, rfl⟩
    exact ⟨before, after, by simp, isStem⟩
  · rintro ⟨before, after, rfl, isStem⟩
    exact ⟨before, after ++ ".pdf".toList, by simp, isStem, after, ".pdf".toList, rfl, rfl⟩

/-- Only PDFs are found. -/
theorem isPdf_of_fnmatch (found : Glob.fnmatch name (stem ++ "*.pdf".toList) = true) :
    isPdf name = true := by
  obtain ⟨before, after, rfl, -⟩ := fnmatch_pattern_iff.mp found
  exact List.isSuffixOf_iff_suffix.mpr ⟨before ++ after, rfl⟩

/-- A stem without a `[` matches itself, so its output is found. -/
theorem findsOutput_of_noBracket (some : stem ≠ []) (noBracket : '[' ∉ stem) :
    FindsOutput stem suffix :=
  ⟨⟨stem, suffix, rfl, Glob.fnmatch_self noBracket⟩, fun none => absurd none some⟩

/-- The pattern finds the output if and only if the stem does. -/
theorem found_iff : ((Glob.isHidden (stem ++ "*.pdf".toList) ||
      !Glob.isHidden (stem ++ suffix ++ ".pdf".toList)) &&
        Glob.fnmatch (stem ++ suffix ++ ".pdf".toList) (stem ++ "*.pdf".toList)) = true ↔
    FindsOutput stem suffix := by
  have begins : Glob.fnmatch (stem ++ suffix ++ ".pdf".toList) (stem ++ "*.pdf".toList) = true ↔
      ∃ before after, stem ++ suffix = before ++ after ∧ Glob.fnmatch before stem = true := by
    simp only [fnmatch_pattern_iff, List.append_cancel_right_eq]
  have visible : (Glob.isHidden (stem ++ "*.pdf".toList) ||
      !Glob.isHidden (stem ++ suffix ++ ".pdf".toList)) = true ↔
      (stem = [] → Glob.isHidden (suffix ++ ".pdf".toList) = false) := by
    cases stem with
    | nil =>
      have pattern : Glob.isHidden ([] ++ "*.pdf".toList) = false := rfl
      rw [pattern, Bool.false_or, Bool.not_eq_true', List.nil_append]
      exact ⟨fun shown _ => shown, fun shown => shown rfl⟩
    | cons c rest =>
      -- The pattern is hidden when the name is.
      have same : Glob.isHidden (c :: rest ++ "*.pdf".toList) =
          Glob.isHidden (c :: rest ++ suffix ++ ".pdf".toList) := rfl
      rw [same, Bool.or_not_self]
      exact ⟨fun _ none => absurd none (by simp), fun _ => rfl⟩
  unfold FindsOutput
  rw [Bool.and_eq_true, begins, visible]
  exact And.comm

/-- What `glob` finds of a directory with one PDF in it. -/
theorem globIn_of_onePdf {files : List (Text × Bytes)}
    (one : OnePdf files (stem ++ suffix ++ ".pdf".toList) bytes)
    [Decidable (FindsOutput stem suffix)] :
    Glob.globIn (files.map (·.1)) (stem ++ "*.pdf".toList) =
      if FindsOutput stem suffix then [stem ++ suffix ++ ".pdf".toList] else [] := by
  have among : Glob.globIn (files.map (·.1)) (stem ++ "*.pdf".toList) =
      Glob.globIn ((files.filter fun file => isPdf file.1).map (·.1)) (stem ++ "*.pdf".toList) := by
    unfold Glob.globIn
    rw [List.filter_map, List.filter_map, List.filter_filter]
    refine congrArg (List.map _) (List.filter_congr fun file _ => ?_)
    rw [Bool.eq_iff_iff]
    simp only [Function.comp_apply, Bool.and_eq_true]
    exact ⟨fun found => ⟨found, isPdf_of_fnmatch found.2⟩, fun found => found.1⟩
  rw [among, one]
  unfold Glob.globIn
  rw [List.map_singleton, List.filter_singleton]
  by_cases finds : FindsOutput stem suffix
  · rw [if_pos finds]
    simp only [found_iff.mpr finds, cond_true]
  · have notFound := Bool.eq_false_iff.mpr fun found => finds (found_iff.mp found)
    rw [if_neg finds]
    simp only [notFound, cond_false]

/-! ## What is returned -/

theorem bytesOf_eq_some {files : List (Text × Bytes)} (member : (name, bytes) ∈ files)
    (only : ∀ other ∈ files, other.1 = name → other = (name, bytes)) :
    bytesOf files name = some bytes := by
  unfold bytesOf
  cases found : files.find? fun file => file.1 = name with
  | none =>
    have notName := List.find?_eq_none.mp found _ member
    simp only [decide_true, not_true] at notName
  | some file =>
    have isName : file.1 = name := by simpa using List.find?_some found
    rw [only file (List.mem_of_find?_eq_some found) isName]
    rfl

theorem mem_of_onePdf {files : List (Text × Bytes)} (one : OnePdf files name bytes) :
    (name, bytes) ∈ files ∧ ∀ other ∈ files, isPdf other.1 = true → other = (name, bytes) := by
  unfold OnePdf at one
  constructor
  · have member : (name, bytes) ∈ files.filter fun file => isPdf file.1 :=
      one ▸ List.mem_singleton_self _
    exact (List.mem_filter.mp member).1
  · intro other member isPdfName
    exact List.mem_singleton.mp (one ▸ List.mem_filter.mpr ⟨member, isPdfName⟩)

theorem isPdf_append (text : Text) : isPdf (text ++ ".pdf".toList) = true :=
  List.isSuffixOf_iff_suffix.mpr ⟨text, rfl⟩

/-- Under its new name the file has the bytes that were written. -/
theorem bytesOf_replaceFile {files : List (Text × Bytes)} {output target : Text}
    (one : OnePdf files output bytes) (isOutput : isPdf output = true) (other : output ≠ target) :
    bytesOf (replaceFile output target files) target = some bytes := by
  obtain ⟨member, only⟩ := mem_of_onePdf one
  refine bytesOf_eq_some ?_ ?_
  · refine List.mem_map.mpr ⟨(output, bytes), ?_, if_pos rfl⟩
    exact List.mem_filter.mpr ⟨member, decide_eq_true other⟩
  · intro file inDirectory isName
    obtain ⟨before, kept, rfl⟩ := List.mem_map.mp inDirectory
    obtain ⟨inFiles, notTarget⟩ := List.mem_filter.mp kept
    by_cases renamed : before.1 = output
    · rw [only before inFiles (renamed ▸ isOutput), if_pos rfl]
    · rw [if_neg renamed] at isName
      exact absurd isName (of_decide_eq_true notTarget)

/-- **The output is found, and is the file that is returned, if and only if the stem finds it.**

The output is looked for by a pattern that is the stem and a star, and the stem is not escaped
in it.  A stem with brackets is then read as a pattern of its own, and need not match itself. -/
theorem ocr_output_found_iff (repr : List Text → Text) (pdfPath suffix : Text)
    (outputDir : OutputDir) (files : List (Text × Bytes)) (bytes : Bytes)
    (one : OnePdf files (stemOf pdfPath ++ suffix ++ ".pdf".toList) bytes) :
    (∃ after, extract repr (.ok files) pdfPath outputDir =
        .ok (outputDir.join (stemOf pdfPath ++ ".pdf".toList), after) ∧
      bytesOf after (stemOf pdfPath ++ ".pdf".toList) = some bytes) ↔
      FindsOutput (stemOf pdfPath) suffix := by
  classical
  have found := globIn_of_onePdf one
  unfold extract
  simp only [found]
  by_cases finds : FindsOutput (stemOf pdfPath) suffix
  · rw [if_pos finds]
    refine ⟨fun _ => finds, fun _ => ⟨_, rfl, ?_⟩⟩
    split
    · rename_i same
      obtain ⟨member, only⟩ := mem_of_onePdf one
      rw [same] at member only
      exact bytesOf_eq_some member fun other inDirectory isName =>
        only other inDirectory (isName ▸ isPdf_append _)
    · rename_i other
      exact bytesOf_replaceFile one (isPdf_append _) other
  · rw [if_neg finds]
    refine ⟨fun answered => ?_, fun found => absurd found finds⟩
    obtain ⟨after, answer, -⟩ := answered
    exact absurd answer (by simp)

/-- A directory as `tempfile` names them. -/
def tempDir : OutputDir := ⟨"/tmp/tmp4k2z_q8a".toList, by decide⟩

/-- A name with spaces and a star, of which the output keeps the beginning. -/
theorem ocr_output_found_iff_starred :
    ∃ after, extract (fun paths => Text.join ',' paths)
        (.ok [("notes* (2)_tagged.pdf".toList, [1, 2]), ("log.txt".toList, [3])])
        "/in/notes* (2).pdf".toList tempDir =
        .ok (tempDir.join (stemOf "/in/notes* (2).pdf".toList ++ ".pdf".toList), after) ∧
      bytesOf after (stemOf "/in/notes* (2).pdf".toList ++ ".pdf".toList) = some [1, 2] :=
  (ocr_output_found_iff (fun paths => Text.join ',' paths) "/in/notes* (2).pdf".toList
    "_tagged".toList tempDir
    [("notes* (2)_tagged.pdf".toList, [1, 2]), ("log.txt".toList, [3])] [1, 2]
    (by unfold OnePdf; decide)).mpr (findsOutput_of_noBracket (by decide) (by decide))

/-- A copy numbered in brackets is not found under its own name. -/
theorem bracketed_output_is_not_found :
    OnePdf [("notes[1].pdf".toList, [1, 2])] (stemOf "/in/notes[1].pdf".toList ++ ".pdf".toList)
        [1, 2] ∧
      extract (fun paths => Text.join ',' paths) (.ok [("notes[1].pdf".toList, [1, 2])])
        "/in/notes[1].pdf".toList tempDir =
        .error "opendataloader-pdf produced no tagged PDF in /tmp/tmp4k2z_q8a".toList :=
  ⟨by unfold OnePdf; decide, by rfl⟩

end DicePipeline
