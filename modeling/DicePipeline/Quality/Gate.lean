import DicePipeline.Quality.Compare

/-!
# The quality gate (`remediation/management/commands/pdf_quality_compare.py`)

The command compares the reports that the two sides have in common, by name, and with
`--fail-on-regression` it fails if one of them got worse.  A report that only one side
has is skipped, with a warning.

`gate_fails_iff` says exactly when it fails: also when a comparison raises, since nothing
catches that.  It does not fail when a candidate did not measure what the baseline did
(`gate_passes_unmeasured`).

### What is load-bearing

`Compared` pairs reports by name, with one exception that the source makes: two single
files are one report, whatever they are called.  `Readable` is about what is looked up
without a default, the seven numbers of a page that both sides scored and the keys
that are sorted as integers.  Nothing else in a comparison can raise.

The numbers of the scores are a parameter.  Python subtracts and compares floats, and
whether a difference is beyond the tolerance is for them to say.
-/

namespace DicePipeline

variable {R V : Type}

/-- An argument of the command: a report file, or a folder of them. -/
inductive ReportSet (R V : Type) where
  | file (name : Text) (report : Report R V)
  | folder (reports : Dict Text (Report R V))

/-- `_load`, of a path that is a file or a folder. -/
def ReportSet.load : ReportSet R V → Dict Text (Report R V)
  | .file name report => .single name report
  | .folder reports => reports

/-- The reports of the two sides; two single files are compared whatever their names. -/
def loadBoth (baseline candidate : ReportSet R V) :
    Dict Text (Report R V) × Dict Text (Report R V) :=
  match baseline, candidate with
  | .file _ before, .file _ after =>
      (.single "report".toList before, .single "report".toList after)
  | baseline, candidate => (baseline.load, candidate.load)

/-- How the command ends if it does not end well. -/
inductive CommandFailure where
  /-- `CommandError` -/
  | commandError (message : Text)
  /-- what the comparison of two reports raised -/
  | raised (exc : ComparisonError)
  deriving DecidableEq, Repr

section Gate

variable [DecidableEq V] (numbers : Numbers R) (repr : Option V → Text)

/-- One turn of the loop over the names in common: what it adds to `regressed`. -/
def regressedName (baseline candidate : Dict Text (Report R V)) (name : Text) :
    Except ComparisonError (List Text) :=
  match baseline.get? name, candidate.get? name with
  | some before, some after => do
      let comparison ← compareReports numbers repr before after
      return if comparison.invalid = [] ∧ comparison.regressions = [] then [] else [name]
  | _, _ => .ok []

/-- `Command.handle`: an exception, with which the command exits non-zero, or nothing. -/
def handle (baseline candidate : ReportSet R V) (failOnRegression : Bool) :
    Except CommandFailure Unit :=
  let (baseline, candidate) := loadBoth baseline candidate
  let names := (baseline.keys.filter (· ∈ candidate.keys)).insertionSort (· ≤ ·)
  if names = [] then
    .error (.commandError "No report names in common between the two arguments.".toList)
  else
    match names.mapM (regressedName numbers repr baseline candidate) with
    | .error exc => .error (.raised exc)
    | .ok turns =>
        let regressed := turns.flatten
        if regressed ≠ [] ∧ failOnRegression = true then
          .error (.commandError
            ("Regressions in: ".toList ++ ", ".toList.intercalate regressed))
        else .ok ()

/-- The two reports are compared, under this name. -/
def Compared (baseline candidate : ReportSet R V) (name : Text) (before after : Report R V) :
    Prop :=
  (loadBoth baseline candidate).1.get? name = some before ∧
    (loadBoth baseline candidate).2.get? name = some after

variable {numbers repr} {baseline candidate : ReportSet R V}

/-- The turn for two reports adds nothing and does not raise. -/
theorem regressedName_eq_nil_iff (numbers : Numbers R) (repr : Option V → Text) {name : Text}
    {before after : Report R V}
    (compared : Compared baseline candidate name before after) :
    regressedName numbers repr (loadBoth baseline candidate).1 (loadBoth baseline candidate).2
        name = .ok [] ↔
      ¬ (FailedStep before after ∨ ¬ Readable before after ∨ Worse numbers before after) := by
  rw [← @compareReports_iff _ _ numbers repr]
  unfold regressedName
  rw [compared.1, compared.2]
  simp only
  cases compareReports numbers repr before after with
  | error exc => exact iff_of_false (fun same => by cases same) (by simp)
  | ok comparison =>
    simp only [Except.ok.injEq, forall_eq', not_or, not_not]
    constructor
    · intro empty
      by_contra listed
      have added : Except.ok [name] = (Except.ok [] : Except ComparisonError (List Text)) := by
        rw [← empty]
        exact congrArg Except.ok (if_neg listed).symm
      cases added
    · intro clean
      exact congrArg Except.ok (if_pos clean)

omit [DecidableEq V] in
/-- The names in common are those under which there are two reports. -/
theorem mem_names_iff {name : Text} :
    name ∈ ((loadBoth baseline candidate).1.keys.filter
      (· ∈ (loadBoth baseline candidate).2.keys)).insertionSort (· ≤ ·) ↔
      ∃ before after, Compared baseline candidate name before after := by
  rw [List.mem_insertionSort, List.mem_filter, decide_eq_true_iff]
  constructor
  · rintro ⟨inBaseline, inCandidate⟩
    obtain ⟨before, isBefore⟩ := Dict.exists_get?_of_mem_keys inBaseline
    obtain ⟨after, isAfter⟩ := Dict.exists_get?_of_mem_keys inCandidate
    exact ⟨before, after, isBefore, isAfter⟩
  · rintro ⟨before, after, isBefore, isAfter⟩
    exact ⟨Dict.mem_keys_of_get? isBefore, Dict.mem_keys_of_get? isAfter⟩

/-- **When the gate fails.**  With `--fail-on-regression` the command exits non-zero if and only
if no two reports are compared, or of two that are one side had a step fail, or something
that is looked up is missing and raises, or something that both measured is worse.

What one side has not measured is no regression, and a report without a counterpart is passed
over with a warning; nothing of that fails the gate.  A page's numbers are looked up in a
dictionary, so one that is missing raises a `KeyError`, and keys that are no numbers cannot be
sorted. -/
theorem gate_fails_iff (numbers : Numbers R) (repr : Option V → Text)
    (baseline candidate : ReportSet R V) :
    (∃ failure, handle numbers repr baseline candidate true = .error failure) ↔
      (∀ name before after, ¬ Compared baseline candidate name before after) ∨
        ∃ name before after, Compared baseline candidate name before after ∧
          (FailedStep before after ∨ ¬ Readable before after ∨ Worse numbers before after) := by
  unfold handle
  simp only
  -- Without a name in common the command fails at once.
  by_cases nothing : ((loadBoth baseline candidate).1.keys.filter
      (· ∈ (loadBoth baseline candidate).2.keys)).insertionSort (· ≤ ·) = []
  · rw [if_pos nothing]
    refine ⟨fun _ => .inl fun name before after compared => ?_, fun _ => ⟨_, rfl⟩⟩
    have listed := mem_names_iff.mpr ⟨before, after, compared⟩
    rw [nothing] at listed
    cases listed
  · rw [if_neg nothing]
    obtain ⟨someName, isName⟩ := List.exists_mem_of_ne_nil _ nothing
    obtain ⟨someBefore, someAfter, compared⟩ := mem_names_iff.mp isName
    rw [or_iff_right fun none => none _ _ _ compared]
    constructor
    · -- If every turn adds nothing, so does the loop.
      rintro ⟨failure, failed⟩
      by_contra none
      have clean : ∀ name ∈ ((loadBoth baseline candidate).1.keys.filter
          (· ∈ (loadBoth baseline candidate).2.keys)).insertionSort (· ≤ ·),
          regressedName numbers repr (loadBoth baseline candidate).1
            (loadBoth baseline candidate).2 name = .ok [] := by
        intro name isName
        obtain ⟨before, after, compared⟩ := mem_names_iff.mp isName
        exact (regressedName_eq_nil_iff numbers repr compared).mpr fun bad =>
          none ⟨name, before, after, compared, bad⟩
      rw [mapM_eq_ok clean] at failed
      simp at failed
    -- The report that is bad adds a line, so the list of regressions is not empty.
    · rintro ⟨name, before, after, compared, bad⟩
      have turn := mt (regressedName_eq_nil_iff numbers repr compared).mp
        (not_not.mpr bad)
      split
      · exact ⟨_, rfl⟩
      · rename_i turns returned
        obtain ⟨added, isTurn, isAdded⟩ := exists_of_mapM_eq_ok returned
          (mem_names_iff.mpr ⟨before, after, compared⟩)
        rw [isAdded] at turn
        have listed : turns.flatten ≠ [] := fun empty =>
          turn (congrArg Except.ok (List.flatten_eq_nil_iff.mp empty added isTurn))
        rw [if_pos ⟨listed, trivial⟩]
        exact ⟨_, rfl⟩

end Gate

/-! ## What the candidate did not measure -/

/-- Rates of four decimals, as a number of ten-thousandths. -/
def tenThousandths : Numbers ℤ where
  sub := fun a b => a - b
  abs := fun a => a.natAbs
  le := fun a b => a ≤ b
  isPositive := fun a => 0 < a
  zero := 0
  rateTolerance := 100
  orderTolerance := 200
  text := fun a => Text.decimal a.natAbs

/-- A report with everything measured. -/
def measured : Report ℤ Text where
  failedSteps := []
  totals := .single "headings".toList 5
  verapdf := some (.single "7.1-3".toList 2)
  ocrTruth := some (.single "1".toList (PageScore.toDict ⟨100, 100, 0, 0, 0, 0, 10000⟩))
  document := .single "language".toList (some "en-US".toList)
  pages := .single "1".toList ⟨200, [1, 2], [], 0, 0, "9f2c".toList⟩

/-- A report of the same document, in which next to nothing is measured. -/
def unmeasured : Report ℤ Text where
  failedSteps := []
  totals := ⟨[], List.nodup_nil⟩
  verapdf := none
  ocrTruth := none
  document := .single "language".toList (some "en-US".toList)
  pages := ⟨[], List.nodup_nil⟩

/-- The gate passes a candidate without one of the reports, and one whose report lacks
the total, the veraPDF result, the scores and the page that the baseline's has. -/
theorem gate_passes_unmeasured :
    (let baseline : ReportSet ℤ Text :=
        .folder ⟨[("one.json".toList, measured), ("two.json".toList, measured)], by decide⟩
      let candidate : ReportSet ℤ Text := .folder (.single "one.json".toList measured)
      (candidate.load.get? "two.json".toList).isNone = true ∧
        handle tenThousandths (fun value => value.getD []) baseline candidate true = .ok ()) ∧
    (measured.totals.get? "headings".toList).isSome = true ∧
    (unmeasured.totals.get? "headings".toList).isNone = true ∧
    measured.verapdf.isSome = true ∧ unmeasured.verapdf.isNone = true ∧
    measured.ocrTruth.isSome = true ∧ unmeasured.ocrTruth.isNone = true ∧
    (measured.pages.get? "1".toList).isSome = true ∧
    (unmeasured.pages.get? "1".toList).isNone = true ∧
    handle tenThousandths (fun value => value.getD [])
      (.file "one.json".toList measured) (.file "one.json".toList unmeasured) true = .ok () := by
  refine ⟨⟨by decide, by rfl⟩, by decide, by decide, by decide, by decide, by decide, by decide,
    by decide, by decide, by rfl⟩

end DicePipeline
