import Mathlib.Data.List.Induction
import DicePipeline.Dict
import DicePipeline.Remediation.Models
import DicePipeline.Text.Strings

/-!
# The severity of a failed rule (`remediation/adapters/verification/severity.py`)

`classify` looks a rule up under its clause and test number, and then its clause among the
known clauses: of those that match, the one with the longest text.  A known clause matches
if the components of its text, which are separated by dots, are the first components of
the clause (`matchesClause_iff`).

The empty text stands for no match, so that a known clause that is empty is never found
(`empty_clause_not_found`).  `classify_longest_prefix` says what is.
-/

namespace DicePipeline.Verification

/-! ## The tables -/

/-- The entries of a table. -/
def severityEntries (entries : List (String × Severity)) : List (Text × Severity) :=
  entries.map fun entry => (entry.1.toList, entry.2)

/-- Keys that differ as strings differ as texts. -/
theorem nodup_severityEntries {entries : List (String × Severity)}
    (nodup : (entries.map Prod.fst).Nodup) : ((severityEntries entries).map Prod.fst).Nodup := by
  have texts : (severityEntries entries).map Prod.fst = (entries.map Prod.fst).map String.toList := by
    simp [severityEntries]
  rw [texts]
  exact nodup.map fun _ _ same => String.toList_inj.mp same

/-- `RULE_SEVERITY`. -/
def ruleSeverity : Dict Text Severity where
  entries := severityEntries [
    ("7.1-1", .critical), ("7.1-2", .critical), ("7.1-3", .critical), ("7.1-4", .minor),
    ("7.1-5", .major), ("7.1-6", .minor), ("7.1-7", .major), ("7.1-8", .minor),
    ("7.1-9", .critical), ("7.1-10", .critical), ("7.1-11", .critical), ("7.1-12", .major),
    ("7.2-2", .critical), ("7.2-3", .major), ("7.2-4", .major), ("7.2-5", .major),
    ("7.2-6", .major), ("7.2-7", .major), ("7.2-8", .major), ("7.2-9", .major), ("7.2-10", .major),
    ("7.2-11", .major), ("7.2-12", .major), ("7.2-13", .major), ("7.2-14", .major),
    ("7.2-15", .major), ("7.2-16", .major), ("7.2-17", .major), ("7.2-18", .major),
    ("7.2-19", .major), ("7.2-20", .major), ("7.2-21", .critical), ("7.2-22", .critical),
    ("7.2-23", .critical), ("7.2-24", .critical), ("7.2-25", .critical), ("7.2-26", .major),
    ("7.2-27", .major), ("7.2-28", .major), ("7.2-29", .critical), ("7.2-30", .critical),
    ("7.2-31", .critical), ("7.2-32", .critical), ("7.2-33", .critical), ("7.2-34", .critical),
    ("7.2-36", .major), ("7.2-37", .major), ("7.2-38", .major), ("7.2-39", .major),
    ("7.2-40", .major), ("7.2-41", .major), ("7.2-42", .major), ("7.2-43", .major)]
  nodup := nodup_severityEntries (by decide +kernel)

/-- `CLAUSE_SEVERITY`. -/
def clauseSeverity : Dict Text Severity where
  entries := severityEntries [
    ("6.2", .critical), ("7.3", .critical), ("7.4", .critical), ("7.18.1", .critical),
    ("7.18.4", .critical), ("7.18.5", .critical), ("7.5", .major), ("7.7", .major), ("7.9", .major),
    ("7.18.3", .major), ("5", .minor), ("6.1", .minor), ("7.10", .minor), ("7.11", .minor),
    ("7.15", .minor), ("7.16", .minor), ("7.18.2", .minor), ("7.18.6", .minor), ("7.18.8", .minor),
    ("7.20", .minor), ("7.21", .minor)]
  nodup := nodup_severityEntries (by decide +kernel)

/-! ## Classifying -/

/-- `f"{clause}-{test_number}"`. -/
def overrideKey (clause testNumber : Text) : Text := clause ++ '-' :: testNumber

/-- `matches`. -/
def matchesClause (clause known : Text) : Bool :=
  clause = known || (known ++ ['.']).isPrefixOf clause

/-- The body of the loop over the known clauses. -/
def nextBest (clause best known : Text) : Text :=
  if matchesClause clause known ∧ best.length < known.length then known else best

/-- `best_match`, after the loop. -/
def bestMatch (clause : Text) (known : List Text) : Text := known.foldl (nextBest clause) []

/-- `classify`, with the two tables it reads.  `best_match` is one of the known clauses
where it is looked up. -/
def classify (ruleSeverity clauseSeverity : Dict Text Severity) (clause testNumber : Text) :
    Severity :=
  match ruleSeverity.get? (overrideKey clause testNumber) with
  | some exact => exact
  | none =>
      let best := bestMatch clause clauseSeverity.keys
      if best = [] then .unclassified
      else (clauseSeverity.get? best).getD .unclassified

/-! ## Components -/

/-- The components of a clause, which are separated by dots. -/
def components (clause : Text) : List Text := clause.splitOn '.'

variable {ruleTable clauseTable : Dict Text Severity} {clause known testNumber : Text}
  {severity : Severity}

theorem matchesClause_iff_text :
    matchesClause clause known = true ↔ clause = known ∨ ∃ rest, clause = known ++ '.' :: rest := by
  unfold matchesClause
  rw [Bool.or_eq_true, decide_eq_true_iff, List.isPrefixOf_iff_prefix]
  refine or_congr_right (exists_congr fun rest => ?_)
  rw [List.append_assoc, List.singleton_append, eq_comm]

/-- A known clause is a start of a clause that it matches. -/
theorem prefix_of_matchesClause (isMatch : matchesClause clause known = true) :
    known <+: clause := by
  rcases matchesClause_iff_text.mp isMatch with rfl | ⟨rest, rfl⟩
  · exact List.prefix_refl _
  · exact List.prefix_append _ _

theorem intercalate_append {separator : Text} {first rest : List Text} (notEmpty : first ≠ [])
    (someRest : rest ≠ []) : separator.intercalate (first ++ rest) =
      separator.intercalate first ++ separator ++ separator.intercalate rest := by
  induction first with
  | nil => exact absurd rfl notEmpty
  | cons text first ih =>
    cases first with
    | nil => simp [List.intercalate_cons_of_ne_nil someRest]
    | cons next first =>
      have later := ih (List.cons_ne_nil next first)
      rw [List.cons_append] at later ⊢
      rw [List.cons_append, List.intercalate_cons_cons, later, List.intercalate_cons_cons]
      simp only [List.append_assoc]

/-- The components of a clause make it up. -/
theorem intercalate_components (clause : Text) : ['.'].intercalate (components clause) = clause :=
  List.intercalate_splitOn '.'

/-- **A known clause matches** if its components are the first of the clause's. -/
theorem matchesClause_iff :
    matchesClause clause known = true ↔ components known <+: components clause := by
  rw [matchesClause_iff_text]
  constructor
  · rintro (rfl | ⟨rest, rfl⟩)
    · exact List.prefix_refl _
    · unfold components
      rw [List.splitOn_append_cons_self]
      exact List.prefix_append _ _
  · rintro ⟨rest, split⟩
    have isClause := intercalate_components clause
    rw [← split] at isClause
    cases rest with
    | nil =>
      rw [List.append_nil, intercalate_components] at isClause
      exact .inl isClause.symm
    | cons next rest =>
      refine .inr ⟨['.'].intercalate (next :: rest), ?_⟩
      have notEmpty : components known ≠ [] := List.splitOn_ne_nil _ _
      rw [intercalate_append notEmpty (List.cons_ne_nil next rest), intercalate_components]
        at isClause
      rw [← isClause, List.append_assoc]
      rfl

/-! ## The loop -/

/-- **The best match**: the empty text or a known clause that matches, and no known clause
that matches is longer. -/
theorem bestMatch_spec (clause : Text) (clauses : List Text) :
    (bestMatch clause clauses = [] ∨ bestMatch clause clauses ∈ clauses ∧
      matchesClause clause (bestMatch clause clauses) = true) ∧
    ∀ known ∈ clauses, matchesClause clause known = true →
      known.length ≤ (bestMatch clause clauses).length := by
  induction clauses using List.reverseRecOn with
  | nil => exact ⟨.inl rfl, fun known impossible => absurd impossible List.not_mem_nil⟩
  | append_singleton clauses next ih =>
    obtain ⟨found, longest⟩ := ih
    have step : bestMatch clause (clauses ++ [next]) =
        nextBest clause (bestMatch clause clauses) next := by
      unfold bestMatch
      rw [List.foldl_append, List.foldl_cons, List.foldl_nil]
    rw [step]
    generalize bestMatch clause clauses = best at *
    unfold nextBest
    split
    · rename_i better
      refine ⟨.inr ⟨by simp, better.1⟩, fun known listed isMatch => ?_⟩
      rcases List.mem_append.mp listed with earlier | last
      · exact Nat.le_trans (longest known earlier isMatch) (Nat.le_of_lt better.2)
      · exact Nat.le_of_eq (congrArg List.length (List.mem_singleton.mp last))
    · rename_i notBetter
      refine ⟨found.imp_right fun inClauses => ⟨List.mem_append_left _ inClauses.1, inClauses.2⟩,
        fun known listed isMatch => ?_⟩
      rcases List.mem_append.mp listed with earlier | last
      · exact longest known earlier isMatch
      · rw [List.mem_singleton.mp last] at isMatch ⊢
        exact Nat.le_of_not_lt fun longer => notBetter ⟨isMatch, longer⟩

/-! ## What is found -/

/-- Of the known clauses, the empty one left out, whose components are the first of the
clause's, this is the longest. -/
structure IsLongestKnown (clauseTable : Dict Text Severity) (clause known : Text) : Prop where
  listed : known ∈ clauseTable.keys
  notEmpty : known ≠ []
  isPrefix : components known <+: components clause
  longest : ∀ other ∈ clauseTable.keys, components other <+: components clause →
    other.length ≤ known.length

/-- What the severity of a rule is: that of its own entry, or of the longest known clause,
or unclassified. -/
inductive Classified (ruleTable clauseTable : Dict Text Severity) (clause testNumber : Text) :
    Severity → Prop
  | exact {severity : Severity} :
      ruleTable.get? (overrideKey clause testNumber) = some severity →
      Classified ruleTable clauseTable clause testNumber severity
  | known {known : Text} {severity : Severity} :
      ruleTable.get? (overrideKey clause testNumber) = none →
      IsLongestKnown clauseTable clause known → clauseTable.get? known = some severity →
      Classified ruleTable clauseTable clause testNumber severity
  | unknown : ruleTable.get? (overrideKey clause testNumber) = none →
      (∀ known ∈ clauseTable.keys, known ≠ [] → ¬ components known <+: components clause) →
      Classified ruleTable clauseTable clause testNumber .unclassified

/-- The loop finds the longest known clause. -/
theorem isLongestKnown_bestMatch (found : bestMatch clause clauseTable.keys ≠ []) :
    IsLongestKnown clauseTable clause (bestMatch clause clauseTable.keys) := by
  obtain ⟨best, longest⟩ := bestMatch_spec clause clauseTable.keys
  obtain ⟨listed, isMatch⟩ := best.resolve_left found
  exact ⟨listed, found, matchesClause_iff.mp isMatch, fun other inTable isPrefix =>
    longest other inTable (matchesClause_iff.mpr isPrefix)⟩

/-- And there is only one. -/
theorem bestMatch_eq (isLongest : IsLongestKnown clauseTable clause known) :
    bestMatch clause clauseTable.keys = known := by
  have longer := (bestMatch_spec clause clauseTable.keys).2 known isLongest.listed
    (matchesClause_iff.mpr isLongest.isPrefix)
  have found : bestMatch clause clauseTable.keys ≠ [] := by
    intro none
    rw [none] at longer
    exact isLongest.notEmpty (List.length_eq_zero_iff.mp (Nat.le_zero.mp longer))
  have best := isLongestKnown_bestMatch found
  have length := Nat.le_antisymm (isLongest.longest _ best.listed best.isPrefix) longer
  -- Two starts of one text that are as long as each other are the same.
  exact (List.prefix_of_prefix_length_le
    (prefix_of_matchesClause (matchesClause_iff.mpr best.isPrefix))
    (prefix_of_matchesClause (matchesClause_iff.mpr isLongest.isPrefix))
    (Nat.le_of_eq length)).eq_of_length length

/-- Without a match that is not empty the loop finds nothing. -/
theorem bestMatch_eq_nil_iff : bestMatch clause clauseTable.keys = [] ↔
    ∀ known ∈ clauseTable.keys, known ≠ [] → ¬ components known <+: components clause := by
  constructor
  · intro none known listed notEmpty isPrefix
    have longer := (bestMatch_spec clause clauseTable.keys).2 known listed
      (matchesClause_iff.mpr isPrefix)
    rw [none] at longer
    exact notEmpty (List.length_eq_zero_iff.mp (Nat.le_zero.mp longer))
  · intro noKnown
    by_contra found
    have best := isLongestKnown_bestMatch found
    exact noKnown _ best.listed found best.isPrefix

theorem classify_eq_iff : classify ruleTable clauseTable clause testNumber = severity ↔
    Classified ruleTable clauseTable clause testNumber severity := by
  unfold classify
  constructor
  · rintro rfl
    cases override : ruleTable.get? (overrideKey clause testNumber) with
    | some severity => exact .exact override
    | none =>
      simp only
      split
      · rename_i none
        exact .unknown override (bestMatch_eq_nil_iff.mp none)
      · rename_i found
        have best := isLongestKnown_bestMatch found
        obtain ⟨severity, isSeverity⟩ := Dict.exists_get?_of_mem_keys best.listed
        rw [isSeverity]
        exact .known override best isSeverity
  · intro classified
    cases classified with
    | exact override => rw [override]
    | known override isLongest isSeverity =>
      rw [override]
      simp only
      rw [bestMatch_eq isLongest, if_neg isLongest.notEmpty, isSeverity]
      rfl
    | unknown override noKnown =>
      rw [override]
      simp only
      rw [if_pos (bestMatch_eq_nil_iff.mpr noKnown)]

/-- The order of the tables says nothing. -/
theorem classify_perm {ruleTable' clauseTable' : Dict Text Severity}
    (rules : ruleTable'.entries.Perm ruleTable.entries)
    (clauses : clauseTable'.entries.Perm clauseTable.entries) :
    classify ruleTable' clauseTable' clause testNumber =
      classify ruleTable clauseTable clause testNumber := by
  have sameKeys : ∀ known, known ∈ clauseTable'.keys ↔ known ∈ clauseTable.keys := fun known =>
    (clauses.map Prod.fst).mem_iff
  rw [classify_eq_iff]
  have classified := classify_eq_iff.mp (Eq.refl (classify ruleTable clauseTable clause testNumber))
  generalize classify ruleTable clauseTable clause testNumber = severity at *
  cases classified with
  | exact override => exact .exact ((Dict.get?_perm rules _).trans override)
  | known override isLongest isSeverity =>
    refine .known ((Dict.get?_perm rules _).trans override)
      ⟨(sameKeys _).mpr isLongest.listed, isLongest.notEmpty, isLongest.isPrefix,
        fun other listed => isLongest.longest other ((sameKeys other).mp listed)⟩
      ((Dict.get?_perm clauses _).trans isSeverity)
  | unknown override noKnown =>
    exact .unknown ((Dict.get?_perm rules _).trans override)
      fun known listed => noKnown known ((sameKeys known).mp listed)

/-- The key of an override tells the clause and the test number, if the test number has no
hyphen. -/
theorem overrideKey_injective {clause' testNumber' : Text} (noHyphen : '-' ∉ testNumber)
    (noHyphen' : '-' ∉ testNumber')
    (same : overrideKey clause testNumber = overrideKey clause' testNumber') :
    clause = clause' ∧ testNumber = testNumber' := by
  unfold overrideKey at same
  rcases List.append_eq_append_iff.mp same with ⟨more, isClause', isRest⟩ | ⟨more, isClause, isRest⟩
  · cases more with
    | nil =>
      rw [List.append_nil] at isClause'
      exact ⟨isClause'.symm, (List.cons.inj isRest).2⟩
    | cons c more =>
      refine absurd ?_ noHyphen
      rw [(List.cons.inj isRest).2]
      simp
  · cases more with
    | nil =>
      rw [List.append_nil] at isClause
      exact ⟨isClause, (List.cons.inj isRest).2.symm⟩
    | cons c more =>
      refine absurd ?_ noHyphen'
      rw [(List.cons.inj isRest).2]
      simp

/-- **Severity.**  A rule has the severity of its own entry, or else of the longest known
clause, the empty one left out, whose components are the first of its clause's, or else
none; the order of the tables says nothing; and an entry is for one clause and test number
only, as far as test numbers have no hyphen. -/
theorem classify_longest_prefix (ruleTable clauseTable : Dict Text Severity)
    (clause testNumber : Text) :
    (∀ severity, classify ruleTable clauseTable clause testNumber = severity ↔
      Classified ruleTable clauseTable clause testNumber severity) ∧
    (∀ ruleTable' clauseTable' : Dict Text Severity,
      ruleTable'.entries.Perm ruleTable.entries → clauseTable'.entries.Perm clauseTable.entries →
      classify ruleTable' clauseTable' clause testNumber =
        classify ruleTable clauseTable clause testNumber) ∧
    ∀ clause' testNumber' : Text, '-' ∉ testNumber → '-' ∉ testNumber' →
      overrideKey clause testNumber = overrideKey clause' testNumber' →
      clause = clause' ∧ testNumber = testNumber' :=
  ⟨fun _ => classify_eq_iff, fun _ _ => classify_perm, fun _ _ => overrideKey_injective⟩

example : classify ruleSeverity clauseSeverity "7.21.7".toList "1".toList = .minor ∧
    classify ruleSeverity clauseSeverity "7.1".toList "999".toList = .unclassified := by
  decide +kernel

/-- A table of two known clauses, the text of one a start of the other's. -/
private def twoClauses : Dict Text Severity where
  entries := severityEntries [("7.2", .critical), ("7.21", .minor)]
  nodup := by decide

/-- An instance: `7.21.7` is of the clause `7.21`, and not of `7.2`, in either order of the
table. -/
theorem classify_longest_prefix_twoClauses :
    classify ⟨[], List.nodup_nil⟩ twoClauses "7.21.7".toList "1".toList = .minor ∧
      classify ⟨[], List.nodup_nil⟩ ⟨twoClauses.entries.reverse, by decide⟩ "7.21.7".toList
        "1".toList = .minor := by
  obtain ⟨isSpecified, anyOrder, -⟩ :=
    classify_longest_prefix ⟨[], List.nodup_nil⟩ twoClauses "7.21.7".toList "1".toList
  have isLongest : IsLongestKnown twoClauses "7.21.7".toList "7.21".toList :=
    ⟨by decide, by decide, by decide, by decide⟩
  have isMinor := (isSpecified .minor).mpr (.known rfl isLongest rfl)
  exact ⟨isMinor, (anyOrder _ _ (.refl _) (List.reverse_perm _)).trans isMinor⟩

/-- A known clause that is empty is the first component of the empty clause, and is not
found; and an entry with a hyphen in a clause or test number is for two of them. -/
theorem empty_clause_not_found :
    (¬ ∀ (ruleTable clauseTable : Dict Text Severity) (clause testNumber known : Text)
        (severity : Severity),
      ruleTable.get? (overrideKey clause testNumber) = none → known ∈ clauseTable.keys →
      components known <+: components clause →
      (∀ other ∈ clauseTable.keys, components other <+: components clause →
        other.length ≤ known.length) →
      clauseTable.get? known = some severity →
      classify ruleTable clauseTable clause testNumber = severity) ∧
    overrideKey "7.1-1".toList "2".toList = overrideKey "7.1".toList "1-2".toList := by
  refine ⟨fun claim => ?_, by decide⟩
  have critical := claim ⟨[], List.nodup_nil⟩ (.single [] .critical) [] "1".toList [] .critical
    rfl (by decide) (List.prefix_refl _) (by decide) rfl
  exact absurd critical (by decide)

end DicePipeline.Verification
