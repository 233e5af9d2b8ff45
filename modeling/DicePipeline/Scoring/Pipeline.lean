import DicePipeline.Fonts.Descriptors
import DicePipeline.Loops
import DicePipeline.Metadata.Finalize
import DicePipeline.Scoring.Described
import DicePipeline.Scoring.Linked

/-!
# The score over the steps that repair a file

Between OCR and the scorer the pipeline repairs fonts, writes metadata, tags links and
describes figures, and hands a file on as it is where a step has failed.  Each step
writes under keys that the walk of the scorer does not read, but for the kids of the root
and for alternative text (`Repairs.keepsTree`).  So over any run of them, in whatever
order, the findings in the structure tree do not get worse, and neither does the score
(`repairs_keep_score`).
-/

namespace DicePipeline.Scoring

open Pdf

variable {doc now out : Document} {file next final : File} {origin : ℕ → ℕ} {key : String}

/-! ## What the steps change -/

/-- The document has changed under these keys only, and has new objects. -/
abbrev WritesUnder (keys : List String) : Document → Document → Prop :=
  ChangesOnly (fun _ key => key ∈ keys) fun _ => True

theorem writesUnder_attachStream {keys : List String} {holder : Value} {data : List UInt8}
    (isKey : key ∈ keys) : WritesUnder keys doc (doc.attachStream holder key data) := by
  cases holder with
  | object a => exact ChangesOnly.push.trans (ChangesOnly.setEntry isKey)
  | _ => exact .refl _ _ _

/-- The keys that font repair writes under. -/
def fontKeys : List String := ["/ToUnicode", "/CIDSet"]

/-- The first half of font repair. -/
theorem repairFonts_writes {contents : ℕ → Option (List Fonts.Token)}
    (done : Fonts.repairFonts contents doc = some out) : WritesUnder fontKeys doc out := by
  have font : ∀ sequences now entry,
      WritesUnder fontKeys now (Fonts.repairFont sequences now entry) := by
    intro sequences now entry
    rw [Fonts.repairFont_eq]
    cases Fonts.offered (sequences entry.1) with
    | none => exact .refl _ _ _
    | some pair =>
      show WritesUnder fontKeys now (Fonts.attach now entry.2 pair)
      rw [Fonts.attach_eq]
      exact writesUnder_attachStream (by decide)
  have fonts : ∀ sequences (candidates : Entries) now,
      WritesUnder fontKeys now (candidates.foldl (Fonts.repairFont sequences) now) := by
    intro sequences candidates
    induction candidates with
    | nil => exact fun now => .refl _ _ _
    | cons entry rest ih => exact fun now => (font sequences now entry).trans (ih _)
  refine foldlM_invariant (WritesUnder fontKeys doc) ?_ (.refl _ _ _) done
  intro page _ now next before stepped
  refine before.trans ?_
  -- A page is left as it is, or its candidates are gone through.
  unfold Fonts.repairPageFonts at stepped
  split at stepped
  · obtain rfl := Option.some.inj stepped
    exact .refl _ _ _
  split at stepped
  · exact absurd stepped (by simp)
  split at stepped
  · obtain rfl := Option.some.inj stepped
    exact .refl _ _ _
  obtain ⟨entries, -, stepped⟩ := Option.bind_eq_some_iff.mp stepped
  obtain ⟨candidates, -, stepped⟩ := Option.bind_eq_some_iff.mp stepped
  unfold Fonts.repairCandidates at stepped
  split at stepped
  · obtain rfl := Option.some.inj stepped
    exact .refl _ _ _
  split at stepped
  · obtain rfl := Option.some.inj stepped
    exact .refl _ _ _
  obtain ⟨sequences, -, stepped⟩ := Option.bind_eq_some_iff.mp stepped
  obtain rfl := Option.some.inj stepped
  exact fonts sequences candidates now

/-- And the second one. -/
theorem repairCidsets_writes {glyphs : List UInt8 → Option ℕ}
    (done : Fonts.repairCidsets glyphs doc = some out) : WritesUnder fontKeys doc out := by
  have descriptor : ∀ state next descriptor,
      Fonts.walkDescriptor glyphs state descriptor = some next →
        WritesUnder fontKeys state.doc next.doc := by
    intro state next descriptor stepped
    unfold Fonts.walkDescriptor at stepped
    split at stepped
    · exact absurd stepped (by simp)
    split at stepped
    · obtain rfl := Option.some.inj stepped
      exact .refl _ _ _
    · obtain ⟨now, repaired, rfl⟩ := Option.map_eq_some_iff.mp stepped
      rcases (Fonts.repairCidset_cases repaired).2 with ⟨n, -, rfl⟩ | ⟨-, rfl⟩
      · exact writesUnder_attachStream (by decide)
      · exact .refl _ _ _
  have font : ∀ state next entry, Fonts.walkFont glyphs state entry = some next →
      WritesUnder fontKeys state.doc next.doc := by
    intro state next entry stepped
    unfold Fonts.walkFont at stepped
    split at stepped
    · exact absurd stepped (by simp)
    · obtain rfl := Option.some.inj stepped
      exact .refl _ _ _
    · exact descriptor _ _ _ stepped
  obtain ⟨final, looped, rfl⟩ := Option.map_eq_some_iff.mp done
  refine foldlM_invariant (fun state => WritesUnder fontKeys doc state.doc) ?_ (.refl _ _ _) looped
  intro page _ state next before stepped
  refine before.trans ?_
  unfold Fonts.walkPage at stepped
  split at stepped
  · obtain rfl := Option.some.inj stepped
    exact .refl _ _ _
  split at stepped
  · exact absurd stepped (by simp)
  split at stepped
  · obtain rfl := Option.some.inj stepped
    exact .refl _ _ _
  obtain ⟨entries, -, stepped⟩ := Option.bind_eq_some_iff.mp stepped
  refine foldlM_invariant (fun now => WritesUnder fontKeys state.doc now.doc) ?_ (.refl _ _ _) stepped
  exact fun entry _ now next before stepped => before.trans (font now next entry stepped)

/-- The keys that the metadata step writes under. -/
def metadataKeys : List String :=
  ["/MarkInfo", "/Lang", "/ViewerPreferences", "/Tabs", "/Metadata"] ++ Metadata.docinfoKeys

theorem finalize_writes {openMetadata : Metadata.OpenMetadata} {info : Option ℕ}
    {title lang : String} (synchronises : Metadata.Synchronises openMetadata)
    (done : Metadata.finalize openMetadata info doc title lang = some out) :
    WritesUnder metadataKeys doc out := by
  unfold Metadata.finalize at done
  split at done
  · exact absurd done (by simp)
  rename_i isDictionary
  have isDictionary : doc.isDictionary (.object doc.catalog) = true := by simpa using isDictionary
  obtain ⟨described, isDescribed, done⟩ := Option.bind_eq_some_iff.mp done
  refine (Metadata.patchCatalog_changes ?_).trans
    ((Metadata.writtenLater synchronises isDictionary isDescribed done).mono ?_ fun _ _ => trivial)
  · decide
  · rintro a key (⟨-, rfl⟩ | ⟨-, rfl⟩ | ⟨-, member⟩)
    · decide
    · decide
    · exact List.mem_append_right _ member

/-! ## Documents with the same findings -/

/-- The scorer finds the same in the two trees. -/
structure SameTree (doc other : Document) : Prop where
  hasTree : (other.get (.object other.catalog) "/StructTreeRoot").isSome =
    (doc.get (.object doc.catalog) "/StructTreeRoot").isSome
  findings : ∀ hasHeadings, assessTree other hasHeadings = assessTree doc hasHeadings
  untyped : Untyped other ↔ Untyped doc

theorem SameTree.symm {other : Document} (same : SameTree doc other) : SameTree other doc :=
  ⟨same.hasTree.symm, fun hasHeadings => (same.findings hasHeadings).symm, same.untyped.symm⟩

theorem SameTree.trans {other another : Document} (first : SameTree doc other)
    (second : SameTree other another) : SameTree doc another :=
  ⟨second.hasTree.trans first.hasTree,
    fun hasHeadings => (second.findings hasHeadings).trans (first.findings hasHeadings),
    second.untyped.trans first.untyped⟩

/-- What the tree has under `/StructTreeRoot` and `/S` is read alike. -/
theorem root_of_mirrors {again : Document} {unread : String → Prop}
    (mirrors : Mirrors origin unread doc again) (opened : Opened again)
    (catalog : again.isDictionary (.object again.catalog) = true)
    (rootRead : ¬ unread "/StructTreeRoot") (typeRead : ¬ unread "/S") :
    ((again.get (.object again.catalog) "/StructTreeRoot").isSome =
      (doc.get (.object doc.catalog) "/StructTreeRoot").isSome) ∧ (Untyped again ↔ Untyped doc) := by
  have entry := mirrors.entry _ "/StructTreeRoot" (Document.within_of_isDictionary catalog) rootRead
  rw [Value.relocate, mirrors.catalog] at entry
  unfold Untyped
  rw [entry]
  refine ⟨Option.isSome_map.symm, ?_⟩
  cases isRoot : again.get (.object again.catalog) "/StructTreeRoot" with
  | none => simp
  | some root =>
    have type := mirrors.entry root "/S" (opened.within_of_get isRoot) typeRead
    simp only [Option.map_some, Option.some.injEq, forall_eq', type, Option.map_eq_none_iff]

theorem sameTree_of_mirrors {again : Document} {unread : String → Prop}
    (mirrors : Mirrors origin unread doc again) (opened : Opened again)
    (catalog : again.isDictionary (.object again.catalog) = true)
    (read : ∀ key ∈ ["/StructTreeRoot", "/S", "/K", "/Alt"], ¬ unread key) : SameTree doc again := by
  have root := root_of_mirrors mirrors opened catalog (read _ (by decide)) (read _ (by decide))
  exact ⟨root.1, assessTree_eq_of_mirrors mirrors opened (read _ (by decide)) (read _ (by decide))
    catalog (read _ (by decide)) (read _ (by decide)), root.2⟩

/-- What is written under other keys makes no difference. -/
theorem WritesUnder.sameTree {keys : List String} (writes : WritesUnder keys doc out)
    (opened : Opened doc) (catalog : doc.isDictionary (.object doc.catalog) = true)
    (apart : ∀ key ∈ ["/StructTreeRoot", "/S", "/K", "/Alt"], key ∉ keys) : SameTree doc out :=
  (sameTree_of_mirrors (writes.mirrors fun _ _ isKey => isKey) opened catalog apart).symm

/-- Nor does saving and reading again. -/
theorem sameTree_reopened {again : Document} (reopened : Reopened doc again origin)
    (opened : Opened again) (catalog : again.isDictionary (.object again.catalog) = true) :
    SameTree doc again :=
  sameTree_of_mirrors reopened.mirrors_saved opened catalog fun _ _ => not_false

/-! ## A run of the steps -/

/-- One of the steps, from the opened document to the saved one. -/
inductive Repairs (doc : Document) : Document → Prop
  | fonts {contents : ℕ → Option (List Fonts.Token)} {glyphs : List UInt8 → Option ℕ}
      {between out : Document} : Fonts.repairFonts contents doc = some between →
      Fonts.repairCidsets glyphs between = some out → Repairs doc out
  | metadata {openMetadata : Metadata.OpenMetadata} {info : Option ℕ} {title lang : String}
      {out : Document} : Metadata.Synchronises openMetadata →
      Metadata.finalize openMetadata info doc title lang = some out → Repairs doc out
  | links {out : Document} : Links.repair doc = some out → Repairs doc out
  | altText {alts : ℕ × ℕ → Option String} : Stripped alts →
      Repairs doc (AltText.writeAltText doc alts)

/-- A step that has not failed, and the file it leaves to the next one. -/
def RepairStep (file next : File) : Prop :=
  ∃ out origin, Repairs file.1 out ∧ Reopened out next.1 origin ∧
    next.1.isDictionary (.object next.1.catalog) = true

/-- The findings in the tree are those of the other document, or fewer figures lack their
text. -/
structure KeepsTree (doc next : Document) : Prop where
  hasTree : (next.get (.object next.catalog) "/StructTreeRoot").isSome =
    (doc.get (.object doc.catalog) "/StructTreeRoot").isSome
  findings : ∀ hasHeadings, assessTree next hasHeadings =
    { assessTree doc hasHeadings with
      imagesWithoutAlt := (assessTree next hasHeadings).imagesWithoutAlt }
  described : ∀ hasHeadings, (assessTree next hasHeadings).imagesWithoutAlt ≤
    (assessTree doc hasHeadings).imagesWithoutAlt
  untyped : Untyped doc → Untyped next

protected theorem KeepsTree.refl (doc : Document) : KeepsTree doc doc :=
  ⟨rfl, fun _ => rfl, fun _ => Nat.le_refl _, id⟩

theorem KeepsTree.trans {next final : Document} (first : KeepsTree doc next)
    (second : KeepsTree next final) : KeepsTree doc final where
  hasTree := second.hasTree.trans first.hasTree
  findings := by
    intro hasHeadings
    rw [second.findings, first.findings]
  described := fun hasHeadings =>
    (second.described hasHeadings).trans (first.described hasHeadings)
  untyped := fun untyped => second.untyped (first.untyped untyped)

theorem SameTree.keepsTree {other : Document} (same : SameTree doc other) : KeepsTree doc other where
  hasTree := same.hasTree
  findings := by
    intro hasHeadings
    rw [same.findings]
  described := fun hasHeadings => by rw [same.findings]
  untyped := same.untyped.mpr

/-- **What one step leaves of the tree.** -/
theorem RepairStep.keepsTree (step : RepairStep file next)
    (catalog : file.1.isDictionary (.object file.1.catalog) = true) (untyped : Untyped file.1) :
    KeepsTree file.1 next.1 := by
  obtain ⟨out, origin, repairs, reopened, nextCatalog⟩ := step
  cases repairs with
  | fonts fonts cidsets =>
    have writes := (repairFonts_writes fonts).trans (repairCidsets_writes cidsets)
    have same := WritesUnder.sameTree writes file.2 catalog (by decide)
    exact (same.trans (sameTree_reopened reopened next.2 nextCatalog)).keepsTree
  | metadata synchronises done =>
    have writes := finalize_writes synchronises done
    have same := WritesUnder.sameTree writes file.2 catalog (by decide)
    exact (same.trans (sameTree_reopened reopened next.2 nextCatalog)).keepsTree
  | links done =>
    obtain ⟨root, type⟩ := root_repaired file.2 done
    have same : SameTree file.1 out :=
      ⟨by rw [root], assessTree_repaired file.2 done untyped, type⟩
    exact (same.trans (sameTree_reopened reopened next.2 nextCatalog)).keepsTree
  | altText stripped =>
    have now := assessTree_writeAltText next.2 stripped reopened nextCatalog
    have root := root_of_mirrors (mirrors_writeAltText reopened) next.2 nextCatalog (by decide)
      (by decide)
    refine ⟨root.1, fun hasHeadings => by rw [now], fun hasHeadings => ?_, root.2.mpr⟩
    -- Those that still lack their text are some of those that did.
    rw [now, assessTree_eq]
    exact List.countP_mono_left fun elem _ both => (Bool.and_eq_true_iff.mp both).1

/-- **And what a run leaves.** -/
theorem keepsTree_of_run (run : Relation.ReflTransGen RepairStep file final)
    (catalog : file.1.isDictionary (.object file.1.catalog) = true) (untyped : Untyped file.1) :
    KeepsTree file.1 final.1 ∧ final.1.isDictionary (.object final.1.catalog) = true := by
  induction run with
  | refl => exact ⟨.refl _, catalog⟩
  | tail _ step ih =>
    obtain ⟨keeps, isDictionary⟩ := ih
    refine ⟨keeps.trans (step.keepsTree isDictionary (keeps.untyped untyped)), ?_⟩
    obtain ⟨-, -, -, -, nextCatalog⟩ := step
    exact nextCatalog

end DicePipeline.Scoring

namespace DicePipeline

open Pdf Scoring

/-- **Repairing a file does not lower its score.**  Over any run of the steps that repair
a file, in whatever order and however many have failed, the scorer finds the same in the
structure tree, but for figures that were described since.  With whatever else it finds,
the score is at least what it was. -/
theorem repairs_keep_score (file final : File) (hasHeadings : Bool) (issues : Issues)
    (pageCount : ℕ) (catalog : file.1.isDictionary (.object file.1.catalog) = true)
    (untyped : Untyped file.1) (before : issues.toTreeIssues = assessTree file.1 hasHeadings)
    (run : Relation.ReflTransGen RepairStep file final) :
    KeepsTree file.1 final.1 ∧
      (scoreDocument issues pageCount).1 ≤
        (scoreDocument (issues.withTree final.1 hasHeadings) pageCount).1 := by
  have keeps := (keepsTree_of_run run catalog untyped).1
  refine ⟨keeps, score_le_of_raised fun key isAfter => ?_⟩
  have now : issues.withTree final.1 hasHeadings =
      { issues with imagesWithoutAlt := (assessTree final.1 hasHeadings).imagesWithoutAlt } := by
    unfold Issues.withTree
    rw [keeps.findings, ← before]
  have fewer : (assessTree final.1 hasHeadings).imagesWithoutAlt ≤ issues.imagesWithoutAlt := by
    rw [before]
    exact keeps.described hasHeadings
  rw [now] at isAfter
  cases key with
  | missingAltText =>
    obtain ⟨some, images⟩ := Bool.and_eq_true_iff.mp isAfter
    exact Bool.and_eq_true_iff.mpr
      ⟨decide_eq_true ((of_decide_eq_true some).trans_le fewer), images⟩
  | _ => exact isAfter

/-- What link repair makes of the file whose figures were described. -/
def describedAndTagged : File where
  val := (Links.repair bothDescribed.1).getD bothDescribed.1
  property := by decide +kernel

/-- The rule for a file that has its figures described, and then its links repaired. -/
theorem repairs_keep_score_two_figures :
    (scoreDocument oneUndescribed 1).1 = 83 ∧
      (scoreDocument (oneUndescribed.withTree describedAndTagged.1 false) 1).1 = 95 ∧
      KeepsTree twoFigures.1 describedAndTagged.1 := by
  have named : Stripped fun _ => some "A map." :=
    fun _ blank => absurd blank (show Text.strip "A map.".toList ≠ [] by decide)
  have described : RepairStep twoFigures bothDescribed :=
    ⟨_, id, .altText named, .refl _, by decide +kernel⟩
  have tagged : RepairStep bothDescribed describedAndTagged :=
    ⟨_, id, .links (by decide +kernel), .refl _, by decide +kernel⟩
  have untyped : Untyped twoFigures.1 := by
    intro structRoot isRoot
    obtain rfl := Option.some.inj ((show twoFigures.1.get (.object 0) "/StructTreeRoot" =
      some (.object 1) by decide +kernel).symm.trans isRoot)
    decide +kernel
  exact ⟨by decide +kernel, by decide +kernel,
    (repairs_keep_score twoFigures describedAndTagged false oneUndescribed 1 (by decide +kernel)
      untyped rfl (.tail (.single described) tagged)).1⟩

end DicePipeline
