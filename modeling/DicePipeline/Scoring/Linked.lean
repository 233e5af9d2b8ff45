import DicePipeline.Links.Grown
import DicePipeline.Links.Idempotent
import DicePipeline.Scoring.Visits

/-!
# The score of a file whose links were repaired

The elements that link repair appends are no headings, tables or figures, and no rows or
cells: to the walk of the scorer they make no difference, wherever in the tree they turn
up (`walkStructTree_repaired`).  They do where several nodes have one array for their
kids, and then a table may have them among its rows.
-/

namespace DicePipeline.Scoring

open Pdf Links

variable {doc out : Document} {root levels : ℕ} {elem value node element : Value}
variable {issues : TreeIssues}

/-! ## Elements of links -/

/-- Nothing is noted of an element that is neither heading nor table nor figure. -/
private theorem note_eq_self {kind : String} (type : doc.textOf elem "/S" = kind)
    (other : kind ∉ ["/H", "/H1", "/H2", "/H3", "/H4", "/H5", "/H6", "/Table", "/Figure"]) :
    note doc issues elem = issues := by
  simp only [List.mem_cons, List.not_mem_nil, or_false, not_or] at other
  have table : (kind == "/Table") = false := by simpa using other.2.2.2.2.2.2.2.1
  unfold note lacksAlt isHeading
  simp [type, table, other]

theorem typeOf_gained (gained : Gained out root element) : typeOf out element = some "/Link" := by
  obtain ⟨link, isElement⟩ := gained
  have seen := seenGained isElement
  unfold typeOf Document.textOf
  rw [if_pos seen.isDictionary, seen.type]
  rfl

/-- The walk passes over an element that repair has appended. -/
theorem walkStructTree_gained (gained : Gained out root element) :
    walkStructTree out levels element issues = issues := by
  obtain ⟨link, isElement⟩ := gained
  have seen := seenGained isElement
  obtain ⟨objr, kids, isDictionary, noType, -, noKids⟩ := seen.kids
  have type : out.textOf element "/S" = "/Link" := by
    unfold Document.textOf
    rw [seen.type]
    rfl
  have objrType : out.textOf objr "/S" = "" := by
    unfold Document.textOf
    rw [noType]
    rfl
  -- The reference below it is passed over too.
  have below : ∀ levels issues, walkStructTree out levels objr issues = issues := by
    rintro (_ | levels) issues
    · rfl
    · rw [walkStructTree, if_neg (by simp [isDictionary]), noKids]
      exact note_eq_self objrType (by decide)
  cases levels with
  | zero => rfl
  | succ levels =>
    rw [walkStructTree, if_neg (by simp [seen.isDictionary]), kids, List.foldl_cons, below]
    exact note_eq_self type (by decide)

/-! ## Tables -/

section Repaired

variable (opened : Opened doc) (done : tagLinkAnnotations doc (.object root) = some out)
variable (noType : doc.get (.object root) "/S" = none)

include opened done

/-- What can be listed as an item, and perhaps elements of links after that. -/
theorem itemsOf_grown (within : doc.Within node) (other : node ≠ .object root) :
    ∃ elements, itemsOf out node = itemsOf doc node ++ elements ∧
      ∀ element ∈ elements, Gained out root element := by
  unfold itemsOf
  rw [get_kids_repaired opened done within other]
  cases isKids : doc.get node "/K" with
  | none => exact ⟨[], rfl, fun _ member => absurd member List.not_mem_nil⟩
  | some kids =>
    obtain ⟨elements, now, are⟩ := array?_grown opened done (opened.within_of_get isKids)
    rw [Option.bind_some, Option.bind_some, now]
    cases doc.array? kids with
    | none => exact ⟨[], rfl, fun _ member => absurd member List.not_mem_nil⟩
    | some items => exact ⟨elements, rfl, are⟩

theorem typeOf_repaired (within : doc.Within value) : typeOf out value = typeOf doc value := by
  unfold typeOf
  rw [isDictionary_repaired opened done within, textOf_repaired opened done within (by decide)]

omit opened done in
include noType in
/-- The root is no row and no group of rows. -/
theorem ne_root_of_typeOf {kind : String} (type : typeOf doc value = some kind)
    (notBlank : kind ≠ "") : value ≠ .object root := by
  rintro rfl
  unfold typeOf Document.textOf at type
  rw [noType] at type
  split at type
  · exact notBlank (Option.some.inj type).symm
  · exact absurd type (by simp)

include noType in
theorem rowsOfKid_repaired (within : doc.Within value) : rowsOfKid out value = rowsOfKid doc value := by
  unfold rowsOfKid
  rw [typeOf_repaired opened done within]
  cases type : typeOf doc value with
  | none => rfl
  | some kind =>
    dsimp only
    split
    · rfl
    · split
      · rename_i isGroup
        have notBlank : kind ≠ "" := by
          rintro rfl
          exact absurd isGroup (by decide)
        obtain ⟨elements, now, are⟩ := itemsOf_grown opened done within
          (ne_root_of_typeOf noType type notBlank)
        -- The rows among the items are those there were.
        have noRows : elements.filter (fun inner => typeOf out inner = some "/TR") = [] := by
          rw [List.filter_eq_nil_iff]
          intro inner member
          simp [typeOf_gained (are inner member)]
        rw [now, List.filter_append, noRows, List.append_nil]
        refine List.filter_congr fun inner member => ?_
        rw [typeOf_repaired opened done (within_of_mem_itemsOf opened member)]
      · rfl

theorem hasTh_repaired {cells elements : List Value} (inside : ∀ cell ∈ cells, doc.Within cell)
    (are : ∀ element ∈ elements, Gained out root element) :
    hasTh out (cells ++ elements) = hasTh doc cells := by
  induction cells with
  | nil =>
    rw [List.nil_append]
    induction elements with
    | nil => rfl
    | cons element rest ih =>
      have next : hasTh out (element :: rest) = hasTh out rest := by
        rw [hasTh, typeOf_gained (are element List.mem_cons_self)]
        rfl
      rw [next]
      exact ih fun element member => are element (List.mem_cons_of_mem _ member)
  | cons cell rest ih =>
    rw [List.cons_append, hasTh, hasTh, typeOf_repaired opened done (inside cell List.mem_cons_self),
      ih fun cell member => inside cell (List.mem_cons_of_mem _ member)]

include noType in
/-- Whether a table lacks its headers does not change. -/
theorem lacksHeaders_repaired (within : doc.Within node) (table : isTable doc node = true) :
    lacksHeaders out node = lacksHeaders doc node := by
  have other : node ≠ .object root := by
    rintro rfl
    unfold isTable Document.textOf at table
    rw [noType] at table
    exact absurd table (by decide)
  obtain ⟨elements, now, are⟩ := itemsOf_grown opened done within other
  have inside : ∀ kid ∈ itemsOf doc node, doc.Within kid := fun kid => within_of_mem_itemsOf opened
  -- The elements of links have no rows, and what was listed has the rows it had.
  have rows : (itemsOf out node).map (rowsOfKid out) =
      (itemsOf doc node).map (rowsOfKid doc) ++ elements.map fun _ => [] := by
    rw [now, List.map_append]
    congr 1
    · exact List.map_congr_left fun kid member => rowsOfKid_repaired opened done noType (inside kid member)
    · refine List.map_congr_left fun element member => ?_
      unfold rowsOfKid
      rw [typeOf_gained (are element member)]
      rfl
  have first : getFirstTr out node = getFirstTr doc node := by
    have byRows : ∀ doc : Document, getFirstTr doc node =
        ((itemsOf doc node).map (rowsOfKid doc)).findSome? List.head? := by
      intro doc
      rw [List.findSome?_map]
      rfl
    have none : (elements.map fun _ => ([] : List Value)).findSome? List.head? = none := by
      rw [List.findSome?_eq_none_iff]
      intro kept member
      obtain ⟨_, -, rfl⟩ := List.mem_map.mp member
      rfl
    rw [byRows, byRows, rows, List.findSome?_append, none, Option.or_none]
  have count : countTrsInTable out node = countTrsInTable doc node := by
    have byRows : ∀ doc : Document, countTrsInTable doc node =
        (((itemsOf doc node).map (rowsOfKid doc)).map List.length).sum := by
      intro doc
      rw [List.map_map]
      rfl
    rw [byRows, byRows, rows]
    simp
  unfold lacksHeaders
  rw [first, count]
  cases isFirst : getFirstTr doc node with
  | none => rfl
  | some row =>
    obtain ⟨kid, inKids, isHead⟩ := List.exists_of_findSome?_eq_some isFirst
    have isRow := mem_rowsOfKid (List.mem_of_head? isHead)
    obtain ⟨elements, now, are⟩ := itemsOf_grown opened done
      (isRow.1.elim (fun same => same ▸ inside kid inKids) (within_of_mem_itemsOf opened))
      (ne_root_of_typeOf noType isRow.2 (by decide))
    dsimp only
    rw [now, hasTh_repaired opened done (fun cell => within_of_mem_itemsOf opened) are]

include noType in
/-- What is noted of an element does not change. -/
theorem note_repaired (within : doc.Within elem) : note out issues elem = note doc issues elem := by
  have type := textOf_repaired opened done within (show "/S" ≠ "/K" by decide)
  have alt := textOf_repaired opened done within (show "/Alt" ≠ "/K" by decide)
  have bare : (doc.textOf elem "/S" == "/Table" && lacksHeaders out elem) =
      (doc.textOf elem "/S" == "/Table" && lacksHeaders doc elem) := by
    cases table : (doc.textOf elem "/S" == "/Table") with
    | false => rfl
    | true => rw [lacksHeaders_repaired opened done noType within table]
  unfold note lacksAlt isHeading
  simp only [type, alt, bare]

include noType in
/-- **The walk makes no difference** between a document and what repair made of it. -/
theorem walkStructTree_repaired (within : doc.Within elem) :
    walkStructTree out levels elem issues = walkStructTree doc levels elem issues := by
  induction levels generalizing elem issues with
  | zero => rfl
  | succ levels ih =>
    rw [walkStructTree, walkStructTree, isDictionary_repaired opened done within]
    by_cases isDictionary : doc.isDictionary elem = true
    · rw [if_neg (by simp [isDictionary]), if_neg (by simp [isDictionary]),
        note_repaired opened done noType within]
      obtain ⟨elements, now, are⟩ := kidsOf_grown opened done within
      rw [now, List.foldl_append]
      -- First come the kids there were, then elements that are passed over.
      have kept : ∀ kids : List Value, (∀ kid ∈ kids, doc.Within kid) → ∀ issues,
          kids.foldl (fun issues kid => walkStructTree out levels kid issues) issues =
            kids.foldl (fun issues kid => walkStructTree doc levels kid issues) issues := by
        intro kids inside
        induction kids with
        | nil => exact fun _ => rfl
        | cons kid rest next =>
          intro issues
          rw [List.foldl_cons, List.foldl_cons, ih (inside kid List.mem_cons_self)]
          exact next (fun kid member => inside kid (List.mem_cons_of_mem _ member)) _
      have passed : ∀ issues,
          elements.foldl (fun issues kid => walkStructTree out levels kid issues) issues = issues := by
        clear now
        induction elements with
        | nil => exact fun _ => rfl
        | cons element rest next =>
          intro issues
          rw [List.foldl_cons, walkStructTree_gained (are element List.mem_cons_self)]
          exact next (fun element member => are element (List.mem_cons_of_mem _ member)) issues
      rw [passed, kept _ fun kid => opened.within_kidsOf]
    · rw [if_pos (by simp [isDictionary]), if_pos (by simp [isDictionary])]

end Repaired

/-- The root of the tree, if there is one, is of no type. -/
def Untyped (doc : Document) : Prop :=
  ∀ root, doc.get (.object doc.catalog) "/StructTreeRoot" = some root → doc.get root "/S" = none

/-- Repair leaves the root where it is. -/
theorem root_repaired (opened : Opened doc) (repaired : repair doc = some out) :
    out.get (.object out.catalog) "/StructTreeRoot" =
        doc.get (.object doc.catalog) "/StructTreeRoot" ∧
      (Untyped out ↔ Untyped doc) := by
  unfold repair at repaired
  cases isRoot : doc.get (.object doc.catalog) "/StructTreeRoot" with
  | none =>
    rw [isRoot] at repaired
    obtain rfl := Option.some.inj repaired
    exact ⟨isRoot, .rfl⟩
  | some structRoot =>
    rw [isRoot] at repaired
    obtain ⟨root, rfl⟩ := exists_of_tagLinkAnnotations repaired
    have within := Document.within_of_isDictionary (Document.isDictionary_of_get isRoot)
    have same : out.get (.object out.catalog) "/StructTreeRoot" = some (.object root) := by
      rw [catalog_of_repaired opened repaired, get_repaired opened repaired within (by decide),
        isRoot]
    refine ⟨same, ?_⟩
    unfold Untyped
    rw [same, isRoot]
    simp only [Option.some.injEq, forall_eq',
      get_repaired opened repaired (opened.within_of_get isRoot) (show "/S" ≠ "/K" by decide)]

/-- The findings are the same before the output is saved. -/
theorem assessTree_repaired (opened : Opened doc) (repaired : repair doc = some out)
    (untyped : Untyped doc) (hasHeadings : Bool) :
    assessTree out hasHeadings = assessTree doc hasHeadings := by
  have root := (root_repaired opened repaired).1
  unfold assessTree
  rw [root]
  unfold repair at repaired
  cases isRoot : doc.get (.object doc.catalog) "/StructTreeRoot" with
  | none => rfl
  | some structRoot =>
    rw [isRoot] at repaired
    obtain ⟨root, rfl⟩ := exists_of_tagLinkAnnotations repaired
    exact walkStructTree_repaired opened repaired (untyped _ isRoot) (opened.within_of_get isRoot)

end DicePipeline.Scoring

namespace DicePipeline

open Pdf Links Scoring

/-- **Link repair leaves the findings of the tree.**  Once the output of link repair was
saved, the scorer finds in the structure tree what it found before, if the root of the
tree is of no type of its own. -/
theorem link_repair_keeps_findings (file again : File) (out : Document) (origin : ℕ → ℕ)
    (hasHeadings : Bool) (untyped : Untyped file.1) (repaired : repair file.1 = some out)
    (reopened : Reopened out again.1 origin)
    (catalog : again.1.isDictionary (.object again.1.catalog) = true) :
    assessTree again.1 hasHeadings = assessTree file.1 hasHeadings := by
  rw [assessTree_reopened reopened again.2 catalog]
  exact assessTree_repaired file.2 repaired untyped hasHeadings

/-- A page with a table of two rows, a figure, and a link that nothing refers to. -/
def linkBesideTable : File where
  val :=
    { objects := [
        ⟨.dictionary [("/StructTreeRoot", .object 1)], 1⟩,
        ⟨.dictionary [("/Type", .name "/StructTreeRoot"), ("/K", .object 2)], 2⟩,
        ⟨.array [.object 3, .object 7], 0⟩,
        ⟨.dictionary [("/S", .name "/Table"), ("/K", .object 4)], 3⟩,
        ⟨.array [.object 5, .object 6], 0⟩,
        ⟨.dictionary [("/S", .name "/TR")], 4⟩,
        ⟨.dictionary [("/S", .name "/TR")], 5⟩,
        ⟨.dictionary [("/S", .name "/Figure")], 6⟩,
        ⟨.dictionary [("/Type", .name "/Page"), ("/Annots", .object 9)], 7⟩,
        ⟨.array [.object 10], 0⟩,
        ⟨.dictionary [("/Subtype", .name "/Link")], 8⟩]
      catalog := 0
      pages := [8] }
  property := by decide +kernel

/-- What repair makes of it. -/
def taggedBesideTable : File where
  val := (repair linkBesideTable.1).getD linkBesideTable.1
  property := by decide +kernel

/-- The rule for that page: the link has got its element, and the scorer still finds the
figure and the table. -/
theorem link_repair_keeps_findings_table :
    (taggedBesideTable.1.kidsOf (.object 1)).length = 3 ∧
      assessTree linkBesideTable.1 false = ⟨false, true, 1, 1⟩ ∧
      assessTree taggedBesideTable.1 false = assessTree linkBesideTable.1 false :=
  ⟨by decide +kernel, by decide +kernel,
    link_repair_keeps_findings linkBesideTable taggedBesideTable taggedBesideTable.1 id false
      (fun structRoot isRoot => by
        obtain rfl := Option.some.inj
          ((show linkBesideTable.1.get (.object 0) "/StructTreeRoot" = some (.object 1) by
            decide +kernel).symm.trans isRoot)
        decide +kernel) (by decide +kernel) (.refl _) (by decide +kernel)⟩

end DicePipeline
