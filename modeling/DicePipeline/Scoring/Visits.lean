import DicePipeline.Pdf.Mirrors
import DicePipeline.Scoring.Score

/-!
# What the walk of the structure tree finds

`_walk_struct_tree` writes to `issues` as it goes.  `visited` is the list of elements it
comes to, and its findings are a matter of that list: whether an element is a heading or a
table, and how many lack what they should have (`assessTree_eq`).

A file that was saved and read again has the same findings, and so has one that was
changed under a key that no check reads (`Mirrors.visited`, `Mirrors.lacksHeaders`).
-/

namespace DicePipeline.Scoring

open Pdf

variable {doc again : Document} {origin : ℕ → ℕ} {unread : String → Prop} {elem node value : Value}
variable {issues : TreeIssues} {levels : ℕ} {elements : List Value}

/-- The elements that `_walk_struct_tree` comes to, in its order. -/
def visited (doc : Document) : ℕ → Value → List Value
  | 0, _ => []
  | levels + 1, elem =>
      if !doc.isDictionary elem then []
      else elem :: (doc.kidsOf elem).flatMap (visited doc levels)

/-- The elements that the checks of the structure tree come to. -/
def treeElements (doc : Document) : List Value :=
  match doc.get (.object doc.catalog) "/StructTreeRoot" with
  | none => []
  | some structRoot => visited doc structTreeLevels structRoot

/-- `/Table`. -/
def isTable (doc : Document) (elem : Value) : Bool := doc.textOf elem "/S" == "/Table"

/-! ## The findings -/

/-- The walk notes each element it comes to. -/
theorem walkStructTree_eq :
    walkStructTree doc levels elem issues = (visited doc levels elem).foldl (note doc) issues := by
  induction levels generalizing elem issues with
  | zero => rfl
  | succ levels ih =>
    rw [walkStructTree, visited]
    by_cases isDictionary : doc.isDictionary elem = true
    · rw [if_neg (by simp [isDictionary]), if_neg (by simp [isDictionary]), List.foldl_cons,
        List.foldl_flatMap]
      simp only [ih]
    · rw [if_pos (by simp [isDictionary]), if_pos (by simp [isDictionary])]
      rfl

/-- What is noted of a list of elements. -/
theorem foldl_note : elements.foldl (note doc) issues =
    { hasHeadings := issues.hasHeadings || elements.any (isHeading doc)
      hasTables := issues.hasTables || elements.any (isTable doc)
      imagesWithoutAlt := issues.imagesWithoutAlt + elements.countP (lacksAlt doc)
      tablesWithoutHeaders := issues.tablesWithoutHeaders +
        elements.countP fun elem => isTable doc elem && lacksHeaders doc elem } := by
  induction elements generalizing issues with
  | nil => simp
  | cons elem rest ih =>
    rw [List.foldl_cons, ih]
    simp only [note, isTable, List.any_cons, List.countP_cons, Bool.or_assoc, TreeIssues.mk.injEq,
      true_and]
    constructor <;> omega

/-- **The findings of the walk**, by the elements it comes to. -/
theorem assessTree_eq (hasHeadings : Bool) : assessTree doc hasHeadings =
    { hasHeadings := hasHeadings || (treeElements doc).any (isHeading doc)
      hasTables := (treeElements doc).any (isTable doc)
      imagesWithoutAlt := (treeElements doc).countP (lacksAlt doc)
      tablesWithoutHeaders :=
        (treeElements doc).countP fun elem => isTable doc elem && lacksHeaders doc elem } := by
  unfold assessTree treeElements
  cases doc.get (.object doc.catalog) "/StructTreeRoot" with
  | none => simp
  | some structRoot =>
    dsimp only
    rw [walkStructTree_eq, foldl_note]
    simp

/-- Elements of one kind are of the other. -/
private theorem any_congr_of_mem {p q : Value → Bool} (same : ∀ elem ∈ elements, p elem = q elem) :
    elements.any p = elements.any q := by
  rw [Bool.eq_iff_iff, List.any_eq_true, List.any_eq_true]
  refine exists_congr fun elem => and_congr_right fun member => ?_
  rw [same elem member]

theorem isDictionary_of_mem_visited (member : elem ∈ visited doc levels node) :
    doc.isDictionary elem = true := by
  induction levels generalizing node with
  | zero => exact absurd member List.not_mem_nil
  | succ levels ih =>
    rw [visited] at member
    by_cases isDictionary : doc.isDictionary node = true
    · rw [if_neg (by simp [isDictionary])] at member
      rcases List.mem_cons.mp member with rfl | below
      · exact isDictionary
      · obtain ⟨kid, -, inKid⟩ := List.mem_flatMap.mp below
        exact ih inKid
    · simp [isDictionary] at member

/-- The walk comes to nothing below what is no element. -/
theorem isDictionary_of_visited (member : elem ∈ visited doc levels node) :
    doc.isDictionary node = true := by
  cases levels with
  | zero => exact absurd member List.not_mem_nil
  | succ levels =>
    by_contra other
    rw [visited, if_pos (by simp [other])] at member
    exact absurd member List.not_mem_nil

theorem isDictionary_of_mem_treeElements (member : elem ∈ treeElements doc) :
    doc.isDictionary elem = true := by
  unfold treeElements at member
  split at member
  · exact absurd member List.not_mem_nil
  · exact isDictionary_of_mem_visited member

theorem within_of_mem_itemsOf (opened : Opened again) (member : value ∈ itemsOf again node) :
    again.Within value := by
  unfold itemsOf at member
  cases isItems : (again.get node "/K").bind again.array? with
  | none =>
    rw [isItems] at member
    exact absurd member List.not_mem_nil
  | some items =>
    rw [isItems] at member
    obtain ⟨kids, -, isArray⟩ := Option.bind_eq_some_iff.mp isItems
    exact opened.within_of_mem isArray member

/-- A row under a kid is the kid, or an item of it. -/
theorem mem_rowsOfKid {kid row : Value} (member : row ∈ rowsOfKid doc kid) :
    (row = kid ∨ row ∈ itemsOf doc kid) ∧ typeOf doc row = some "/TR" := by
  unfold rowsOfKid at member
  cases type : typeOf doc kid with
  | none =>
    rw [type] at member
    exact absurd member List.not_mem_nil
  | some kind =>
    rw [type] at member
    dsimp only at member
    split at member
    · rename_i isRow
      obtain rfl := List.mem_singleton.mp member
      exact ⟨.inl rfl, isRow ▸ type⟩
    · split at member
      · obtain ⟨inItems, isRow⟩ := List.mem_filter.mp member
        exact ⟨.inr inItems, by simpa using isRow⟩
      · exact absurd member List.not_mem_nil

/-! ## The findings in a file that reads alike -/

section Mirrors

variable (mirrors : Mirrors origin unread doc again) (opened : Opened again)
variable (kidsRead : ¬ unread "/K") (typeRead : ¬ unread "/S")

include mirrors opened kidsRead in
/-- The walk goes the same way. -/
theorem visited_mirrored (within : again.Within elem) :
    visited doc levels (elem.relocate origin) =
      (visited again levels elem).map (Value.relocate origin) := by
  induction levels generalizing elem with
  | zero => rfl
  | succ levels ih =>
    rw [visited, visited, mirrors.dictionary elem within]
    by_cases isDictionary : again.isDictionary elem = true
    · rw [if_neg (by simp [isDictionary]), if_neg (by simp [isDictionary]),
        mirrors.kidsOf opened within kidsRead, List.flatMap_map, List.map_cons, List.map_flatMap]
      congr 1
      exact List.flatMap_congr fun kid member => ih (opened.within_kidsOf member)
    · rw [if_pos (by simp [isDictionary]), if_pos (by simp [isDictionary])]
      rfl

include mirrors typeRead in
theorem typeOf_mirrored (within : again.Within value) :
    typeOf doc (value.relocate origin) = typeOf again value := by
  unfold typeOf
  rw [mirrors.dictionary value within, mirrors.textOf within typeRead]

include mirrors opened kidsRead in
theorem itemsOf_mirrored (within : again.Within node) :
    itemsOf doc (node.relocate origin) = (itemsOf again node).map (Value.relocate origin) := by
  unfold itemsOf
  rw [mirrors.entry node "/K" within kidsRead]
  cases isKids : again.get node "/K" with
  | none => rfl
  | some kids =>
    rw [Option.map_some, Option.bind_some, Option.bind_some,
      mirrors.array kids (opened.within_of_get isKids)]
    cases again.array? kids <;> rfl

include mirrors opened kidsRead typeRead in
theorem rowsOfKid_mirrored (within : again.Within value) :
    rowsOfKid doc (value.relocate origin) = (rowsOfKid again value).map (Value.relocate origin) := by
  unfold rowsOfKid
  rw [typeOf_mirrored mirrors typeRead within]
  cases typeOf again value with
  | none => rfl
  | some kind =>
    dsimp only
    split
    · rfl
    · split
      · rw [itemsOf_mirrored mirrors opened kidsRead within, List.filter_map]
        congr 1
        refine List.filter_congr fun inner member => ?_
        rw [Function.comp_apply,
          typeOf_mirrored mirrors typeRead (within_of_mem_itemsOf opened member)]
      · rfl

include mirrors opened kidsRead typeRead in
theorem getFirstTr_mirrored (within : again.Within node) :
    getFirstTr doc (node.relocate origin) = (getFirstTr again node).map (Value.relocate origin) := by
  unfold getFirstTr
  rw [itemsOf_mirrored mirrors opened kidsRead within]
  have inside : ∀ kid ∈ itemsOf again node, again.Within kid := fun kid =>
    within_of_mem_itemsOf opened
  generalize itemsOf again node = items at inside
  induction items with
  | nil => rfl
  | cons kid rest ih =>
    rw [List.map_cons, List.findSome?_cons, List.findSome?_cons,
      rowsOfKid_mirrored mirrors opened kidsRead typeRead (inside kid List.mem_cons_self),
      List.head?_map]
    cases (rowsOfKid again kid).head? with
    | none => exact ih fun kid member => inside kid (List.mem_cons_of_mem _ member)
    | some row => rfl

include mirrors opened kidsRead typeRead in
theorem countTrsInTable_mirrored (within : again.Within node) :
    countTrsInTable doc (node.relocate origin) = countTrsInTable again node := by
  unfold countTrsInTable
  rw [itemsOf_mirrored mirrors opened kidsRead within, List.map_map]
  congr 1
  refine List.map_congr_left fun kid member => ?_
  rw [Function.comp_apply,
    rowsOfKid_mirrored mirrors opened kidsRead typeRead (within_of_mem_itemsOf opened member),
    List.length_map]

include mirrors typeRead in
theorem hasTh_mirrored {cells : List Value} (inside : ∀ cell ∈ cells, again.Within cell) :
    hasTh doc (cells.map (Value.relocate origin)) = hasTh again cells := by
  induction cells with
  | nil => rfl
  | cons cell rest ih =>
    rw [List.map_cons, hasTh, hasTh, typeOf_mirrored mirrors typeRead (inside cell List.mem_cons_self),
      ih fun cell member => inside cell (List.mem_cons_of_mem _ member)]

include mirrors opened kidsRead typeRead in
theorem lacksHeaders_mirrored (within : again.Within node) :
    lacksHeaders doc (node.relocate origin) = lacksHeaders again node := by
  unfold lacksHeaders
  rw [getFirstTr_mirrored mirrors opened kidsRead typeRead within,
    countTrsInTable_mirrored mirrors opened kidsRead typeRead within]
  cases isFirst : getFirstTr again node with
  | none => rfl
  | some row =>
    -- The first row is an item, or an item of an item.
    have inside : again.Within row := by
      unfold getFirstTr at isFirst
      obtain ⟨kid, inKids, isHead⟩ := List.exists_of_findSome?_eq_some isFirst
      rcases (mem_rowsOfKid (List.mem_of_head? isHead)).1 with rfl | inItems
      · exact within_of_mem_itemsOf opened inKids
      · exact within_of_mem_itemsOf opened inItems
    show (_ && (hasTh doc (itemsOf doc (row.relocate origin)) == _)) = _
    rw [itemsOf_mirrored mirrors opened kidsRead inside,
      hasTh_mirrored mirrors typeRead fun cell => within_of_mem_itemsOf opened]

include mirrors opened kidsRead in
/-- The same elements are checked. -/
theorem treeElements_mirrored (catalog : again.isDictionary (.object again.catalog) = true)
    (rootRead : ¬ unread "/StructTreeRoot") :
    treeElements doc = (treeElements again).map (Value.relocate origin) := by
  have within := Document.within_of_isDictionary catalog
  have entry := mirrors.entry _ "/StructTreeRoot" within rootRead
  rw [Value.relocate, mirrors.catalog] at entry
  unfold treeElements
  rw [entry]
  cases isRoot : again.get (.object again.catalog) "/StructTreeRoot" with
  | none => rfl
  | some structRoot =>
    exact visited_mirrored mirrors opened kidsRead (opened.within_of_get isRoot)

include mirrors opened kidsRead typeRead in
/-- **The findings are the same**, but for those about alternative text. -/
theorem assessTree_mirrored (catalog : again.isDictionary (.object again.catalog) = true)
    (rootRead : ¬ unread "/StructTreeRoot") (hasHeadings : Bool) :
    assessTree again hasHeadings =
      { assessTree doc hasHeadings with
        imagesWithoutAlt := (treeElements again).countP (lacksAlt again) } := by
  have inside : ∀ elem ∈ treeElements again, again.Within elem := fun elem member =>
    Document.within_of_isDictionary (isDictionary_of_mem_treeElements member)
  rw [assessTree_eq, assessTree_eq, treeElements_mirrored mirrors opened kidsRead catalog rootRead]
  simp only [List.any_map, List.countP_map]
  have heading : ∀ elem ∈ treeElements again,
      isHeading again elem = (isHeading doc ∘ Value.relocate origin) elem := by
    intro elem member
    rw [Function.comp_apply, isHeading, isHeading, mirrors.textOf (inside elem member) typeRead]
  have table : ∀ elem ∈ treeElements again,
      isTable again elem = (isTable doc ∘ Value.relocate origin) elem := by
    intro elem member
    rw [Function.comp_apply, isTable, isTable, mirrors.textOf (inside elem member) typeRead]
  have bare : (treeElements again).countP (fun elem => isTable again elem && lacksHeaders again elem) =
      (treeElements again).countP
        ((fun elem => isTable doc elem && lacksHeaders doc elem) ∘ Value.relocate origin) := by
    refine List.countP_congr fun elem member => ?_
    rw [table elem member, Function.comp_apply, Function.comp_apply,
      lacksHeaders_mirrored mirrors opened kidsRead typeRead (inside elem member)]
  rw [any_congr_of_mem heading, any_congr_of_mem table, bare]

include mirrors opened kidsRead typeRead in
/-- **All findings are the same**, if alternative text is read as well. -/
theorem assessTree_eq_of_mirrors (catalog : again.isDictionary (.object again.catalog) = true)
    (rootRead : ¬ unread "/StructTreeRoot") (altRead : ¬ unread "/Alt") (hasHeadings : Bool) :
    assessTree again hasHeadings = assessTree doc hasHeadings := by
  have lacks : (treeElements again).countP (lacksAlt again) =
      (treeElements doc).countP (lacksAlt doc) := by
    rw [treeElements_mirrored mirrors opened kidsRead catalog rootRead, List.countP_map]
    refine List.countP_congr fun elem member => ?_
    have within := Document.within_of_isDictionary (isDictionary_of_mem_treeElements member)
    rw [Function.comp_apply, lacksAlt, lacksAlt, mirrors.textOf within typeRead,
      mirrors.textOf within altRead]
  rw [assessTree_mirrored mirrors opened kidsRead typeRead catalog rootRead, lacks, assessTree_eq]

end Mirrors

/-- **A file that was saved and read again has the same findings.** -/
theorem assessTree_reopened {saved : Document} (reopened : Reopened saved again origin)
    (opened : Opened again) (catalog : again.isDictionary (.object again.catalog) = true)
    (hasHeadings : Bool) : assessTree again hasHeadings = assessTree saved hasHeadings :=
  assessTree_eq_of_mirrors reopened.mirrors_saved opened not_false not_false catalog not_false
    not_false hasHeadings

end DicePipeline.Scoring
