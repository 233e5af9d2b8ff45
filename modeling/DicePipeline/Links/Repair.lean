import DicePipeline.Pdf.Structure

/-!
# Link repair (`remediation/adapters/link/pike_pdf.py`)

`repair` gives every `/Link` annotation of a page that no `/OBJR` of the
structure tree refers to a `<Link>` element of its own, at the end of the root's
kids.  It first walks the tree and collects the object numbers the `/OBJR`s
refer to, no deeper than `MAX_STRUCT_TREE_DEPTH`; then it goes through the
pages' annotations and adds the number of each one it tags.

`none` is the adapter error any exception is turned into.  An annotation is a
dictionary; whatever else `/Annots` lists, a stream included, is refused.
-/

namespace DicePipeline.Links

open Pdf

/-- `MAX_STRUCT_TREE_DEPTH`. -/
def maxStructTreeDepth : ℕ := 30

/-- `_collect_tagged_annotation_objids` of a node with `levels` levels left, the
node's own among them: `depth > MAX_STRUCT_TREE_DEPTH` leaves none. -/
def collectTaggedAnnotationObjids (doc : Document) : ℕ → Value → List ℕ
  | 0, _ => []
  | levels + 1, node =>
      (doc.kidsOf node).flatMap fun kid =>
        if !doc.isDictionary kid then []
        else if doc.textOf kid "/Type" = "/OBJR" then
          match doc.get kid "/Obj" with
          | some target => if doc.isDictionary target then [doc.number target] else []
          | none => []
        else collectTaggedAnnotationObjids doc levels kid

/-- The document and `already_tagged`. -/
structure Tagging where
  doc : Document
  alreadyTagged : List ℕ
  deriving DecidableEq, Repr

/-- The `<Link>` element of one annotation, appended to the root's kids: an
`/OBJR`, the array that holds it, and the element. -/
def appendLink (structRoot : Value) (rootKids : ℕ) (doc : Document) (link : Value × Value) :
    Document :=
  let objr := doc.objects.length
  let kids := objr + 1
  let linkElem := objr + 2
  (((doc.push
      ⟨.dictionary [("/Type", .name "/OBJR"), ("/Pg", link.1), ("/Obj", link.2)], 0⟩).push
      ⟨.array [.object objr], 0⟩).push
      ⟨.dictionary [("/S", .name "/Link"), ("/P", structRoot), ("/Pg", link.1),
        ("/K", .object kids)], doc.freshNumber⟩).append rootKids (.object linkElem)

/-- The body of the loop over one page's annotations.  `annot.get` raises unless
the annotation is a dictionary, and `root_kids.append` unless it is an array. -/
def tagAnnotation (structRoot rootKids page : Value) (state : Tagging) (annot : Value) :
    Option Tagging :=
  if !state.doc.isDictionary annot then none
  else if state.doc.textOf annot "/Subtype" ≠ "/Link" then some state
  else if state.doc.number annot ∈ state.alreadyTagged then some state
  else
    match rootKids with
    | .object kids =>
        if (state.doc.array? rootKids).isSome then
          some
            { doc := appendLink structRoot kids state.doc (page, annot)
              alreadyTagged := state.doc.number annot :: state.alreadyTagged }
        else none
    | _ => none

/-- The items a `for` loop goes through.  The keys of a dictionary have no
`get`, so a loop over one that is not empty raises like any other. -/
def iterated (doc : Document) (value : Value) : Option (List Value) :=
  if doc.dictionary? value = some [] then some [] else doc.array? value

/-- The body of the loop over the pages. -/
def tagPage (structRoot rootKids : Value) (state : Tagging) (page : ℕ) : Option Tagging :=
  match state.doc.get (.object page) "/Annots" with
  | none => some state
  | some annots => do
      let items ← iterated state.doc annots
      items.foldlM ( tagAnnotation structRoot rootKids (.object page)) state

/-- `root_kids`, made an array and written back if it is absent or one element. -/
def normalizeRootKids (doc : Document) (root : ℕ) : Document × Value :=
  match doc.get (.object root) "/K" with
  | none =>
      ((doc.push ⟨.array [], 0⟩).setEntry root "/K" (.object doc.objects.length),
        .object doc.objects.length)
  | some rootKids =>
      if doc.isDictionary rootKids then
        ((doc.push ⟨.array [rootKids], 0⟩).setEntry root "/K" (.object doc.objects.length),
          .object doc.objects.length)
      else (doc, rootKids)

/-- `_tag_link_annotations`.  `struct_root.get` raises unless it is a dictionary. -/
def tagLinkAnnotations (doc : Document) (structRoot : Value) : Option Document :=
  match structRoot with
  | .object root =>
      if !doc.isDictionary structRoot then none
      else
        let alreadyTagged := collectTaggedAnnotationObjids doc (maxStructTreeDepth + 1) structRoot
        let (normalized, rootKids) := normalizeRootKids doc root
        (doc.pages.foldlM (tagPage structRoot rootKids) ⟨normalized, alreadyTagged⟩).map
          Tagging.doc
  | _ => none

/-- `repair`, from the opened document to the saved one. -/
def repair (doc : Document) : Option Document :=
  match doc.get (.object doc.catalog) "/StructTreeRoot" with
  | none => some doc
  | some structRoot => tagLinkAnnotations doc structRoot

end DicePipeline.Links
