import DicePipeline.Links.Exact

/-!
# What a tree gains by link repair

Repair changes one array, that of the root's kids.  Every other node whose kids are in
that array gains the same elements at its end, and no other node gains any
(`array?_grown`, `kidsOf_grown`).  What is gained is `<Link>` elements, each with one
`/OBJR` below it and nothing below that (`Gained`).
-/

namespace DicePipeline.Links

open Pdf

variable {doc out : Document} {root : ℕ} {value node element kid : Value} {key : String}

/-- An element that repair has appended. -/
def Gained (out : Document) (root : ℕ) (element : Value) : Prop :=
  ∃ link, IsLinkElement out (.object root) element link

private theorem gained_of_forall₂ {elements : List Value} {links : List (Value × Value)}
    (are : List.Forall₂ (IsLinkElement out (.object root)) elements links) :
    ∀ element ∈ elements, Gained out root element := by
  induction are with
  | nil => exact fun _ member => absurd member List.not_mem_nil
  | cons isElement _ ih =>
    intro element member
    rcases List.mem_cons.mp member with rfl | later
    · exact ⟨_, isElement⟩
    · exact ih element later

section Repaired

variable (opened : Opened doc) (done : tagLinkAnnotations doc (.object root) = some out)

include opened done

theorem isDictionary_repaired (within : doc.Within value) :
    out.isDictionary value = doc.isDictionary value :=
  (tagLinkAnnotations_appends opened done).2.2.1.toSupplements.isDictionary within

theorem get_repaired (within : doc.Within value) (other : key ≠ "/K") :
    out.get value key = doc.get value key :=
  (tagLinkAnnotations_appends opened done).2.2.1.toSupplements.get within other

theorem textOf_repaired (within : doc.Within value) (other : key ≠ "/K") :
    out.textOf value key = doc.textOf value key :=
  (tagLinkAnnotations_appends opened done).2.2.1.toSupplements.textOf within other

/-- An array has its items, and perhaps elements of links after them. -/
theorem array?_grown (within : doc.Within value) :
    ∃ elements, out.array? value = (doc.array? value).map (· ++ elements) ∧
      ∀ element ∈ elements, Gained out root element := by
  have unchanged : out.array? value = doc.array? value →
      ∃ elements, out.array? value = (doc.array? value).map (· ++ elements) ∧
        ∀ element ∈ elements, Gained out root element := by
    intro same
    refine ⟨[], ?_, fun _ member => absurd member List.not_mem_nil⟩
    rw [same]
    simp
  cases value with
  | object a =>
    have inside := within a rfl
    obtain ⟨-, appends, -, -⟩ := tagLinkAnnotations_appends opened done
    rcases @normalizeRootKids_cases doc root with ⟨-, written⟩ | ⟨rootKids, -, -, left⟩
    · -- The array is a new one, so none that was there changes.
      rw [written] at appends
      refine unchanged ?_
      rw [Document.array?_object, appends.cell? (by rw [length_withRootKids]; omega)
        (fun same => by
          have := Value.object.inj same
          omega), ← Document.array?_object, array?_withRootKids inside]
    · rw [left] at appends
      by_cases isRootKids : rootKids = .object a
      · subst isRootKids
        cases isArray : doc.array? (.object a) with
        | none =>
          rw [isArray] at unchanged
          refine unchanged ?_
          generalize untagged _ _ _ = links at appends
          cases appends with
          | nil => exact isArray
          | cons isObject isSome _ =>
            rw [isArray] at isSome
            exact absurd isSome Bool.false_ne_true
        | some items =>
          obtain ⟨elements, now, are⟩ := appends.array? isArray
          exact ⟨elements, now, gained_of_forall₂ are⟩
      · refine unchanged ?_
        rw [Document.array?_object, appends.cell? inside isRootKids, ← Document.array?_object]
  | _ => exact unchanged rfl

/-- The entry for the kids is as it was, but for the root. -/
theorem get_kids_repaired (within : doc.Within node) (other : node ≠ .object root) :
    out.get node "/K" = doc.get node "/K" := by
  cases isDictionary : doc.isDictionary node with
  | true =>
    unfold Document.get
    rw [dictionary?_kept opened done isDictionary other]
  | false =>
    have none : ∀ doc : Document, doc.isDictionary node = false → doc.get node "/K" = none := by
      intro doc other
      rw [Document.isDictionary, Option.isSome_eq_false_iff, Option.isNone_iff_eq_none] at other
      rw [Document.get, other, Option.bind_none]
    rw [none doc isDictionary,
      none out ((isDictionary_repaired opened done within).trans isDictionary)]

/-- A node has its kids, and perhaps elements of links after them. -/
theorem kidsOf_grown (within : doc.Within node) :
    ∃ elements, out.kidsOf node = doc.kidsOf node ++ elements ∧
      ∀ element ∈ elements, Gained out root element := by
  by_cases isRoot : node = .object root
  · subst isRoot
    obtain ⟨elements, now, are⟩ := kidsOf_root opened done
    exact ⟨elements, now, gained_of_forall₂ are⟩
  · have entry := get_kids_repaired opened done within isRoot
    cases isKids : doc.get node "/K" with
    | none =>
      refine ⟨[], ?_, fun _ member => absurd member List.not_mem_nil⟩
      rw [Document.kidsOf_of_none isKids, Document.kidsOf_of_none (entry.trans isKids)]
      rfl
    | some kids =>
      obtain ⟨elements, now, are⟩ := array?_grown opened done (opened.within_of_get isKids)
      rw [Document.kidsOf_of_some isKids, Document.kidsOf_of_some (entry.trans isKids), now]
      cases doc.array? kids with
      | none => exact ⟨[], rfl, fun _ member => absurd member List.not_mem_nil⟩
      | some items => exact ⟨elements, rfl, are⟩

end Repaired

/-! ## The elements that are gained -/

/-- What is seen of an element that repair has appended: the type, and a kid that has
none, nor kids of its own. -/
structure SeenGained (out : Document) (element : Value) (link : Value × Value) : Prop where
  isDictionary : out.isDictionary element = true
  type : out.get element "/S" = some (.name "/Link")
  page : out.get element "/Pg" = some link.1
  alt : out.get element "/Alt" = none
  kids : ∃ objr, out.kidsOf element = [objr] ∧ out.isDictionary objr = true ∧
    out.get objr "/S" = none ∧ out.get objr "/Pg" = some link.1 ∧ out.kidsOf objr = []

theorem seenGained {link : Value × Value}
    (isElement : IsLinkElement out (.object root) element link) : SeenGained out element link := by
  obtain ⟨e, k, o, rfl, isCell, isArray, isObjr⟩ := isElement
  have entries : out.dictionary? (.object e) = some [("/S", .name "/Link"), ("/P", .object root),
      ("/Pg", link.1), ("/K", .object k)] := by
    rw [Document.dictionary?_object, isCell]
    rfl
  have items : out.array? (.object k) = some [.object o] := by
    rw [Document.array?_object, isArray]
    rfl
  have objr : out.dictionary? (.object o) =
      some [("/Type", .name "/OBJR"), ("/Pg", link.1), ("/Obj", link.2)] := by
    rw [Document.dictionary?_object, isObjr]
    rfl
  have entry : ∀ key, out.get (.object e) key = _ := fun key => by rw [Document.get_object, entries]
  have objrEntry : ∀ key, out.get (.object o) key = _ := fun key => by rw [Document.get_object, objr]
  refine ⟨by rw [Document.isDictionary, entries]; rfl, by rw [entry]; rfl, by rw [entry]; rfl,
    by rw [entry]; rfl, .object o, ?_, by rw [Document.isDictionary, objr]; rfl,
    by rw [objrEntry]; rfl, by rw [objrEntry]; rfl, ?_⟩
  · have isKids : out.get (.object e) "/K" = some (.object k) := by
      rw [entry]
      rfl
    rw [Document.kidsOf_of_some isKids, items]
    rfl
  · refine Document.kidsOf_of_none ?_
    rw [objrEntry]
    rfl

end DicePipeline.Links
