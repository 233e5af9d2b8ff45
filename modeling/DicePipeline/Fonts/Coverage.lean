import DicePipeline.Fonts.Repair
import DicePipeline.Fonts.Search
import DicePipeline.Pdf.Frame

/-!
# Which codes a repaired font maps

A font is given a CMap once: on the first page that finds an offset for one of its
names, and by the last of these names (`repairingPair`).  The pages before and
after add nothing to it.  So the CMap maps every code the font is shown with if
and only if all of them are among the codes of that name on that page, and in
range of the offset (`shown_codes_mapped_iff`).

`Repaired` is the invariant of the loop over the pages: what each font has been
given so far, in terms of the document the loop started with.

### What is load-bearing

`RepairedForShown` asks for both halves of a code at once.  A code of another page, or
of another name of the same font, is not in the sequence the offset was found for, so
it is not mapped, however well the offset fits it.  A code of the sequence is mapped
only if the offset leads it to a character (`inRange`).  The condition is about the
document before the repair: `repairingPair` reads its pages, and `Repaired` is what
shows that the pages repaired before have not changed what it finds.
-/

namespace DicePipeline.Fonts

open Pdf

variable {doc now next : Document} {contents : ℕ → Option (List Token)} {page a : ℕ}
variable {font value : Value} {name : String} {names : List String} {tokens : List Token}
variable {entry : String × Value} {entries candidates : Entries} {offset : ℤ}
variable {sequences : String → List (Option ℕ)} {sequence : List (Option ℕ)}

/-! ## The codes of one name -/

/-- What the loop over the tokens does to the sequence of one name, `state` being
the current font name and the sequence. -/
def followToken (name : String) (state : Option String × List (Option ℕ)) :
    Token → Option String × List (Option ℕ)
  | .inlineImage => state
  | .instruction [] _ => state
  | .instruction (first :: rest) operator =>
      if operator = "Tf" then (some first.str, state.2)
      else if state.1 ≠ some name then state
      else if isShow operator then
        (state.1, state.2 ++
          (collectCodes (((first :: rest).getLast (List.cons_ne_nil _ _)).bytes.getD [])).map some ++
            [none])
      else if operator = "TJ" then
        (state.1, state.2 ++
          (((first.items.getD []).filterMap id).flatMap collectCodes).map some ++ [none])
      else state

/-- The codes a page shows after a `Tf` with that name. -/
def sequenceOf (tokens : List Token) (name : String) : List (Option ℕ) :=
  (tokens.foldl (followToken name) (none, [])).2

theorem shown_codeSequences {state : Attribution} {current : String} {codes : List ℕ} :
    (state.shown current codes).codeSequences name =
      if current = name then state.codeSequences name ++ codes.map some ++ [none]
      else state.codeSequences name := by
  unfold Attribution.shown
  by_cases same : current = name
  · subst same
    rw [if_pos rfl]
    exact Function.update_self _ _ _
  · rw [if_neg same]
    exact Function.update_of_ne (fun other => same other.symm) _ _

/-- One token, for a name that is a candidate. -/
theorem collectToken_follow {state state' : Attribution} {token : Token} (isName : name ∈ names)
    (done : collectToken names state token = some state') :
    (state'.currentFontName, state'.codeSequences name) =
      followToken name (state.currentFontName, state.codeSequences name) token := by
  cases token with
  | inlineImage =>
    obtain rfl := Option.some.inj done
    rfl
  | instruction operands operator =>
    cases operands with
    | nil =>
      obtain rfl := Option.some.inj done
      rfl
    | cons first rest =>
      simp only [collectToken] at done
      simp only [followToken]
      by_cases isTf : operator = "Tf"
      · rw [if_pos isTf] at done ⊢
        obtain rfl := Option.some.inj done
        rfl
      rw [if_neg isTf] at done ⊢
      cases isCurrent : state.currentFontName with
      | none =>
        simp only [isCurrent] at done
        obtain rfl := Option.some.inj done
        simp [isCurrent]
      | some current =>
        simp only [isCurrent] at done
        by_cases other : current ∉ names
        · rw [if_pos other] at done
          obtain rfl := Option.some.inj done
          have different : current ≠ name := fun same => other (same ▸ isName)
          simp [isCurrent, different]
        rw [if_neg other] at done
        by_cases shows : isShow operator = true
        · rw [if_pos shows] at done ⊢
          obtain ⟨raw, isRaw, rfl⟩ := Option.map_eq_some_iff.mp done
          rw [shown_codeSequences, isRaw]
          by_cases same : current = name <;> simp [same, Attribution.shown, isCurrent]
        rw [if_neg shows] at done ⊢
        by_cases isArray : operator = "TJ"
        · rw [if_pos isArray] at done ⊢
          obtain ⟨items, areItems, rfl⟩ := Option.map_eq_some_iff.mp done
          rw [shown_codeSequences, areItems]
          by_cases same : current = name <;> simp [same, Attribution.shown, isCurrent]
        · rw [if_neg isArray] at done ⊢
          obtain rfl := Option.some.inj done
          simp [isCurrent]

/-- The sequence the program collects for a candidate. -/
theorem collectSequences_eq (isName : name ∈ names)
    (done : collectSequences names tokens = some sequences) :
    sequences name = sequenceOf tokens name := by
  obtain ⟨final, looped, rfl⟩ := Option.map_eq_some_iff.mp done
  have follow : ∀ (tokens : List Token) (state final : Attribution),
      tokens.foldlM (collectToken names) state = some final →
      (final.currentFontName, final.codeSequences name) =
        tokens.foldl (followToken name) (state.currentFontName, state.codeSequences name) := by
    intro tokens
    induction tokens with
    | nil =>
      intro state final done
      obtain rfl := Option.some.inj done
      rfl
    | cons token rest ih =>
      intro state final done
      rw [List.foldlM_cons] at done
      obtain ⟨between, stepped, done⟩ := Option.bind_eq_some_iff.mp done
      rw [List.foldl_cons, ← collectToken_follow isName stepped]
      exact ih between final done
  exact congrArg Prod.snd (follow tokens ⟨none, fun _ => []⟩ final looped)

/-! ## What a font is given -/

/-- The codes and the offset of a name, if there is an offset. -/
def offered (sequence : List (Option ℕ)) : Option (List (Option ℕ) × ℤ) :=
  (bestOffset sequence).map fun offset => (sequence, offset)

/-- The fonts of a page, by their names. -/
def pageFonts (doc : Document) (page : ℕ) : Entries :=
  (((doc.get (.object page) "/Resources").bind (doc.get · "/Font")).bind doc.dictionary?).getD []

/-- What the last name of a font on a page gives it, of the names that give it any. -/
def pairOn (doc : Document) (contents : ℕ → Option (List Token)) (font : Value) (page : ℕ) :
    Option (List (Option ℕ) × ℤ) :=
  (contents page).bind fun tokens =>
    (((pageFonts doc page).filter fun entry => entry.2 = font).filterMap fun entry =>
      offered (sequenceOf tokens entry.1)).getLast?

/-- **What a font is given**: the codes and the offset of the first page that gives
it any. -/
def repairingPair (doc : Document) (contents : ℕ → Option (List Token)) (font : Value) :
    Option (List (Option ℕ) × ℤ) :=
  doc.pages.findSome? (pairOn doc contents font)

/-- An offset is found for eight codes at least. -/
theorem usedCodes_of_bestOffset (found : bestOffset sequence = some offset) :
    (usedCodes sequence).isEmpty = false := by
  unfold bestOffset at found
  split at found
  · exact absurd found (by simp)
  · rename_i enough
    have anyCode : 0 < sequence.countP Option.isSome := by
      unfold minUsedCodes at enough
      omega
    obtain ⟨code, member, isCode⟩ := List.countP_pos_iff.mp anyCode
    obtain ⟨c, rfl⟩ := Option.isSome_iff_exists.mp isCode
    have used : c ∈ usedCodes sequence :=
      List.mem_dedup.mpr (List.mem_filterMap.mpr ⟨some c, member, rfl⟩)
    cases empty : (usedCodes sequence).isEmpty with
    | false => rfl
    | true =>
      rw [List.isEmpty_iff.mp empty] at used
      exact absurd used List.not_mem_nil

/-- The CMap of some codes. -/
def cmapOf (pair : List (Option ℕ) × ℤ) : List UInt8 :=
  Text.encodeAscii (buildTounicodeCmap (usedCodes pair.1) pair.2)

/-- Gives a font the CMap of some codes. -/
def attach (doc : Document) (font : Value) (pair : List (Option ℕ) × ℤ) : Document :=
  attachTounicode doc font (usedCodes pair.1) pair.2

/-- What the loop over the names does for one of them. -/
theorem repairFont_eq : repairFont sequences doc entry =
    (offered (sequences entry.1)).elim doc (attach doc entry.2) := by
  unfold repairFont offered
  cases found : bestOffset (sequences entry.1) with
  | none => simp
  | some offset =>
    simp only [usedCodes_of_bestOffset found, Bool.false_eq_true, if_false, Option.map_some]
    rfl

/-- What it is given is a stream. -/
theorem attach_eq {pair : List (Option ℕ) × ℤ} :
    attach doc font pair = doc.attachStream font "/ToUnicode" (cmapOf pair) := by
  cases font <;> rfl

/-- What the last of some names that give a font anything gives it. -/
def lastOffer (sequences : String → List (Option ℕ)) (candidates : Entries) (font : Value) :
    Option (List (Option ℕ) × ℤ) :=
  ((candidates.filter fun entry => entry.2 = font).filterMap fun entry =>
    offered (sequences entry.1)).getLast?

theorem lastOffer_cons : lastOffer sequences (entry :: candidates) font =
    (lastOffer sequences candidates font).or
      (if entry.2 = font then offered (sequences entry.1) else none) := by
  unfold lastOffer
  by_cases isFont : entry.2 = font
  · rw [List.filter_cons_of_pos (by simpa using isFont), if_pos isFont]
    cases isOffer : offered (sequences entry.1) with
    | none => simp only [List.filterMap_cons, isOffer, Option.or_none]
    | some pair =>
      simp only [List.filterMap_cons, isOffer, List.getLast?_cons]
      cases (List.filterMap _ (candidates.filter _)).getLast? <;> rfl
  · rw [List.filter_cons_of_neg (by simpa using isFont), if_neg isFont, Option.or_none]

/-- The loop over the names of a page. -/
structure Given (now next : Document) (sequences : String → List (Option ℕ)) (candidates : Entries) :
    Prop where
  frame : SameBut "/ToUnicode" now next
  others : ∀ font, now.Within font → (∀ entry ∈ candidates, entry.2 ≠ font) →
    next.dictionary? font = now.dictionary? font
  given : ∀ font pair, now.isDictionary font = true →
    lastOffer sequences candidates font = some pair →
    ∃ s < next.objects.length, next.get font "/ToUnicode" = some (.object s) ∧
      next.stream? (.object s) = some (cmapOf pair)
  left : ∀ font, now.isDictionary font = true → lastOffer sequences candidates font = none →
    next.get font "/ToUnicode" = now.get font "/ToUnicode"

theorem given_candidates (dictionaries : ∀ entry ∈ candidates, now.isDictionary entry.2 = true) :
    Given now (candidates.foldl (repairFont sequences) now) sequences candidates := by
  induction candidates generalizing now with
  -- Induction on the candidates: a font has what the last one of it offers, and a candidate
  -- without an offer writes nothing.
  | nil =>
    refine ⟨.refl _ _, fun _ _ _ => rfl, fun font pair _ none => ?_, fun _ _ _ => rfl⟩
    exact absurd none (by simp [lastOffer])
  | cons entry rest ih =>
    rw [List.foldl_cons, repairFont_eq]
    have isFont := dictionaries entry List.mem_cons_self
    cases isOffer : offered (sequences entry.1) with
    | none =>
      obtain ⟨frame, others, given, left⟩ :=
        ih fun later member => dictionaries later (List.mem_cons_of_mem _ member)
      have same : ∀ font, lastOffer sequences (entry :: rest) font =
          lastOffer sequences rest font := by
        intro font
        rw [lastOffer_cons, isOffer]
        cases lastOffer sequences rest font <;> simp
      refine ⟨frame, ?_, ?_, ?_⟩
      · intro font within different
        exact others font within fun later member =>
          different later (List.mem_cons_of_mem _ member)
      · intro font pair isDictionary last
        exact given font pair isDictionary ((same font).symm.trans last)
      · intro font isDictionary none
        exact left font isDictionary ((same font).symm.trans none)
    | some pair =>
      show Given now (rest.foldl (repairFont sequences) (attach now entry.2 pair)) _ _
      rw [attach_eq]
      generalize given : now.attachStream entry.2 "/ToUnicode" (cmapOf pair) = between
      have step : SameBut "/ToUnicode" now between := given ▸ attachStream_sameBut
      have kept : ∀ font, now.isDictionary font = true → between.isDictionary font = true :=
        fun font isDictionary =>
          (step.isDictionary_eq (Document.within_of_isDictionary isDictionary)).trans isDictionary
      -- The first candidate writes to its own font only; the rest may write there again.
      have others' : ∀ value, now.Within value → entry.2 ≠ value →
          between.dictionary? value = now.dictionary? value := fun value within different =>
        given ▸ dictionary?_attachStream_of_ne within different
      obtain ⟨frame, others, given', left⟩ := @ih between fun later member =>
        kept later.2 (dictionaries later (List.mem_cons_of_mem _ member))
      refine ⟨step.trans frame, ?_, ?_, ?_⟩
      · intro font within different
        rw [others font (step.within within) fun later member =>
          different later (List.mem_cons_of_mem _ member)]
        exact others' font within (different entry List.mem_cons_self)
      · intro font found isDictionary last
        rw [lastOffer_cons, isOffer, Option.or_eq_some_iff] at last
        rcases last with later | ⟨none, own⟩
        · exact given' font found (kept font isDictionary) later
        -- No later offer: what the first one attached is still there at the end.
        · by_cases isOwn : entry.2 = font
          · subst isOwn
            rw [if_pos rfl] at own
            obtain rfl := Option.some.inj own
            obtain ⟨s, inside, isStream, isData⟩ :=
              @get_attachStream now "/ToUnicode" entry.2 (cmapOf pair) isDictionary
            rw [given] at inside isStream isData
            obtain ⟨inside, isData⟩ := frame.stream_kept inside isData
            exact ⟨s, inside, (left _ (kept _ isDictionary) none).trans isStream, isData⟩
          · rw [if_neg isOwn] at own
            exact absurd own (by simp)
      · intro font isDictionary nothing
        rw [lastOffer_cons, isOffer, Option.or_eq_none_iff] at nothing
        have different : entry.2 ≠ font := by
          intro isOwn
          rw [if_pos isOwn] at nothing
          exact absurd nothing.2 (by simp)
        rw [left font (kept font isDictionary) nothing.1]
        unfold Document.get
        rw [others' font (Document.within_of_isDictionary isDictionary) different]

/-! ## Candidates -/

theorem isCandidate_of_not_isDictionary (other : doc.isDictionary font = false) :
    isCandidate doc font = none := by
  simp [isCandidate, other]

/-- What a candidate is. -/
theorem isCandidate_iff : isCandidate doc font = some true ↔
    doc.isDictionary font = true ∧ doc.textOf font "/Subtype" = "/Type0" ∧
      doc.get font "/ToUnicode" = none ∧
      doc.textOf font "/Encoding" ∈ ["/Identity-H", "/Identity-V"] ∧
      ∃ descendants first rest, doc.get font "/DescendantFonts" = some descendants ∧
        doc.array? descendants = some (first :: rest) ∧ doc.isDictionary first = true ∧
        doc.textOf first "/Subtype" ∈ ["/CIDFontType0", "/CIDFontType2"] := by
  unfold isCandidate
  constructor
  -- The five tests in the order in which the source makes them.
  · intro candidate
    split at candidate
    · exact absurd candidate (by simp)
    split at candidate
    · exact absurd candidate (by simp)
    split at candidate
    · exact absurd candidate (by simp)
    split at candidate
    · exact absurd candidate (by simp)
    rename_i isDictionary subtype fresh encoding
    refine ⟨by simpa using isDictionary, by simpa using subtype, by simpa using fresh,
      Decidable.not_not.mp encoding, ?_⟩
    cases isDescendants : doc.get font "/DescendantFonts" with
    | none => simp [isDescendants] at candidate
    | some descendants =>
      simp only [isDescendants] at candidate
      cases isArray : doc.array? descendants with
      | none =>
        simp only [isArray] at candidate
        split at candidate <;> exact absurd candidate (by simp)
      | some items =>
        cases items with
        | nil => simp [isArray] at candidate
        | cons first rest =>
          simp only [isArray] at candidate
          split at candidate
          · rename_i firstDictionary
            exact ⟨descendants, first, rest, rfl, isArray, firstDictionary,
              by simpa using candidate⟩
          · exact absurd candidate (by simp)
  · rintro ⟨isDictionary, subtype, fresh, encoding, descendants, first, rest, isDescendants,
      isArray, firstDictionary, isCid⟩
    rw [if_neg (by simp [isDictionary]), if_neg (by simp [subtype]), if_neg (by simp [fresh]),
      if_neg (not_not_intro encoding)]
    simp only [isDescendants, isArray, firstDictionary, if_true]
    simpa using isCid

theorem candidatesOf_eq (done : candidatesOf doc entries = some candidates) :
    candidates = entries.filter (fun entry => isCandidate doc entry.2 = some true) ∧
      ∀ entry ∈ entries, isCandidate doc entry.2 ≠ none := by
  induction entries generalizing candidates with
  | nil =>
    obtain rfl := Option.some.inj done
    exact ⟨rfl, fun entry member => absurd member List.not_mem_nil⟩
  | cons entry rest ih =>
    obtain ⟨candidate, isOne, done⟩ := Option.bind_eq_some_iff.mp done
    obtain ⟨others, areOthers, done⟩ := Option.bind_eq_some_iff.mp done
    obtain rfl := Option.some.inj done
    obtain ⟨rfl, known⟩ := ih areOthers
    refine ⟨?_, ?_⟩
    · cases candidate <;> simp [isOne]
    · intro found member
      rcases List.mem_cons.mp member with rfl | later
      · rw [isOne]
        simp
      · exact known found later

/-! ## The loop over the pages -/

/-- What each font has been given by the pages that are done. -/
structure Repaired (doc : Document) (contents : ℕ → Option (List Token)) (done : List ℕ)
    (now : Document) : Prop where
  frame : SameBut "/ToUnicode" doc now
  others : ∀ value, doc.Within value → isCandidate doc value ≠ some true →
    now.dictionary? value = doc.dictionary? value
  given : ∀ font pair, isCandidate doc font = some true →
    done.findSome? (pairOn doc contents font) = some pair →
    ∃ s < now.objects.length, now.get font "/ToUnicode" = some (.object s) ∧
      now.stream? (.object s) = some (cmapOf pair)
  left : ∀ font, isCandidate doc font = some true →
    done.findSome? (pairOn doc contents font) = none → now.get font "/ToUnicode" = none

/-- A font is a candidate still if it was one and has been given nothing. -/
theorem Repaired.isCandidate_iff {done : List ℕ} (repaired : Repaired doc contents done now)
    (opened : Opened doc) (within : doc.Within font) :
    isCandidate now font = some true ↔
      isCandidate doc font = some true ∧ now.get font "/ToUnicode" = none := by
  have frame := repaired.frame
  -- Everything but `/ToUnicode` reads the same.
  have shape : (now.isDictionary font = true ∧ now.textOf font "/Subtype" = "/Type0" ∧
      now.textOf font "/Encoding" ∈ ["/Identity-H", "/Identity-V"] ∧
      ∃ descendants first rest, now.get font "/DescendantFonts" = some descendants ∧
        now.array? descendants = some (first :: rest) ∧ now.isDictionary first = true ∧
        now.textOf first "/Subtype" ∈ ["/CIDFontType0", "/CIDFontType2"]) ↔
      doc.isDictionary font = true ∧ doc.textOf font "/Subtype" = "/Type0" ∧
      doc.textOf font "/Encoding" ∈ ["/Identity-H", "/Identity-V"] ∧
      ∃ descendants first rest, doc.get font "/DescendantFonts" = some descendants ∧
        doc.array? descendants = some (first :: rest) ∧ doc.isDictionary first = true ∧
        doc.textOf first "/Subtype" ∈ ["/CIDFontType0", "/CIDFontType2"] := by
    rw [frame.isDictionary_eq within, frame.textOf_eq within (by decide),
      frame.textOf_eq within (by decide), frame.get_eq within (by decide)]
    refine and_congr_right fun _ => and_congr_right fun _ => and_congr_right fun _ => ?_
    refine exists_congr fun descendants => exists_congr fun first => exists_congr fun rest =>
      and_congr_right fun isDescendants => ?_
    rw [frame.array?_eq (opened.within_of_get isDescendants)]
    refine and_congr_right fun isArray => ?_
    have firstWithin := opened.within_of_mem isArray List.mem_cons_self
    rw [frame.isDictionary_eq firstWithin, frame.textOf_eq firstWithin (by decide)]
  rw [Fonts.isCandidate_iff]
  constructor
  · rintro ⟨isDictionary, subtype, fresh, rest⟩
    refine ⟨?_, fresh⟩
    by_contra other
    have same := repaired.others font within other
    obtain ⟨isDictionary', subtype', rest'⟩ := shape.mp ⟨isDictionary, subtype, rest⟩
    refine other (Fonts.isCandidate_iff.mpr ⟨isDictionary', subtype', ?_, rest'⟩)
    unfold Document.get at fresh ⊢
    rwa [← same]
  · rintro ⟨candidate, fresh⟩
    obtain ⟨isDictionary', subtype', -, rest'⟩ := Fonts.isCandidate_iff.mp candidate
    obtain ⟨isDictionary, subtype, rest⟩ := shape.mpr ⟨isDictionary', subtype', rest'⟩
    exact ⟨isDictionary, subtype, fresh, rest⟩

/-- The fonts a page lists are those it listed, the list being no font itself. -/
theorem Repaired.pageFonts_eq {done : List ℕ} (repaired : Repaired doc contents done now)
    (opened : Opened doc) {resources fonts : Value}
    (isResources : doc.get (.object page) "/Resources" = some resources)
    (isFonts : doc.get resources "/Font" = some fonts)
    (areEntries : now.dictionary? fonts = some entries)
    (known : ∀ entry ∈ entries, isCandidate now entry.2 ≠ none) :
    pageFonts doc page = entries := by
  have within := opened.within_of_get isFonts
  have notFont : isCandidate doc fonts ≠ some true := by
    intro candidate
    obtain ⟨-, subtype, -⟩ := Fonts.isCandidate_iff.mp candidate
    rw [← repaired.frame.textOf_eq within (by decide)] at subtype
    unfold Document.textOf Document.get at subtype
    rw [areEntries, Option.bind_some] at subtype
    cases found : entries.lookup "/Subtype" with
    | none =>
      rw [found] at subtype
      exact absurd subtype (by decide)
    | some value =>
      rw [found] at subtype
      have isName : value.str = "/Type0" := subtype
      -- Its `/Subtype` would be one of the fonts, and no dictionary.
      obtain ⟨before, after, rfl, -⟩ := List.lookup_eq_some_iff.mp found
      refine known ("/Subtype", value) (by simp) (isCandidate_of_not_isDictionary ?_)
      cases value with
      | object a => exact absurd isName (by simp [Value.str])
      | _ => rfl
  have before : doc.dictionary? fonts = some entries := by
    rw [← repaired.others fonts within notFont, areEntries]
  unfold pageFonts
  rw [isResources, Option.bind_some, isFonts, Option.bind_some, before]
  rfl

/-- What a page without candidates gives a font. -/
private theorem pairOn_eq_none
    (noFonts : (pageFonts doc page).filter (fun entry => entry.2 = font) = []) :
    pairOn doc contents font page = none := by
  unfold pairOn
  rw [noFonts]
  cases contents page <;> rfl

/-- A page that gives a font nothing leaves the invariant. -/
theorem Repaired.skip {done : List ℕ} (repaired : Repaired doc contents done now)
    (nothing : ∀ font, isCandidate doc font = some true → now.get font "/ToUnicode" = none →
      pairOn doc contents font page = none) :
    Repaired doc contents (done ++ [page]) now where
  frame := repaired.frame
  others := repaired.others
  given := by
    intro font pair candidate found
    rw [List.findSome?_append, Option.or_eq_some_iff] at found
    rcases found with before | ⟨none, here⟩
    · exact repaired.given font pair candidate before
    · rw [List.findSome?_singleton, nothing font candidate (repaired.left font candidate none)]
        at here
      exact absurd here (by simp)
  left := by
    intro font candidate none
    rw [List.findSome?_append, Option.or_eq_none_iff] at none
    exact repaired.left font candidate none.1

/-- The names of a candidate are among those that are looked at. -/
private theorem filter_candidates (candidate : isCandidate now font = some true) :
    (entries.filter fun entry => isCandidate now entry.2 = some true).filter
        (fun entry => entry.2 = font) =
      entries.filter fun entry => entry.2 = font := by
  rw [List.filter_filter]
  refine List.filter_congr ?_
  intro entry _
  by_cases isFont : entry.2 = font
  · simp [isFont, candidate]
  · simp [isFont]

/-- **One page with fonts.** -/
theorem Repaired.fonts {done : List ℕ} (repaired : Repaired doc contents done now)
    (opened : Opened doc) (listed : pageFonts doc page = entries)
    (stepped : repairCandidates contents now page
      (entries.filter fun entry => isCandidate now entry.2 = some true) = some next) :
    Repaired doc contents (done ++ [page]) next := by
  have frame := repaired.frame
  have stillCandidate : ∀ font, isCandidate doc font = some true →
      now.get font "/ToUnicode" = none → isCandidate now font = some true := by
    intro font candidate fresh
    have fontWithin := Document.within_of_isDictionary (Fonts.isCandidate_iff.mp candidate).1
    exact (repaired.isCandidate_iff opened fontWithin).mpr ⟨candidate, fresh⟩
  unfold repairCandidates at stepped
  split at stepped
  · rename_i empty
    obtain rfl := Option.some.inj stepped
    refine repaired.skip fun font candidate fresh => pairOn_eq_none ?_
    rw [listed, ← filter_candidates (stillCandidate font candidate fresh),
      List.isEmpty_iff.mp empty]
    rfl
  cases isContent : contents page with
  | none =>
    rw [isContent] at stepped
    obtain rfl := Option.some.inj stepped
    refine repaired.skip fun font _ _ => ?_
    simp [pairOn, isContent]
  | some tokens =>
    rw [isContent] at stepped
    obtain ⟨sequences, areSequences, stepped⟩ := Option.bind_eq_some_iff.mp stepped
    obtain rfl := Option.some.inj stepped
    generalize areCandidates : (entries.filter fun entry => isCandidate now entry.2 = some true) =
      candidates at areSequences
    have isOne : ∀ entry ∈ candidates, isCandidate now entry.2 = some true := by
      intro entry member
      rw [← areCandidates] at member
      simpa using (List.mem_filter.mp member).2
    have here := @given_candidates now candidates sequences fun entry member =>
      (Fonts.isCandidate_iff.mp (isOne entry member)).1
    -- The last name of a candidate gives it what the page does.
    have offer : ∀ font, isCandidate now font = some true →
        lastOffer sequences candidates font = pairOn doc contents font page := by
      intro font candidate
      have same : candidates.filter (fun entry => entry.2 = font) =
          entries.filter fun entry => entry.2 = font := by
        rw [← areCandidates]
        exact filter_candidates candidate
      unfold lastOffer pairOn
      rw [isContent, listed, Option.bind_some, ← same]
      congr 1
      refine List.filterMap_congr ?_
      intro entry member
      have isName : entry.1 ∈ candidates.map Prod.fst :=
        List.mem_map.mpr ⟨entry, (List.mem_filter.mp member).1, rfl⟩
      rw [collectSequences_eq isName areSequences]
    have noOffer : ∀ font, isCandidate now font ≠ some true →
        lastOffer sequences candidates font = none := by
      intro font other
      have noNames : candidates.filter (fun entry => entry.2 = font) = [] := by
        rw [List.filter_eq_nil_iff]
        intro entry member isFont
        exact other (of_decide_eq_true isFont ▸ isOne entry member)
      unfold lastOffer
      rw [noNames]
      rfl
    refine ⟨frame.trans here.frame, ?_, ?_, ?_⟩
    · intro value valueWithin other
      rw [← repaired.others value valueWithin other]
      refine here.others value (frame.within valueWithin) ?_
      rintro entry member rfl
      exact other ((repaired.isCandidate_iff opened valueWithin).mp (isOne entry member)).1
    · intro font pair candidate found
      have fontWithin := Document.within_of_isDictionary (Fonts.isCandidate_iff.mp candidate).1
      have isDictionary : now.isDictionary font = true :=
        (frame.isDictionary_eq fontWithin).trans (Fonts.isCandidate_iff.mp candidate).1
      rw [List.findSome?_append, Option.or_eq_some_iff] at found
      rcases found with before | ⟨none, now'⟩
      · obtain ⟨s, inside, isEntry, isData⟩ := repaired.given font pair candidate before
        have given : isCandidate now font ≠ some true := by
          intro again
          rw [((repaired.isCandidate_iff opened fontWithin).mp again).2] at isEntry
          exact absurd isEntry (by simp)
        obtain ⟨inside', isData'⟩ := here.frame.stream_kept inside isData
        exact ⟨s, inside', (here.left font isDictionary (noOffer font given)).trans isEntry,
          isData'⟩
      · rw [List.findSome?_singleton] at now'
        have again := stillCandidate font candidate (repaired.left font candidate none)
        exact here.given font pair isDictionary ((offer font again).trans now')
    · intro font candidate none
      have fontWithin := Document.within_of_isDictionary (Fonts.isCandidate_iff.mp candidate).1
      have isDictionary : now.isDictionary font = true :=
        (frame.isDictionary_eq fontWithin).trans (Fonts.isCandidate_iff.mp candidate).1
      rw [List.findSome?_append, Option.or_eq_none_iff] at none
      obtain ⟨before, after⟩ := none
      rw [List.findSome?_singleton] at after
      have fresh := repaired.left font candidate before
      have again := stillCandidate font candidate fresh
      exact (here.left font isDictionary ((offer font again).trans after)).trans fresh

/-- **One page.** -/
theorem Repaired.step {done : List ℕ} (repaired : Repaired doc contents done now)
    (opened : Opened doc) (there : page ∈ doc.pages)
    (stepped : repairPageFonts contents now page = some next) :
    Repaired doc contents (done ++ [page]) next := by
  have frame := repaired.frame
  have pageWithin : doc.Within (.object page) := by
    intro a same
    rw [← Value.object.inj same]
    exact opened.pagesThere page there
  unfold repairPageFonts at stepped
  rw [frame.get_eq pageWithin (by decide)] at stepped
  cases isResources : doc.get (.object page) "/Resources" with
  | none =>
    rw [isResources] at stepped
    obtain rfl := Option.some.inj stepped
    refine repaired.skip fun font _ _ => pairOn_eq_none ?_
    simp [pageFonts, isResources]
  | some resources =>
    have resourcesWithin := opened.within_of_get isResources
    simp only [isResources] at stepped
    split at stepped
    · exact absurd stepped (by simp)
    rw [frame.get_eq resourcesWithin (by decide)] at stepped
    cases isFonts : doc.get resources "/Font" with
    | none =>
      rw [isFonts] at stepped
      obtain rfl := Option.some.inj stepped
      refine repaired.skip fun font _ _ => pairOn_eq_none ?_
      simp [pageFonts, isResources, isFonts]
    | some fonts =>
      simp only [isFonts] at stepped
      obtain ⟨entries, areEntries, stepped⟩ := Option.bind_eq_some_iff.mp stepped
      obtain ⟨candidates, areCandidates, stepped⟩ := Option.bind_eq_some_iff.mp stepped
      obtain ⟨rfl, known⟩ := candidatesOf_eq areCandidates
      have listed := repaired.pageFonts_eq opened isResources isFonts areEntries known
      exact repaired.fonts opened listed stepped

/-- **All pages**: what the fonts of a repaired document have been given. -/
theorem repaired_of_repairFonts (opened : Opened doc)
    (done : repairFonts contents doc = some next) : Repaired doc contents doc.pages next := by
  have loop : ∀ (pages before : List ℕ) (now : Document), (∀ page ∈ pages, page ∈ doc.pages) →
      Repaired doc contents before now →
      pages.foldlM (repairPageFonts contents) now = some next →
      Repaired doc contents (before ++ pages) next := by
    intro pages
    induction pages with
    | nil =>
      intro before now _ repaired looped
      obtain rfl := Option.some.inj looped
      rwa [List.append_nil]
    | cons page rest ih =>
      intro before now there repaired looped
      rw [List.foldlM_cons] at looped
      obtain ⟨between, stepped, looped⟩ := Option.bind_eq_some_iff.mp looped
      have after := repaired.step opened (there page List.mem_cons_self) stepped
      rw [List.append_cons]
      exact ih (before ++ [page]) between
        (fun later member => there later (List.mem_cons_of_mem _ member)) after looped
  refine loop doc.pages [] doc (fun _ member => member) ?_ done
  refine ⟨.refl _ _, fun _ _ _ => rfl, ?_, ?_⟩
  · intro font pair _ found
    exact absurd found (by simp)
  · intro font candidate _
    exact (Fonts.isCandidate_iff.mp candidate).2.2.1

/-! ## Coverage -/

/-- A code that the content stream of a page shows with a font. -/
def Shown (doc : Document) (contents : ℕ → Option (List Token)) (font : Value) (code : ℕ) : Prop :=
  ∃ page ∈ doc.pages, ∃ tokens, contents page = some tokens ∧
    code ∈ shownWith doc page tokens font

/-- Every font that has been given a `/ToUnicode` maps every code it is shown with. -/
def CoversShown (doc : Document) (contents : ℕ → Option (List Token)) (out : Document) : Prop :=
  ∀ font cmap, doc.isDictionary font = true → doc.get font "/ToUnicode" = none →
    out.get font "/ToUnicode" = some cmap →
    ∃ data, out.stream? cmap = some data ∧ ∀ code, Shown doc contents font code → MapsCode data code

/-- **The condition.**  Every code a font is shown with, on any page and under any name, is
one of those it is repaired for, and in range of the offset.  A font that finds no
offset is given nothing, and nothing is asked of it. -/
def RepairedForShown (doc : Document) (contents : ℕ → Option (List Token)) : Prop :=
  ∀ font sequence offset, isCandidate doc font = some true →
    repairingPair doc contents font = some (sequence, offset) →
    ∀ code, Shown doc contents font code → some code ∈ sequence ∧ inRange offset code = true

theorem mem_usedCodes {code : ℕ} : code ∈ usedCodes sequence ↔ some code ∈ sequence := by
  simp [usedCodes]

/-- What a repaired font maps. -/
theorem Repaired.maps (repaired : Repaired doc contents doc.pages next)
    (candidate : isCandidate doc font = some true)
    (found : repairingPair doc contents font = some (sequence, offset)) :
    ∃ s data, next.get font "/ToUnicode" = some (.object s) ∧
      next.stream? (.object s) = some data ∧
      ∀ code, MapsCode data code ↔ some code ∈ sequence ∧ inRange offset code = true := by
  obtain ⟨s, -, isEntry, isData⟩ := repaired.given font (sequence, offset) candidate found
  refine ⟨s, _, isEntry, isData, ?_⟩
  intro code
  unfold cmapOf
  rw [mapsCode_build, mem_usedCodes]

/-- The fonts that have been given a `/ToUnicode`. -/
theorem Repaired.given_iff (repaired : Repaired doc contents doc.pages next) {cmap : Value}
    (isDictionary : doc.isDictionary font = true) (fresh : doc.get font "/ToUnicode" = none)
    (isEntry : next.get font "/ToUnicode" = some cmap) :
    isCandidate doc font = some true ∧ ∃ pair, repairingPair doc contents font = some pair := by
  have candidate : isCandidate doc font = some true := by
    by_contra other
    have same := repaired.others font (Document.within_of_isDictionary isDictionary) other
    unfold Document.get at fresh isEntry
    rw [same, fresh] at isEntry
    exact absurd isEntry (by simp)
  refine ⟨candidate, Option.ne_none_iff_exists'.mp ?_⟩
  intro none
  rw [repaired.left font candidate none] at isEntry
  exact absurd isEntry (by simp)

end DicePipeline.Fonts

namespace DicePipeline

open Pdf Fonts

/-- **When repaired fonts map what they show**: if and only if a font is shown with no codes but
those it is repaired for, and all of these are in range.

A font is repaired on the first page that has it among its candidates, for what is shown there
under one of its names, and it is no candidate from then on.  What else it shows, under another
name or on a later page, is not collected. -/
theorem shown_codes_mapped_iff (file : File) (contents : ℕ → Option (List Token)) (out : Document)
    (repaired : repairFonts contents file.1 = some out) :
    CoversShown file.1 contents out ↔ RepairedForShown file.1 contents := by
  have fonts := repaired_of_repairFonts file.2 repaired
  constructor
  · intro covers font sequence offset candidate found code shown
    obtain ⟨isDictionary, -, fresh, -⟩ := Fonts.isCandidate_iff.mp candidate
    obtain ⟨s, data, isEntry, isData, maps⟩ := fonts.maps candidate found
    obtain ⟨data', isData', mapsShown⟩ := covers font (.object s) isDictionary fresh isEntry
    obtain rfl := Option.some.inj (isData.symm.trans isData')
    exact (maps code).mp (mapsShown code shown)
  · intro among font cmap isDictionary fresh isEntry
    obtain ⟨candidate, ⟨sequence, offset⟩, found⟩ := fonts.given_iff isDictionary fresh isEntry
    obtain ⟨s, data, isEntry', isData, maps⟩ := fonts.maps candidate found
    obtain rfl := Option.some.inj (isEntry'.symm.trans isEntry)
    refine ⟨data, isData, ?_⟩
    intro code shown
    exact (maps code).mpr (among font sequence offset candidate found code shown)

/-- Two pages that share a font. -/
def sharedFont : File where
  val :=
    { objects := [
        ⟨.dictionary [], 1⟩,
        ⟨.dictionary [("/Type", .name "/Page"), ("/Resources", .object 3)], 2⟩,
        ⟨.dictionary [("/Type", .name "/Page"), ("/Resources", .object 3)], 3⟩,
        ⟨.dictionary [("/Font", .object 4)], 4⟩,
        ⟨.dictionary [("/F1", .object 5)], 5⟩,
        ⟨.dictionary [("/Subtype", .name "/Type0"), ("/Encoding", .name "/Identity-H"),
          ("/DescendantFonts", .object 6)], 6⟩,
        ⟨.array [.object 7], 7⟩,
        ⟨.dictionary [("/Subtype", .name "/CIDFontType2")], 8⟩]
      catalog := 0
      pages := [1, 2] }
  property := by decide +kernel

/-- A content stream that shows a text with `/F1`, its codes 29 less. -/
def showsShifted (text : String) : List Token :=
  [.instruction [⟨"/F1", none, false, none⟩] "Tf",
    .instruction [⟨text, some (text.toList.flatMap fun c => [0, UInt8.ofNat (c.toNat - 29)]),
      true, none⟩] "Tj"]

/-- An offset is found for that text. -/
private theorem exists_bestOffset :
    ∃ offset, bestOffset (sequenceOf (showsShifted "~the board") "/F1") = some offset := by
  let text : List (Option ℕ) := ("~the board".toList.map fun c => some c.toNat) ++ [none]
  have codes : sequenceOf (showsShifted "~the board") "/F1" = codesOf 29 text := by decide +kernel
  have shiftable : ∀ item ∈ text, ∀ c ∈ item, Shiftable 29 c := by
    unfold Shiftable
    decide +kernel
  have all : wordHitRatio (plain text) = 1 := by decide +kernel
  rw [codes]
  obtain ⟨first, -, found, -⟩ := @exists_found text 29 (by decide)
    (fun c member => shiftable (some c) member c rfl) (by decide +kernel)
    (by rw [all]; decide +kernel)
    (fun offset _ reading _ => by rw [all]; exact wordHitRatio_le_one reading)
  exact ⟨first, found⟩

/-- What the first page does. -/
private theorem repairPageFonts_sharedFont {contents : ℕ → Option (List Token)}
    (isContent : contents 1 = some (showsShifted "~the board"))
    (found : bestOffset (sequenceOf (showsShifted "~the board") "/F1") = some offset) :
    repairPageFonts contents sharedFont.1 1 = some (attach sharedFont.1 (.object 5)
      (sequenceOf (showsShifted "~the board") "/F1", offset)) := by
  have collects : (collectSequences ["/F1"] (showsShifted "~the board")).isSome = true := by
    decide +kernel
  obtain ⟨sequences, collected⟩ := Option.isSome_iff_exists.mp collects
  have unfolded : repairPageFonts contents sharedFont.1 1 =
      repairCandidates contents sharedFont.1 1 [("/F1", .object 5)] := rfl
  have gives : repairFont sequences sharedFont.1 ("/F1", .object 5) =
      attach sharedFont.1 (.object 5) (sequenceOf (showsShifted "~the board") "/F1", offset) := by
    rw [repairFont_eq]
    show (offered (sequences "/F1")).elim _ _ = _
    rw [collectSequences_eq List.mem_cons_self collected, offered, found]
    rfl
  rw [unfolded, ← gives]
  unfold repairCandidates
  rw [isContent]
  rw [if_neg (by decide)]
  show (collectSequences ["/F1"] _).bind _ = _
  rw [collected]
  rfl

/-- The second page finds the font repaired. -/
private theorem repairFonts_sharedFont {contents : ℕ → Option (List Token)}
    (isContent : contents 1 = some (showsShifted "~the board"))
    (found : bestOffset (sequenceOf (showsShifted "~the board") "/F1") = some offset) :
    repairFonts contents sharedFont.1 = some (attach sharedFont.1 (.object 5)
      (sequenceOf (showsShifted "~the board") "/F1", offset)) := by
  show [1, 2].foldlM (repairPageFonts contents) sharedFont.1 = _
  rw [List.foldlM_cons, repairPageFonts_sharedFont isContent found]
  rfl

/-- What the font is given, if an offset is found on the first page. -/
private theorem repairingPair_sharedFont {contents : ℕ → Option (List Token)}
    (isContent : contents 1 = some tokens)
    (found : bestOffset (sequenceOf tokens "/F1") = some offset) :
    repairingPair sharedFont.1 contents (.object 5) = some (sequenceOf tokens "/F1", offset) := by
  have offers : offered (sequenceOf tokens "/F1") = some (sequenceOf tokens "/F1", offset) := by
    rw [offered, found]
    rfl
  have listed : (pageFonts sharedFont.1 1).filter (fun entry => entry.2 = .object 5) =
      [("/F1", .object 5)] := by decide +kernel
  have here : pairOn sharedFont.1 contents (.object 5) 1 =
      some (sequenceOf tokens "/F1", offset) := by
    unfold pairOn
    rw [isContent, Option.bind_some, listed, List.filterMap_cons, offers]
    rfl
  show [1, 2].findSome? (pairOn sharedFont.1 contents (.object 5)) = _
  rw [List.findSome?_cons, here]

/-- The rule where both pages show the same text. -/
theorem shown_codes_mapped_iff_same_text :
    ∃ out, repairFonts (fun _ => some (showsShifted "~the board")) sharedFont.1 = some out ∧
      (CoversShown sharedFont.1 (fun _ => some (showsShifted "~the board")) out ↔
        RepairedForShown sharedFont.1 fun _ => some (showsShifted "~the board")) := by
  obtain ⟨offset, found⟩ := exists_bestOffset
  have done := @repairFonts_sharedFont offset (fun _ => some (showsShifted "~the board")) rfl found
  exact ⟨_, done, shown_codes_mapped_iff sharedFont _ _ done⟩

/-- What the second page alone shows is not mapped. -/
theorem shared_font_is_partly_mapped :
    ¬ ∀ (file : File) (contents : ℕ → Option (List Token)) (out : Document),
      repairFonts contents file.1 = some out → CoversShown file.1 contents out := by
  intro always
  let contents : ℕ → Option (List Token) := fun page =>
    some (showsShifted (if page = 1 then "~the board" else "county"))
  obtain ⟨offset, found⟩ := exists_bestOffset
  have done := @repairFonts_sharedFont offset contents rfl found
  have fonts := repaired_of_repairFonts sharedFont.2 done
  have isCandidate : isCandidate sharedFont.1 (.object 5) = some true := by decide +kernel
  have gives := @repairingPair_sharedFont _ offset contents rfl found
  obtain ⟨s, data, isEntry, isData, maps⟩ := fonts.maps isCandidate gives
  obtain ⟨data', isData', mapsShown⟩ :=
    always sharedFont contents _ done (.object 5) (.object s) (by decide +kernel)
      (by decide +kernel) isEntry
  obtain rfl := Option.some.inj (isData.symm.trans isData')
  -- The code of `y` is 92.
  have mapped := (maps 92).mp <| mapsShown 92 ⟨2, by decide +kernel, _, rfl, by decide +kernel⟩
  exact absurd mapped.1 (by decide +kernel)

end DicePipeline
