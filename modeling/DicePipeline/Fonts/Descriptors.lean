import DicePipeline.Fonts.CidSet

/-!
# Which descriptors are repaired

The loop takes the descriptors it reaches in the order of the pages, and of these
the first of each object number (`Served`).  Descriptors that are written in place
all have the number 0, so of them one at most is served.  The repair is complete if
and only if no other of them needs one (`cidsets_mended_iff`).

`Walked` is the invariant of the loop: a descriptor that has been served and needs
a CIDSet has a full one, and everything else is as it was.

### What is load-bearing

The number 0 is not the number of an object. pikepdf answers with it for every direct
object, and the set of numbers that the loop keeps then takes two descriptors for one.

How many glyphs a font file has is a parameter, as it is fontTools that reads it; a
file that it cannot read ends the repair of its descriptor, and of no other.
-/

namespace DicePipeline.Fonts

open Pdf

variable {glyphs : List UInt8 → Option ℕ} {doc now : Document} {state next : Walk} {page : ℕ}
variable {descriptor font value fonts : Value} {reached : List Value} {entries : Entries} {n : ℕ}

/-! ## What a descriptor needs -/

/-- The descriptors the fonts of a page lead to, in the order of the fonts. -/
def descriptorsOn (doc : Document) (page : ℕ) : List Value :=
  (pageFonts doc page).filterMap fun entry => (fontDescriptor doc entry.2).join

/-- The descriptors the fonts of all pages lead to. -/
def descriptors (doc : Document) : List Value := doc.pages.flatMap (descriptorsOn doc)

/-- The glyph count of the font program of a descriptor that has a CIDSet. -/
def glyphCount (glyphs : List UInt8 → Option ℕ) (doc : Document) (descriptor : Value) : Option ℕ :=
  (doc.get descriptor "/CIDSet").bind fun _ =>
    ((doc.get descriptor "/FontFile2").bind doc.stream?).bind glyphs

/-- Its CIDSet marks every CID below a number. -/
def MarksAll (doc : Document) (descriptor : Value) (n : ℕ) : Prop :=
  ∃ cidset data, doc.get descriptor "/CIDSet" = some cidset ∧ doc.stream? cidset = some data ∧
    ∀ cid < n, marks data cid = true

/-- Its CIDSet does not mark all the glyphs there are. -/
def Lacking (glyphs : List UInt8 → Option ℕ) (doc : Document) (descriptor : Value) (n : ℕ) : Prop :=
  glyphCount glyphs doc descriptor = some n ∧ ¬ MarksAll doc descriptor n

/-- Replaces the CIDSet by a full one. -/
def mend (doc : Document) (descriptor : Value) (n : ℕ) : Document :=
  doc.attachStream descriptor "/CIDSet" (buildFullCidset n)

/-- **One descriptor.** -/
theorem repairCidset_cases (done : repairCidset glyphs doc descriptor = some now) :
    doc.isDictionary descriptor = true ∧
      ((∃ n, Lacking glyphs doc descriptor n ∧ now = mend doc descriptor n) ∨
        (∀ n, ¬ Lacking glyphs doc descriptor n) ∧ now = doc) := by
  unfold repairCidset at done
  cases descriptor with
  | object address =>
    simp only at done
    split at done
    · exact absurd done (by simp)
    rename_i isDictionary
    refine ⟨by simpa using isDictionary, ?_⟩
    unfold Lacking MarksAll glyphCount
    -- Each thing that is missing ends the repair, and then nothing is lacking that could be mended.
    cases isCidset : doc.get (.object address) "/CIDSet" with
    | none =>
      simp only [isCidset] at done
      exact .inr ⟨by simp, (Option.some.inj done).symm⟩
    | some cidset =>
      cases isFile : doc.get (.object address) "/FontFile2" with
      | none =>
        simp only [isCidset, isFile] at done
        exact .inr ⟨by simp, (Option.some.inj done).symm⟩
      | some fontFile =>
        simp only [isCidset, isFile] at done
        obtain ⟨fontData, isData, done⟩ := Option.bind_eq_some_iff.mp done
        cases count : glyphs fontData with
        | none =>
          simp only [count] at done
          exact .inr ⟨by simp [isData, count], (Option.some.inj done).symm⟩
        | some numGlyphs =>
          simp only [count] at done
          obtain ⟨current, isCurrent, done⟩ := Option.bind_eq_some_iff.mp done
          split at done
          -- A set that covers all glyphs is left, any other is replaced by the full one.
          · rename_i covers
            refine .inr ⟨?_, (Option.some.inj done).symm⟩
            rintro n ⟨isCount, lacks⟩
            have isCount : numGlyphs = n := by simpa [isData, count] using isCount
            subst isCount
            exact lacks ⟨cidset, current, rfl, isCurrent, cidsetCoversAllGlyphs_iff.mp covers⟩
          · rename_i lacks
            refine .inl ⟨numGlyphs, ⟨by simp [isData, count], ?_⟩, (Option.some.inj done).symm⟩
            rintro ⟨cidset', data, same, isData', all⟩
            obtain rfl := Option.some.inj same
            obtain rfl := Option.some.inj (isCurrent.symm.trans isData')
            exact lacks (cidsetCoversAllGlyphs_iff.mpr all)
  | _ => exact absurd done (by simp)

section Congr

variable (same : SameBut "/CIDSet" doc now) (opened : Opened doc)
variable (kept : now.dictionary? descriptor = doc.dictionary? descriptor)

include same opened kept

/-- What a descriptor has is read from its own entries, and from streams. -/
theorem glyphCount_congr : glyphCount glyphs now descriptor = glyphCount glyphs doc descriptor := by
  unfold glyphCount Document.get
  rw [kept]
  cases isFile : (doc.dictionary? descriptor).bind fun entries => entries.lookup "/FontFile2" with
  | none => rfl
  | some fontFile =>
    rw [Option.bind_some, Option.bind_some, same.stream?_eq (opened.within_of_get isFile)]

theorem marksAll_congr : MarksAll now descriptor n ↔ MarksAll doc descriptor n := by
  unfold MarksAll Document.get
  rw [kept]
  refine exists_congr fun cidset => exists_congr fun data => and_congr_right fun isEntry => ?_
  rw [same.stream?_eq (opened.within_of_get isEntry)]

theorem lacking_congr : Lacking glyphs now descriptor n ↔ Lacking glyphs doc descriptor n := by
  unfold Lacking
  rw [glyphCount_congr same opened kept, marksAll_congr same opened kept]

end Congr

/-! ## The invariant -/

/-- The first of its object number, of the descriptors that have been reached. -/
def Served (doc : Document) (reached : List Value) (descriptor : Value) : Prop :=
  reached.find? (fun other => doc.number other = doc.number descriptor) = some descriptor

theorem mem_of_served (served : Served doc reached descriptor) : descriptor ∈ reached :=
  List.mem_of_find?_eq_some served

/-- A descriptor whose number has come up changes nothing. -/
theorem served_append_of_seen {other : Value} (seen : other ∈ reached)
    (sameNumber : doc.number other = doc.number descriptor) :
    Served doc (reached ++ [descriptor]) value ↔ Served doc reached value := by
  unfold Served
  rw [List.find?_append]
  cases found : reached.find? fun other => doc.number other = doc.number value with
  | some first => simp
  | none =>
    have different := List.find?_eq_none.mp found other seen
    rw [sameNumber] at different
    have noMatch : ¬ doc.number descriptor = doc.number value := by simpa using different
    simp [noMatch]

/-- One whose number is new is served. -/
theorem served_append_of_new (new : ∀ other ∈ reached, doc.number other ≠ doc.number descriptor) :
    Served doc (reached ++ [descriptor]) value ↔ Served doc reached value ∨ value = descriptor := by
  unfold Served
  rw [List.find?_append]
  cases found : reached.find? fun other => doc.number other = doc.number value with
  | some first =>
    simp only [Option.some_or, Option.some.injEq]
    refine ⟨.inl, ?_⟩
    rintro (same | rfl)
    · exact same
    · have sameNumber := List.find?_some found
      exact absurd (of_decide_eq_true sameNumber) (new first (List.mem_of_find?_eq_some found))
  | none =>
    simp only [Option.none_or, reduceCtorEq, false_or]
    by_cases sameNumber : doc.number descriptor = doc.number value
    · simp [sameNumber, eq_comm]
    · have different : value ≠ descriptor := fun same => sameNumber (same ▸ rfl)
      simp [sameNumber, different]

/-- A descriptor with an object number is the only one of its number. -/
theorem served_of_number (opened : Opened doc) (member : descriptor ∈ reached)
    (numbered : doc.number descriptor ≠ 0) : Served doc reached descriptor := by
  unfold Served
  cases found : reached.find? fun other => doc.number other = doc.number descriptor with
  | none => exact absurd (List.find?_eq_none.mp found descriptor member) (by simp)
  | some first =>
    have isSame := List.find?_some found
    have sameNumber : doc.number first = doc.number descriptor := of_decide_eq_true isSame
    rw [opened.eq_of_number (sameNumber ▸ numbered) sameNumber]

/-- What the loop has done for the descriptors it has reached. -/
structure Walked (glyphs : List UInt8 → Option ℕ) (doc : Document) (reached : List Value)
    (state : Walk) : Prop where
  frame : SameBut "/CIDSet" doc state.doc
  within : ∀ descriptor ∈ reached, doc.Within descriptor
  seen : ∀ id, id ∈ state.seenDescriptorIds ↔ ∃ other ∈ reached, doc.number other = id
  mended : ∀ descriptor n, Served doc reached descriptor → Lacking glyphs doc descriptor n →
    ∃ s < state.doc.objects.length, state.doc.get descriptor "/CIDSet" = some (.object s) ∧
      state.doc.stream? (.object s) = some (buildFullCidset n)
  others : ∀ value, doc.Within value →
    (Served doc reached value → ∀ n, ¬ Lacking glyphs doc value n) →
    state.doc.dictionary? value = doc.dictionary? value

private theorem exists_number_append {id : ℕ} :
    (∃ other ∈ reached ++ [descriptor], doc.number other = id) ↔
      id = doc.number descriptor ∨ ∃ other ∈ reached, doc.number other = id := by
  constructor
  · rintro ⟨other, member, same⟩
    rcases List.mem_append.mp member with before | own
    · exact .inr ⟨other, before, same⟩
    · exact .inl (List.mem_singleton.mp own ▸ same.symm)
  · rintro (rfl | ⟨other, member, same⟩)
    · exact ⟨descriptor, by simp, rfl⟩
    · exact ⟨other, List.mem_append_left _ member, same⟩

private theorem within_append (walked : Walked glyphs doc reached state)
    (within : doc.Within descriptor) : ∀ other ∈ reached ++ [descriptor], doc.Within other := by
  intro other member
  rcases List.mem_append.mp member with before | own
  · exact walked.within other before
  · exact List.mem_singleton.mp own ▸ within

/-- A descriptor whose number has come up. -/
theorem Walked.again (walked : Walked glyphs doc reached state) (within : doc.Within descriptor)
    {other : Value} (member : other ∈ reached)
    (sameNumber : doc.number other = doc.number descriptor) :
    Walked glyphs doc (reached ++ [descriptor]) state where
  frame := walked.frame
  within := within_append walked within
  seen := by
    intro id
    rw [walked.seen, exists_number_append]
    refine ⟨.inr, ?_⟩
    rintro (rfl | before)
    · exact ⟨other, member, sameNumber⟩
    · exact before
  mended := fun descriptor' n served =>
    walked.mended descriptor' n ((served_append_of_seen member sameNumber).mp served)
  others := fun value valueWithin needs => walked.others value valueWithin fun served =>
    needs ((served_append_of_seen member sameNumber).mpr served)

private theorem Walked.seen_new (walked : Walked glyphs doc reached state) (id : ℕ) :
    id ∈ doc.number descriptor :: state.seenDescriptorIds ↔
      ∃ other ∈ reached ++ [descriptor], doc.number other = id := by
  rw [List.mem_cons, walked.seen, exists_number_append]

section New

variable (walked : Walked glyphs doc reached state) (within : doc.Within descriptor)
variable (new : ∀ other ∈ reached, doc.number other ≠ doc.number descriptor)

include walked within new

/-- A descriptor that needs nothing. -/
theorem Walked.fine (fine : ∀ n, ¬ Lacking glyphs doc descriptor n) :
    Walked glyphs doc (reached ++ [descriptor])
      ⟨state.doc, doc.number descriptor :: state.seenDescriptorIds⟩ where
  frame := walked.frame
  within := within_append walked within
  seen := walked.seen_new
  mended := by
    intro descriptor' n served lacks
    rcases (served_append_of_new new).mp served with before | rfl
    · exact walked.mended descriptor' n before lacks
    · exact absurd lacks (fine n)
  others := fun value valueWithin needs => walked.others value valueWithin fun served =>
    needs ((served_append_of_new new).mpr (.inl served))

/-- A descriptor that is repaired. -/
theorem Walked.mend (isDictionary : state.doc.isDictionary descriptor = true)
    (lacks : Lacking glyphs doc descriptor n) :
    Walked glyphs doc (reached ++ [descriptor])
      ⟨Fonts.mend state.doc descriptor n, doc.number descriptor :: state.seenDescriptorIds⟩ := by
  have frame := walked.frame
  have step : SameBut "/CIDSet" state.doc (Fonts.mend state.doc descriptor n) :=
    attachStream_sameBut
  have others : ∀ value, doc.Within value → descriptor ≠ value →
      (Fonts.mend state.doc descriptor n).dictionary? value = state.doc.dictionary? value :=
    fun value valueWithin different =>
      dictionary?_attachStream_of_ne (frame.within valueWithin) different
  refine ⟨frame.trans step, within_append walked within, walked.seen_new, ?_, ?_⟩
  · intro descriptor' n' served lacks'
    rcases (served_append_of_new new).mp served with before | rfl
    · have different : descriptor ≠ descriptor' := by
        rintro rfl
        exact new descriptor (mem_of_served before) rfl
      obtain ⟨s, inside, isEntry, isData⟩ := walked.mended descriptor' n' before lacks'
      obtain ⟨inside, isData⟩ := step.stream_kept inside isData
      refine ⟨s, inside, ?_, isData⟩
      unfold Document.get at isEntry ⊢
      rw [others descriptor' (walked.within descriptor' (mem_of_served before)) different]
      exact isEntry
    · obtain rfl := Option.some.inj (lacks.1.symm.trans lacks'.1)
      exact get_attachStream isDictionary
  · intro value valueWithin needs
    have different : descriptor ≠ value := by
      rintro rfl
      exact needs ((served_append_of_new new).mpr (.inr rfl)) n lacks
    refine (others value valueWithin different).trans (walked.others value valueWithin fun served =>
      needs ((served_append_of_new new).mpr (.inl served)))

end New

/-- **The body of the loop**, for a descriptor. -/
theorem Walked.take (walked : Walked glyphs doc reached state) (opened : Opened doc)
    (within : doc.Within descriptor) (done : walkDescriptor glyphs state descriptor = some next) :
    Walked glyphs doc (reached ++ [descriptor]) next := by
  have walks : (if state.doc.number descriptor ∈ state.seenDescriptorIds then some state
      else (repairCidset glyphs state.doc descriptor).map fun doc =>
        (⟨doc, state.doc.number descriptor :: state.seenDescriptorIds⟩ : Walk)) = some next := by
    cases descriptor with
    | number text => exact absurd done (by simp [walkDescriptor])
    | _ => exact done
  rw [walked.frame.number_eq within] at walks
  split at walks
  · rename_i isSeen
    obtain rfl := Option.some.inj walks
    obtain ⟨other, member, sameNumber⟩ := (walked.seen _).mp isSeen
    exact walked.again within member sameNumber
  · rename_i unseen
    obtain ⟨doc', repaired, rfl⟩ := Option.map_eq_some_iff.mp walks
    have new : ∀ other ∈ reached, doc.number other ≠ doc.number descriptor :=
      fun other member same => unseen ((walked.seen _).mpr ⟨other, member, same⟩)
    -- It has not been touched so far.
    have kept := walked.others descriptor within fun served =>
      absurd rfl (new descriptor (mem_of_served served))
    obtain ⟨isDictionary, ⟨n, lacks, rfl⟩ | ⟨fine, rfl⟩⟩ := repairCidset_cases repaired
    · exact walked.mend within new isDictionary
        ((lacking_congr walked.frame opened kept).mp lacks)
    · exact walked.fine within new fun n lacks =>
        fine n ((lacking_congr walked.frame opened kept).mpr lacks)

/-! ## The loops -/

private theorem not_empty_of_get (isEntry : ∃ cidset, doc.get value "/CIDSet" = some cidset) :
    doc.dictionary? value ≠ some [] := by
  obtain ⟨cidset, isEntry⟩ := isEntry
  intro empty
  rw [Document.get, empty] at isEntry
  exact absurd isEntry (by simp)

/-- A dictionary is empty if it was: one that is repaired has an entry before and after. -/
theorem Walked.empty_iff (walked : Walked glyphs doc reached state) (within : doc.Within value) :
    state.doc.dictionary? value = some [] ↔ doc.dictionary? value = some [] := by
  by_cases needs : Served doc reached value ∧ ∃ n, Lacking glyphs doc value n
  · obtain ⟨served, n, lacks⟩ := needs
    obtain ⟨s, -, isEntry, -⟩ := walked.mended value n served lacks
    obtain ⟨cidset, isCidset, -⟩ := Option.bind_eq_some_iff.mp lacks.1
    exact iff_of_false (not_empty_of_get ⟨_, isEntry⟩) (not_empty_of_get ⟨_, isCidset⟩)
  · rw [walked.others value within fun served n lacks => needs ⟨served, n, lacks⟩]

/-- A font leads to the descriptor it led to before. -/
theorem Walked.fontDescriptor_eq (walked : Walked glyphs doc reached state) (opened : Opened doc)
    (within : doc.Within font) : fontDescriptor state.doc font = fontDescriptor doc font := by
  have same := walked.frame
  unfold fontDescriptor
  rw [same.isDictionary_eq within, same.textOf_eq within (by decide),
    same.get_eq within (by decide)]
  cases isDescendants : doc.get font "/DescendantFonts" with
  | none => rfl
  | some descendants =>
    have descendantsWithin := opened.within_of_get isDescendants
    simp only
    rw [same.array?_eq descendantsWithin]
    cases isArray : doc.array? descendants with
    | some items =>
      cases items with
      | nil => rfl
      | cons first rest =>
        have firstWithin := opened.within_of_mem isArray List.mem_cons_self
        simp only
        rw [same.isDictionary_eq firstWithin, same.get_eq firstWithin (by decide)]
    | none => simp only [walked.empty_iff descendantsWithin]

theorem isDictionary_of_fontDescriptor (found : fontDescriptor doc font ≠ none) :
    doc.isDictionary font = true := by
  by_contra other
  exact found (by simp [fontDescriptor, other])

theorem exists_descriptor (found : fontDescriptor doc font = some (some descriptor)) :
    ∃ first, doc.get first "/FontDescriptor" = some descriptor := by
  unfold fontDescriptor at found
  split at found
  · exact absurd found (by simp)
  split at found
  · exact absurd found (by simp)
  split at found
  · exact absurd found (by simp)
  split at found
  · exact absurd found (by simp)
  · split at found
    · exact ⟨_, Option.some.inj found⟩
    · exact absurd found (by simp)
  · split at found
    · exact absurd found (by simp)
    · exact absurd found (by simp)

/-- The loop over some fonts. -/
theorem Walked.walkFonts (walked : Walked glyphs doc reached state) (opened : Opened doc)
    (within : ∀ entry ∈ entries, doc.Within entry.2)
    (done : entries.foldlM (walkFont glyphs) state = some next) :
    Walked glyphs doc
      (reached ++ entries.filterMap fun entry => (fontDescriptor doc entry.2).join) next := by
  induction entries generalizing reached state with
  | nil =>
    obtain rfl := Option.some.inj done
    rwa [List.filterMap_nil, List.append_nil]
  | cons entry rest ih =>
    rw [List.foldlM_cons] at done
    obtain ⟨between, stepped, done⟩ := Option.bind_eq_some_iff.mp done
    have later : ∀ entry ∈ rest, doc.Within entry.2 := fun other member =>
      within other (List.mem_cons_of_mem _ member)
    unfold walkFont at stepped
    rw [walked.fontDescriptor_eq opened (within entry List.mem_cons_self)] at stepped
    rw [List.filterMap_cons]
    cases found : fontDescriptor doc entry.2 with
    | none =>
      rw [found] at stepped
      exact absurd stepped (by simp)
    | some leadsTo =>
      rw [found] at stepped
      cases leadsTo with
      | none =>
        obtain rfl := Option.some.inj stepped
        exact ih walked later done
      | some descriptor =>
        obtain ⟨first, isEntry⟩ := exists_descriptor found
        have taken := walked.take opened (opened.within_of_get isEntry) stepped
        have rested := ih taken later done
        rwa [List.append_assoc] at rested

theorem walkDescriptor_sameBut (done : walkDescriptor glyphs state descriptor = some next) :
    SameBut "/CIDSet" state.doc next.doc := by
  unfold walkDescriptor at done
  split at done
  · exact absurd done (by simp)
  split at done
  · obtain rfl := Option.some.inj done
    exact .refl _ _
  · obtain ⟨doc', repaired, rfl⟩ := Option.map_eq_some_iff.mp done
    rcases (repairCidset_cases repaired).2 with ⟨n, -, rfl⟩ | ⟨-, rfl⟩
    · exact attachStream_sameBut
    · exact .refl _ _

/-- What the loop goes through without an exception are dictionaries. -/
theorem isDictionary_of_walk (done : entries.foldlM (walkFont glyphs) state = some next)
    {entry : String × Value} (member : entry ∈ entries) (within : state.doc.Within entry.2) :
    state.doc.isDictionary entry.2 = true := by
  induction entries generalizing state with
  | nil => exact absurd member List.not_mem_nil
  | cons first rest ih =>
    rw [List.foldlM_cons] at done
    obtain ⟨between, stepped, done⟩ := Option.bind_eq_some_iff.mp done
    unfold walkFont at stepped
    split at stepped
    · exact absurd stepped (by simp)
    all_goals rename_i found
    · obtain rfl := Option.some.inj stepped
      rcases List.mem_cons.mp member with rfl | later
      · exact isDictionary_of_fontDescriptor (by simp [found])
      · exact ih done later within
    · have same := walkDescriptor_sameBut stepped
      rcases List.mem_cons.mp member with rfl | later
      · exact isDictionary_of_fontDescriptor (by simp [found])
      · rw [← same.isDictionary_eq within]
        exact ih done later (same.within within)

/-- The fonts a page lists are those it listed. -/
theorem Walked.pageFonts_eq (walked : Walked glyphs doc reached state) (opened : Opened doc)
    {resources : Value} (isFonts : doc.get resources "/Font" = some fonts)
    (areEntries : state.doc.dictionary? fonts = some entries)
    (done : entries.foldlM (walkFont glyphs) state = some next) :
    doc.dictionary? fonts = some entries := by
  rw [← areEntries]
  refine (walked.others fonts (opened.within_of_get isFonts) ?_).symm
  intro served n lacks
  -- The new CIDSet would be one of the fonts, and it is no dictionary.
  obtain ⟨s, inside, isEntry, isData⟩ := walked.mended fonts n served lacks
  rw [Document.get, areEntries, Option.bind_some] at isEntry
  obtain ⟨before, after, rfl, -⟩ := List.lookup_eq_some_iff.mp isEntry
  have within : state.doc.Within (.object s) := fun a same => Value.object.inj same ▸ inside
  have isDictionary := isDictionary_of_walk done
    (show ("/CIDSet", Value.object s) ∈ before ++ ("/CIDSet", .object s) :: after by simp) within
  rw [Document.isDictionary_of_stream? isData] at isDictionary
  exact Bool.false_ne_true isDictionary

/-- **One page.** -/
theorem Walked.walkPage (walked : Walked glyphs doc reached state) (opened : Opened doc)
    (there : page ∈ doc.pages) (done : Fonts.walkPage glyphs state page = some next) :
    Walked glyphs doc (reached ++ descriptorsOn doc page) next := by
  have frame := walked.frame
  have pageWithin : doc.Within (.object page) := by
    intro a same
    rw [← Value.object.inj same]
    exact opened.pagesThere page there
  unfold Fonts.walkPage at done
  rw [frame.get_eq pageWithin (by decide)] at done
  unfold descriptorsOn pageFonts
  cases isResources : doc.get (.object page) "/Resources" with
  | none =>
    rw [isResources] at done
    obtain rfl := Option.some.inj done
    simpa using walked
  | some resources =>
    simp only [isResources] at done
    split at done
    · exact absurd done (by simp)
    rw [frame.get_eq (opened.within_of_get isResources) (by decide)] at done
    rw [Option.bind_some]
    cases isFonts : doc.get resources "/Font" with
    | none =>
      rw [isFonts] at done
      obtain rfl := Option.some.inj done
      simpa using walked
    | some fonts =>
      simp only [isFonts] at done
      obtain ⟨entries, areEntries, done⟩ := Option.bind_eq_some_iff.mp done
      have before := walked.pageFonts_eq opened isFonts areEntries done
      rw [Option.bind_some, before]
      exact walked.walkFonts opened (fun entry member => opened.within_of_entry before member) done

/-- **All pages.** -/
theorem walked_of_repairCidsets (opened : Opened doc) (done : repairCidsets glyphs doc = some now) :
    ∃ state, state.doc = now ∧ Walked glyphs doc (descriptors doc) state := by
  obtain ⟨state, walks, rfl⟩ := Option.map_eq_some_iff.mp done
  refine ⟨state, rfl, ?_⟩
  have loop : ∀ (pages : List ℕ) (reached : List Value) (state next : Walk),
      (∀ page ∈ pages, page ∈ doc.pages) → Walked glyphs doc reached state →
      pages.foldlM (walkPage glyphs) state = some next →
      Walked glyphs doc (reached ++ pages.flatMap (descriptorsOn doc)) next := by
    intro pages
    induction pages with
    | nil =>
      intro reached state next _ walked looped
      obtain rfl := Option.some.inj looped
      simpa using walked
    | cons page rest ih =>
      intro reached state next there walked looped
      rw [List.foldlM_cons] at looped
      obtain ⟨between, stepped, looped⟩ := Option.bind_eq_some_iff.mp looped
      have after := walked.walkPage opened (there page List.mem_cons_self) stepped
      rw [List.flatMap_cons, ← List.append_assoc]
      exact ih _ between next (fun later member => there later (List.mem_cons_of_mem _ member))
        after looped
  refine loop doc.pages [] ⟨doc, []⟩ state (fun _ member => member) ?_ walks
  refine ⟨.refl _ _, ?_, ?_, ?_, fun _ _ _ => rfl⟩
  · intro descriptor member
    exact absurd member List.not_mem_nil
  · intro id
    simp
  · intro descriptor n served
    exact absurd (mem_of_served served) List.not_mem_nil

end DicePipeline.Fonts

namespace DicePipeline

open Pdf Fonts

/-- The CIDSets of a document are repaired, and nothing else is changed. -/
structure CidsetsMended (glyphs : List UInt8 → Option ℕ) (doc out : Document) : Prop where
  complete : ∀ descriptor ∈ descriptors doc, ∀ n, glyphCount glyphs doc descriptor = some n →
    MarksAll out descriptor n
  kept : ∀ descriptor ∈ descriptors doc, ∀ n, glyphCount glyphs doc descriptor = some n →
    MarksAll doc descriptor n → out.get descriptor "/CIDSet" = doc.get descriptor "/CIDSet"
  unchanged : ∀ value, doc.Within value →
    (value ∈ descriptors doc → glyphCount glyphs doc value = none) →
    out.dictionary? value = doc.dictionary? value

/-- **When all CIDSets are repaired**: if and only if, of the descriptors that are written in
place, none needs it but the first that is reached.

The code remembers the numbers of the descriptors it has seen.  Those that are written in place
have the number 0 all of them, so after the first one they count as seen. -/
theorem cidsets_mended_iff (file : File) (glyphs : List UInt8 → Option ℕ) (out : Document)
    (repaired : repairCidsets glyphs file.1 = some out) :
    CidsetsMended glyphs file.1 out ↔
      ∀ descriptor ∈ descriptors file.1, ∀ n, glyphCount glyphs file.1 descriptor = some n →
        ¬ MarksAll file.1 descriptor n → file.1.number descriptor = 0 →
        (descriptors file.1).find? (fun other => file.1.number other = 0) = some descriptor := by
  obtain ⟨doc, opened⟩ := file
  obtain ⟨state, rfl, walked⟩ := walked_of_repairCidsets opened repaired
  have frame := walked.frame
  -- What marks all its glyphs is left as it is.
  have complete : ∀ descriptor ∈ descriptors doc, ∀ n, glyphCount glyphs doc descriptor = some n →
      MarksAll doc descriptor n →
      state.doc.dictionary? descriptor = doc.dictionary? descriptor := by
    intro descriptor member n isCount marksAll
    refine walked.others descriptor (walked.within descriptor member) fun _ n' lacks => lacks.2 ?_
    rwa [← Option.some.inj (isCount.symm.trans lacks.1)]
  constructor
  · intro mended descriptor member n isCount lacks inPlace
    by_contra notFirst
    have same := walked.others descriptor (walked.within descriptor member) fun served => by
      unfold Served at served
      rw [inPlace] at served
      exact absurd served notFirst
    exact lacks ((marksAll_congr frame opened same).mp (mended.complete descriptor member n isCount))
  · intro onlyFirst
    refine ⟨?_, ?_, ?_⟩
    · intro descriptor member n isCount
      by_cases marksAll : MarksAll doc descriptor n
      · exact (marksAll_congr frame opened (complete descriptor member n isCount marksAll)).mpr
          marksAll
      · have served : Served doc (descriptors doc) descriptor := by
          by_cases inPlace : doc.number descriptor = 0
          · unfold Served
            rw [inPlace]
            exact onlyFirst descriptor member n isCount marksAll inPlace
          · exact served_of_number opened member inPlace
        obtain ⟨s, -, isEntry, isData⟩ := walked.mended descriptor n served ⟨isCount, marksAll⟩
        exact ⟨_, _, isEntry, isData, fun cid => marks_buildFullCidset_iff.mpr⟩
    · intro descriptor member n isCount marksAll
      unfold Document.get
      rw [complete descriptor member n isCount marksAll]
    · intro value within noCount
      refine walked.others value within fun served n lacks => ?_
      exact absurd (noCount (mem_of_served served)) (by simp [lacks.1])

/-- A page with two Type0 fonts.  Their descriptors, whose CIDSets mark nothing, have
the object numbers given. -/
def twoDescriptors (first second : ℕ) : Document where
  objects := [
    ⟨.dictionary [], 1⟩,
    ⟨.dictionary [("/Type", .name "/Page"), ("/Resources", .object 2)], 2⟩,
    ⟨.dictionary [("/Font", .object 3)], 3⟩,
    ⟨.dictionary [("/F1", .object 4), ("/F2", .object 5)], 4⟩,
    ⟨.dictionary [("/Subtype", .name "/Type0"), ("/DescendantFonts", .object 6)], 5⟩,
    ⟨.dictionary [("/Subtype", .name "/Type0"), ("/DescendantFonts", .object 7)], 6⟩,
    ⟨.array [.object 8], 7⟩,
    ⟨.array [.object 9], 8⟩,
    ⟨.dictionary [("/FontDescriptor", .object 10)], 9⟩,
    ⟨.dictionary [("/FontDescriptor", .object 11)], 10⟩,
    ⟨.dictionary [("/CIDSet", .object 12), ("/FontFile2", .object 13)], first⟩,
    ⟨.dictionary [("/CIDSet", .object 12), ("/FontFile2", .object 13)], second⟩,
    ⟨.stream [0], 13⟩,
    ⟨.stream [], 14⟩]
  catalog := 0
  pages := [1]

/-- The rule for two indirect descriptors, of a font program with two glyphs. -/
theorem cidsets_mended_iff_indirect :
    ∃ out, repairCidsets (fun _ => some 2) (twoDescriptors 11 12) = some out ∧
      (CidsetsMended (fun _ => some 2) (twoDescriptors 11 12) out ↔
        ∀ descriptor ∈ descriptors (twoDescriptors 11 12), ∀ n,
          glyphCount (fun _ => some 2) (twoDescriptors 11 12) descriptor = some n →
          ¬ MarksAll (twoDescriptors 11 12) descriptor n →
          (twoDescriptors 11 12).number descriptor = 0 →
          (descriptors (twoDescriptors 11 12)).find?
            (fun other => (twoDescriptors 11 12).number other = 0) = some descriptor) := by
  have opened : Opened (twoDescriptors 11 12) := by decide +kernel
  have runs : (repairCidsets (fun _ => some 2) (twoDescriptors 11 12)).isSome = true := by
    decide +kernel
  obtain ⟨out, repaired⟩ := Option.isSome_iff_exists.mp runs
  exact ⟨out, repaired, cidsets_mended_iff ⟨twoDescriptors 11 12, opened⟩ _ out repaired⟩

/-- Of two descriptors that are written in place, the second is skipped. -/
theorem descriptor_in_place_is_skipped :
    ¬ ∀ (file : File) (glyphs : List UInt8 → Option ℕ) (out : Document),
      repairCidsets glyphs file.1 = some out → CidsetsMended glyphs file.1 out := by
  intro always
  have opened : Opened (twoDescriptors 0 0) := by decide +kernel
  have runs : (repairCidsets (fun _ => some 2) (twoDescriptors 0 0)).isSome = true := by
    decide +kernel
  obtain ⟨out, repaired⟩ := Option.isSome_iff_exists.mp runs
  have mended : CidsetsMended (fun _ => some 2) (twoDescriptors 0 0) out :=
    always ⟨twoDescriptors 0 0, opened⟩ (fun _ => some 2) out repaired
  obtain ⟨cidset, data, isEntry, isData, all⟩ :=
    mended.complete (.object 11) (by decide +kernel) 2 (by decide +kernel)
  -- Its CIDSet is the one it had, which marks nothing.
  have outIs : (repairCidsets (fun _ => some 2) (twoDescriptors 0 0)).bind
      (·.get (.object 11) "/CIDSet") = some (.object 12) := by decide +kernel
  have streamIs : (repairCidsets (fun _ => some 2) (twoDescriptors 0 0)).bind
      (·.stream? (.object 12)) = some [0] := by decide +kernel
  rw [repaired] at outIs streamIs
  obtain rfl := Option.some.inj (outIs.symm.trans isEntry)
  obtain rfl := Option.some.inj (streamIs.symm.trans isData)
  exact absurd (all 0 (by decide)) (by decide)

end DicePipeline
