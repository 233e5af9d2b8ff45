import DicePipeline.Pdf.Frame

/-!
# The metadata step (`remediation/adapters/metadata/pike_pdf.py`)

`finalize` writes two dictionaries of the catalog, its language, the metadata, and
one entry of every page.  The dictionaries are new ones: whatever else was in
`MarkInfo` or in `ViewerPreferences` is gone.  So the step touches nothing else if
and only if nothing else was in them (`metadata_frame_iff`).

`open_metadata` is a parameter: it is given the document, the address of its `/Info`
dictionary, which the trailer refers to, and the title.  `none` is an exception
there, and an adapter error everywhere else.

### What is load-bearing

What is asked of the document is about two dictionaries as they were before the step.
Their own two entries may have had any value, as they are overwritten in any case.

`Synchronises` is all that is assumed of `open_metadata`: it may write the metadata
stream, the entry that refers to it, and the entries of `/Info` that it keeps in step.
That it writes what it should is not assumed, as nothing is proved of it.
-/

namespace DicePipeline.Metadata

open Pdf

/-- `open_metadata`, with `dc:title` and `pdfuaid:part` written in it. -/
abbrev OpenMetadata := Option ℕ → Document → String → Option Document

/-- `pdf.Root[key] = pikepdf.Dictionary(...)`. -/
def setCatalogDictionary (doc : Document) (key : String) (entries : Entries) : Document :=
  (doc.push ⟨.dictionary entries, 0⟩).setEntry doc.catalog key (.object doc.objects.length)

/-- `page["/Tabs"] = pikepdf.Name("/S")`. -/
def setTabs (doc : Document) (page : ℕ) : Option Document :=
  if doc.isDictionary (.object page) then some (doc.setEntry page "/Tabs" (.name "/S")) else none

/-- The writes to the catalog. -/
def patchCatalog (doc : Document) (lang : String) : Document :=
  let marked := setCatalogDictionary doc "/MarkInfo" [("/Marked", .number "true")]
  let named := marked.setEntry marked.catalog "/Lang" (.string lang)
  setCatalogDictionary named "/ViewerPreferences" [("/DisplayDocTitle", .number "true")]

/-- `finalize`, between opening and saving. -/
def finalize (openMetadata : OpenMetadata) (info : Option ℕ) (doc : Document)
    (title lang : String) : Option Document :=
  if !doc.isDictionary (.object doc.catalog) then none
  else do
    let described ← openMetadata info (patchCatalog doc lang) title
    described.pages.foldlM setTabs described

/-! ## What may change -/

/-- The entries of `/Info` that `open_metadata` keeps in step with the metadata. -/
def docinfoKeys : List String :=
  ["/Author", "/CreationDate", "/Creator", "/Keywords", "/ModDate", "/Producer", "/Subject",
    "/Title"]

/-- The entries of the metadata and of `/Info`. -/
def Synchronised (doc : Document) (info : Option ℕ) (a : ℕ) (key : String) : Prop :=
  (a = doc.catalog ∧ key = "/Metadata") ∨ (info = some a ∧ key ∈ docinfoKeys)

/-- The stream the metadata is in. -/
def MetadataStream (doc : Document) (a : ℕ) : Prop :=
  doc.get (.object doc.catalog) "/Metadata" = some (.object a)

/-- `open_metadata` touches the metadata and `/Info` only. -/
def Synchronises (openMetadata : OpenMetadata) : Prop :=
  ∀ info doc title out, openMetadata info doc title = some out →
    ChangesOnly (Synchronised doc info) (MetadataStream doc) doc out

/-- The entries that are written once the catalog is patched. -/
def WrittenLater (doc : Document) (info : Option ℕ) (a : ℕ) (key : String) : Prop :=
  (a ∈ doc.pages ∧ key = "/Tabs") ∨ Synchronised doc info a key

/-- The entries the step is there to write. -/
def Patched (doc : Document) (info : Option ℕ) (a : ℕ) (key : String) : Prop :=
  (a = doc.catalog ∧ key ∈ ["/MarkInfo", "/Lang", "/ViewerPreferences"]) ∨
    WrittenLater doc info a key

/-- An entry of a dictionary the catalog has. -/
def catalogEntry (doc : Document) (dictionary key : String) : Option Value :=
  (doc.get (.object doc.catalog) dictionary).bind (doc.get · key)

/-- The output differs from the input in what the step is there to write only: the language, the
two flags, the tab order of the pages, and what `open_metadata` synchronises. -/
structure TouchesNothingElse (info : Option ℕ) (doc out : Document) : Prop where
  frame : ChangesOnly (Patched doc info) (MetadataStream doc) doc out
  markInfo : ∀ key, key ≠ "/Marked" →
    catalogEntry out "/MarkInfo" key = catalogEntry doc "/MarkInfo" key
  viewerPreferences : ∀ key, key ≠ "/DisplayDocTitle" →
    catalogEntry out "/ViewerPreferences" key = catalogEntry doc "/ViewerPreferences" key

/-! ## The steps -/

variable {doc now out : Document} {info : Option ℕ} {title lang key other : String}
variable {entries : Entries} {openMetadata : OpenMetadata} {pages : List ℕ}
variable {changed : ℕ → String → Prop} {streams : ℕ → Prop}

theorem setCatalogDictionary_changes (allowed : changed doc.catalog key) :
    ChangesOnly changed streams doc (setCatalogDictionary doc key entries) :=
  ChangesOnly.push.trans (ChangesOnly.setEntry allowed)

/-- The catalog has the new dictionary. -/
theorem get_setCatalogDictionary (isDictionary : doc.isDictionary (.object doc.catalog) = true) :
    (setCatalogDictionary doc key entries).get (.object doc.catalog) key =
      some (.object doc.objects.length) := by
  have within := Document.within_of_isDictionary isDictionary
  refine Document.get_setEntry_self ?_
  rw [Document.dictionary?_push_of_lt (within _ rfl)]
  exact Option.isSome_iff_ne_none.mp isDictionary

/-- The new dictionary has the entries it is made of. -/
theorem get_new (isDictionary : doc.isDictionary (.object doc.catalog) = true) :
    (setCatalogDictionary doc key entries).get (.object doc.objects.length) other =
      entries.lookup other := by
  have within := Document.within_of_isDictionary isDictionary doc.catalog rfl
  unfold setCatalogDictionary
  rw [Document.get_setEntry_of_address_ne (by omega), Document.get_object,
    Document.dictionary?_object, Document.cell?_push_self]
  rfl

/-- The loop over the pages writes `/Tabs` only. -/
theorem setTabs_changes (allowed : ∀ page ∈ pages, changed page "/Tabs")
    (done : pages.foldlM setTabs now = some out) : ChangesOnly changed streams now out := by
  induction pages generalizing now with
  | nil =>
    obtain rfl := Option.some.inj done
    exact .refl _ _ _
  | cons page rest ih =>
    rw [List.foldlM_cons] at done
    obtain ⟨between, stepped, done⟩ := Option.bind_eq_some_iff.mp done
    unfold setTabs at stepped
    split at stepped
    · obtain rfl := Option.some.inj stepped
      exact (ChangesOnly.setEntry (allowed page List.mem_cons_self)).trans
        (ih (fun later member => allowed later (List.mem_cons_of_mem _ member)) done)
    · exact absurd stepped (by simp)

/-- What becomes of a new dictionary of the catalog, if what is done after is done to
other objects and under other keys. -/
theorem catalogEntry_new (isDictionary : doc.isDictionary (.object doc.catalog) = true)
    (after : ChangesOnly (fun a k => a < doc.objects.length ∧ k ≠ key) streams
      (setCatalogDictionary doc key entries) out) :
    catalogEntry out key other = entries.lookup other := by
  have length : (setCatalogDictionary doc key entries).objects.length = doc.objects.length + 1 := by
    unfold setCatalogDictionary Document.setEntry
    rw [Document.length_change, Document.length_push]
  have catalog : doc.catalog < doc.objects.length :=
    Document.within_of_isDictionary isDictionary doc.catalog rfl
  have sameCatalog : out.catalog = doc.catalog := after.catalog
  unfold catalogEntry
  rw [sameCatalog, after.entry doc.catalog (by omega) key fun own => own.2 rfl,
    get_setCatalogDictionary isDictionary, Option.bind_some,
    after.entry doc.objects.length (by omega) other fun own => Nat.lt_irrefl _ own.1,
    get_new isDictionary]

/-! ## The catalog -/

section Catalog

variable (isDictionary : doc.isDictionary (.object doc.catalog) = true)

/-- The three writes to the catalog. -/
theorem patchCatalog_changes
    (allowed : ∀ key ∈ ["/MarkInfo", "/Lang", "/ViewerPreferences"], changed doc.catalog key) :
    ChangesOnly changed streams doc (patchCatalog doc lang) :=
  (setCatalogDictionary_changes (allowed _ (by decide))).trans
    ((ChangesOnly.setEntry (allowed _ (by decide))).trans
      (setCatalogDictionary_changes (allowed _ (by decide))))

include isDictionary

theorem markInfo_patchCatalog (after : ChangesOnly
      (fun a k => a < doc.objects.length ∧ k ≠ "/MarkInfo" ∧ k ≠ "/ViewerPreferences") streams
      (patchCatalog doc lang) out) :
    catalogEntry out "/MarkInfo" key = List.lookup key [("/Marked", Value.number "true")] := by
  have catalog : doc.catalog < doc.objects.length :=
    Document.within_of_isDictionary isDictionary doc.catalog rfl
  refine catalogEntry_new isDictionary (ChangesOnly.trans ?_ (after.mono
    (fun a k own => ⟨own.1, own.2.1⟩) fun a own => own))
  exact (ChangesOnly.setEntry ⟨catalog, by decide⟩).trans
    (setCatalogDictionary_changes ⟨catalog, by decide⟩)

theorem viewerPreferences_patchCatalog (after : ChangesOnly
      (fun a k => a < doc.objects.length ∧ k ≠ "/MarkInfo" ∧ k ≠ "/ViewerPreferences") streams
      (patchCatalog doc lang) out) :
    catalogEntry out "/ViewerPreferences" key =
      List.lookup key [("/DisplayDocTitle", Value.number "true")] := by
  have catalog : doc.catalog < doc.objects.length :=
    Document.within_of_isDictionary isDictionary doc.catalog rfl
  have before : ChangesOnly (fun _ _ => True) (fun _ => True) doc
      ((setCatalogDictionary doc "/MarkInfo" [("/Marked", .number "true")]).setEntry doc.catalog
        "/Lang" (.string lang)) :=
    (setCatalogDictionary_changes trivial).trans (ChangesOnly.setEntry trivial)
  refine catalogEntry_new ((before.dictionary doc.catalog catalog).trans isDictionary)
    (after.mono (fun a k own => ⟨?_, own.2.2⟩) fun a own => own)
  exact Nat.lt_of_lt_of_le own.1 before.length

end Catalog

/-! ## The step -/

/-- The metadata and the loop over the pages. -/
theorem writtenLater {described : Document} (synchronises : Synchronises openMetadata)
    (isDictionary : doc.isDictionary (.object doc.catalog) = true)
    (isDescribed : openMetadata info (patchCatalog doc lang) title = some described)
    (done : described.pages.foldlM setTabs described = some out) :
    ChangesOnly (WrittenLater doc info) (MetadataStream doc) (patchCatalog doc lang) out := by
  have patches : ChangesOnly (fun _ key => key ≠ "/Metadata") (fun _ => True) doc
      (patchCatalog doc lang) := patchCatalog_changes (by decide)
  have describes := synchronises info _ title described isDescribed
  have samePages : described.pages = doc.pages := describes.pages.trans patches.pages
  refine (describes.mono ?_ ?_).trans (setTabs_changes ?_ done)
  · intro a key synchronised
    unfold Synchronised at synchronised
    rw [patches.catalog] at synchronised
    exact .inr synchronised
  · intro a isMetadata
    unfold MetadataStream at isMetadata ⊢
    have catalog := Document.within_of_isDictionary isDictionary doc.catalog rfl
    rwa [patches.catalog, patches.entry doc.catalog catalog "/Metadata" (by simp)] at isMetadata
  · intro page member
    rw [samePages] at member
    exact .inl ⟨member, rfl⟩

/-- What is written later is written to objects of the file, and not to the entries of
the catalog that are new. -/
theorem elsewhere_of_writtenLater {a : ℕ} (opened : Opened doc)
    (isDictionary : doc.isDictionary (.object doc.catalog) = true)
    (there : ∀ a, info = some a → a < doc.objects.length) (later : WrittenLater doc info a key) :
    a < doc.objects.length ∧ key ≠ "/MarkInfo" ∧ key ≠ "/ViewerPreferences" := by
  rcases later with ⟨member, rfl⟩ | ⟨rfl, rfl⟩ | ⟨isInfo, member⟩
  · exact ⟨opened.pagesThere a member, by decide⟩
  · exact ⟨Document.within_of_isDictionary isDictionary _ rfl, by decide⟩
  · refine ⟨there a isInfo, ?_, ?_⟩
    · rintro rfl
      exact absurd member (by decide)
    · rintro rfl
      exact absurd member (by decide)

end DicePipeline.Metadata

namespace DicePipeline

open Pdf Metadata

/-- **When the metadata step touches nothing else**: if and only if `MarkInfo` and
`ViewerPreferences` have no entries but the ones it writes.

Both dictionaries are replaced by new ones, and what else they had is lost.  `open_metadata` is
pikepdf's, of which it is assumed that it touches the metadata and `/Info` only. -/
theorem metadata_frame_iff (file : File) (info : Option (Fin file.1.objects.length))
    (openMetadata : OpenMetadata) (synchronises : Synchronises openMetadata)
    (title lang : String) (out : Document)
    (done : finalize openMetadata (info.map Fin.val) file.1 title lang = some out) :
    TouchesNothingElse (info.map Fin.val) file.1 out ↔
      (∀ key, key ≠ "/Marked" → catalogEntry file.1 "/MarkInfo" key = none) ∧
        ∀ key, key ≠ "/DisplayDocTitle" → catalogEntry file.1 "/ViewerPreferences" key = none := by
  obtain ⟨doc, opened⟩ := file
  have there : ∀ a, info.map Fin.val = some a → a < doc.objects.length := by
    intro a isInfo
    obtain ⟨found, -, rfl⟩ := Option.map_eq_some_iff.mp isInfo
    exact found.2
  unfold finalize at done
  split at done
  · exact absurd done (by simp)
  rename_i isDictionary
  have isDictionary : doc.isDictionary (.object doc.catalog) = true := by simpa using isDictionary
  obtain ⟨described, isDescribed, done⟩ := Option.bind_eq_some_iff.mp done
  have later := writtenLater synchronises isDictionary isDescribed done
  have elsewhere := later.mono
    (fun a key own => elsewhere_of_writtenLater opened isDictionary there own) fun a own => own
  -- Both dictionaries have one entry in the output.
  have markInfo : ∀ key, key ≠ "/Marked" → catalogEntry out "/MarkInfo" key = none := by
    intro key other
    rw [markInfo_patchCatalog isDictionary elsewhere]
    simp [other]
  have viewerPreferences : ∀ key, key ≠ "/DisplayDocTitle" →
      catalogEntry out "/ViewerPreferences" key = none := by
    intro key other
    rw [viewerPreferences_patchCatalog isDictionary elsewhere]
    simp [other]
  constructor
  · intro touches
    refine ⟨fun key other => ?_, fun key other => ?_⟩
    · rw [← touches.markInfo key other, markInfo key other]
    · rw [← touches.viewerPreferences key other, viewerPreferences key other]
  · rintro ⟨onlyMarked, onlyTitle⟩
    refine ⟨?_, fun key other => ?_, fun key other => ?_⟩
    · exact (patchCatalog_changes fun key member => .inl ⟨rfl, member⟩).trans
        (later.mono (fun a key own => .inr own) fun a own => own)
    · rw [markInfo key other, onlyMarked key other]
    · rw [viewerPreferences key other, onlyTitle key other]

/-- A document with one page, and with viewer preferences. -/
def withPreferences (preferences : Entries) : Document where
  objects := [
    ⟨.dictionary [("/Type", .name "/Catalog"), ("/ViewerPreferences", .object 2)], 1⟩,
    ⟨.dictionary [("/Type", .name "/Page")], 2⟩,
    ⟨.dictionary preferences, 0⟩]
  catalog := 0
  pages := [1]

/-- Writes the title into a new metadata stream. -/
def writeTitle : OpenMetadata := fun _ doc title =>
  some (doc.attachStream (.object doc.catalog) "/Metadata"
    (title.toList.map fun c => UInt8.ofNat c.toNat))

theorem synchronises_writeTitle : Synchronises writeTitle := by
  rintro info doc title out written
  obtain rfl := Option.some.inj written
  exact ChangesOnly.push.trans (ChangesOnly.setEntry (.inl ⟨rfl, rfl⟩))

/-- The rule for a document whose title is displayed already. -/
theorem metadata_frame_iff_title_displayed :
    let doc := withPreferences [("/DisplayDocTitle", .number "true")]
    ∃ out, finalize writeTitle none doc "Minutes" "en-US" = some out ∧
      (TouchesNothingElse none doc out ↔
        (∀ key, key ≠ "/Marked" → catalogEntry doc "/MarkInfo" key = none) ∧
          ∀ key, key ≠ "/DisplayDocTitle" → catalogEntry doc "/ViewerPreferences" key = none) := by
  intro doc
  have opened : Opened doc := by decide +kernel
  have runs : (finalize writeTitle none doc "Minutes" "en-US").isSome = true := by decide +kernel
  obtain ⟨out, done⟩ := Option.isSome_iff_exists.mp runs
  exact ⟨out, done, metadata_frame_iff ⟨doc, opened⟩ none writeTitle synchronises_writeTitle
    "Minutes" "en-US" out done⟩

/-- The reading direction of a document that is read from right to left is lost. -/
theorem reading_direction_is_lost :
    ¬ ∀ (file : File) (info : Option (Fin file.1.objects.length)) (openMetadata : OpenMetadata),
      Synchronises openMetadata → ∀ (title lang : String) (out : Document),
        finalize openMetadata (info.map Fin.val) file.1 title lang = some out →
        TouchesNothingElse (info.map Fin.val) file.1 out := by
  intro always
  have opened : Opened (withPreferences [("/Direction", .name "/R2L")]) := by decide +kernel
  have runs : (finalize writeTitle none (withPreferences [("/Direction", .name "/R2L")]) "Minutes"
      "ar").isSome = true := by decide +kernel
  obtain ⟨out, done⟩ := Option.isSome_iff_exists.mp runs
  have touches : TouchesNothingElse none (withPreferences [("/Direction", .name "/R2L")]) out :=
    always ⟨_, opened⟩ none writeTitle synchronises_writeTitle "Minutes" "ar" out done
  have direction := touches.viewerPreferences "/Direction" (by decide)
  have lost : (finalize writeTitle none (withPreferences [("/Direction", .name "/R2L")]) "Minutes"
      "ar").bind (catalogEntry · "/ViewerPreferences" "/Direction") = none := by decide +kernel
  rw [done, Option.bind_some, direction] at lost
  exact absurd lost (by decide +kernel)

end DicePipeline
