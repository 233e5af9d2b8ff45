import DicePipeline.Interaction.Traces
import DicePipeline.Remediation.Footprints
import DicePipeline.Submission.Rows

/-!
# The stored original

`_store_original` saves an upload under a name that is made of its account, its
hash and its filename, unless `default_storage.exists()` finds that name taken, and
every later attempt at the document trusts what is there.  A save that fails midway
leaves a part of the file under the name, and nothing removes it: the request fails,
and the next submit of the file finds the name taken and makes an attempt whose
original is not the file (`poisoned`).

`tornStorage` is the system over a storage whose saves may fail midway.  `Ensured`
are the originals a request has found or saved.  Where every object that a request
finds under the name of its original has the hash in that name (`findsIntact`), an
ensured original is intact and stays so, and so is the original of every attempt.

### What is load-bearing

`findsIntact` is asked of the two operations that rely on what is stored.  The test
relies on it whenever it finds something.  A save relies on it only if the storage does
not overwrite: then a name that is taken keeps its object, and the upload goes under
another name.  Saves that are torn are allowed, and so is whatever they leave, until a
request meets it under the name of its own original.
-/

namespace DicePipeline

open Interaction Program RemediationService

/-! ## A storage whose saves may fail midway -/

/-- What the outside world answers, and the part of the file a save has written when
it fails midway, if it does. -/
structure Weather where
  world : World
  torn : Option Bytes := none

/-- What a save that fails midway leaves: the part it has written, under the
requested name or, if that is taken, under the one the backend picks.  A backend
that overwrites replaces an object only once the whole file has arrived. -/
def Store.tornSave (settings : Settings) (world : World) (s : Store) (uri : Uri) (part : Bytes) :
    Store :=
  if (s.objects uri).isNone then
    { s with objects := Function.update s.objects uri (some part) }
  else if settings.fileOverwrite then s
  else if (s.objects (uri.withFilename world.alternative)).isNone then
    { s with
      objects := Function.update s.objects (uri.withFilename world.alternative) (some part) }
  else s

/-- One operation of connection `i`, with saves that may fail midway. -/
def executeTorn (settings : Settings) (weather : Weather) (i : ℕ) :
    (op : Op) → Store → Option (Except Exn op.Ans × Store)
  | .storageSave uri bytes, s =>
      match weather.torn with
      | some part =>
          some (.error (.other "The save failed midway."),
            s.tornSave settings weather.world uri part)
      | none => execute settings weather.world i (.storageSave uri bytes) s
  | op, s => execute settings weather.world i op s

/-- **The system over such a storage.** -/
def tornStorage (settings : Settings) (acceptsUrl : String → Bool) :
    Machine Query Exn (Option Response) Store Role Weather ℕ where
  exec := fun weather i op s => executeTorn settings weather i op s
  start := (system settings acceptsUrl).start
  crash := (system settings acceptsUrl).crash
  env := (system settings acceptsUrl).env

section Torn

variable {settings : Settings} {weather : Weather} {i : ℕ} {op : Op} {s t : Store}
variable {answer : Except Exn op.Ans}

/-- Either nothing fails midway, or a save does. -/
theorem executeTorn_cases (executed : executeTorn settings weather i op s = some (answer, t)) :
    execute settings weather.world i op s = some (answer, t) ∨
      ∃ uri bytes part exc, op = .storageSave uri bytes ∧
        t = s.tornSave settings weather.world uri part ∧
          answer = .error exc ∧ exc.isRaisedByCode = false := by
  cases op with
  | storageSave uri bytes =>
      simp only [executeTorn] at executed
      split at executed
      · rename_i part _
        obtain ⟨rfl, rfl⟩ := Prod.mk.inj (Option.some.inj executed)
        exact .inr ⟨uri, bytes, part, _, rfl, rfl, rfl, rfl⟩
      · exact .inl executed
  | _ => exact .inl executed

theorem executeTorn_answered (executed : executeTorn settings weather i op s = some (answer, t)) :
    answered op answer := by
  rcases executeTorn_cases executed with executed | ⟨_, _, _, exc, rfl, -, rfl, outside⟩
  · exact execute_answered executed
  · exact outside

/-- A save that fails midway replaces nothing. -/
theorem Store.tornSave_of_some {world : World} {uri other : Uri} {part bytes : Bytes}
    (stored : s.objects other = some bytes) :
    (s.tornSave settings world uri part).objects other = some bytes := by
  have free : ∀ name, s.objects name = none →
      Function.update s.objects name (some part) other = some bytes := by
    intro name isFree
    have different : other ≠ name := by
      rintro rfl
      rw [stored] at isFree
      cases isFree
    exact (Function.update_of_ne different _ _).trans stored
  unfold tornSave
  split
  · exact free uri (by simpa using ‹(s.objects uri).isNone = true›)
  · split
    · exact stored
    · split
      · exact free _ (by simpa using ‹(s.objects (uri.withFilename world.alternative)).isNone = true›)
      · exact stored

/-- And touches the objects only. -/
theorem Store.tornSave_rows {world : World} {uri : Uri} {part : Bytes} :
    (s.tornSave settings world uri part).rows = s.rows := by
  unfold tornSave
  split
  · rfl
  · split
    · rfl
    · split <;> rfl

end Torn

/-! ## Intact originals -/

/-- The name is one of an original, and what is stored there has the hash in it. -/
def Intact (settings : Settings) (s : Store) (uri : Uri) : Prop :=
  ∃ account filename bytes, uri = .original account (settings.sha256 bytes) filename ∧
    s.objects uri = some bytes

/-- What is stored under the name of an original, if anything is, has the hash in
the name. -/
def intactIfStored (settings : Settings) (s : Store) : Uri → Bool
  | .original account contentHash filename =>
      (s.objects (.original account contentHash filename)).all fun bytes =>
        settings.sha256 bytes = contentHash
  | _ => true

/-- Every attempt's original is stored and has the attempt's hash. -/
def OriginalsIntact (settings : Settings) (s : Store) : Prop :=
  ∀ row ∈ s.remediations, ∃ bytes, s.objects row.sourcePdfUri = some bytes ∧
    settings.sha256 bytes = row.contentHash

/-- **The condition.**  Whatever a request finds under the name of its original is intact: when
it tests for it, and when it saves to it without overwriting.

A save that was torn leaves an object behind with a part of the bytes.  A later submit of the
same file finds it stored, and does not save again. -/
def findsIntact (settings : Settings) (c : Cluster) : Label Role Weather ℕ → Bool
  | .step i _ => (c.threads i).all fun thread =>
      match thread.op with
      | .storageExists uri => intactIfStored settings c.store uri
      | .storageSave uri _ => settings.fileOverwrite || intactIfStored settings c.store uri
      | _ => true
  | _ => true

/-! ## What a request has ensured -/

/-- The originals a thread has found or saved. -/
abbrev Ensured := List Uri

/-- Moves on by one answer. -/
def Ensured.after (x : Ensured) : (op : Op) → Except Exn op.Ans → Ensured
  | .storageExists (.original account contentHash filename), .ok true =>
      .original account contentHash filename :: x
  | .storageSave (.original account contentHash filename) _, .ok _ =>
      .original account contentHash filename :: x
  | _, _ => x

/-- An attempt is made at an ensured original of its account and hash, an original is
saved under its own hash, and everything else that is saved or deleted is an output. -/
def Ensured.Permits (settings : Settings) (x : Ensured) : Op → Prop
  | .insertRemediation new => new.sourcePdfUri ∈ x ∧
      ∃ filename, new.sourcePdfUri = .original new.serviceAccount new.contentHash filename
  | .storageSave uri bytes =>
      (∃ account filename, uri = .original account (settings.sha256 bytes) filename) ∨
        ∃ account contentHash id step filename, uri = .output account contentHash id step filename
  | .storageDelete uri =>
      ∃ account contentHash id step filename, uri = .output account contentHash id step filename
  | _ => True

/-- Programs that follow the trace. -/
abbrev Ensures (settings : Settings) {α : Type} (Q : Ensured → Except Exn α → Prop) (p : Py α)
    (x : Ensured) : Prop :=
  p.Tracks Ensured.after answered (Ensured.Permits settings) Q x

/-- The operation makes no attempt, and neither saves nor deletes. -/
def LeavesOriginals : Op → Prop
  | .insertRemediation _ => False
  | .storageSave _ _ => False
  | .storageDelete _ => False
  | _ => True

section Programs

variable {settings : Settings} {x : Ensured} {account : ℕ} {upload : Upload} {α : Type}

private theorem ensures_of_leaves {p : Py α} (leaves : p.Only answered LeavesOriginals) :
    Ensures settings (fun _ _ => True) p x := by
  refine Only.tracks (I := fun _ => True) leaves trivial ?_
  intro y op _ ofClass
  refine ⟨?_, fun _ _ => trivial⟩
  cases op <;> trivial

/-- `_store_original` ensures the name it returns. -/
private theorem storeOriginal_ensures :
    Ensures settings (fun y r => ∀ uri, r = .ok uri → uri ∈ y ∧
        uri = .original account (upload.contentHash settings) upload.filename)
      (storeOriginal account (upload.contentHash settings) upload.filename upload.bytes) x := by
  refine ⟨trivial, fun answer _ => ?_⟩
  cases answer with
  | error exc => exact fun _ impossible => nomatch impossible
  | ok stored =>
      cases stored with
      | true =>
          rintro uri ⟨⟩
          exact ⟨List.mem_cons_self, rfl⟩
      | false =>
          refine ⟨.inl ⟨account, upload.filename, rfl⟩, fun answer _ => ?_⟩
          cases answer with
          | error exc => exact fun _ impossible => nomatch impossible
          | ok dest =>
              rintro uri ⟨⟩
              exact ⟨List.mem_cons_self, rfl⟩

private theorem makeAttempt_ensures :
    Ensures settings (fun _ _ => True) (makeAttempt settings account upload) x := by
  refine Tracks.bind storeOriginal_ensures ?_ fun _ _ _ => trivial
  intro uri y ensured
  obtain ⟨member, isOriginal⟩ := ensured uri rfl
  refine Tracks.attempt_bind (M := fun _ _ => True) ?_ ?_
  · refine ⟨trivial, fun answer _ => ?_⟩
    cases answer with
    | error exc => trivial
    | ok createdAt => exact ⟨⟨member, upload.filename, isOriginal⟩, fun _ _ => trivial⟩
  · intro made z _
    cases made with
    | ok row => trivial
    | error exc =>
        cases exc with
        | integrityError constraint =>
            refine ensures_of_leaves (Only.bind ((only_perform _).mpr trivial) fun current => ?_)
            cases current with
            | none => trivial
            | some current => exact Only.ite trivial trivial
        | _ => trivial

private theorem decide_ensures (limit : Option SubmissionLimit) :
    Ensures settings (fun _ _ => True)
      (RemediationService.decide settings account upload (some (checkLimit limit))) x := by
  have again : ∀ y : Ensured, Ensures settings (fun _ _ => True)
      (reusableAttempt settings account (upload.contentHash settings) upload.force) y :=
    fun y => ensures_of_leaves (reusableAttempt_only trivial trivial _)
  refine Tracks.bind (again x) ?_ fun _ _ _ => trivial
  intro reusable y _
  cases reusable with
  | some row => trivial
  | none =>
      refine Tracks.bind (M := fun _ _ => True) ?_ ?_ fun _ _ _ => trivial
      · exact ensures_of_leaves
          (checkLimit_only (fun _ _ => trivial) (fun _ _ _ => trivial) trivial)
      · intro _ z _
        refine Tracks.bind (again z) ?_ fun _ _ _ => trivial
        intro reusable z' _
        cases reusable with
        | some row => trivial
        | none => exact makeAttempt_ensures

/-- **A submit makes its attempt at an original it has ensured.** -/
theorem post_ensures (settings : Settings) (acceptsUrl : String → Bool) (account : ServiceAccount)
    (upload : Upload) :
    Ensures settings (fun _ _ => True)
      (CreateRemediationView.post settings acceptsUrl account upload) [] := by
  unfold CreateRemediationView.post
  cases limitFor account with
  | error exc => trivial
  | ok limit =>
      simp only [CreateRemediationView.submit]
      cases RemediationUploadSerializer.isValid acceptsUrl upload with
      | error exc => trivial
      | ok _ =>
          refine Tracks.bind (M := fun _ _ => True) ?_ ?_ fun _ _ _ => trivial
          · refine Tracks.attempt_bind (decide_ensures limit) fun outcome y _ => ?_
            cases outcome with
            | ok made => exact ensures_of_leaves (Only.bind ((only_perform _).mpr trivial) fun _ => trivial)
            | error exc =>
                exact ensures_of_leaves (Only.bind ((only_perform _).mpr trivial) fun _ => trivial)
          · intro made y _
            refine ensures_of_leaves (Only.bind ?_ fun _ => Only.bind ?_ fun _ => trivial)
            · exact subscribe_only trivial fun _ => trivial
            · exact queue_only trivial (fun _ _ _ => trivial) (fun _ => trivial)
                (fun _ => trivial) _ _

/-- A run of the task saves and deletes outputs only. -/
theorem run_ensures (settings : Settings) (id : ℕ) :
    Ensures settings (fun _ _ => True) (processRemediation settings id) [] := by
  refine Only.tracks (I := fun _ => True) (processRemediation_only settings id) trivial ?_
  intro y op _ ofRun
  refine ⟨?_, fun _ _ => trivial⟩
  cases op with
  | storageSave uri bytes =>
      obtain ⟨account, contentHash, step, filename, isOutput⟩ := ofRun
      exact .inr ⟨account, contentHash, id, step, filename, isOutput⟩
  | storageDelete uri =>
      obtain ⟨account, contentHash, step, filename, isOutput⟩ := ofRun
      exact ⟨account, contentHash, id, step, filename, isOutput⟩
  | insertRemediation new => exact ofRun.elim
  | _ => trivial

end Programs

/-! ## What a step keeps -/

section Steps

variable {settings : Settings} {weather : Weather} {i : ℕ} {op : Op} {s t : Store} {x : Ensured}
variable {answer : Except Exn op.Ans} {uri : Uri}

/-- An intact original stays intact. -/
theorem Intact.step (intact : Intact settings s uri) (permitted : x.Permits settings op)
    (executed : executeTorn settings weather i op s = some (answer, t)) : Intact settings t uri := by
  obtain ⟨account, filename, bytes, rfl, stored⟩ := intact
  rcases executeTorn_cases executed with performed | ⟨_, _, part, _, rfl, rfl, -, -⟩
  · cases execute_effect performed with
    | @deleted other =>
        obtain ⟨_, _, _, _, _, isOutput⟩ := permitted
        have different : Uri.original account (settings.sha256 bytes) filename ≠ other := by
          rintro rfl
          cases isOutput
        exact ⟨account, filename, bytes, rfl, (Function.update_of_ne different _ _).trans stored⟩
    | @stored other dest written landed =>
        by_cases same : Uri.original account (settings.sha256 bytes) filename = dest
        · subst same
          rcases landed with rfl | ⟨-, free⟩
          · -- It is saved again, under the hash of what is saved.
            rcases permitted with ⟨account', filename', isOriginal⟩ | ⟨_, _, _, _, _, impossible⟩
            · obtain ⟨rfl, sameHash, rfl⟩ := Uri.original.inj isOriginal
              refine ⟨account, filename, written, by rw [sameHash], Function.update_self _ _ _⟩
            · cases impossible
          · rw [stored] at free
            cases free
        · exact ⟨account, filename, bytes, rfl, (Function.update_of_ne same _ _).trans stored⟩
    | _ => exact ⟨account, filename, bytes, rfl, stored⟩
  · exact ⟨account, filename, bytes, rfl, Store.tornSave_of_some stored⟩

/-- What is stored under the name of an original is intact. -/
private theorem intact_of_intactIfStored {account : ℕ} {contentHash filename : String} {bytes : Bytes}
    (checked : intactIfStored settings s (.original account contentHash filename) = true)
    (stored : s.objects (.original account contentHash filename) = some bytes) :
    Intact settings s (.original account contentHash filename) := by
  have sameHash : settings.sha256 bytes = contentHash := by
    simpa [intactIfStored, stored] using checked
  subst sameHash
  exact ⟨account, filename, bytes, rfl, stored⟩

/-- An original that is found is intact, if what is found is. -/
private theorem intact_of_exists {account : ℕ} {contentHash filename : String}
    (checked : intactIfStored settings s (.original account contentHash filename) = true)
    (executed : executeTorn settings weather i
      (.storageExists (.original account contentHash filename)) s = some (.ok true, t)) :
    Intact settings t (.original account contentHash filename) := by
  obtain ⟨found, rfl⟩ := Prod.mk.inj (Option.some.inj (execute_ok executed))
  have isSome : (s.objects (.original account contentHash filename)).isSome = true :=
    Except.ok.inj found
  obtain ⟨bytes, stored⟩ := Option.isSome_iff_exists.mp isSome
  exact intact_of_intactIfStored checked stored

/-- An original that is saved is intact, if what is not overwritten is. -/
private theorem intact_of_save {account : ℕ} {contentHash filename : String} {bytes : Bytes}
    {dest : Uri}
    (permitted : x.Permits settings (.storageSave (.original account contentHash filename) bytes))
    (checked : (settings.fileOverwrite ||
      intactIfStored settings s (.original account contentHash filename)) = true)
    (executed : executeTorn settings weather i
      (.storageSave (.original account contentHash filename) bytes) s = some (.ok dest, t)) :
    Intact settings t (.original account contentHash filename) := by
  have own : settings.sha256 bytes = contentHash := by
    rcases permitted with ⟨_, _, isOriginal⟩ | ⟨_, _, _, _, _, impossible⟩
    · exact (Uri.original.inj isOriginal).2.1.symm
    · cases impossible
  subst own
  by_cases replaces : ((s.objects (.original account (settings.sha256 bytes) filename)).isNone ||
      settings.fileOverwrite) = true
  · rcases executeTorn_cases executed with performed | ⟨_, _, _, _, -, -, impossible, -⟩
    · have saved := execute_ok performed
      simp only [perform] at saved
      rw [if_pos replaces] at saved
      obtain ⟨-, rfl⟩ := Prod.mk.inj (Option.some.inj saved)
      exact ⟨account, filename, bytes, rfl, Function.update_self _ _ _⟩
    · cases impossible
  · rw [Bool.or_eq_true, not_or] at replaces
    obtain ⟨stored, isStored⟩ : ∃ stored,
        s.objects (.original account (settings.sha256 bytes) filename) = some stored := by
      refine Option.isSome_iff_exists.mp ?_
      rw [← Option.not_isNone, Bool.not_eq_true']
      exact Bool.eq_false_iff.mpr replaces.1
    have checked : intactIfStored settings s (.original account (settings.sha256 bytes) filename) =
        true := by simpa [replaces.2] using checked
    exact (intact_of_intactIfStored checked isStored).step permitted executed

/-- A row is an old one, at the same document with the same original, or the one that
was inserted. -/
theorem Effect.document_rows (effect : Effect i s op t) {row : Remediation} (member : row ∈ t.rows) :
    (∃ old ∈ s.rows, old.sourcePdfUri = row.sourcePdfUri ∧ old.serviceAccount = row.serviceAccount ∧
        old.contentHash = row.contentHash) ∨
      ∃ new, op = .insertRemediation new ∧ row = new.toRow s.nextId := by
  have stays : ∀ {rows : List Remediation}, rows.Subperm s.rows → row ∈ rows →
      ∃ old ∈ s.rows, old.sourcePdfUri = row.sourcePdfUri ∧
        old.serviceAccount = row.serviceAccount ∧ old.contentHash = row.contentHash :=
    fun fewer member => ⟨row, fewer.subset member, rfl, rfl, rfl⟩
  cases effect with
  | saved _ _ =>
      rcases Store.mem_updateRow_rows member with old | ⟨old, oldMember, -, rfl⟩
      · exact .inl ⟨row, old, rfl, rfl, rfl⟩
      · exact .inl ⟨old, Store.mem_rows_of_mem oldMember, rfl, rfl, rfl⟩
  | claimed _ _ _ =>
      rcases Store.mem_updateRow_rows member with old | ⟨old, oldMember, -, rfl⟩
      · exact .inl ⟨row, old, rfl, rfl, rfl⟩
      · exact .inl ⟨old, Store.mem_rows_of_mem oldMember, rfl, rfl, rfl⟩
  | @inserted new _ _ =>
      rw [Store.insert_rows] at member
      rcases List.mem_append.mp member with old | last
      · exact .inl ⟨row, old, rfl, rfl, rfl⟩
      · exact .inr ⟨new, rfl, List.mem_singleton.mp last⟩
  | committed => exact .inl (stays (s.endTransaction_rows i true) member)
  | abandoned => exact .inl (stays (s.endTransaction_rows i false) member)
  | rolledBack => exact .inl (stays (s.endTransaction_rows i false) member)
  | _ => exact .inl ⟨row, member, rfl, rfl, rfl⟩

end Steps

/-! ## The runs -/

/-- The originals thread `i` has ensured. -/
def ensured (i : ℕ) (history : List (Event Query Exn (Option Response) Role)) : Ensured :=
  Machine.observed (S := Query) Ensured.after [] i history

/-- Every attempt's original carries its account and hash, and is intact. -/
def RowsIntact (settings : Settings) (s : Store) : Prop :=
  ∀ row ∈ s.rows, (∃ filename,
    row.sourcePdfUri = .original row.serviceAccount row.contentHash filename) ∧
      Intact settings s row.sourcePdfUri

section Runs

variable {settings : Settings} {acceptsUrl : String → Bool} {retryFloor : Option String}
variable {ok : Cluster → Label Role Weather ℕ → Prop} {c : Cluster}

private theorem ensures_permitted
    (reached : (tornStorage settings acceptsUrl).Reach ok (deployed retryFloor) c) {i : ℕ}
    {thread : Thread Query Exn (Option Response) Role} (live : c.threads i = some thread) :
    (ensured i c.history).Permits settings thread.op := by
  have followed := reached.tracked (S := Query) Ensured.after [] answered
    (fun _ => Ensured.Permits settings) (fun _ _ _ => True) ?_ ?_
  · exact (followed.live i thread live).1
  · intro role s body started
    have isProgram : body = role.program settings acceptsUrl := start_eq started
    rw [isProgram]
    cases role with
    | request account upload =>
        exact Tracks.bind (post_ensures settings acceptsUrl account upload) (fun _ _ _ => trivial)
          fun _ _ _ => trivial
    | run id =>
        exact Tracks.bind (run_ensures settings id) (fun _ _ _ => trivial) fun _ _ _ => trivial
  · exact fun _ _ _ _ _ _ executed => executeTorn_answered executed

/-- What a thread has ensured is intact, where requests find intact originals. -/
private theorem ensured_intact
    (reached : (tornStorage settings acceptsUrl).Reach (findsIntact settings · ·)
      (deployed retryFloor) c) (i : ℕ) :
    ∀ uri ∈ ensured i c.history, Intact settings c.store uri := by
  refine reached.witnessed (S := Query) Ensured.after []
    (fun _ s x => ∀ uri ∈ x, Intact settings s uri) ?_ ?_ ?_ ?_ ?_ i
  · exact fun _ _ member => nomatch member
  · intro c i weather thread answer t before live admitted executed intact
    have permitted := ensures_permitted before live
    -- What the condition says of this step: the object it finds is not torn.
    have finds : (match thread.op with
        | .storageExists uri => intactIfStored settings c.store uri
        | .storageSave uri _ => settings.fileOverwrite || intactIfStored settings c.store uri
        | _ => true) = true := by
      simpa [findsIntact, live] using admitted
    replace executed : executeTorn settings weather i thread.op c.store = some (answer, t) := executed
    change ∀ uri ∈ ensured i c.history, Intact settings c.store uri at intact
    change ∀ uri ∈ (ensured i c.history).after thread.op answer, Intact settings t uri
    generalize ensured i c.history = x at *
    obtain ⟨role, op, next⟩ := thread
    dsimp only at executed answer permitted finds ⊢
    -- What is intact stays so, as objects of these names are written with their own bytes only.
    have kept : ∀ uri ∈ x, Intact settings t uri :=
      fun uri member => (intact uri member).step permitted executed
    -- An original is ensured by finding it stored, or by saving it whole.
    cases op with
    | storageExists uri =>
        cases uri with
        | original account contentHash filename =>
            cases answer with
            | error exc => exact kept
            | ok found =>
                cases found with
                | false => exact kept
                | true => exact List.forall_mem_cons.mpr ⟨intact_of_exists finds executed, kept⟩
        | _ => exact kept
    | storageSave uri bytes =>
        cases uri with
        | original account contentHash filename =>
            cases answer with
            | error exc => exact kept
            | ok dest =>
                exact List.forall_mem_cons.mpr ⟨intact_of_save permitted finds executed, kept⟩
        | _ => exact kept
    | _ => exact kept
  · intro c i j weather thread answer t x before live _ executed _ intact uri member
    exact (intact uri member).step (ensures_permitted before live) executed
  · exact fun _ _ _ _ intact => intact
  · exact fun _ _ _ _ intact => intact

private theorem rows_intact
    (reached : (tornStorage settings acceptsUrl).Reach (findsIntact settings · ·)
      (deployed retryFloor) c) : RowsIntact settings c.store := by
  refine reached.invariant (fun c => RowsIntact settings c.store) ?_ ?_
  · exact fun _ member => nomatch member
  · intro c choice c' before rows admitted moved
    cases choice with
    | spawn role =>
        obtain ⟨body, -, rfl⟩ := Machine.next_spawn_eq moved
        simpa using rows
    | step i weather =>
        obtain ⟨thread, answer, t, live, executed, rfl⟩ := Machine.next_step_eq moved
        have permitted := ensures_permitted before live
        have intact := ensured_intact before i
        rw [Config.place_store]
        dsimp only
        intro row member
        -- An old row names the same original, and that has stayed intact.
        have kept : ∀ old ∈ c.store.rows, old.sourcePdfUri = row.sourcePdfUri →
            old.serviceAccount = row.serviceAccount → old.contentHash = row.contentHash →
            (∃ filename, row.sourcePdfUri = .original row.serviceAccount row.contentHash filename) ∧
              Intact settings t row.sourcePdfUri := by
          intro old oldMember source account contentHash
          rw [← source, ← account, ← contentHash]
          obtain ⟨named, isIntact⟩ := rows old oldMember
          exact ⟨named, isIntact.step permitted executed⟩
        rcases executeTorn_cases executed with performed | ⟨_, _, _, _, _, rfl, -, -⟩
        · rcases (execute_effect performed).document_rows member with
            ⟨old, oldMember, source, account, contentHash⟩ | ⟨new, isInsert, rfl⟩
          · exact kept old oldMember source account contentHash
          · have permitted' := permitted
            rw [isInsert] at permitted'
            -- A new row names the original that its submit has ensured.
            obtain ⟨isEnsured, named⟩ := permitted'
            exact ⟨named, (intact _ isEnsured).step permitted executed⟩
        · rw [Store.tornSave_rows] at member
          exact kept row member rfl rfl rfl
    | kill i =>
        obtain ⟨_, -, rfl⟩ := Machine.next_kill_eq moved
        exact fun row member => rows row ((c.store.endTransaction_rows i false).subset member)
    | env elapsed =>
        obtain rfl := Machine.next_env_eq moved
        exact rows

end Runs

/-- **Original integrity**, where a request never finds a torn object under the name
of its original: every attempt's original is stored, and its bytes have the
attempt's hash. -/
theorem original_integrity (settings : Settings) (acceptsUrl : String → Bool)
    (retryFloor : Option String) (c : Cluster)
    (reached : (tornStorage settings acceptsUrl).Reach (findsIntact settings · ·)
      (deployed retryFloor) c) : OriginalsIntact settings c.store := by
  intro row member
  obtain ⟨⟨filename, named⟩, _, _, bytes, isOriginal, stored⟩ :=
    rows_intact reached row (Store.mem_rows_of_mem member)
  rw [named] at isOriginal
  exact ⟨bytes, stored, (Uri.original.inj isOriginal).2.1.symm⟩

/-- A deployment that tells the empty file, which a save that fails at once leaves,
from the one-byte file. -/
def Settings.hashing : Settings :=
  { Settings.stepsOff with
    sha256 := fun bytes =>
      if bytes = [1] then "4bf5122f344554c53bde2ebb8cd2b7e3d1600ad631c385a5d7cce23c7785459a"
      else "e3b0c44298fc1c149afbf4c8996fb92427ae41e4649b934ca495991b7852b855" }

/-- `n` operations of thread `i`, nothing failing. -/
private def fair (i n : ℕ) : List (Label Role Weather ℕ) :=
  List.replicate n (.step i { world := .uneventful })

/-- A submit whose save does not fail makes an attempt. -/
def savedWhole : List (Label Role Weather ℕ) :=
  .spawn (.request .noLimits .oneByte) :: fair 0 9

/-- The original of that attempt is intact. -/
theorem original_integrity_saved_whole :
    ∃ c : Cluster, c.store.remediations.length = 1 ∧ OriginalsIntact .hashing c.store := by
  obtain ⟨c, reached, one⟩ := Machine.exists_reach_of_replay
    (tornStorage .hashing fun _ => true) (findsIntact .hashing) (deployed none) savedWhole
    (fun c => c.store.remediations.length = 1) (by decide +kernel)
  exact ⟨c, by simpa using one, original_integrity _ _ none c reached⟩

/-- The save of a submit fails before its first byte is written, and the file is
submitted again. -/
def poisoned : List (Label Role Weather ℕ) :=
  .spawn (.request .noLimits .oneByte) :: fair 0 3 ++
  .step 0 { world := .uneventful, torn := some [] } :: fair 0 1 ++
  .spawn (.request .noLimits .oneByte) :: fair 1 8

/-- Some attempt's original is stored, and has another hash than the attempt. -/
def hasPoisoned (settings : Settings) (c : Cluster) : Bool :=
  c.store.remediations.any fun row =>
    (c.store.objects row.sourcePdfUri).any fun bytes => settings.sha256 bytes ≠ row.contentHash

/-- The second submit makes an attempt whose original is not the file. -/
theorem original_poisoned :
    ¬ ∀ (settings : Settings) (acceptsUrl : String → Bool) (retryFloor : Option String)
      (c : Cluster), (tornStorage settings acceptsUrl).Reach (fun _ _ => True)
        (deployed retryFloor) c → OriginalsIntact settings c.store := by
  intro claim
  obtain ⟨c, reached, torn⟩ := Machine.exists_reach_of_replay
    (tornStorage .hashing fun _ => true) (fun _ _ => true) (deployed none) poisoned
    (hasPoisoned .hashing) (by decide +kernel)
  have intact := claim _ _ none c (reached.mono fun _ _ _ => trivial)
  obtain ⟨row, member, isTorn⟩ := List.any_eq_true.mp torn
  obtain ⟨bytes, stored, sameHash⟩ := intact row member
  rw [stored] at isTorn
  simp [sameHash] at isTorn

end DicePipeline
