import DicePipeline.Submission.Alone
import DicePipeline.System

/-!
# Submit is all or nothing

`post` commits in three places: the attempt, the callback, and the task.  A
failure of the first is a rollback.  The second can only fail on a
`callback_url` that is too long for its column, which the serializer does not
check, and then the attempt of the first stays, with no task.  The third does not
fail while the database is up.

`submit_all_or_nothing` makes this exact: a submit is all or nothing if and only
if its `callback_url` fits the column, or the stored state lets it make no
attempt.

### What is load-bearing

The condition has two parts because the view asks for the attempt before it asks for
the callback.  A URL that is too long does no harm where the submit is refused, or
finds an attempt that it need not make: `CreatesNow` is what remains.

Of the stored state it is assumed that no transaction is open in it, and that no
callback refers to an attempt which is yet to be made.
-/

namespace DicePipeline

open Interaction Program Environment

/-! ## What a submit leaves -/

/-- The primary keys of the committed attempts. -/
def Store.ids (s : Store) : List ℕ := s.remediations.map (·.id)

/-- The callback the caller asked for is registered on the attempt. -/
def Subscribed (upload : Upload) (remediation : ℕ) (t : Store) : Prop :=
  upload.callbackUrl ≠ "" → ∃ callback ∈ t.callbacks,
    callback.remediation = remediation ∧ callback.callbackUrl = upload.callbackUrl

/-- **All or nothing.**  The submit answers 200 or 201, with the callback
registered, and with the task queued if it made an attempt; or it answers with an
error and there is no new attempt and no new callback. -/
def AllOrNothing (upload : Upload) (s : Store) : Except Exn Response → Store → Prop
  | .ok response, t => Subscribed upload response.remediation.id t ∧
      (response.statusCode = 200 ∧ t.ids = s.ids ∨
        response.statusCode = 201 ∧ t.ids = s.ids ++ [response.remediation.id] ∧
          t.processTasks = response.remediation.id :: s.processTasks)
  | .error _, t => t.ids = s.ids ∧ t.callbacks = s.callbacks

/-! ## Finding or making the attempt -/

section Resolve

variable {settings : Settings} {acceptsUrl : String → Bool} {account : ServiceAccount}
variable {upload : Upload} {origin : StoredState} {limit : Option SubmissionLimit}

/-- How `_create_or_reuse_unfinished` ends. -/
def Made (settings : Settings) (account : ℕ) (upload : Upload) (origin : StoredState) :
    Except Exn (Remediation × Bool) → Store → Prop
  | .error _, s => Unwritten origin s
  | .ok (row, false), s => Unwritten origin s ∧ row ∈ origin.store.remediations
  | .ok (row, true), s => Inserted origin row s ∧
      (∃ createdAt, (upload.newRemediation settings account createdAt).fits = .ok ()) ∧
        origin.store.clashes 0 origin.store.nextId account (upload.contentHash settings) = false

/-- `_store_original` writes nothing a caller can see. -/
private theorem storeOriginal_spec (account : ℕ) (contentHash filename : String) (bytes : Bytes) :
    Triple (Alone settings) (Unwritten origin)
      (RemediationService.storeOriginal account contentHash filename bytes)
      (Reads origin fun path => path = .original account contentHash filename) := by
  refine Reads.bind (φ := fun _ => True) (reads_issue trivial fun _ _ _ _ _ _ _ => trivial) ?_
    fun _ _ unwritten => unwritten
  intro stored _
  cases stored with
  | true => exact Reads.done rfl
  | false =>
      exact Reads.bind (φ := fun _ => True) (reads_issue trivial fun _ _ _ _ _ _ _ => trivial)
        (fun _ _ => Reads.done rfl) fun _ _ unwritten => unwritten

/-- `create`: the insert, if it goes through, found no clash. -/
private theorem create_spec (account : ℕ) :
    Triple (Alone settings) (Unwritten origin)
      (RemediationService.create settings account
        (.original account (upload.contentHash settings) upload.filename)
        (upload.contentHash settings) upload.filename)
      fun r s => Made settings account upload origin (r.map fun row => (row, true)) s := by
  refine Reads.bind (φ := fun _ => True) (reads_issue trivial fun _ _ _ _ _ _ _ => trivial) ?_
    fun _ _ unwritten => unwritten
  intro createdAt _
  refine alone_issue stable_unwritten ?_
  intro s r t world healthy unwritten executed
  cases r with
  | error exc =>
      obtain rfl | impossible := execute_error executed
      · exact unwritten
      · cases impossible
  | ok row =>
      have performed := execute_ok executed
      simp only [perform] at performed
      split at performed
      · cases (Prod.mk.inj (Option.some.inj performed)).1
      · rename_i fits
        split at performed
        · cases (Prod.mk.inj (Option.some.inj performed)).1
        · rename_i noClash
          split at performed
          · cases performed
          · obtain ⟨same, rfl⟩ := Prod.mk.inj (Option.some.inj performed)
            obtain rfl := Except.ok.inj same
            refine ⟨⟨unwritten.remediations, ?_, unwritten.nextId, unwritten.callbacks,
              unwritten.processTasks⟩, ⟨createdAt, fits⟩, ?_⟩
            · simp [unwritten.pending]
            · have same : s.clashes 0 s.nextId account (upload.contentHash settings) =
                  origin.store.clashes 0 origin.store.nextId account
                    (upload.contentHash settings) := by
                simp [Store.clashes, Store.uncommitted, unwritten.remediations, unwritten.pending,
                  unwritten.nextId, origin.committed]
              rw [← same]
              simpa using noClash

/-- The last two statements of `get_or_create_from_upload`. -/
private theorem makeAttempt_spec (account : ℕ) :
    Triple (Alone settings) (Unwritten origin)
      (RemediationService.makeAttempt settings account upload)
      (Made settings account upload origin) := by
  refine Reads.bind (storeOriginal_spec _ _ _ _) ?_ fun _ _ unwritten => unwritten
  rintro _ rfl
  refine Triple.attempt_bind (create_spec account) fun made => ?_
  cases made with
  | ok row => exact Triple.done fun s made => made
  | error exc =>
      cases exc with
      | integrityError constraint =>
          refine Reads.bind (latestForDocument_spec account _) ?_ fun _ _ unwritten => unwritten
          intro current found
          cases current with
          | none => exact Triple.done fun _ unwritten => unwritten
          | some current =>
              simp only
              split
              · exact Triple.done fun _ unwritten =>
                  ⟨unwritten, (Store.latest_mem found.symm).1⟩
              · exact Triple.done fun _ unwritten => unwritten
      | _ => exact Triple.done fun _ unwritten => unwritten

/-- How the body of the transaction ends. -/
def Decided (settings : Settings) (account : ℕ) (upload : Upload)
    (limit : Option SubmissionLimit) (origin : StoredState) :
    Except Exn (Remediation × Bool) → Store → Prop
  | .error _, s => Unwritten origin s
  | .ok (row, false), s => Unwritten origin s ∧ row ∈ origin.store.remediations
  | .ok (row, true), s => Made settings account upload origin (.ok (row, true)) s ∧
      origin.store.wantsAttempt settings account (upload.contentHash settings) upload.force = true ∧
        ∃ elapsed, Store.hasRoom { origin.store with clock := origin.store.clock + elapsed } limit =
          true

/-- The body of the transaction: the first look, the limit, the second look, and
the insert. -/
private theorem decide_spec (account : ℕ) :
    Triple (Alone settings) (Unwritten origin)
      (RemediationService.decide settings account upload (some (checkLimit limit)))
      (Decided settings account upload limit origin) := by
  refine Reads.bind (reusableAttempt_spec account _ _) ?_ fun _ _ unwritten => unwritten
  intro reusable found
  cases reusable with
  | some row => exact Triple.done fun s unwritten => ⟨unwritten, found⟩
  | none =>
      refine Reads.bind (checkLimit_spec limit) ?_ fun _ _ unwritten => unwritten
      intro _ room
      refine Reads.bind (reusableAttempt_spec account _ _) ?_ fun _ _ unwritten => unwritten
      intro reusable found
      cases reusable with
      | some row => exact Triple.done fun s unwritten => ⟨unwritten, found⟩
      | none =>
          refine (makeAttempt_spec account).post fun r s made => ?_
          cases r with
          | error exc => exact made
          | ok pair =>
              obtain ⟨row, created⟩ := pair
              cases created with
              | false => exact made
              | true => exact ⟨made, found, room⟩

/-- How `get_or_create_from_upload` ends. -/
def Resolved (settings : Settings) (acceptsUrl : String → Bool) (account : ServiceAccount)
    (upload : Upload) (origin : StoredState) : Except Exn (Remediation × Bool) → Store → Prop
  | .error _, s => Unwritten origin s
  | .ok (row, false), s => Unwritten origin s ∧ row ∈ origin.store.remediations
  | .ok (row, true), s => Created origin row s ∧
      upload.MayCreate settings acceptsUrl account origin.store

/-- The end of a transaction that inserted nothing. -/
theorem Unwritten.endTransaction {s : Store} (unwritten : Unwritten origin s) (keep : Bool) :
    Unwritten origin (s.endTransaction 0 keep) where
  remediations := by
    cases keep <;> simp [Store.endTransaction, Store.uncommitted, unwritten.pending,
      unwritten.remediations]
  pending := by simp [Store.endTransaction, unwritten.pending]
  nextId := unwritten.nextId
  callbacks := unwritten.callbacks
  processTasks := unwritten.processTasks
  pipelineConfig := unwritten.pipelineConfig
  clock := unwritten.clock

/-- The commit of a transaction that inserted one attempt. -/
theorem Inserted.commit {s : Store} {row : Remediation} (inserted : Inserted origin row s) :
    Created origin row (s.endTransaction 0 true) where
  remediations := by
    simp [Store.endTransaction, Store.uncommitted, inserted.pending, inserted.remediations]
  isNew := inserted.isNew
  callbacks := inserted.callbacks
  processTasks := inserted.processTasks

/-- With a working database a commit goes through. -/
theorem execute_commit {world : World} {s t : Store} {r : Except Exn Unit}
    (healthy : world.database = none)
    (executed : execute settings world 0 .commit s = some (r, t)) :
    r = .ok () ∧ t = s.endTransaction 0 true := by
  simp only [execute, World.failure, healthy, Option.map_none, perform] at executed
  obtain ⟨rfl, rfl⟩ := Prod.mk.inj (Option.some.inj executed)
  exact ⟨rfl, rfl⟩

/-- **`get_or_create_from_upload`** leaves nothing, or a stored attempt, or a new
one that the state allowed. -/
theorem getOrCreate_spec (valid : RemediationUploadSerializer.isValid acceptsUrl upload = .ok ())
    (limited : limitFor account = .ok limit) :
    Triple (Alone settings) (Unwritten origin)
      (RemediationService.getOrCreateFromUpload settings account.id upload
        (some (checkLimit limit)))
      (Resolved settings acceptsUrl account upload origin) := by
  refine Triple.attempt_bind (decide_spec account.id) fun outcome => ?_
  cases outcome with
  | error exc =>
      refine Triple.bind (M := fun _ s => Unwritten origin s)
        (alone_issue stable_unwritten ?_) ?_ fun exc s unwritten => unwritten
      · intro s r t world healthy unwritten executed
        cases execute_effect executed with
        | unchanged => exact unwritten
        | rolledBack => exact unwritten.endTransaction false
      · exact fun _ => Triple.done fun s unwritten => unwritten
  | ok made =>
      obtain ⟨row, created⟩ := made
      cases created with
      | false =>
          refine Triple.bind (M := fun _ s => Unwritten origin s ∧ row ∈ origin.store.remediations)
            (alone_issue (stable_unwritten.and (Stable.const _)) ?_) ?_ fun exc s known => known.1
          · rintro s r t world healthy ⟨unwritten, member⟩ executed
            obtain ⟨-, rfl⟩ := execute_commit healthy executed
            exact ⟨unwritten.endTransaction true, member⟩
          · exact fun _ => Triple.done fun s known => known
      | true =>
          refine Triple.bind (M := fun r s => r = .ok () ∧ Created origin row s ∧
            upload.MayCreate settings acceptsUrl account origin.store)
            (Triple.pre (P := fun s => Inserted origin row s ∧
              upload.MayCreate settings acceptsUrl account origin.store)
              (alone_issue ((stable_inserted row).and (Stable.const _)) ?_) ?_) ?_
            fun exc s known => by cases known.1
          · rintro s r t world healthy ⟨inserted, may⟩ executed
            obtain ⟨rfl, rfl⟩ := execute_commit healthy executed
            exact ⟨rfl, inserted.commit, may⟩
          · rintro s ⟨⟨inserted, ⟨createdAt, fits⟩, noClash⟩, wanted, elapsed, room⟩
            exact ⟨inserted, elapsed, limit, valid, limited, wanted, room, fits, noClash⟩
          · exact fun _ => Triple.done fun s known => known.2

end Resolve

/-! ## Registering the callback, and queueing the task -/

/-- The attempts and the tasks are these, and the callback is registered on attempt
`id`. -/
structure Committed (upload : Upload) (ids tasks : List ℕ) (id : ℕ) (s : Store) : Prop where
  ids : s.ids = ids
  tasks : s.processTasks = tasks
  subscribed : Subscribed upload id s

section Register

variable {settings : Settings} {upload : Upload} {ids tasks : List ℕ} {id : ℕ}
variable {callbacks : List RemediationCallback} {world : World} {s t : Store}

theorem stable_committed : (Alone settings).Stable (Committed upload ids tasks id) := by
  rintro s _ committed ⟨elapsed, rfl⟩
  exact ⟨committed.ids, committed.tasks, committed.subscribed⟩

/-- Rewriting rows keeps their keys. -/
theorem Store.updateRow_ids {f : Remediation → Remediation} (kept : ∀ row, (f row).id = row.id) :
    (s.updateRow id f).ids = s.ids := by
  simp only [Store.ids, Store.updateRow, List.map_map]
  refine List.map_congr_left fun row _ => ?_
  simp only [Function.comp_apply]
  split
  · exact kept row
  · rfl

/-- What `subscribe` leaves: the callback, or nothing where its URL does not fit the column. -/
private def Registered (upload : Upload) (ids tasks : List ℕ) (callbacks : List RemediationCallback)
    (id : ℕ) : Except Exn Unit → Store → Prop
  | .ok _, s => Committed upload ids tasks id s
  | .error _, s => callbackUrlMaxLength < upload.callbackUrl.length ∧
      s.ids = ids ∧ s.callbacks = callbacks

private theorem subscribe_spec (remediation : Remediation) :
    Triple (Alone settings)
      (fun s => s.ids = ids ∧ s.processTasks = tasks ∧ s.callbacks = callbacks)
      (CreateRemediationView.subscribe remediation upload.callbackUrl)
      (Registered upload ids tasks callbacks remediation.id) := by
  rw [CreateRemediationView.subscribe]
  split
  · rename_i noUrl
    refine Triple.done ?_
    rintro s ⟨sameIds, sameTasks, -⟩
    exact ⟨sameIds, sameTasks, fun hasUrl => absurd noUrl hasUrl⟩
  · have stable : (Alone settings).Stable
        fun s => s.ids = ids ∧ s.processTasks = tasks ∧ s.callbacks = callbacks := by
      rintro s _ known ⟨elapsed, rfl⟩
      exact known
    refine Triple.bind (M := fun r s => Registered upload ids tasks callbacks remediation.id
      (r.map fun _ => ()) s) (alone_issue stable ?_) ?_ fun exc s tooLong => tooLong
    · rintro s r t world healthy ⟨sameIds, sameTasks, sameCallbacks⟩ executed
      simp only [execute, World.failure, healthy, Option.map_none, perform] at executed
      split at executed
      · rename_i callback found
        obtain ⟨rfl, rfl⟩ := Prod.mk.inj (Option.some.inj executed)
        refine ⟨sameIds, sameTasks, fun _ => ⟨callback, List.mem_of_find?_eq_some found, ?_⟩⟩
        simpa using List.find?_some found
      · split at executed
        · rename_i tooLong
          obtain ⟨rfl, rfl⟩ := Prod.mk.inj (Option.some.inj executed)
          exact ⟨tooLong, sameIds, sameCallbacks⟩
        · obtain ⟨rfl, rfl⟩ := Prod.mk.inj (Option.some.inj executed)
          exact ⟨sameIds, sameTasks, fun _ =>
            ⟨_, List.mem_append_right _ (List.mem_singleton_self _), rfl, rfl⟩⟩
    · rintro ⟨callback, created⟩
      simp only
      cases created && remediation.status.isFinished with
      | true =>
          refine alone_issue stable_committed ?_
          intro s r t world healthy committed executed
          simp only [execute, World.failure, healthy, Option.map_none, perform] at executed
          obtain ⟨rfl, rfl⟩ := Prod.mk.inj (Option.some.inj executed)
          exact ⟨committed.ids, committed.tasks, committed.subscribed⟩
      | false => exact Triple.done fun s committed => committed

/-- `claim_enqueue` answers, and a new attempt is always claimed. -/
private theorem claimEnqueue_spec (remediation : Remediation) (created : Bool) :
    Triple (Alone settings) (Committed upload ids tasks id)
      (RemediationService.claimEnqueue settings remediation created)
      fun r s => Committed upload ids tasks id s ∧ ∃ claimed, r = .ok claimed ∧
        (created = true → claimed = true) := by
  have now : Triple (Alone settings) (Committed upload ids tasks id) (issue .now)
      fun r s => Committed upload ids tasks id s ∧ ∃ now : ℕ, r = .ok now := by
    refine alone_issue stable_committed ?_
    intro s r t world healthy committed executed
    obtain ⟨rfl, rfl⟩ := Prod.mk.inj (Option.some.inj executed)
    exact ⟨committed, _, rfl⟩
  rw [RemediationService.claimEnqueue]
  split
  · exact Triple.done fun s committed => ⟨committed, true, rfl, fun _ => rfl⟩
  · rename_i notCreated
    refine Triple.bind (M := fun r s => Committed upload ids tasks id s ∧ ∃ stuck, r = .ok stuck)
      ?_ ?_ fun exc s known => by obtain ⟨_, _, impossible⟩ := known; cases impossible
    · rw [RemediationService.isStuck]
      split
      · exact Triple.done fun s committed => ⟨committed, _, rfl⟩
      · exact Triple.bind now (fun _ => Triple.done fun s known => ⟨known.1, _, rfl⟩)
          fun exc s known => by obtain ⟨_, _, impossible⟩ := known; cases impossible
    · intro stuck
      cases stuck with
      | false => exact Triple.done fun s known => ⟨known.1, false, rfl, fun h => absurd h notCreated⟩
      | true =>
          refine Triple.bind (now.pre fun s known => known.1) ?_
            fun exc s known => by obtain ⟨_, _, impossible⟩ := known; cases impossible
          intro time
          refine Triple.pre (P := Committed upload ids tasks id) (alone_issue stable_committed ?_)
            fun s known => known.1
          intro s r t world healthy committed executed
          refine ⟨?_, ?_⟩
          · cases execute_effect executed with
            | unchanged => exact committed
            | claimed _ _ _ =>
                refine ⟨Eq.trans ?_ committed.ids, committed.tasks, committed.subscribed⟩
                exact Store.updateRow_ids fun _ => rfl
          · simp only [execute, World.failure, healthy, Option.map_none, perform] at executed
            repeat' split at executed
            all_goals
              obtain ⟨rfl, -⟩ := Prod.mk.inj (Option.some.inj executed)
              exact ⟨_, rfl, fun h => absurd h notCreated⟩

/-- `queue` answers with the attempt, and queues the task of a new one. -/
private theorem queue_spec (remediation : Remediation) (created : Bool)
    (known : remediation.id ∈ ids) :
    Triple (Alone settings) (Committed upload ids tasks remediation.id)
      (CreateRemediationView.queue settings remediation created)
      fun r s => Subscribed upload remediation.id s ∧ s.ids = ids ∧
        (created = true → s.processTasks = remediation.id :: tasks) ∧
          ∃ answer, r = .ok answer ∧ answer.id = remediation.id := by
  refine Triple.bind (claimEnqueue_spec remediation created) ?_
    fun exc s known => by obtain ⟨_, _, impossible, _⟩ := known; cases impossible
  intro claimed
  cases claimed with
  | false =>
      refine Triple.done ?_
      rintro s ⟨committed, _, same, isClaimed⟩
      refine ⟨committed.subscribed, committed.ids, ?_, _, rfl, rfl⟩
      obtain rfl := Except.ok.inj same
      exact fun isCreated => absurd (isClaimed isCreated) Bool.false_ne_true
  | true =>
      refine Triple.bind (M := fun r s => r = .ok () ∧
        Committed upload ids (remediation.id :: tasks) remediation.id s)
        (Triple.pre (P := Committed upload ids tasks remediation.id)
          (alone_issue stable_committed ?_) fun s known => known.1) ?_
        fun exc s known => by cases known.1
      · intro s r t world healthy committed executed
        simp only [execute, World.failure, healthy, Option.map_none, perform] at executed
        obtain ⟨rfl, rfl⟩ := Prod.mk.inj (Option.some.inj executed)
        exact ⟨rfl, committed.ids, congrArg (remediation.id :: ·) committed.tasks, committed.subscribed⟩
      · intro _
        refine Triple.pre (P := Committed upload ids (remediation.id :: tasks) remediation.id)
          (alone_issue stable_committed ?_) fun s known => known.2
        intro s r t world healthy committed executed
        have stored : ∃ row, s.row remediation.id = some row := by
          rw [← committed.ids] at known
          obtain ⟨row, member, same⟩ := List.mem_map.mp known
          exact Option.isSome_iff_exists.mp
            (List.find?_isSome.mpr ⟨row, member, by simpa using same⟩)
        obtain ⟨row, found⟩ := stored
        simp only [execute, World.failure, healthy, Option.map_none, perform, found] at executed
        obtain ⟨rfl, rfl⟩ := Prod.mk.inj (Option.some.inj executed)
        exact ⟨committed.subscribed, committed.ids, fun _ => committed.tasks, row, rfl, Store.row_id found⟩

end Register

/-! ## The upper half -/

section Upper

variable {settings : Settings} {acceptsUrl : String → Bool} {account : ServiceAccount}
variable {upload : Upload} {origin : StoredState}

/-- **The condition.**  The `callback_url` fits its column, or the submit makes no attempt.

It is about the request and the state before it.  Whether an attempt is made depends on the
clock as well, which moves on until the request looks at it; so it must make none whenever it
does. -/
def Upload.Fits (settings : Settings) (acceptsUrl : String → Bool) (account : ServiceAccount)
    (upload : Upload) (s : Store) : Prop :=
  upload.callbackUrl.length ≤ callbackUrlMaxLength ∨
    ¬upload.MayCreate settings acceptsUrl account s

/-- An error before anything is written. -/
theorem Unwritten.allOrNothing {s : Store} {exc : Exn} (unwritten : Unwritten origin s) :
    AllOrNothing upload origin.store (.error exc) s :=
  ⟨congrArg (List.map _) unwritten.remediations, unwritten.callbacks⟩

/-- What follows `get_or_create_from_upload`. -/
private theorem respond_spec (row : Remediation) (created : Bool) {P : Store → Prop}
    {ids : List ℕ} (known : row.id ∈ ids)
    (start : ∀ s, P s → s.ids = ids ∧ s.processTasks = origin.store.processTasks ∧
      s.callbacks = origin.store.callbacks)
    (isIds : ids = if created then origin.store.ids ++ [row.id] else origin.store.ids)
    (fits : created = true → upload.callbackUrl.length ≤ callbackUrlMaxLength) :
    Triple (Alone settings) P
      ((CreateRemediationView.subscribe row upload.callbackUrl).bind fun _ =>
        (CreateRemediationView.queue settings row created).bind fun remediation =>
          .done (.ok { statusCode := if created then 201 else 200, remediation := remediation }))
      (AllOrNothing upload origin.store) := by
  refine Triple.bind ((subscribe_spec row).pre start) ?_ ?_
  · intro _
    refine Triple.bind (queue_spec row created known) ?_ ?_
    · intro answer
      refine Triple.done ?_
      rintro s ⟨subscribed, sameIds, queued, _, same, isRow⟩
      obtain rfl := Except.ok.inj same
      subst isIds
      refine ⟨isRow ▸ subscribed, ?_⟩
      cases created with
      | false => exact .inl ⟨rfl, sameIds⟩
      | true => exact .inr ⟨rfl, by rw [sameIds, isRow]; rfl, by rw [queued rfl, isRow]⟩
    · rintro exc s ⟨_, _, _, _, impossible, _⟩
      cases impossible
  · rintro exc s ⟨tooLong, sameIds, sameCallbacks⟩
    cases created with
    | false => exact ⟨sameIds.trans isIds, sameCallbacks⟩
    | true => exact absurd (fits rfl) (Nat.not_le_of_lt tooLong)

/-- **A submit that fits is all or nothing.** -/
theorem post_spec (fits : upload.Fits settings acceptsUrl account origin.store) :
    Triple (Alone settings) (Unwritten origin)
      (CreateRemediationView.post settings acceptsUrl account upload)
      (AllOrNothing upload origin.store) := by
  rw [CreateRemediationView.post]
  cases limited : limitFor account with
  | error exc => exact Triple.done fun s unwritten => unwritten.allOrNothing
  | ok limit =>
      simp only [CreateRemediationView.submit]
      cases valid : RemediationUploadSerializer.isValid acceptsUrl upload with
      | error exc => exact Triple.done fun s unwritten => unwritten.allOrNothing
      | ok _ =>
          refine Triple.bind (getOrCreate_spec valid limited) ?_
            fun exc s unwritten => unwritten.allOrNothing
          rintro ⟨row, created⟩
          cases created with
          | false =>
              rintro s ⟨unwritten, member⟩
              refine respond_spec row false (List.mem_map_of_mem member) ?_ rfl
                (fun impossible => by cases impossible) s unwritten
              exact fun s unwritten => ⟨congrArg (List.map _) unwritten.remediations,
                unwritten.processTasks, unwritten.callbacks⟩
          | true =>
              rintro s ⟨made, may⟩
              have short : upload.callbackUrl.length ≤ callbackUrlMaxLength :=
                fits.resolve_right fun never => never may
              refine respond_spec row true (List.mem_append_right _ (List.mem_singleton_self _)) ?_
                rfl (fun _ => short) s made
              exact fun s made => ⟨by simp [Store.ids, made.remediations], made.processTasks,
                made.callbacks⟩

end Upper

/-! ## The lower half -/

/-- What a submit that goes through has changed before its insert: nothing but
the answer kept for its connection, the account's lock, and the storage. -/
structure Near (origin s : Store) : Prop where
  remediations : s.remediations = origin.remediations
  pending : s.pending = []
  nextId : s.nextId = origin.nextId
  callbacks : s.callbacks = origin.callbacks
  pipelineConfig : s.pipelineConfig = origin.pipelineConfig
  clock : s.clock = origin.clock
  locks : ∀ account, s.locks account = none ∨ s.locks account = some 0

section Lower

variable {settings : Settings} {acceptsUrl : String → Bool} {account : ServiceAccount}
variable {upload : Upload} {origin s t : Store} {limit : Option SubmissionLimit} {op : Op}

/-- An operation when nothing outside fails. -/
private theorem returns_issue {answer : Except Exn op.Ans}
    (performed : execute settings .uneventful 0 op s = some (answer, t)) :
    (Alone settings).Returns (issue op) s answer t :=
  Returns.perform ⟨.uneventful, rfl, performed⟩

/-- A second look finds nothing to reuse, either. -/
private theorem reusableAttempt_returns {accountId : ℕ} {contentHash : String} {force : Bool}
    (near : Near origin s)
    (wanted : origin.wantsAttempt settings accountId contentHash force = true) :
    ∃ t, Near origin t ∧ (Alone settings).Returns
      (RemediationService.reusableAttempt settings accountId contentHash force) s (.ok none) t := by
  have same : s.latest accountId contentHash = origin.latest accountId contentHash := by
    rw [Store.latest, Store.latest, Store.attempts, Store.attempts, near.remediations]
  refine ⟨{ s with lookups := Function.update s.lookups 0 (s.latest accountId contentHash) },
    ⟨near.remediations, near.pending, near.nextId, near.callbacks, near.pipelineConfig, near.clock,
      near.locks⟩, ?_⟩
  refine Returns.bind _ (returns_issue rfl) ?_
  rw [Store.wantsAttempt, ← same] at wanted
  cases found : s.latest accountId contentHash with
  | none => exact Returns.done
  | some existing =>
      rw [found] at wanted
      simp only [Bool.and_eq_true, Bool.not_eq_true'] at wanted
      simp only [wanted.1, Bool.false_eq_true, if_false]
      refine Returns.bind true ?_ Returns.done
      rw [RemediationService.shouldRetry]
      have retried := wanted.2
      rw [retries, Bool.or_eq_true, Bool.and_eq_true, Bool.or_eq_true] at retried
      rcases retried with forced | ⟨failed, outdated⟩
      · rw [if_pos forced]
        exact Returns.done
      · split
        · exact Returns.done
        · rw [if_neg]
          · refine Returns.bind _ (Returns.bind _ (returns_issue rfl) Returns.done) ?_
            rw [near.pipelineConfig, outdated]
            exact Returns.done
          · simp only [decide_eq_true_eq] at failed
            tauto

/-- The limit check passes where there is room. -/
private theorem checkLimit_returns (settings : Settings) (near : Near origin s) (room : origin.hasRoom limit = true) :
    ∃ t, Near origin t ∧ (Alone settings).Returns (checkLimit limit) s (.ok ()) t := by
  cases limit with
  | none => exact ⟨s, near, Returns.done⟩
  | some l =>
      -- The lock is free, or this connection's already.
      have locked : ∃ locks, execute settings .uneventful 0 (.lockAccount l.account) s =
          some (.ok (), { s with locks := locks }) ∧
            ∀ account, locks account = none ∨ locks account = some 0 := by
        rcases near.locks l.account with free | held
        · refine ⟨Function.update s.locks l.account (some 0), by simp only [execute,
            World.failure, World.uneventful, Option.map_none, perform, free], fun account => ?_⟩
          by_cases same : account = l.account
          · subst same
            exact .inr (Function.update_self _ _ _)
          · rw [Function.update_of_ne same]
            exact near.locks account
        · exact ⟨s.locks, by simp [execute, World.failure, World.uneventful, perform, held],
            near.locks⟩
      obtain ⟨locks, performed, own⟩ := locked
      refine ⟨{ s with locks := locks }, ⟨near.remediations, near.pending, near.nextId,
        near.callbacks, near.pipelineConfig, near.clock, own⟩, ?_⟩
      have counting : (Alone settings).Returns
          (RemediationService.recentSubmissions l.account l.duration true) s
          (.ok ⟨(s.recent l.account (s.clock - seconds l.duration)).length,
            ((s.recent l.account (s.clock - seconds l.duration)).map (·.createdAt)).min?⟩)
          { s with locks := locks } := by
        refine Returns.bind () (returns_issue performed) ?_
        exact Returns.bind s.clock (returns_issue rfl) (returns_issue rfl)
      have fewer : (s.recent l.account (s.clock - seconds l.duration)).length <
          l.numRequests := by
        rw [Store.recent, near.remediations, near.clock]
        simpa [Store.hasRoom, Store.recent] using room
      refine Returns.bind _ counting ?_
      simp only
      rw [if_pos fewer]
      exact Returns.done

/-- Storing the original goes through. -/
private theorem storeOriginal_returns (settings : Settings) (near : Near origin s) (accountId : ℕ)
    (contentHash filename : String) (bytes : Bytes) :
    ∃ t, Near origin t ∧ (Alone settings).Returns
      (RemediationService.storeOriginal accountId contentHash filename bytes) s
      (.ok (.original accountId contentHash filename)) t := by
  cases present : (s.objects (.original accountId contentHash filename)).isSome with
  | true =>
      refine ⟨s, near, Returns.bind true (returns_issue ?_) Returns.done⟩
      simp only [execute, World.failure, World.uneventful, Option.map_none, perform, present]
      rfl
  | false =>
      have absent : (s.objects (.original accountId contentHash filename)).isNone = true := by
        rw [← Option.not_isSome, present]
        rfl
      have saved : execute settings .uneventful 0
          (.storageSave (.original accountId contentHash filename) bytes) s =
            some (.ok (.original accountId contentHash filename),
              { s with
                objects := Function.update s.objects (.original accountId contentHash filename)
                  (some bytes) }) := by
        simp only [execute, World.failure, World.uneventful, Option.map_none, perform, absent,
          Bool.true_or, if_true]
      refine ⟨_, ?_, Returns.bind false (returns_issue ?_)
        (Returns.bind _ (returns_issue saved) Returns.done)⟩
      · exact ⟨near.remediations, near.pending, near.nextId, near.callbacks, near.pipelineConfig,
          near.clock, near.locks⟩
      · simp only [execute, World.failure, World.uneventful, Option.map_none, perform, present]
        rfl

/-- The insert goes through where the row fits and nothing clashes. -/
private theorem makeAttempt_returns {accountId : ℕ} (near : Near origin s)
    (fits : (upload.newRemediation settings accountId origin.clock).fits = .ok ())
    (unclashed : origin.clashes 0 origin.nextId accountId (upload.contentHash settings) = false) :
    ∃ row t, (Alone settings).Returns
        (RemediationService.makeAttempt settings accountId upload) s (.ok (row, true)) t ∧
      t.remediations = origin.remediations ∧ t.pending = [(0, row)] ∧ row.id = origin.nextId ∧
        t.callbacks = origin.callbacks := by
  obtain ⟨u, nearU, storing⟩ := storeOriginal_returns settings near accountId
    (upload.contentHash settings) upload.filename upload.bytes
  refine ⟨(upload.newRemediation settings accountId u.clock).toRow u.nextId,
    { u with
      pending := u.pending ++
        [(0, (upload.newRemediation settings accountId u.clock).toRow u.nextId)]
      nextId := u.nextId + 1 }, Returns.bind _ storing ?_, nearU.remediations, ?_, nearU.nextId,
    nearU.callbacks⟩
  · refine Returns.attempt_bind (r := .ok ((upload.newRemediation settings accountId u.clock).toRow
      u.nextId)) (Returns.bind u.clock (returns_issue rfl) (returns_issue ?_)) Returns.done
    have noClash : u.clashes 0 u.nextId accountId (upload.contentHash settings) = false := by
      have same : u.uncommitted 0 = [] := by simp [Store.uncommitted, nearU.pending]
      rw [Store.clashes, same, nearU.remediations, nearU.nextId]
      rw [Store.clashes, List.any_append, Bool.or_eq_false_iff] at unclashed
      simpa using unclashed.1
    have noWait : u.awaits 0 accountId (upload.contentHash settings) = false := by
      simp [Store.awaits, nearU.pending]
    have fitsNow : (upload.newRemediation settings accountId u.clock).fits = .ok () := fits
    change perform settings .uneventful 0
      (.insertRemediation (upload.newRemediation settings accountId u.clock)) u = _
    simp only [perform, fitsNow]
    change (if u.clashes 0 u.nextId accountId (upload.contentHash settings) = true then _ else
      if u.awaits 0 accountId (upload.contentHash settings) = true then _ else _) = _
    rw [noClash, noWait]
    rfl
  · simp [nearU.pending]

/-- **A submit that may make an attempt, with a URL that is too long, makes it and
then fails.** -/
theorem post_returns (near : Near s s)
    (creates : upload.CreatesNow settings acceptsUrl account s limit)
    (unknown : ∀ callback ∈ s.callbacks, callback.remediation < s.nextId)
    (tooLong : callbackUrlMaxLength < upload.callbackUrl.length) :
    ∃ exc t row, (Alone settings).Returns
        (CreateRemediationView.post settings acceptsUrl account upload) s (.error exc) t ∧
      t.ids = s.ids ++ [row] := by
  -- With nobody else about, each call returns as the store says: no attempt, room, no attempt.
  obtain ⟨u, nearU, looking⟩ := reusableAttempt_returns near creates.wanted
  obtain ⟨v, nearV, checking⟩ := checkLimit_returns settings nearU creates.room
  obtain ⟨w, nearW, lookingAgain⟩ := reusableAttempt_returns nearV creates.wanted
  obtain ⟨row, t, making, remediations, pending, isNew, callbacks⟩ :=
    makeAttempt_returns nearW creates.fits creates.unclashed
  -- So the row is made and committed.
  have resolving : (Alone settings).Returns
      (RemediationService.getOrCreateFromUpload settings account.id upload
        (some (checkLimit limit))) s (.ok (row, true)) (t.endTransaction 0 true) :=
    Returns.attempt_bind (Returns.bind none looking (Returns.bind () checking
      (Returns.bind none lookingAgain making))) (Returns.bind () (returns_issue rfl) Returns.done)
  have hasUrl : upload.callbackUrl ≠ "" := by
    intro noUrl
    rw [noUrl] at tooLong
    exact absurd tooLong (by decide)
  -- And the callback is refused afterwards, for the width of its column.
  have refused : execute settings .uneventful 0 (.getOrCreateCallback row upload.callbackUrl)
      (t.endTransaction 0 true) =
        some (.error (.tooLong callbackUrlMaxLength), t.endTransaction 0 true) := by
    have absent : (t.endTransaction 0 true).callbacks.find? (fun callback =>
        callback.remediation = row.id ∧ callback.callbackUrl = upload.callbackUrl) = none := by
      rw [List.find?_eq_none]
      intro callback member
      have below := unknown callback (callbacks ▸ member)
      simp only [decide_eq_true_eq, not_and]
      intro same
      omega
    simp only [execute, World.failure, World.uneventful, Option.map_none, perform, absent,
      if_pos tooLong]
  refine ⟨.tooLong callbackUrlMaxLength, t.endTransaction 0 true, row.id, ?_, ?_⟩
  · rw [CreateRemediationView.post, creates.limited]
    simp only [CreateRemediationView.submit]
    rw [creates.valid]
    refine Returns.bind (row, true) resolving (Returns.bind_error ?_ _)
    rw [CreateRemediationView.subscribe, if_neg hasUrl]
    exact Returns.bind_error (returns_issue refused) _
  · simp [Store.ids, Store.endTransaction, Store.uncommitted, pending, remediations]

end Lower

/-- **Submit is all or nothing exactly when its `callback_url` fits the column or it makes no
attempt.**

The attempt is committed by the service before the view subscribes the callback, and the two are
no one transaction.  So a URL that the form accepts and the column does not, from 201 characters
on, leaves an attempt behind that has no task. -/
theorem submit_all_or_nothing (settings : Settings) (acceptsUrl : String → Bool)
    (account : ServiceAccount) (upload : Upload) (origin : StoredState) :
    (∀ r t, (Alone settings).Returns
        (CreateRemediationView.post settings acceptsUrl account upload) origin.store r t →
      AllOrNothing upload origin.store r t) ↔
    upload.Fits settings acceptsUrl account origin.store := by
  constructor
  · intro always
    by_contra fits
    rw [Upload.Fits, not_or, not_not, Nat.not_le] at fits
    obtain ⟨tooLong, elapsed, limit, creates⟩ := fits
    obtain ⟨exc, t, row, returns, ids⟩ := post_returns
      (s := { origin.store with clock := origin.store.clock + elapsed })
      ⟨rfl, origin.committed, rfl, rfl, rfl, rfl, fun account => .inl (origin.unlocked account)⟩
      creates origin.known tooLong
    obtain ⟨sameIds, -⟩ := always _ _ (Reaches.rely ⟨elapsed, rfl⟩ returns)
    rw [ids] at sameIds
    exact absurd sameIds (by simp [Store.ids])
  · intro fits r t returns
    refine returns.safe (post_spec fits origin.store ⟨rfl, origin.committed, rfl, rfl, rfl, rfl,
      le_rfl⟩) ?_
    rintro r s _ holds ⟨elapsed, rfl⟩
    cases r with
    | ok response => exact holds
    | error exc => exact holds

/-! ## A URL of 201 characters -/

/-- The database before the first submit. -/
def StoredState.empty : StoredState where
  store := .empty none
  keyed := List.nodup_nil
  fresh := fun _ member => (nomatch member)
  known := fun _ member => (nomatch member)
  committed := rfl
  unlocked := fun _ => rfl

/-- An `https` URL of 201 characters. -/
def longUrl : String := "https://a.example/" ++ String.ofList (List.replicate 183 'x')

/-- A submit of a valid file with `longUrl` fails and leaves an attempt. -/
theorem long_url_leaves_attempt :
    ¬ ∀ (settings : Settings) (acceptsUrl : String → Bool) (account : ServiceAccount)
      (upload : Upload) (origin : StoredState),
      RemediationUploadSerializer.isValid acceptsUrl upload = .ok () →
        ∀ r t, (Alone settings).Returns
          (CreateRemediationView.post settings acceptsUrl account upload) origin.store r t →
            AllOrNothing upload origin.store r t := by
  intro claim
  have valid : RemediationUploadSerializer.isValid (fun _ => true) (.oneByte false longUrl) =
      .ok () := by decide +kernel
  have creates : Upload.CreatesNow .stepsOff (fun _ => true) .noLimits (.oneByte false longUrl)
      StoredState.empty.store none :=
    ⟨valid, rfl, rfl, rfl, by decide +kernel, rfl⟩
  obtain ⟨exc, t, row, returns, ids⟩ := post_returns
    ⟨rfl, rfl, rfl, rfl, rfl, rfl, fun _ => .inl rfl⟩ creates (fun _ member => (nomatch member))
    (by decide +kernel)
  obtain ⟨sameIds, -⟩ := claim _ _ _ _ StoredState.empty valid _ _ returns
  rw [ids] at sameIds
  exact absurd sameIds (by simp)

end DicePipeline
