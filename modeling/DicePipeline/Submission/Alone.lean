import DicePipeline.Interaction.Recovery
import DicePipeline.Remediation.Footprints

/-!
# A submit by itself

No other thread runs, the database is up, and time passes between the
operations (`Alone`).  What a submit does is then a function of the state it
started from, but for the storage, which may fail, and the clock.

`Upload.MayCreate` says on that state alone whether the submit can make an
attempt.  `getOrCreate_spec` is the upper half of it: if `get_or_create_from_upload`
makes an attempt, it was one of those states; `getOrCreate_returns` is the lower
half: in such a state it can.
-/

namespace DicePipeline

open Interaction Program Environment

/-- The database as a submit finds it: primary keys are unique and below the next
one, callbacks belong to attempts, and no transaction is open. -/
structure StoredState where
  store : Store
  keyed : (store.remediations.map (·.id)).Nodup
  fresh : ∀ row ∈ store.remediations, row.id < store.nextId
  known : ∀ callback ∈ store.callbacks, callback.remediation < store.nextId
  committed : store.pending = []
  unlocked : ∀ account, store.locks account = none

/-- One connection, a database that is up, and time that passes. -/
def Alone (settings : Settings) : Environment Query Exn Store where
  step := fun op s r t => ∃ world : World, world.database = none ∧
    execute settings world 0 op s = some (r, t)
  rely := fun s t => ∃ elapsed, t = { s with clock := s.clock + elapsed }
  guarantee := fun _ _ => True
  rely_refl := fun s => ⟨0, rfl⟩
  rely_trans := by
    rintro s _ _ ⟨first, rfl⟩ ⟨second, rfl⟩
    exact ⟨first + second, by rw [← Nat.add_assoc]⟩

/-! ## What the state says -/

/-- The attempt `create` inserts for an upload. -/
def Upload.newRemediation (settings : Settings) (account : ℕ) (upload : Upload)
    (createdAt : ℕ) : NewRemediation where
  serviceAccount := account
  sourcePdfUri := .original account (upload.contentHash settings) upload.filename
  contentHash := upload.contentHash settings
  originalFilename := upload.filename
  pipelineVersion := settings.pipelineVersion
  createdAt := createdAt

/-- What `_should_retry` decides of an attempt, with the retry floor read. -/
def retries (settings : Settings) (existing : Remediation) (force : Bool)
    (floor : Option String) : Bool :=
  force || ((existing.status = .noncompliant || existing.status = .error) &&
    RemediationService.isOutdated settings existing (floor.getD ""))

/-- `_reusable_attempt` finds nothing to reuse. -/
def Store.wantsAttempt (settings : Settings) (s : Store) (account : ℕ) (contentHash : String)
    (force : Bool) : Bool :=
  match s.latest account contentHash with
  | none => true
  | some existing => !existing.status.isUnfinished && retries settings existing force s.pipelineConfig

/-- The account's limit has room now. -/
def Store.hasRoom (s : Store) : Option SubmissionLimit → Bool
  | none => true
  | some limit =>
      (s.recent limit.account (s.clock - seconds limit.duration)).length < limit.numRequests

/-- Now a submit would make an attempt. -/
structure Upload.CreatesNow (settings : Settings) (acceptsUrl : String → Bool)
    (account : ServiceAccount) (upload : Upload) (s : Store) (limit : Option SubmissionLimit) :
    Prop where
  valid : RemediationUploadSerializer.isValid acceptsUrl upload = .ok ()
  limited : limitFor account = .ok limit
  wanted : s.wantsAttempt settings account.id (upload.contentHash settings) upload.force = true
  room : s.hasRoom limit = true
  fits : (upload.newRemediation settings account.id s.clock).fits = .ok ()
  unclashed : s.clashes 0 s.nextId account.id (upload.contentHash settings) = false

/-- Now or later a submit would make an attempt. -/
def Upload.MayCreate (settings : Settings) (acceptsUrl : String → Bool)
    (account : ServiceAccount) (upload : Upload) (s : Store) : Prop :=
  ∃ elapsed limit, upload.CreatesNow settings acceptsUrl account
    { s with clock := s.clock + elapsed } limit

/-! ## What a submit has done so far -/

/-- Nothing a caller can see has been written since `origin`. -/
structure Unwritten (origin : StoredState) (s : Store) : Prop where
  remediations : s.remediations = origin.store.remediations
  pending : s.pending = []
  nextId : s.nextId = origin.store.nextId
  callbacks : s.callbacks = origin.store.callbacks
  processTasks : s.processTasks = origin.store.processTasks
  pipelineConfig : s.pipelineConfig = origin.store.pipelineConfig
  clock : origin.store.clock ≤ s.clock

/-- An attempt has been inserted by the open transaction. -/
structure Inserted (origin : StoredState) (row : Remediation) (s : Store) : Prop where
  remediations : s.remediations = origin.store.remediations
  pending : s.pending = [(0, row)]
  isNew : row.id = origin.store.nextId
  callbacks : s.callbacks = origin.store.callbacks
  processTasks : s.processTasks = origin.store.processTasks

/-- An attempt has been made, and nothing else. -/
structure Created (origin : StoredState) (row : Remediation) (s : Store) : Prop where
  remediations : s.remediations = origin.store.remediations ++ [row]
  isNew : row.id = origin.store.nextId
  callbacks : s.callbacks = origin.store.callbacks
  processTasks : s.processTasks = origin.store.processTasks

section Spec

variable {settings : Settings} {origin : StoredState} {op : Op} {s t : Store} {world : World}

theorem stable_unwritten : (Alone settings).Stable (Unwritten origin) := by
  rintro s _ unwritten ⟨elapsed, rfl⟩
  exact ⟨unwritten.remediations, unwritten.pending, unwritten.nextId, unwritten.callbacks,
    unwritten.processTasks, unwritten.pipelineConfig, unwritten.clock.trans (Nat.le_add_right _ _)⟩

theorem stable_inserted (row : Remediation) : (Alone settings).Stable (Inserted origin row) := by
  rintro s _ inserted ⟨elapsed, rfl⟩
  exact ⟨inserted.remediations, inserted.pending, inserted.isNew, inserted.callbacks,
    inserted.processTasks⟩

/-- The rule of one operation. -/
theorem alone_issue {P : Store → Prop} {Q : Except Exn op.Ans → Store → Prop}
    (stable : (Alone settings).Stable P)
    (outcome : ∀ s r t world, world.database = none → P s →
      execute settings world 0 op s = some (r, t) → Q r t) :
    Triple (Alone settings) P (issue op) Q := by
  refine Triple.perform stable ?_
  rintro s r t holds ⟨world, healthy, executed⟩
  exact ⟨trivial, outcome s r t world healthy holds executed⟩

/-- An operation that writes nothing a caller can see. -/
def WritesNothing : Op → Prop
  | .now => True
  | .latestForDocument _ _ => True
  | .pipelineConfig => True
  | .lockAccount _ => True
  | .recentSubmissions _ _ => True
  | .storageExists _ => True
  | .storageSave _ _ => True
  | _ => False

theorem Unwritten.kept (unwritten : Unwritten origin s)
    (executed : execute settings world 0 op s = some (r, t)) (harmless : WritesNothing op) :
    Unwritten origin t := by
  obtain ⟨remediations, pending, nextId, callbacks, processTasks, pipelineConfig, clock⟩ := unwritten
  cases execute_effect executed <;> first
    | exact harmless.elim
    | exact ⟨remediations, pending, nextId, callbacks, processTasks, pipelineConfig, clock⟩

theorem Unwritten.latest (unwritten : Unwritten origin s) (account : ℕ) (contentHash : String) :
    s.latest account contentHash = origin.store.latest account contentHash := by
  rw [Store.latest, Store.latest, Store.attempts, Store.attempts, unwritten.remediations]

/-- A program that has written nothing, and whose value satisfies `φ`. -/
def Reads {α : Type} (origin : StoredState) (φ : α → Prop) : Except Exn α → Store → Prop
  | .ok value, s => Unwritten origin s ∧ φ value
  | .error _, s => Unwritten origin s

/-- The rule of an operation that writes nothing. -/
theorem reads_issue {φ : op.Ans → Prop} (harmless : WritesNothing op)
    (answer : ∀ s t world value, world.database = none → Unwritten origin s →
      perform settings world 0 op s = some (.ok value, t) → φ value) :
    Triple (Alone settings) (Unwritten origin) (issue op) (Reads origin φ) := by
  refine Triple.perform stable_unwritten ?_
  rintro s r t unwritten ⟨world, healthy, executed⟩
  have kept := unwritten.kept executed harmless
  cases r with
  | error exc => exact ⟨trivial, kept⟩
  | ok value => exact ⟨trivial, kept, answer s t world value healthy unwritten (execute_ok executed)⟩

/-- What was read is known from then on. -/
theorem Reads.bind {α β : Type} {φ : α → Prop} {p : Py α} {f : α → Py β}
    {Q : Except Exn β → Store → Prop}
    (first : Triple (Alone settings) (Unwritten origin) p (Reads origin φ))
    (rest : ∀ value, φ value → Triple (Alone settings) (Unwritten origin) (f value) Q)
    (raised : ∀ exc s, Unwritten origin s → Q (.error exc) s) :
    Triple (Alone settings) (Unwritten origin) (p.bind f) Q := by
  refine Triple.bind first ?_ raised
  rintro value s ⟨unwritten, known⟩
  exact rest value known s unwritten

theorem Reads.done {α : Type} {φ : α → Prop} {value : α} (known : φ value) :
    Triple (Alone settings) (Unwritten origin) (.done (.ok value)) (Reads origin φ) :=
  Triple.done fun _ unwritten => ⟨unwritten, known⟩

/-- `latest_for_document`. -/
theorem latestForDocument_spec (account : ℕ) (contentHash : String) :
    Triple (Alone settings) (Unwritten origin)
      (RemediationService.latestForDocument account contentHash)
      (Reads origin fun found => found = origin.store.latest account contentHash) := by
  refine reads_issue trivial ?_
  intro s t world found healthy unwritten performed
  obtain ⟨same, -⟩ := Prod.mk.inj (Option.some.inj performed)
  exact (Except.ok.inj same).symm.trans (unwritten.latest account contentHash)

/-- `_should_retry` computes `retries`. -/
theorem shouldRetry_spec (existing : Remediation) (force : Bool) :
    Triple (Alone settings) (Unwritten origin)
      (RemediationService.shouldRetry settings existing force)
      (Reads origin fun retry =>
        retry = retries settings existing force origin.store.pipelineConfig) := by
  rw [RemediationService.shouldRetry]
  split
  · rename_i forced
    exact Reads.done (by simp [retries, forced])
  · rename_i notForced
    split
    · rename_i notFailed
      exact Reads.done (by simp [retries, notForced, notFailed])
    · rename_i failed
      have isFailed : existing.status = .noncompliant ∨ existing.status = .error := by
        by_contra neither
        exact failed (not_or.mp neither)
      refine Reads.bind (φ := fun floor => floor = origin.store.pipelineConfig.getD "") ?_ ?_
        fun _ _ unwritten => unwritten
      · refine Reads.bind (φ := fun config => config = origin.store.pipelineConfig)
          (reads_issue trivial ?_) ?_ fun _ _ unwritten => unwritten
        · intro s t world config healthy unwritten performed
          obtain ⟨same, -⟩ := Prod.mk.inj (Option.some.inj performed)
          exact (Except.ok.inj same).symm.trans unwritten.pipelineConfig
        · rintro _ rfl
          exact Reads.done rfl
      · rintro _ rfl
        exact Reads.done (by simp [retries, notForced, isFailed])

/-- What `_reusable_attempt` finds out. -/
def Reusable (settings : Settings) (origin : StoredState) (account : ℕ) (contentHash : String)
    (force : Bool) : Option Remediation → Prop
  | some row => row ∈ origin.store.remediations
  | none => origin.store.wantsAttempt settings account contentHash force = true

/-- `_reusable_attempt` finds a stored attempt, or one is wanted. -/
theorem reusableAttempt_spec (account : ℕ) (contentHash : String) (force : Bool) :
    Triple (Alone settings) (Unwritten origin)
      (RemediationService.reusableAttempt settings account contentHash force)
      (Reads origin (Reusable settings origin account contentHash force)) := by
  refine Reads.bind (latestForDocument_spec account contentHash) ?_ fun _ _ unwritten => unwritten
  intro existing found
  cases existing with
  | none => exact Reads.done (by simp [Reusable, Store.wantsAttempt, ← found])
  | some existing =>
      have stored : existing ∈ origin.store.remediations := (Store.latest_mem found.symm).1
      simp only
      split
      · exact Reads.done stored
      · rename_i isFinished
        refine Reads.bind (shouldRetry_spec existing force) ?_ fun _ _ unwritten => unwritten
        intro retry decided
        cases retry with
        | true =>
            exact Reads.done (by simp [Reusable, Store.wantsAttempt, ← found, isFinished, ← decided])
        | false => exact Reads.done stored

/-- `SubmissionLimit.check`: it passes only if there is room now or later. -/
theorem checkLimit_spec (limit : Option SubmissionLimit) :
    Triple (Alone settings) (Unwritten origin) (checkLimit limit)
      (Reads origin fun _ => ∃ elapsed,
        Store.hasRoom { origin.store with clock := origin.store.clock + elapsed } limit = true) := by
  cases limit with
  | none => exact Reads.done ⟨0, rfl⟩
  | some l =>
      refine Reads.bind (φ := fun usage : SubmissionUsage => ∃ elapsed,
        usage.count = (origin.store.recent l.account
          (origin.store.clock + elapsed - seconds l.duration)).length) ?_ ?_
        fun _ _ unwritten => unwritten
      · refine Reads.bind (φ := fun _ => True) (reads_issue trivial fun _ _ _ _ _ _ _ => trivial) ?_
          fun _ _ unwritten => unwritten
        intro _ _
        refine Reads.bind (φ := fun now => origin.store.clock ≤ now) (reads_issue trivial ?_) ?_
          fun _ _ unwritten => unwritten
        · intro s t world now healthy unwritten performed
          obtain ⟨same, -⟩ := Prod.mk.inj (Option.some.inj performed)
          exact (Except.ok.inj same) ▸ unwritten.clock
        · intro now reached
          refine reads_issue trivial ?_
          intro s t world usage healthy unwritten performed
          obtain ⟨same, -⟩ := Prod.mk.inj (Option.some.inj performed)
          refine ⟨now - origin.store.clock, ?_⟩
          rw [← Except.ok.inj same, Nat.add_sub_cancel' reached, Store.recent, Store.recent,
            unwritten.remediations]
      · rintro usage ⟨elapsed, counted⟩
        split
        · rename_i fewer
          refine Reads.done ⟨elapsed, ?_⟩
          rw [counted] at fewer
          exact decide_eq_true fewer
        · refine Reads.bind (φ := fun _ => True) ?_ ?_ fun _ _ unwritten => unwritten
          · obtain ⟨count, oldest⟩ := usage
            cases oldest with
            | none => exact Reads.done trivial
            | some oldest =>
                exact Reads.bind (reads_issue trivial fun _ _ _ _ _ _ _ => trivial)
                  (fun _ (_ : True) => Reads.done trivial) fun _ _ unwritten => unwritten
          · intro wait _
            exact Reads.bind (φ := fun _ => True) (reads_issue trivial fun _ _ _ _ _ _ _ => trivial)
              (fun _ _ => Triple.done fun _ unwritten => unwritten) fun _ _ unwritten => unwritten

end Spec

end DicePipeline
