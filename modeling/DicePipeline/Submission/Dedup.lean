import DicePipeline.Attempt.Verdicts
import DicePipeline.Submission.Current
import DicePipeline.Submission.Limit

/-!
# Deduplication

`get_or_create_from_upload` promises to deduplicate by content hash: without
`force`, a document that has an attempt gets another one only if its latest
attempt failed under a version older than the retry floor.

The decision is made on a look-up, and the insert comes later.  For an account
with a limit, the second look is made under the account's lock, so the latest
attempt cannot change until the insert.  An account without a limit takes no
lock: another submit of the same file may insert an attempt after the look, and
a worker may finish it, before this one inserts.  The unique constraint stops it
only while that attempt is unfinished.  `insertedTwice` is the schedule.

`deduplicates` holds of every run in which each insert for the document by an
unlimited account still finds the attempt its submit looked up, and no run of the
task writes the status of an attempt at it that has finished.

### What is load-bearing

`findsLookedUp` compares keys, not rows: the submit knows the attempt it looked up
as it was then.  `writesUnfinished` closes that gap.  An attempt that is retriable
has finished, and if nothing writes it again it is retriable still.  Only
overlapping runs of one attempt write to a finished one, and what becomes of the
attempts at other documents does not matter.
-/

namespace DicePipeline

open Interaction Program

/-! ## Inserts of one document -/

/-- Submits of the document by the account do not use `force`. -/
def unforced (settings : Settings) (account : ℕ) (contentHash : String) : Choice → Bool
  | .spawn (.request serviceAccount upload) =>
      serviceAccount.id ≠ account || upload.contentHash settings ≠ contentHash || !upload.force
  | _ => true

/-- Creation times increase strictly, the account's limit stays the same, and
its submits of the document do not use `force`. -/
def dedupAssumptions (settings : Settings) (limit : Option SubmissionLimit) (account : ℕ)
    (contentHash : String) (c : Cluster) (choice : Choice) : Bool :=
  strictStamps c choice && limitedBy account limit choice &&
    unforced settings account contentHash choice

/-- No status is written to an attempt at the document that has finished.

What this excludes is a save of a run that read the row before another one finished it.  It would
make an attempt unfinished again, or failed, that a submit has looked up as finished. -/
def writesUnfinished (account : ℕ) (contentHash : String) (s : Store) : Op → Bool
  | .saveRemediation id _ => (s.row id).all fun row =>
      !row.isFor account contentHash || row.status.isUnfinished
  | _ => true

/-- An insert for the document finds the attempt that was looked up still the
latest, if no lock keeps it so. -/
def findsLookedUp (limit : Option SubmissionLimit) (account : ℕ) (contentHash : String)
    (i : ℕ) (s : Store) : Op → Bool
  | .insertRemediation new =>
      limit.isSome || new.serviceAccount ≠ account || new.contentHash ≠ contentHash ||
        s.latestId account contentHash = (s.lookups i).map (·.id)
  | _ => true

/-- The condition on the steps of a run. -/
def dedupCondition (settings : Settings) (limit : Option SubmissionLimit) (account : ℕ)
    (contentHash : String) (c : Cluster) (choice : Choice) : Bool :=
  dedupAssumptions settings limit account contentHash c choice &&
    operationsWhere (fun i s op =>
      writesUnfinished account contentHash s op &&
        findsLookedUp limit account contentHash i s op) c choice

/-- A thread inserts an attempt at the document. -/
def Inserts (account : ℕ) (contentHash : String) (c c' : Cluster) : Prop :=
  ∃ i row, c'.store.pending = c.store.pending ++ [(i, row)] ∧
    row.isFor account contentHash = true

/-- **Deduplication**, of the runs whose choices `ok` admits: an attempt is
inserted for a document that has one only if the latest one is retriable. -/
def Deduplicates (settings : Settings) (acceptsUrl : String → Bool)
    (retryFloor : Option String) (account : ℕ) (contentHash : String)
    (ok : Cluster → Choice → Bool) : Prop :=
  ∀ c choice c', (system settings acceptsUrl).Reach (ok · ·) (deployed retryFloor) c →
    ok c choice = true → (system settings acceptsUrl).next c choice = some c' →
    Inserts account contentHash c c' →
    ∀ latest, c.store.latest account contentHash = some latest →
      Retriable settings c.store.pipelineConfig latest

/-! ## A finished attempt that was looked up is still there -/

/-- Whatever attempt at the document a connection last looked up is still stored as
it was, if it had finished. -/
def LookupsKept (account : ℕ) (contentHash : String) (s : Store) : Prop :=
  ∀ j row, s.lookups j = some row → row.isFor account contentHash = true →
    row.status.isFinished = true → row ∈ s.remediations

variable {i : ℕ} {op : Op} {s t : Store} {account : ℕ} {contentHash : String}

/-- A rewriting of one attempt keeps every other one. -/
theorem mem_updateRow_of_ne {id : ℕ} {f : Remediation → Remediation} {row : Remediation}
    (member : row ∈ s.remediations) (different : row.id ≠ id) :
    row ∈ (s.updateRow id f).remediations := by
  refine List.mem_map.mpr ⟨row, member, ?_⟩
  simp [different]

theorem Effect.lookupsKept (effect : Effect i s op t) (keyed : WellKeyed s.rows s.nextId)
    (kept : LookupsKept account contentHash s)
    (writes : writesUnfinished account contentHash s op = true) :
    LookupsKept account contentHash t := by
  cases effect with
  | @saved id fields found isFound guarded =>
      intro j row looked isFor finished
      refine mem_updateRow_of_ne (kept j row looked isFor finished) fun hit => ?_
      -- The attempt that is written is at another document, or has not finished.
      obtain rfl := eq_found keyed isFound (kept j row looked isFor finished) hit
      simp [writesUnfinished, isFound, isFor, JobStatus.isUnfinished_eq, finished] at writes
  | claimed isFound unfinished unclaimed =>
      intro j row looked isFor finished
      refine mem_updateRow_of_ne (kept j row looked isFor finished) fun hit => ?_
      obtain rfl := eq_found keyed isFound (kept j row looked isFor finished) hit
      rw [JobStatus.isUnfinished_eq, finished] at unfinished
      cases unfinished
  | @looked account contentHash =>
      intro j row looked isFor finished
      by_cases same : j = i
      · subst same
        simp only [Function.update_self] at looked
        exact (Store.latest_mem looked).1
      · simp only [Function.update_of_ne same] at looked
        exact kept j row looked isFor finished
  | committed =>
      intro j row looked isFor finished
      exact List.mem_append_left _ (kept j row looked isFor finished)
  | _ => exact kept

section System

variable {settings : Settings} {acceptsUrl : String → Bool} {retryFloor : Option String}
variable {limit : Option SubmissionLimit} {c : Cluster}

private theorem reach_lookupsKept
    (reached : (system settings acceptsUrl).Reach
      (dedupCondition settings limit account contentHash · ·) (deployed retryFloor) c) :
    WellKeyed c.store.rows c.store.nextId ∧ LookupsKept account contentHash c.store := by
  refine store_invariant
    (fun s => WellKeyed s.rows s.nextId ∧ LookupsKept account contentHash s) reached ?_ ?_ ?_ ?_
  · exact ⟨⟨List.nodup_nil, fun row member => by cases member⟩,
      fun _ _ impossible => by cases impossible⟩
  · intro c i thread world answer t _ inv live admitted executed
    have effect := execute_effect executed
    rw [dedupCondition, Bool.and_eq_true] at admitted
    have conditions := operationsWhere_step admitted.2 live
    rw [Bool.and_eq_true] at conditions
    exact ⟨effect.wellKeyed inv.1, effect.lookupsKept inv.1 inv.2 conditions.1⟩
  · intro i s inv
    exact ⟨inv.1.of_subperm (s.endTransaction_rows i false) le_rfl, inv.2⟩
  · exact fun _ _ inv => inv

theorem JobStatus.isFinished_of_retriable {settings : Settings} {floor : Option String}
    {row : Remediation} (retriable : Retriable settings floor row) :
    row.status.isFinished = true := by
  rcases retriable.1 with failed | failed <;> rw [failed] <;> rfl

/-- Only an insert of a thread makes a configuration insert. -/
theorem inserts_step {choice : Choice} {c' : Cluster}
    (moved : (system settings acceptsUrl).next c choice = some c')
    (inserts : Inserts account contentHash c c') :
    ∃ i role new next world answer t, choice = .step i world ∧
      c.threads i = some ⟨role, .insertRemediation new, next⟩ ∧
      execute settings world i (.insertRemediation new) c.store = some (answer, t) ∧
      t.pending = c.store.pending ++ [(i, new.toRow c.store.nextId)] ∧
      new.serviceAccount = account ∧ new.contentHash = contentHash := by
  obtain ⟨j, row, added, isFor⟩ := inserts
  -- A pending row appears only where the list grows, and one operation makes it grow.
  have grows : ∀ pending : List (ℕ × Remediation), pending.length ≤ c.store.pending.length →
      pending ≠ c.store.pending ++ [(j, row)] := by
    rintro pending shorter rfl
    rw [List.length_append, List.length_singleton] at shorter
    omega
  cases choice with
  | spawn role =>
      obtain ⟨body, -, rfl⟩ := Machine.next_spawn_eq moved
      rw [Config.place_store] at added
      exact absurd added (grows _ le_rfl)
  | kill i =>
      obtain ⟨_, -, rfl⟩ := Machine.next_kill_eq moved
      exact absurd added (grows _ (List.length_filter_le _ _))
  | env elapsed =>
      obtain rfl := Machine.next_env_eq moved
      exact absurd added (grows _ le_rfl)
  | step i world =>
      obtain ⟨thread, answer, t, live, executed, rfl⟩ := Machine.next_step_eq moved
      rw [Config.place_store] at added
      obtain ⟨role, op, next⟩ := thread
      have effect : Effect i c.store op t := execute_effect executed
      cases effect with
      | @inserted new noClash noWait =>
          have same := List.append_cancel_left added
          obtain ⟨rfl, rfl⟩ := Prod.mk.inj (List.cons.inj same).1
          exact ⟨i, role, new, next, world, answer, _, rfl, live, executed, rfl,
            isFor_iff.mp isFor⟩
      | committed => exact absurd added (grows _ (List.length_filter_le _ _))
      | abandoned => exact absurd added (grows _ (List.length_filter_le _ _))
      | rolledBack => exact absurd added (grows _ (List.length_filter_le _ _))
      | _ => exact absurd added (grows _ le_rfl)

/-- A live submit of the document does not use `force`. -/
private theorem reach_unforced {ok : Cluster → Choice → Prop}
    (imp : ∀ c choice, ok c choice → unforced settings account contentHash choice = true)
    (reached : (system settings acceptsUrl).Reach ok (deployed retryFloor) c) :
    ∀ i thread, c.threads i = some thread → ∀ serviceAccount upload,
      thread.role = .request serviceAccount upload → serviceAccount.id = account →
        upload.contentHash settings = contentHash → upload.force = false := by
  refine reached.invariant (fun c => ∀ i thread, c.threads i = some thread →
    ∀ serviceAccount upload, thread.role = .request serviceAccount upload →
      serviceAccount.id = account → upload.contentHash settings = contentHash →
        upload.force = false) (fun i thread live => by cases live) ?_
  intro c choice c' _ inv admitted moved j thread live
  cases choice with
  | spawn role =>
      obtain ⟨body, -, rfl⟩ := Machine.next_spawn_eq moved
      -- The condition is on the submit as it starts; a thread keeps its role.
      by_cases same : j = c.count
      · subst same
        obtain ⟨rfl, -⟩ := Config.place_threads_self _ _ _ _ live
        intro serviceAccount upload isRequest own document
        rw [isRequest] at admitted
        simpa [unforced, own, document] using imp c _ admitted
      · rw [Config.place_threads_of_ne _ _ _ same] at live
        exact inv j thread live
  | step i world =>
      obtain ⟨mover, answer, t, moverLive, -, rfl⟩ := Machine.next_step_eq moved
      by_cases same : j = i
      · subst same
        obtain ⟨isRole, -⟩ := Config.place_threads_self _ _ _ _ live
        rw [isRole]
        exact inv j mover moverLive
      · rw [Config.place_threads_of_ne _ _ _ same] at live
        exact inv j thread live
  | kill i =>
      obtain ⟨_, -, rfl⟩ := Machine.next_kill_eq moved
      by_cases same : j = i
      · subst same
        simp at live
      · simp only [Function.update_of_ne same] at live
        exact inv j thread live
  | env elapsed =>
      obtain rfl := Machine.next_env_eq moved
      exact inv j thread live

/-- **Deduplication, under its condition.**  Where every insert for the document by an unlimited
account finds the attempt that was looked up, and no status is written to a finished attempt
at it, an attempt is inserted for a document that has one only if the latest one failed
under a version older than the retry floor.

Of the inserts of an account with a limit nothing is asked: its second look is made under the
lock that it inserts under. -/
theorem deduplicates (settings : Settings) (acceptsUrl : String → Bool)
    (retryFloor : Option String) (limit : Option SubmissionLimit) (account : ℕ)
    (contentHash : String) :
    Deduplicates settings acceptsUrl retryFloor account contentHash
      (dedupCondition settings limit account contentHash) := by
  intro c choice c' reached admitted moved inserts latest isLatest
  have assumed : ∀ c choice, dedupCondition settings limit account contentHash c choice = true →
      limitedBy account limit choice = true ∧
        unforced settings account contentHash choice = true := by
    intro c choice condition
    simp only [dedupCondition, dedupAssumptions, Bool.and_eq_true] at condition
    exact ⟨condition.1.1.2, condition.1.2⟩
  obtain ⟨i, role, new, next, world, answer, t, rfl, live, executed, added, rfl, rfl⟩ :=
    inserts_step moved inserts
  obtain ⟨serviceAccount, upload, isRequest, own, entitled⟩ :=
    insert_entitled (fun c choice ok => (assumed c choice ok).1) reached live executed added rfl
  have notForced := reach_unforced (fun c choice ok => (assumed c choice ok).2) reached i _ live
    serviceAccount upload isRequest own entitled.document.symm
  -- The latest attempt is the one that was looked up.
  have upToDate : c.store.latestId new.serviceAccount new.contentHash =
      (c.store.lookups i).map (·.id) := by
    rw [dedupCondition, Bool.and_eq_true] at admitted
    have finds := (Bool.and_eq_true _ _ ▸ operationsWhere_step admitted.2 live).2
    cases limited : limit with
    | some l =>
        subst limited
        obtain ⟨held, -⟩ := entitled.counted l rfl
        have current := entitled.looked.2 rfl held
        rwa [← entitled.document] at current
    | none =>
        subst limited
        simpa [findsLookedUp] using finds
  rw [Store.latestId, isLatest, Option.map_some] at upToDate
  obtain ⟨existing, looked, sameId⟩ := Option.map_eq_some_iff.mp upToDate.symm
  obtain ⟨isFor, forced | retriable⟩ := entitled.looked.1 existing looked
  · rw [notForced] at forced
    cases forced
  · -- And it has not changed since: it had finished.
    obtain ⟨keyed, kept⟩ := reach_lookupsKept reached
    rw [← entitled.document] at isFor
    have stored := kept i existing looked isFor (JobStatus.isFinished_of_retriable retriable)
    have same : existing = latest := keyed.eq_of_id (Store.mem_rows_of_mem stored)
      (Store.mem_rows_of_mem (Store.latest_mem isLatest).1) sameId
    exact same ▸ retriable

end System

/-! ## Schedules -/

/-- Thread `i` may insert an attempt at the one-byte file while the latest one has this
status. -/
def insertsAfter (settings : Settings) (ok : Cluster → Choice → Bool) (i : ℕ)
    (status : JobStatus) (c : Cluster) : Bool :=
  ((system settings fun _ => true).next c (.step i .uneventful)).any fun c' =>
    (c'.store.pending.getLast?).any fun entry =>
      c'.store.pending = c.store.pending ++ [entry] &&
        entry.2.isFor 1 (settings.sha256 [1]) &&
        (c.store.latest 1 (settings.sha256 [1])).any (·.status = status) &&
        ok c (.step i .uneventful)

theorem exists_inserts {settings : Settings} {ok : Cluster → Choice → Bool} {i : ℕ}
    {status : JobStatus} {c : Cluster} (checked : insertsAfter settings ok i status c = true) :
    ∃ c' latest, ok c (.step i .uneventful) = true ∧
      (system settings fun _ => true).next c (.step i .uneventful) = some c' ∧
        Inserts 1 (settings.sha256 [1]) c c' ∧
          c.store.latest 1 (settings.sha256 [1]) = some latest ∧ latest.status = status := by
  obtain ⟨c', moved, checked⟩ := (Option.any_eq_true _ _).mp checked
  obtain ⟨entry, -, checked⟩ := (Option.any_eq_true _ _).mp checked
  simp only [Bool.and_eq_true, decide_eq_true_eq] at checked
  obtain ⟨⟨⟨added, isFor⟩, hasStatus⟩, admitted⟩ := checked
  obtain ⟨latest, isLatest, same⟩ := (Option.any_eq_true _ _).mp hasStatus
  exact ⟨c', latest, admitted, moved, ⟨entry.1, entry.2, added, isFor⟩, isLatest,
    of_decide_eq_true same⟩

/-- A deployment with postcheck on, of whose versions one is older than the floor. -/
def Settings.upgraded : Settings :=
  { Settings.stepsOn [.postcheck] with
    versionLt := fun left right => left = "1.0.0" ∧ right = "2.0.0" }

/-- The first attempt fails, and the file is submitted again. -/
def resubmitted : List Choice :=
  [.spawn (.request .noLimits .oneByte)] ++ steps 0 9 ++ [.spawn (.run 0)] ++
  List.replicate 18 (.step 1 (.judging false [])) ++
  [.env 1, .spawn (.request .noLimits .oneByte)] ++ steps 2 6

/-- Under the condition an unlimited account may well get a second attempt: after a first
one that has failed under a version older than the floor. -/
theorem deduplicates_resubmitted :
    ∃ (c c' : Cluster) (latest : Remediation),
      Inserts 1 (Settings.upgraded.sha256 [1]) c c' ∧
        c.store.latest 1 (Settings.upgraded.sha256 [1]) = some latest ∧
          latest.status = .noncompliant ∧
            Retriable .upgraded c.store.pipelineConfig latest := by
  obtain ⟨c, reached, checked⟩ := Machine.exists_reach_of_replay
    (system .upgraded fun _ => true)
    (dedupCondition .upgraded none 1 (Settings.upgraded.sha256 [1])) (deployed (some "2.0.0"))
    resubmitted
    (insertsAfter .upgraded (dedupCondition .upgraded none 1 (Settings.upgraded.sha256 [1])) 2
      .noncompliant) (by decide +kernel)
  obtain ⟨c', latest, admitted, moved, inserts, isLatest, failed⟩ := exists_inserts checked
  exact ⟨c, c', latest, inserts, isLatest, failed,
    deduplicates .upgraded (fun _ => true) (some "2.0.0") none 1 (Settings.upgraded.sha256 [1])
      c _ c' reached admitted moved inserts latest isLatest⟩

/-- Both submits look before either inserts.  The first one makes an attempt, a
run finishes it, and the second one inserts. -/
def insertedTwice : List Choice :=
  [.spawn (.request .noLimits .oneByte), .spawn (.request .noLimits .oneByte)] ++
  steps 1 2 ++ steps 0 9 ++ [.spawn (.run 0)] ++ steps 2 14 ++ [.env 1] ++ steps 1 2

/-- Under the assumptions alone an unlimited account gets a second job for a
file whose job has been skipped. -/
theorem unlimited_account_duplicates :
    ¬ ∀ (settings : Settings) (acceptsUrl : String → Bool) (retryFloor : Option String)
      (limit : Option SubmissionLimit) (account : ℕ) (contentHash : String),
      Deduplicates settings acceptsUrl retryFloor account contentHash
        (dedupAssumptions settings limit account contentHash) := by
  intro claim
  obtain ⟨c, reached, checked⟩ := Machine.exists_reach_of_replay
    (system .stepsOff fun _ => true)
    (dedupAssumptions .stepsOff none 1 (Settings.stepsOff.sha256 [1])) (deployed none)
    insertedTwice
    (insertsAfter .stepsOff (dedupAssumptions .stepsOff none 1 (Settings.stepsOff.sha256 [1])) 1
      .skipped) (by decide +kernel)
  obtain ⟨c', latest, admitted, moved, inserts, isLatest, skipped⟩ := exists_inserts checked
  have retriable := claim _ _ _ _ _ _ c _ c' reached admitted moved inserts latest isLatest
  rcases retriable.1 with failed | failed <;> rw [skipped] at failed <;> cases failed

end DicePipeline
