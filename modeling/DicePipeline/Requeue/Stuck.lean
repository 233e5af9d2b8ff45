import DicePipeline.Requeue.Claims

/-!
# Whether the job a resubmit queues again is stuck

`_is_stuck` is evaluated on the attempt as the request read it.  The conditional
update re-checks that the attempt is unfinished and that nobody has claimed it
since; it does not re-check `status` and `started_at`, which `mark_running`
writes.  So a run that starts between the read and the update is missed, and the
attempt is queued again a moment after it started: `startedMeanwhile` is such a
schedule.

Where no run marks the attempt running in between (`unchangedSinceRead`), the
stored attempt is stuck at the moment of the update.  `created_at` is never
written again, and `last_enqueued_at` is what the update compares.

### What is load-bearing

The condition is asked of the step at which the update is made, and of no step
before it: the run up to there may be any run, with jobs that are started between
other reads and other updates.  It compares what is stored with what this
connection read last, so a run that marks the attempt running and one that
finishes it are both caught, and nothing else is.
-/

namespace DicePipeline

open Interaction Program RemediationService

instance (settings : Settings) (row : Remediation) (time : ℕ) :
    Decidable (StuckAt settings row time) :=
  decidable_of_iff
    ((lastProgress settings row).any fun (progress, wait) => minutes wait < time - progress) (by
      constructor
      · intro stuck
        obtain ⟨⟨progress, wait⟩, found, waited⟩ := (Option.any_eq_true _ _).mp stuck
        exact ⟨progress, wait, found, by simpa using waited⟩
      · rintro ⟨progress, wait, found, waited⟩
        exact (Option.any_eq_true _ _).mpr ⟨(progress, wait), found, by simpa using waited⟩)

/-- A conditional update finds the attempt with the status and the start its
caller had read. -/
def asRead (i : ℕ) (s : Store) : Op → Bool
  | .claimEnqueue id _ _ =>
      (s.lookups i).all fun read =>
        (s.row id).all fun stored =>
          stored.status = read.status ∧ stored.startedAt = read.startedAt
  | _ => true

/-- No run marks an attempt running between the read and the conditional update of
a resubmit. -/
def unchangedSinceRead : Cluster → Choice → Bool := operationsWhere asRead

/-! ## What was looked up is still stored -/

/-- Every attempt that was looked up is stored, with the creation time it had. -/
def LookupsStored (s : Store) : Prop :=
  ∀ j row, s.lookups j = some row →
    ∃ stored, s.row row.id = some stored ∧ stored.createdAt = row.createdAt

section Effects

variable {i : ℕ} {op : Op} {s t : Store}

/-- `created_at` is never written again. -/
theorem Effect.createdAt (effect : Effect i s op t) {id : ℕ} {row : Remediation}
    (found : s.row id = some row) : ∃ row', t.row id = some row' ∧ row'.createdAt = row.createdAt := by
  rcases effect.row found with ⟨fields, -, saved⟩ | ⟨enqueued, kept⟩
  · exact ⟨_, saved, rfl⟩
  · exact ⟨_, kept, rfl⟩

/-- Only a connection's own look-up moves what it looked up last. -/
theorem Effect.lookups (effect : Effect i s op t) (j : ℕ) :
    t.lookups j = s.lookups j ∨ j = i ∧ ∃ account contentHash,
      op = .latestForDocument account contentHash ∧ t.lookups j = s.latest account contentHash := by
  cases effect with
  | @looked account contentHash =>
      by_cases same : j = i
      · subst same
        exact .inr ⟨rfl, account, contentHash, rfl, Function.update_self _ _ _⟩
      · exact .inl (Function.update_of_ne same _ _)
  | _ => exact .inl rfl

theorem Effect.lookupsStored (effect : Effect i s op t) (keyed : WellKeyed s.rows s.nextId)
    (stored : LookupsStored s) : LookupsStored t := by
  intro j row looked
  have before : ∃ kept, s.row row.id = some kept ∧ kept.createdAt = row.createdAt := by
    rcases effect.lookups j with same | ⟨-, account, contentHash, -, same⟩
    · exact stored j row (same.symm.trans looked)
    · exact ⟨row, Store.row_of_mem keyed (Store.latest_mem (same.symm.trans looked)).1, rfl⟩
  obtain ⟨kept, found, same⟩ := before
  obtain ⟨kept', found', same'⟩ := effect.createdAt found
  exact ⟨kept', found', same'.trans same⟩

end Effects

section Runs

variable {settings : Settings} {acceptsUrl : String → Bool} {retryFloor : Option String}
variable {ok : Cluster → Choice → Prop} {c : Cluster}

private theorem reach_lookupsStored
    (reached : (system settings acceptsUrl).Reach ok (deployed retryFloor) c) :
    LookupsStored c.store := by
  refine store_invariant LookupsStored reached ?_ ?_ ?_ ?_
  · exact fun _ _ impossible => nomatch impossible
  · intro c i thread world answer t before stored _ _ executed
    exact (execute_effect executed).lookupsStored (reach_tallied before).keyed stored
  · intro i s stored j row looked
    obtain ⟨kept, found, same⟩ := stored j row looked
    exact ⟨kept, Store.row_endTransaction found i false, same⟩
  · exact fun _ _ stored => stored

/-- The attempt a thread has looked up is the one its connection has. -/
theorem sight_looked (reached : (system settings acceptsUrl).Reach ok (deployed retryFloor) c)
    (i : ℕ) : c.store.lookups i = (sight i c.history).looked := by
  refine reached.witnessed (S := Query) Sight.after {} (fun i s x => s.lookups i = x.looked)
    (fun _ => rfl) ?_ ?_ (fun _ _ _ _ same => same) (fun _ _ _ _ same => same) i
  · intro c i world thread answer t _ _ _ executed same
    replace executed : execute settings world i thread.op c.store = some (answer, t) := executed
    generalize Machine.observed (S := Query) Sight.after {} i c.history = x at *
    obtain ⟨role, op, next⟩ := thread
    dsimp only at executed answer ⊢
    cases op with
    | latestForDocument account contentHash =>
        cases answer with
        | error exc =>
            rcases execute_error executed with rfl | impossible
            · exact same
            · cases impossible
        | ok found =>
            obtain ⟨isLatest, rfl⟩ := Prod.mk.inj (Option.some.inj (execute_ok executed))
            cases isLatest
            exact Function.update_self _ _ _
    | now =>
        obtain rfl : t = c.store := (Prod.mk.inj (Option.some.inj executed)).2.symm
        cases answer <;> exact same
    | _ =>
        rcases (execute_effect executed).lookups i with kept | ⟨-, _, _, impossible, -⟩
        · exact kept.trans same
        · cases impossible
  · intro c i j world thread answer t x _ _ _ executed different same
    rcases (execute_effect executed).lookups j with kept | ⟨isMover, -⟩
    · exact kept.trans same
    · exact absurd isMover different

/-- `_is_stuck` looks at four columns. -/
private theorem StuckAt.congr {row row' : Remediation} {time : ℕ}
    (stuck : StuckAt settings row time) (status : row'.status = row.status)
    (createdAt : row'.createdAt = row.createdAt) (startedAt : row'.startedAt = row.startedAt)
    (lastEnqueuedAt : row'.lastEnqueuedAt = row.lastEnqueuedAt) : StuckAt settings row' time := by
  have same : lastProgress settings row' = lastProgress settings row := by
    unfold lastProgress
    rw [status, createdAt, startedAt, lastEnqueuedAt]
  obtain ⟨progress, wait, found, waited⟩ := stuck
  exact ⟨progress, wait, same.trans found, waited⟩

end Runs

/-- Thread `i` is about to queue attempt `id` again, and its conditional update
goes through. -/
def ClaimGoesThrough (settings : Settings) (c : Cluster) (i : ℕ) (world : World) (id : ℕ) : Prop :=
  ∃ thread seen now t, c.threads i = some thread ∧ thread.op = .claimEnqueue id seen now ∧
    execute settings world i (.claimEnqueue id seen now) c.store = some (.ok true, t)

/-- The stored attempt is unfinished, and its last progress, as `_is_stuck` reckons
it, is further back than the wait of its status. -/
def StoredStuck (settings : Settings) (s : Store) (id : ℕ) : Prop :=
  ∃ stored, s.row id = some stored ∧ stored.status.isUnfinished = true ∧
    StuckAt settings stored s.clock

/-- **Only a stuck job is queued again**, whatever went before, where no run marks it
running between the read and the conditional update of this resubmit. -/
theorem requeues_only_stuck (settings : Settings) (acceptsUrl : String → Bool)
    (retryFloor : Option String) (c : Cluster)
    (reached : (system settings acceptsUrl).Reach (fun _ _ => True) (deployed retryFloor) c)
    (i id : ℕ) (world : World) (admitted : unchangedSinceRead c (.step i world) = true)
    (through : ClaimGoesThrough settings c i world id) : StoredStuck settings c.store id := by
  obtain ⟨thread, seen, now, t, live, claims, executed⟩ := through
  rcases claim_execute executed with ⟨-, stored, found, unfinished, matched, -⟩ | ⟨refused, -⟩
  · refine ⟨stored, found, unfinished, ?_⟩
    have permitted := claim_permitted reached live
    rw [claims] at permitted
    obtain ⟨read, before, earlier, looked, rfl, isSeen, clocks, stuck⟩ := permitted
    have ordered := sight_clocks reached i
    rw [clocks] at ordered
    have notAhead : before ≤ c.store.clock :=
      (List.pairwise_cons.mp ordered).1 before (by simp)
    have lookedUp : c.store.lookups i = some read := (sight_looked reached i).trans looked
    obtain ⟨kept, found', createdAt⟩ := reach_lookupsStored reached i read lookedUp
    obtain rfl : stored = kept := Option.some.inj (found.symm.trans found')
    have unchanged := operationsWhere_step admitted live
    rw [claims] at unchanged
    simp only [asRead, lookedUp, found, Option.all_some, decide_eq_true_eq] at unchanged
    refine (stuck.congr unchanged.1 createdAt unchanged.2 ?_).mono notAhead
    exact matched.trans isSeen.symm
  · simp [Op.claimed] at refused

/-- The second thread is about to queue the first attempt again. -/
def resubmitClaims (c : Cluster) : Bool :=
  (c.threads 1).any fun thread =>
    match thread.op with
    | .claimEnqueue 0 seen now =>
        match execute .stepsOff .uneventful 1 (.claimEnqueue 0 seen now) c.store with
        | some (.ok true, _) => true
        | _ => false
    | _ => false

theorem goesThrough_of_resubmitClaims {c : Cluster} (claims : resubmitClaims c = true) :
    ClaimGoesThrough .stepsOff c 1 .uneventful 0 := by
  obtain ⟨thread, live, claims⟩ := (Option.any_eq_true _ _).mp claims
  split at claims
  · rename_i seen now isClaim
    split at claims
    · rename_i t executed
      exact ⟨thread, seen, now, t, live, isClaim, executed⟩
    · cases claims
  · cases claims

/-- The lost task of an attempt is about to be claimed by a resubmit, an hour later. -/
def lostOnce : List Choice :=
  [.spawn (.request .noLimits .oneByte)] ++ steps 0 9 ++ [.env pastTheWait] ++
  [.spawn (.request .noLimits .oneByte)] ++ steps 1 4

/-- The resubmit of that schedule finds the attempt stuck. -/
theorem requeues_only_stuck_lost_once :
    ∃ c : Cluster, ClaimGoesThrough .stepsOff c 1 .uneventful 0 ∧
      StoredStuck .stepsOff c.store 0 := by
  obtain ⟨c, reached, checked⟩ := Machine.exists_reach_of_replay
    (system .stepsOff fun _ => true) (fun _ _ => true) (deployed none) lostOnce
    (fun c => resubmitClaims c && unchangedSinceRead c (.step 1 .uneventful)) (by decide +kernel)
  rw [Bool.and_eq_true] at checked
  have through := goesThrough_of_resubmitClaims checked.1
  exact ⟨c, through, requeues_only_stuck _ _ none c (reached.mono fun _ _ _ => trivial) 1 0 _
    checked.2 through⟩

/-- The task of that attempt is delivered after all, between the read and the
conditional update of the resubmit. -/
def startedMeanwhile : List Choice := lostOnce ++ [.spawn (.run 0)] ++ steps 2 3

/-- A job that has just started is queued again. -/
theorem requeues_just_started :
    ¬ ∀ (settings : Settings) (acceptsUrl : String → Bool) (retryFloor : Option String)
      (c : Cluster), (system settings acceptsUrl).Reach (fun _ _ => True) (deployed retryFloor) c →
      ∀ (i id : ℕ) (world : World), ClaimGoesThrough settings c i world id →
        StoredStuck settings c.store id := by
  intro claim
  obtain ⟨c, reached, checked⟩ := Machine.exists_reach_of_replay
    (system .stepsOff fun _ => true) (fun _ _ => true) (deployed none) startedMeanwhile
    (fun c => resubmitClaims c && (c.store.row 0).all fun stored =>
      stored.startedAt = some c.store.clock && !decide (StuckAt .stepsOff stored c.store.clock))
    (by decide +kernel)
  rw [Bool.and_eq_true] at checked
  obtain ⟨stored, found, -, stuck⟩ := claim _ _ none c (reached.mono fun _ _ _ => trivial) 1 0 _
    (goesThrough_of_resubmitClaims checked.1)
  rw [found] at checked
  simp [stuck] at checked

end DicePipeline
