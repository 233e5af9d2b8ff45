import Mathlib.Data.List.Chain
import DicePipeline.Requeue.Sight

/-!
# A lost job is queued again once per wait

`claim_enqueue` is a compare-and-set on `last_enqueued_at`.  `claims id history`
are the conditional updates of one attempt that went through, newest first: what
the caller had read, what it compared with, and what it wrote.

`Tallied` is the invariant that makes the compare-and-set work.  The stored
`last_enqueued_at` is what the newest claim wrote, so a claim that matches
observed exactly its predecessor; the caller was stuck at what it read, so it
writes more than a wait later than that; and so the values written only grow and
none is observed twice.  No other write touches the column (`Effect.enqueued`).
-/

namespace DicePipeline

open Interaction Program RemediationService

/-! ## Compare-and-set -/

section CompareAndSet

variable {α : Type} {seen : α → Option ℕ} {time : α → ℕ}

/-- Where every write observed the one before it, and wrote something later than
it observed, what a write left is later than what any write up to it observed. -/
private theorem seen_lt_time {newest : α} {older : List α}
    (chained : (newest :: older).IsChain fun newer old => seen newer = some (time old))
    (later : ∀ write ∈ newest :: older, ∀ value, seen write = some value → value < time write) :
    ∀ write ∈ newest :: older, ∀ value, seen write = some value → value < time newest := by
  induction older generalizing newest with
  | nil =>
      intro write member
      obtain rfl := List.mem_singleton.mp member
      exact later write member
  | cons next older ih =>
      obtain ⟨observed, chained⟩ := List.isChain_cons_cons.mp chained
      have below : time next < time newest := later newest List.mem_cons_self _ observed
      intro write member value isSeen
      rcases List.mem_cons.mp member with rfl | earlier
      · exact later write member value isSeen
      · have kept := ih chained (fun write member => later write (List.mem_cons_of_mem _ member))
          write earlier value isSeen
        exact kept.trans below

/-- **No value is observed twice** by such writes. -/
theorem nodup_seen {writes : List α}
    (chained : writes.IsChain fun newer old => seen newer = some (time old))
    (later : ∀ write ∈ writes, ∀ value, seen write = some value → value < time write) :
    (writes.map seen).Nodup := by
  induction writes with
  | nil => exact List.nodup_nil
  | cons newest older ih =>
      have olderLater : ∀ write ∈ older, ∀ value, seen write = some value → value < time write :=
        fun write member => later write (List.mem_cons_of_mem _ member)
      rw [List.map_cons, List.nodup_cons]
      refine ⟨?_, ih chained.tail olderLater⟩
      cases older with
      | nil => exact List.not_mem_nil
      | cons next older =>
          obtain ⟨observed, chained⟩ := List.isChain_cons_cons.mp chained
          intro again
          obtain ⟨write, member, same⟩ := List.mem_map.mp again
          have impossible := seen_lt_time chained olderLater write member _ (same.trans observed)
          exact lt_irrefl _ impossible

end CompareAndSet

/-! ## The claims of an attempt -/

/-- One claim that went through. -/
structure Claim where
  /-- The attempt as the caller had read it. -/
  read : Option Remediation
  /-- The `last_enqueued_at` it compared with. -/
  seen : Option ℕ
  /-- The `last_enqueued_at` it wrote. -/
  time : ℕ
  deriving DecidableEq, Repr

/-- What the operation compared with and wrote, if it claimed attempt `id`. -/
def Op.claimed (id : ℕ) : (op : Op) → Except Exn op.Ans → Option (Option ℕ × ℕ)
  | .claimEnqueue other seen time, .ok true => if other = id then some (seen, time) else none
  | _, _ => none

/-- The claims of attempt `id`, newest first. -/
def claims (id : ℕ) : List (Event Query Exn (Option Response) Role) → List Claim
  | [] => []
  | .answered i op answer :: earlier =>
      match Op.claimed id op answer with
      | some (seen, now) => ⟨(sight i earlier).looked, seen, now⟩ :: claims id earlier
      | none => claims id earlier
  | .started _ _ :: earlier => claims id earlier
  | .returned _ _ _ :: earlier => claims id earlier
  | .killed _ :: earlier => claims id earlier

@[simp] theorem claims_place (c : Cluster) (i id : ℕ) (role : Role) (body : Py (Option Response)) :
    claims id (c.place i role body).history = claims id c.history := by
  cases body <;> rfl

/-- An answer that is no claim adds none. -/
theorem claims_of_unclaimed {i id : ℕ} {op : Op} {answer : Except Exn op.Ans}
    {earlier : List (Event Query Exn (Option Response) Role)}
    (unclaimed : Op.claimed id op answer = none) :
    claims id (.answered i op answer :: earlier) = claims id earlier := by
  show (match Op.claimed id op answer with
    | some (seen, now) => _ :: claims id earlier
    | none => claims id earlier) = _
  rw [unclaimed]

/-- A conditional update is the only operation that can be one. -/
theorem claimed_of_noClaim {op : Op} (noClaim : NoClaim op) (id : ℕ) (answer : Except Exn op.Ans) :
    Op.claimed id op answer = none := by
  cases op <;> first | rfl | exact noClaim.elim

/-- The caller had read that attempt, compared with what it read, and wrote more
than the wait of the status it read later than that. -/
def Claim.Waited (settings : Settings) (id : ℕ) (claim : Claim) : Prop :=
  ∃ read wait, claim.read = some read ∧ read.id = id ∧ read.lastEnqueuedAt = claim.seen ∧
    settings.stuckWait read.status = some wait ∧
      ∀ previous, claim.seen = some previous → previous + minutes wait < claim.time

/-- `newer` is a claim that came after `older`, a full wait later. -/
def Claim.Succeeds (settings : Settings) (id : ℕ) (newer older : Claim) : Prop :=
  newer.seen = some older.time ∧ ∃ read wait, newer.read = some read ∧ read.id = id ∧
    read.lastEnqueuedAt = some older.time ∧ settings.stuckWait read.status = some wait ∧
      older.time + minutes wait < newer.time

/-! ## What the operations do to `last_enqueued_at` -/

section Effects

variable {settings : Settings} {world : World} {i : ℕ} {op : Op} {s t : Store}

/-- A conditional update went through and found what it compared with, or it
changed nothing. -/
theorem claim_execute {id now : ℕ} {seen : Option ℕ}
    {answer : Except Exn (Op.claimEnqueue id seen now).Ans}
    (executed : execute settings world i (.claimEnqueue id seen now) s = some (answer, t)) :
    (answer = .ok true ∧ ∃ row, s.row id = some row ∧ row.status.isUnfinished = true ∧
        row.lastEnqueuedAt = seen ∧
        t = s.updateRow id fun row => { row with lastEnqueuedAt := some now }) ∨
      ((∀ a, Op.claimed a (.claimEnqueue id seen now) answer = none) ∧ t = s) := by
  have refused : ∀ outcome : Except Exn Bool, some (outcome, s) = some (answer, t) →
      outcome ≠ .ok true →
      (∀ a, Op.claimed a (.claimEnqueue id seen now) answer = none) ∧ t = s := by
    intro outcome same failed
    obtain ⟨rfl, rfl⟩ := Prod.mk.inj (Option.some.inj same)
    refine ⟨fun a => ?_, rfl⟩
    cases outcome with
    | error exc => rfl
    | ok claimed =>
        cases claimed with
        | false => rfl
        | true => exact absurd rfl failed
  unfold execute at executed
  split at executed
  · exact .inr (refused _ executed fun impossible => by cases impossible)
  · simp only [perform] at executed
    split at executed
    · exact .inr (refused _ executed fun impossible => by cases impossible)
    · rename_i row found
      split at executed
      · rename_i matched
        rw [Bool.and_eq_true, decide_eq_true_eq] at matched
        obtain ⟨rfl, rfl⟩ := Prod.mk.inj (Option.some.inj executed)
        exact .inl ⟨rfl, row, found, matched.1, matched.2, rfl⟩
      · exact .inr (refused _ executed fun impossible => by cases impossible)

/-- **Nothing but a claim writes `last_enqueued_at`.** -/
theorem Effect.enqueued (effect : Effect i s op t) (noClaim : NoClaim op) {id : ℕ}
    {row : Remediation} (found : s.row id = some row) :
    ∃ row', t.row id = some row' ∧ row'.lastEnqueuedAt = row.lastEnqueuedAt := by
  cases effect with
  | @saved other fields _ _ _ =>
      by_cases same : id = other
      · subst same
        exact ⟨_, Store.row_updateRow_self (fun _ => rfl) found, rfl⟩
      · refine ⟨row, Eq.trans ?_ found, rfl⟩
        exact Store.row_updateRow_of_ne (fun _ => rfl) same
  | claimed _ _ _ => exact noClaim.elim
  | committed => exact ⟨row, Store.row_endTransaction found i true, rfl⟩
  | abandoned => exact ⟨row, Store.row_endTransaction found i false, rfl⟩
  | rolledBack => exact ⟨row, Store.row_endTransaction found i false, rfl⟩
  | _ => exact ⟨row, found, rfl⟩

/-- So a row is an old one, or new and never claimed. -/
theorem Effect.enqueued_rows (effect : Effect i s op t) (noClaim : NoClaim op) {row : Remediation}
    (member : row ∈ t.rows) :
    (∃ old ∈ s.rows, old.id = row.id ∧ old.lastEnqueuedAt = row.lastEnqueuedAt) ∨
      (row.id = s.nextId ∧ row.lastEnqueuedAt = none) := by
  have stays : ∀ {rows : List Remediation}, rows.Subperm s.rows → row ∈ rows →
      ∃ old ∈ s.rows, old.id = row.id ∧ old.lastEnqueuedAt = row.lastEnqueuedAt :=
    fun fewer member => ⟨row, fewer.subset member, rfl, rfl⟩
  cases effect with
  | saved _ _ =>
      rcases Store.mem_updateRow_rows member with old | ⟨old, oldMember, -, rfl⟩
      · exact .inl ⟨row, old, rfl, rfl⟩
      · exact .inl ⟨old, Store.mem_rows_of_mem oldMember, rfl, rfl⟩
  | claimed _ _ _ => exact noClaim.elim
  | @inserted new _ _ =>
      rw [Store.insert_rows] at member
      rcases List.mem_append.mp member with old | last
      · exact .inl ⟨row, old, rfl, rfl⟩
      · obtain rfl := List.mem_singleton.mp last
        exact .inr ⟨rfl, rfl⟩
  | committed => exact .inl (stays (s.endTransaction_rows i true) member)
  | abandoned => exact .inl (stays (s.endTransaction_rows i false) member)
  | rolledBack => exact .inl (stays (s.endTransaction_rows i false) member)
  | _ => exact .inl ⟨row, member, rfl, rfl⟩

end Effects

/-! ## The invariant -/

/-- What the claims so far say about the table of attempts. -/
structure Tallied (settings : Settings) (s : Store)
    (history : List (Event Query Exn (Option Response) Role)) : Prop where
  keyed : WellKeyed s.rows s.nextId
  /-- An attempt holds what its newest claim wrote. -/
  latest : ∀ row ∈ s.rows, row.lastEnqueuedAt = (claims row.id history).head?.map (·.time)
  /-- An attempt that was never made was never claimed. -/
  unmade : ∀ id, s.nextId ≤ id → claims id history = []
  /-- Each claim observed the one before it. -/
  chained : ∀ id, (claims id history).IsChain fun newer older => newer.seen = some older.time
  waited : ∀ id, ∀ claim ∈ claims id history, claim.Waited settings id

section Invariant

variable {settings : Settings} {acceptsUrl : String → Bool} {retryFloor : Option String}
variable {ok : Cluster → Choice → Prop} {c : Cluster}
variable {i : ℕ} {s t : Store} {history history' : List (Event Query Exn (Option Response) Role)}

/-- The claims stay, and the rows are old ones or new and unclaimed. -/
theorem Tallied.frame (tallied : Tallied settings s history) (keyed : WellKeyed t.rows t.nextId)
    (same : ∀ id, claims id history' = claims id history) (grows : s.nextId ≤ t.nextId)
    (rows : ∀ row ∈ t.rows,
      (∃ old ∈ s.rows, old.id = row.id ∧ old.lastEnqueuedAt = row.lastEnqueuedAt) ∨
        (row.id = s.nextId ∧ row.lastEnqueuedAt = none)) : Tallied settings t history' where
  keyed := keyed
  latest := by
    intro row member
    rw [same]
    rcases rows row member with ⟨old, oldMember, sameId, sameTime⟩ | ⟨isNew, unclaimed⟩
    · rw [← sameTime, ← sameId]
      exact tallied.latest old oldMember
    · rw [unclaimed, tallied.unmade row.id isNew.ge]
      rfl
  unmade := fun id unused => (same id).trans (tallied.unmade id (grows.trans unused))
  chained := fun id => (same id).symm ▸ tallied.chained id
  waited := fun id => (same id).symm ▸ tallied.waited id

/-- A permitted claim that went through waited. -/
private theorem waited_of_permitted {x : Sight} {clock id now : ℕ} {seen : Option ℕ}
    (permitted : x.Permits settings (.claimEnqueue id seen now))
    (ordered : (clock :: x.clocks).Pairwise (· ≥ ·)) :
    Claim.Waited settings id ⟨x.looked, seen, now⟩ := by
  obtain ⟨read, before, earlier, looked, isId, isSeen, clocks, progress, wait, found, stuck⟩ :=
    permitted
  obtain ⟨status, notBefore⟩ := lastProgress_eq found
  have inOrder : now ≥ before := by
    rw [clocks] at ordered
    exact (List.pairwise_cons.mp (List.pairwise_cons.mp ordered).2).1 before List.mem_cons_self
  refine ⟨read, wait, looked, isId, isSeen, status, fun previous observed => ?_⟩
  have earlier := notBefore previous (isSeen.trans observed)
  dsimp only
  omega

private theorem Tallied.claim (tallied : Tallied settings s history) {id now : ℕ}
    {seen : Option ℕ} {row : Remediation} (found : s.row id = some row)
    (matched : row.lastEnqueuedAt = seen)
    (waited : Claim.Waited settings id ⟨(sight i history).looked, seen, now⟩) :
    Tallied settings (s.updateRow id fun row => { row with lastEnqueuedAt := some now })
      (.answered i (.claimEnqueue id seen now) (.ok true) :: history) := by
  have mine : claims id (.answered i (.claimEnqueue id seen now) (.ok true) :: history) =
      ⟨(sight i history).looked, seen, now⟩ :: claims id history := by
    simp [claims, Op.claimed]
  have others : ∀ a, a ≠ id →
      claims a (.answered i (.claimEnqueue id seen now) (.ok true) :: history) =
        claims a history := by
    intro a different
    simp [claims, Op.claimed, Ne.symm different]
  -- A row that is stored has a key below the next one.
  have known : id < s.nextId := by
    have below := tallied.keyed.fresh row (Store.mem_rows_of_mem (Store.row_mem found))
    rwa [Store.row_id found] at below
  refine ⟨?_, ?_, ?_, ?_, ?_⟩
  · exact tallied.keyed.of_ids (Store.updateRow_rows_map _ fun _ => rfl)
  -- Of the claimed row the newest claim is what it now has; other rows are as before.
  · intro other member
    by_cases same : other.id = id
    · rw [same, mine]
      rcases Store.mem_updateRow_rows member with old | ⟨old, -, -, rfl⟩
      · -- A pending row has another key than a committed one.
        have isRow : other = row := tallied.keyed.eq_of_id old
          (Store.mem_rows_of_mem (Store.row_mem found)) (same.trans (Store.row_id found).symm)
        subst isRow
        rcases List.mem_append.mp member with committed | pending
        · obtain ⟨old, -, rewritten⟩ := List.mem_map.mp committed
          split at rewritten
          · rw [← rewritten]
            rfl
          · rename_i different
            exact absurd (rewritten ▸ same) different
        · have twice : other ∈ s.remediations := Store.row_mem found
          have nodup := tallied.keyed.nodup
          rw [Store.rows, List.map_append, List.nodup_append] at nodup
          exact absurd rfl (nodup.2.2 _ (List.mem_map_of_mem twice) _ (List.mem_map_of_mem pending))
      · rfl
    · rw [others _ same]
      rcases Store.mem_updateRow_rows member with old | ⟨old, -, hit, rfl⟩
      · exact tallied.latest other old
      · exact absurd hit same
  · intro a unused
    have different : a ≠ id := by
      rintro rfl
      exact absurd known (Nat.not_lt.mpr unused)
    exact (others a different).trans (tallied.unmade a unused)
  · intro a
    by_cases same : a = id
    · subst same
      -- The update matched, so what this claim has seen is what the claim before it wrote.
      rw [mine, List.isChain_cons]
      refine ⟨fun older isNewest => ?_, tallied.chained a⟩
      have stored := tallied.latest row (Store.mem_rows_of_mem (Store.row_mem found))
      rw [Store.row_id found, Option.mem_def.mp isNewest] at stored
      exact matched.symm.trans stored
    · rw [others a same]
      exact tallied.chained a
  · intro a
    by_cases same : a = id
    · subst same
      rw [mine]
      intro claim member
      rcases List.mem_cons.mp member with rfl | earlier
      · exact waited
      · exact tallied.waited a claim earlier
    · rw [others a same]
      exact tallied.waited a

/-- The invariant holds in every reachable configuration. -/
theorem reach_tallied (reached : (system settings acceptsUrl).Reach ok (deployed retryFloor) c) :
    Tallied settings c.store c.history := by
  have ended : ∀ (s : Store) history i, Tallied settings s history →
      Tallied settings (s.endTransaction i false) history := by
    intro s history i tallied
    refine tallied.frame (tallied.keyed.of_subperm (s.endTransaction_rows i false) le_rfl)
      (fun _ => rfl) le_rfl fun row member => .inl ?_
    exact ⟨row, (s.endTransaction_rows i false).subset member, rfl, rfl⟩
  refine reached.invariant (fun c => Tallied settings c.store c.history) ?_ ?_
  · refine ⟨⟨List.nodup_nil, ?_⟩, ?_, fun _ _ => rfl, fun _ => .nil, ?_⟩
    · exact fun row member => nomatch member
    · exact fun row member => nomatch member
    · exact fun _ claim member => nomatch member
  · intro c choice c' before tallied _ moved
    cases choice with
    | spawn role =>
        obtain ⟨body, -, rfl⟩ := Machine.next_spawn_eq moved
        rw [Config.place_store]
        exact tallied.frame tallied.keyed (fun id => claims_place _ _ id _ _) le_rfl
          fun row member => .inl ⟨row, member, rfl, rfl⟩
    | step i world =>
        obtain ⟨thread, answer, t, live, executed, rfl⟩ := step_eq moved
        have permitted := claim_permitted before live
        have ordered := sight_clocks before i
        have logged : ∀ id, claims id (stepped c i thread answer t).history =
            claims id (.answered i thread.op answer :: c.history) :=
          fun id => claims_place _ _ id _ _
        rw [stepped_store]
        obtain ⟨role, op, next⟩ := thread
        dsimp only at executed permitted logged
        -- Only the conditional update is a claim; whatever else steps leaves the column as it is.
        have quiet : NoClaim op → Tallied settings t
            (stepped c i ⟨role, op, next⟩ answer t).history := by
          intro noClaim
          have effect := execute_effect executed
          refine tallied.frame (effect.wellKeyed tallied.keyed) ?_ effect.nextId_le
            fun row member => effect.enqueued_rows noClaim member
          intro id
          exact (logged id).trans (claims_of_unclaimed (claimed_of_noClaim noClaim id answer))
        cases op with
        | claimEnqueue id seen now =>
            -- It matched, or it has written nothing.
            rcases claim_execute executed with ⟨rfl, row, found, -, matched, rfl⟩ | ⟨none, rfl⟩
            · have claimed := tallied.claim (i := i) found matched
                (waited_of_permitted permitted ordered)
              exact claimed.frame claimed.keyed logged le_rfl
                fun row member => .inl ⟨row, member, rfl, rfl⟩
            · refine tallied.frame tallied.keyed (fun a => ?_) le_rfl
                fun row member => .inl ⟨row, member, rfl, rfl⟩
              exact (logged a).trans (claims_of_unclaimed (none a))
        | _ => exact quiet trivial
    | kill i =>
        obtain ⟨_, -, rfl⟩ := Machine.next_kill_eq moved
        refine (ended c.store c.history i tallied).frame ?_ (fun _ => rfl) le_rfl
          fun row member => .inl ⟨row, member, rfl, rfl⟩
        exact tallied.keyed.of_subperm (c.store.endTransaction_rows i false) le_rfl
    | env elapsed =>
        obtain rfl := Machine.next_env_eq moved
        exact tallied.frame tallied.keyed (fun _ => rfl) le_rfl
          fun row member => .inl ⟨row, member, rfl, rfl⟩

end Invariant

/-! ## One resubmit per wait -/

/-- **A lost job is queued again once per wait.**  Whatever the threads do, no two
claims of one attempt observed the same `last_enqueued_at`, every claim compared
with what its caller had read, and each one wrote more than a wait later than the
one before it, the wait of the status its caller had read.  A worker never touches
the column. -/
theorem requeued_once_per_wait (settings : Settings) (acceptsUrl : String → Bool)
    (retryFloor : Option String) (ok : Cluster → Choice → Prop) (c : Cluster)
    (reached : (system settings acceptsUrl).Reach ok (deployed retryFloor) c) :
    (∀ id, ((claims id c.history).map (·.seen)).Nodup ∧
      (∀ claim ∈ claims id c.history, claim.read.map (·.lastEnqueuedAt) = some claim.seen) ∧
      (claims id c.history).IsChain (Claim.Succeeds settings id)) ∧
    (∀ i worker world thread answer t, c.threads i = some thread → thread.role = .run worker →
      execute settings world i thread.op c.store = some (answer, t) →
      ∀ id row, c.store.row id = some row →
        ∃ row', t.row id = some row' ∧ row'.lastEnqueuedAt = row.lastEnqueuedAt) := by
  have tallied := reach_tallied reached
  refine ⟨fun id => ⟨?_, ?_, ?_⟩, ?_⟩
  · refine nodup_seen (tallied.chained id) fun claim member value observed => ?_
    obtain ⟨read, wait, -, -, -, -, waited⟩ := tallied.waited id claim member
    have later := waited value observed
    omega
  · intro claim member
    obtain ⟨read, wait, isRead, -, isSeen, -⟩ := tallied.waited id claim member
    rw [isRead, Option.map_some, isSeen]
  · refine (tallied.chained id).imp_of_mem_imp fun newer older member _ observed => ?_
    obtain ⟨read, wait, isRead, isId, isSeen, status, waited⟩ := tallied.waited id newer member
    exact ⟨observed, read, wait, isRead, isId, isSeen.trans observed, status, waited _ observed⟩
  · intro i worker world thread answer t live isWorker executed id row found
    exact (execute_effect executed).enqueued (worker_noClaim reached live isWorker) found

/-- An hour and a minute. -/
def pastTheWait : ℕ := minutes 61

/-- A job whose task is never run is submitted again after an hour, and once more
after another hour. -/
def lostTwice : List Choice :=
  [.spawn (.request .noLimits .oneByte)] ++ steps 0 9 ++ [.env pastTheWait] ++
  [.spawn (.request .noLimits .oneByte)] ++ steps 1 7 ++ [.env pastTheWait] ++
  [.spawn (.request .noLimits .oneByte)] ++ steps 2 7

/-- The job of that schedule is claimed twice, an hour apart. -/
theorem requeued_once_per_wait_lost_twice :
    ∃ c : Cluster, (claims 0 c.history).length = 2 ∧
      (claims 0 c.history).IsChain (Claim.Succeeds .stepsOff 0) := by
  obtain ⟨c, reached, twice⟩ := Machine.exists_reach_of_replay
    (system .stepsOff fun _ => true) (fun _ _ => true) (deployed none) lostTwice
    (fun c => (claims 0 c.history).length = 2) (by decide +kernel)
  refine ⟨c, by simpa using twice, ?_⟩
  exact ((requeued_once_per_wait _ _ none _ c reached).1 0).2.2

end DicePipeline
