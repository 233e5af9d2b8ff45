import DicePipeline.Remediation.Footprints
import DicePipeline.Submission.Rows

/-!
# What a submit has established when it inserts an attempt

Several submits of one account run at once, and each of them decides on what it
read earlier.  `Entitled` is what is still true at the moment of the insert:

* the last `latest_for_document` of this connection said that a new attempt is
  needed;
* if the account has a limit, the connection holds the account's lock, fewer
  than the limit's attempts are as recent as the count looked, and the latest
  attempt is still the one that was looked up.

It is proved by a rely/guarantee argument over one account (`Submitter`).  Other
threads may do anything `Discreet` allows, which is everything an operation can
do: no operation of theirs moves this connection's lock, its uncommitted rows or
its last answer, and while the lock is held none of them adds a row to the
account.
-/

namespace DicePipeline

open Interaction Program

/-! ## The stamps of an account -/

/-- The key, the document and the creation time of each committed attempt. -/
def Store.stamps (s : Store) (account : ℕ) : List (ℕ × String × ℕ) :=
  (s.remediations.filter fun row => row.serviceAccount = account).map fun row =>
    (row.id, row.contentHash, row.createdAt)

/-- Which attempt `latest_for_document` returns. -/
def Store.latestId (s : Store) (account : ℕ) (contentHash : String) : Option ℕ :=
  (s.latest account contentHash).map (·.id)

private theorem argmax_map {α β : Type} (g : α → β) (f : β → ℕ) (l : List α) :
    (l.map g).argmax f = (l.argmax (f ∘ g)).map g := by
  induction l using List.reverseRecOn with
  | nil => rfl
  | append_singleton l a ih =>
      rw [List.map_append, List.map_singleton, List.argmax_concat, List.argmax_concat, ih]
      cases l.argmax (f ∘ g) with
      | none => rfl
      | some best =>
          simp only [Option.map_some, Function.comp_apply]
          split <;> rfl

namespace Store

variable {s t : Store} {account : ℕ}

theorem attempts_stamps (s : Store) (account : ℕ) (contentHash : String) :
    ((s.attempts account contentHash).map fun row => (row.id, row.contentHash, row.createdAt)) =
      (s.stamps account).filter fun stamp => stamp.2.1 = contentHash := by
  rw [stamps, List.filter_map, List.filter_filter, attempts]
  congr 1
  refine List.filter_congr fun row _ => ?_
  simp [Remediation.isFor, Bool.and_comm]

/-- The stamps say which attempt is the latest. -/
theorem latestId_congr (same : t.stamps account = s.stamps account) (contentHash : String) :
    t.latestId account contentHash = s.latestId account contentHash := by
  have byStamps : ∀ u : Store, u.latestId account contentHash =
      (((u.stamps account).filter fun stamp => stamp.2.1 = contentHash).argmax
        fun stamp => stamp.2.2).map (·.1) := by
    intro u
    rw [← attempts_stamps, argmax_map, Option.map_map]
    rfl
  rw [byStamps, byStamps, same]

/-- The stamps say how many attempts are recent. -/
theorem recent_congr (same : t.stamps account = s.stamps account) (since : ℕ) :
    (t.recent account since).length = (s.recent account since).length := by
  have byStamps : ∀ u : Store, (u.recent account since).length =
      ((u.stamps account).filter fun stamp => since ≤ stamp.2.2).length := by
    intro u
    rw [stamps, List.filter_map, List.length_map, List.filter_filter, recent]
    congr 1
    refine List.filter_congr fun row _ => ?_
    simp [Bool.and_comm]
  rw [byStamps, byStamps, same]

theorem updateRow_stamps {id : ℕ} {f : Remediation → Remediation}
    (kept : ∀ row, ((f row).serviceAccount, (f row).id, (f row).contentHash, (f row).createdAt) =
      (row.serviceAccount, row.id, row.contentHash, row.createdAt)) :
    (s.updateRow id f).stamps account = s.stamps account := by
  simp only [Prod.mk.injEq] at kept
  simp only [stamps, updateRow, List.filter_map, List.map_map]
  congr 1
  · funext row
    simp only [Function.comp_apply]
    split
    · simp [kept row]
    · rfl
  · refine List.filter_congr fun row _ => ?_
    simp only [Function.comp_apply]
    split
    · simp [kept row]
    · rfl

/-- A commit adds the connection's own rows. -/
theorem endTransaction_stamps (s : Store) (i account : ℕ) (keep : Bool) :
    (s.endTransaction i keep).stamps account = s.stamps account ∨
      ∃ row ∈ s.uncommitted i, row.serviceAccount = account := by
  by_cases own : ∃ row ∈ s.uncommitted i, row.serviceAccount = account
  · exact .inr own
  · refine .inl ?_
    have none : (s.uncommitted i).filter (fun row => row.serviceAccount = account) = [] := by
      rw [List.filter_eq_nil_iff]
      intro row member isAccount
      exact own ⟨row, member, by simpa using isAccount⟩
    cases keep with
    | true => simp [stamps, endTransaction, none]
    | false => rfl

theorem endTransaction_uncommitted {i j : ℕ} (different : j ≠ i) (keep : Bool) :
    (s.endTransaction i keep).uncommitted j = s.uncommitted j := by
  simp only [uncommitted, endTransaction, List.filter_filter]
  congr 1
  refine List.filter_congr fun entry _ => ?_
  by_cases same : entry.1 = j
  · simp [same, different]
  · simp [same]

end Store

/-! ## What any operation leaves to the other connections -/

/-- What an operation of connection `i` cannot do to the others. -/
structure Discreet (account i : ℕ) (s t : Store) : Prop where
  clock : t.clock = s.clock
  pipelineConfig : t.pipelineConfig = s.pipelineConfig
  lookups : ∀ j, j ≠ i → t.lookups j = s.lookups j
  locks : ∀ j, j ≠ i → (t.locks account = some j ↔ s.locks account = some j)
  uncommitted : ∀ j, j ≠ i → t.uncommitted j = s.uncommitted j
  stamps : t.stamps account = s.stamps account ∨
    ∃ row ∈ s.uncommitted i, row.serviceAccount = account

variable {account i : ℕ} {op : Op} {s t : Store}

theorem Discreet.refl (account i : ℕ) (s : Store) : Discreet account i s s :=
  ⟨rfl, rfl, fun _ _ => rfl, fun _ _ => Iff.rfl, fun _ _ => rfl, .inl rfl⟩

theorem Discreet.endTransaction (account i : ℕ) (s : Store) (keep : Bool) :
    Discreet account i s (s.endTransaction i keep) where
  clock := rfl
  pipelineConfig := rfl
  lookups := fun _ _ => rfl
  locks := by
    intro j different
    simp only [Store.endTransaction]
    split
    · rename_i held
      simp [held, Ne.symm different]
    · exact Iff.rfl
  uncommitted := fun _ different => Store.endTransaction_uncommitted different keep
  stamps := s.endTransaction_stamps i account keep

theorem Effect.discreet (effect : Effect i s op t) : Discreet account i s t := by
  have pending : ∀ (row : Remediation) j, j ≠ i →
      (((s.pending ++ [(i, row)]).filter fun entry => entry.1 = j).map (·.2)) =
        s.uncommitted j := by
    intro row j different
    simp [Store.uncommitted, Ne.symm different]
  cases effect with
  | saved found guarded =>
      exact ⟨rfl, rfl, fun _ _ => rfl, fun _ _ => Iff.rfl, fun _ _ => rfl,
        .inl (Store.updateRow_stamps fun _ => rfl)⟩
  | looked =>
      exact ⟨rfl, rfl, fun _ different => Function.update_of_ne different _ _,
        fun _ _ => Iff.rfl, fun _ _ => rfl, .inl rfl⟩
  | @locked account' free =>
      refine ⟨rfl, rfl, fun _ _ => rfl, fun j different => ?_, fun _ _ => rfl, .inl rfl⟩
      by_cases same : account = account'
      · subst same
        simp [free, Ne.symm different]
      · simp [Function.update_of_ne same]
  | inserted noClash noWait =>
      exact ⟨rfl, rfl, fun _ _ => rfl, fun _ _ => Iff.rfl, pending _, .inl rfl⟩
  | committed => exact Discreet.endTransaction account i s true
  | abandoned => exact Discreet.endTransaction account i s false
  | rolledBack => exact Discreet.endTransaction account i s false
  | claimed found unfinished unclaimed =>
      exact ⟨rfl, rfl, fun _ _ => rfl, fun _ _ => Iff.rfl, fun _ _ => rfl,
        .inl (Store.updateRow_stamps fun _ => rfl)⟩
  | _ =>
      exact ⟨rfl, rfl, fun _ _ => rfl, fun _ _ => Iff.rfl, fun _ _ => rfl, .inl rfl⟩

/-- Only an insert adds an uncommitted row. -/
theorem Effect.pending_append {row : Remediation} (effect : Effect i s op t)
    (added : t.pending = s.pending ++ [(i, row)]) :
    ∃ new, op = .insertRemediation new ∧ row = new.toRow s.nextId := by
  have ended : ∀ keep, (s.endTransaction i keep).pending ≠ s.pending ++ [(i, row)] := by
    intro keep same
    have shorter : (s.endTransaction i keep).pending.length ≤ s.pending.length :=
      List.length_filter_le _ _
    rw [same, List.length_append, List.length_singleton] at shorter
    omega
  cases effect with
  | @inserted new noClash noWait =>
      have same := List.append_cancel_left added
      exact ⟨new, rfl, by simpa using same.symm⟩
  | committed => exact absurd added (ended true)
  | abandoned => exact absurd added (ended false)
  | rolledBack => exact absurd added (ended false)
  | _ => exact absurd added (by simp [Store.updateRow])

/-! ## The entitlement -/

/-- `_should_retry` without `force`: the attempt failed and is older than the
retry floor. -/
def Retriable (settings : Settings) (floor : Option String) (row : Remediation) : Prop :=
  (row.status = .noncompliant ∨ row.status = .error) ∧
    RemediationService.isOutdated settings row (floor.getD "") = true

/-- Fewer than the limit's attempts are as recent as a count made at `now` or
before looked, and the account is locked. -/
def Counted (limit : Option SubmissionLimit) (account i now : ℕ) (s : Store) : Prop :=
  ∀ l, limit = some l → s.locks account = some i ∧
    ∃ since, since ≤ now - seconds l.duration ∧
      (s.recent account since).length < l.numRequests

/-- The last look-up was for this document and said that a new attempt is needed,
and under a lock it is still up to date. -/
def Looked (settings : Settings) (limit : Option SubmissionLimit) (force : Bool)
    (account : ℕ) (contentHash : String) (i : ℕ) (s : Store) : Prop :=
  (∀ existing, s.lookups i = some existing → existing.isFor account contentHash = true ∧
    (force = true ∨ Retriable settings s.pipelineConfig existing)) ∧
  (limit.isSome = true → s.locks account = some i →
    s.latestId account contentHash = (s.lookups i).map (·.id))

/-- **What connection `i` may rely on when it inserts `row`.** -/
structure Entitled (settings : Settings) (limit : Option SubmissionLimit) (force : Bool)
    (account : ℕ) (contentHash : String) (i : ℕ) (s : Store) (row : Remediation) : Prop where
  owner : row.serviceAccount = account
  document : row.contentHash = contentHash
  alone : s.uncommitted i = []
  counted : Counted limit account i row.createdAt s
  looked : Looked settings limit force account contentHash i s

/-- What the others may do to a submit of the account between two of its
operations. -/
structure Tolerated (limit : Option SubmissionLimit) (account i : ℕ) (s t : Store) : Prop where
  clock : s.clock ≤ t.clock
  pipelineConfig : t.pipelineConfig = s.pipelineConfig
  lookups : t.lookups i = s.lookups i
  uncommitted : t.uncommitted i = s.uncommitted i
  locks : t.locks account = some i ↔ s.locks account = some i
  stamps : limit.isSome = true → s.locks account = some i →
    t.stamps account = s.stamps account

/-- What a submit promises: it is discreet, and inserts only what it is entitled
to. -/
structure Promised (settings : Settings) (limit : Option SubmissionLimit) (force : Bool)
    (account : ℕ) (contentHash : String) (i : ℕ) (s t : Store) : Prop where
  discreet : Discreet account i s t
  entitled : ∀ row, t.pending = s.pending ++ [(i, row)] →
    Entitled settings limit force account contentHash i s row

/-- A submit of the account, among all other threads. -/
def Submitter (settings : Settings) (limit : Option SubmissionLimit) (force : Bool)
    (account : ℕ) (contentHash : String) (i : ℕ) : Environment Query Exn Store where
  step := fun op s r t => ∃ world, execute settings world i op s = some (r, t)
  rely := Tolerated limit account i
  guarantee := Promised settings limit force account contentHash i
  rely_refl := fun _ => ⟨le_rfl, rfl, rfl, rfl, Iff.rfl, fun _ _ => rfl⟩
  rely_trans := fun first second =>
    { clock := first.clock.trans second.clock
      pipelineConfig := second.pipelineConfig.trans first.pipelineConfig
      lookups := second.lookups.trans first.lookups
      uncommitted := second.uncommitted.trans first.uncommitted
      locks := second.locks.trans first.locks
      stamps := fun limited held =>
        (second.stamps limited (first.locks.mpr held)).trans (first.stamps limited held) }

/-- The operation is no insert of an attempt. -/
def InsertsNothing (op : Op) : Prop := ∀ new, op ≠ .insertRemediation new

section Submitter

variable {settings : Settings} {limit : Option SubmissionLimit} {force : Bool}
variable {contentHash : String} {now : ℕ}

/-- An operation that inserts nothing keeps the promise by itself. -/
theorem promised_of_not_insert (effect : Effect i s op t)
    (other : InsertsNothing op) :
    Promised settings limit force account contentHash i s t where
  discreet := effect.discreet
  entitled := by
    intro row added
    obtain ⟨new, isInsert, -⟩ := effect.pending_append added
    exact absurd isInsert (other new)

/-- The rule of an operation that inserts nothing. -/
theorem triple_issue {P : Store → Prop} {Q : Except Exn op.Ans → Store → Prop}
    (other : InsertsNothing op)
    (stable : (Submitter settings limit force account contentHash i).Stable P)
    (outcome : ∀ s r t world, P s → execute settings world i op s = some (r, t) → Q r t) :
    Triple (Submitter settings limit force account contentHash i) P (issue op) Q := by
  refine Triple.perform stable ?_
  rintro s r t holds ⟨world, executed⟩
  exact ⟨promised_of_not_insert (execute_effect executed) other,
    outcome s r t world holds executed⟩

theorem stable_alone : (Submitter settings limit force account contentHash i).Stable
    fun s => s.uncommitted i = [] :=
  fun _ _ alone tolerated => tolerated.uncommitted.trans alone

theorem stable_counted : (Submitter settings limit force account contentHash i).Stable
    (Counted limit account i now) := by
  intro s t counted tolerated l isLimit
  obtain ⟨held, since, recent, fewer⟩ := counted l isLimit
  refine ⟨tolerated.locks.mpr held, since, recent, ?_⟩
  rw [Store.recent_congr (tolerated.stamps (by rw [isLimit]; rfl) held)]
  exact fewer

theorem stable_looked : (Submitter settings limit force account contentHash i).Stable
    (Looked settings limit force account contentHash i) := by
  intro s t looked tolerated
  refine ⟨fun existing found => ?_, fun limited held => ?_⟩
  · rw [tolerated.pipelineConfig]
    exact looked.1 existing (tolerated.lookups.symm.trans found)
  · have heldBefore := tolerated.locks.mp held
    rw [Store.latestId_congr (tolerated.stamps limited heldBefore), tolerated.lookups]
    exact looked.2 limited heldBefore

/-- A program that inserts nothing keeps every promise. -/
theorem triple_of_not_insert {α : Type} {p : Py α}
    (only : p.Only answered InsertsNothing)
    {P : Store → Prop} {Q : Except Exn α → Store → Prop} (post : ∀ r s, Q r s) :
    Triple (Submitter settings limit force account contentHash i) P p Q := by
  refine (Triple.only only (P := fun _ => True) (fun _ _ _ _ => trivial) ?_).conseq
    (fun _ _ => trivial) fun r s _ => post r s
  rintro op other s r t - ⟨world, executed⟩
  exact ⟨execute_answered executed, promised_of_not_insert (execute_effect executed) other,
    trivial⟩

/-- Looking the latest attempt up changes nothing but the answer kept for this
connection. -/
theorem execute_latest {contentHash : String} {world : World} {r : Except Exn (Option Remediation)}
    (executed : execute settings world i (.latestForDocument account contentHash) s = some (r, t)) :
    (r = .ok (s.latest account contentHash) ∧ t = { s with
      lookups := Function.update s.lookups i (s.latest account contentHash) }) ∨
    ((∃ exc, r = .error exc) ∧ t = s) := by
  rw [execute] at executed
  split at executed
  · obtain ⟨rfl, rfl⟩ := Prod.mk.inj (Option.some.inj executed)
    exact .inr ⟨⟨_, rfl⟩, rfl⟩
  · obtain ⟨rfl, rfl⟩ := Prod.mk.inj (Option.some.inj executed)
    exact .inl ⟨rfl, rfl⟩

/-- An operation that only reads leaves the store. -/
theorem execute_pipelineConfig {world : World} {r : Except Exn (Option String)}
    (executed : execute settings world i .pipelineConfig s = some (r, t)) :
    (r = .ok s.pipelineConfig ∨ ∃ exc, r = .error exc) ∧ t = s := by
  rw [execute] at executed
  split at executed
  · obtain ⟨rfl, rfl⟩ := Prod.mk.inj (Option.some.inj executed)
    exact ⟨.inr ⟨_, rfl⟩, rfl⟩
  · obtain ⟨rfl, rfl⟩ := Prod.mk.inj (Option.some.inj executed)
    exact ⟨.inl rfl, rfl⟩

/-- The latest attempt at this document was `existing` when this connection looked,
and under a lock it still is. -/
def Found (limit : Option SubmissionLimit) (account : ℕ) (contentHash : String) (i : ℕ)
    (existing : Option Remediation) (s : Store) : Prop :=
  s.lookups i = existing ∧ (∀ row, existing = some row → row.isFor account contentHash = true) ∧
    (limit.isSome = true → s.locks account = some i →
      s.latestId account contentHash = existing.map (·.id))

theorem stable_found (existing : Option Remediation) :
    (Submitter settings limit force account contentHash i).Stable
      (Found limit account contentHash i existing) := by
  rintro s t ⟨looked, document, upToDate⟩ tolerated
  refine ⟨tolerated.lookups.trans looked, document, fun limited held => ?_⟩
  have heldBefore := tolerated.locks.mp held
  rw [Store.latestId_congr (tolerated.stamps limited heldBefore)]
  exact upToDate limited heldBefore

theorem Found.looked {existing : Option Remediation}
    (found : Found limit account contentHash i existing s)
    (retried : ∀ row, existing = some row → force = true ∨ Retriable settings s.pipelineConfig row) :
    Looked settings limit force account contentHash i s := by
  obtain ⟨looked, document, upToDate⟩ := found
  subst looked
  exact ⟨fun row isLooked => ⟨document row isLooked, retried row isLooked⟩, upToDate⟩

section Reuse

variable {P : Store → Prop}

/-- `latest_for_document`.  `P` is whatever the caller knows that does not
depend on the answer. -/
theorem latestForDocument_triple
    (stable : (Submitter settings limit force account contentHash i).Stable P)
    (answer : ∀ s found, P s → P { s with lookups := Function.update s.lookups i found }) :
    Triple (Submitter settings limit force account contentHash i) P
      (RemediationService.latestForDocument account contentHash)
      fun r s => P s ∧ ∀ existing, r = .ok existing →
        Found limit account contentHash i existing s := by
  refine triple_issue (fun _ => Op.noConfusion) stable ?_
  intro s r t world known executed
  rcases execute_latest executed with ⟨rfl, rfl⟩ | ⟨⟨exc, rfl⟩, rfl⟩
  · refine ⟨answer s _ known, ?_⟩
    rintro existing ⟨⟩
    exact ⟨Function.update_self _ _ _, fun row isLatest => (Store.latest_mem isLatest).2,
      fun _ _ => rfl⟩
  · exact ⟨known, fun existing impossible => by cases impossible⟩

/-- `_should_retry`: the attempt is retried only by force or if it is
retriable. -/
theorem shouldRetry_triple (existing : Remediation)
    (stable : (Submitter settings limit force account contentHash i).Stable P) :
    Triple (Submitter settings limit force account contentHash i) P
      (RemediationService.shouldRetry settings existing force)
      fun r s => P s ∧ (r = .ok true → force = true ∨
        Retriable settings s.pipelineConfig existing) := by
  rw [RemediationService.shouldRetry]
  split
  · rename_i forced
    exact Triple.done fun s known => ⟨known, fun _ => .inl forced⟩
  · split
    · exact Triple.done fun s known => ⟨known, fun impossible => by cases impossible⟩
    · rename_i failed
      -- Past the two early answers the attempt has failed, and the floor decides.
      have isFailed : existing.status = .noncompliant ∨ existing.status = .error := by
        by_cases first : existing.status = .noncompliant
        · exact .inl first
        · by_cases second : existing.status = .error
          · exact .inr second
          · exact absurd ⟨first, second⟩ failed
      -- Nobody changes the floor meanwhile, so what was read is still configured.
      have floorStable : ∀ floor : Option String,
          (Submitter settings limit force account contentHash i).Stable
            fun s => P s ∧ s.pipelineConfig = floor := by
        rintro floor s t ⟨known, same⟩ tolerated
        exact ⟨stable s t known tolerated, tolerated.pipelineConfig.trans same⟩
      refine Triple.bind (M := fun r s => P s ∧ ∀ floor, r = .ok floor →
        s.pipelineConfig.getD "" = floor) ?_ ?_ ?_
      · refine Triple.bind (M := fun r s => P s ∧ ∀ config, r = .ok config →
          s.pipelineConfig = config) (triple_issue (fun _ => Op.noConfusion) stable ?_) ?_ ?_
        · intro s r t world known executed
          obtain ⟨answer, rfl⟩ := execute_pipelineConfig executed
          refine ⟨known, ?_⟩
          rintro config rfl
          rcases answer with same | ⟨exc, impossible⟩
          · exact (Except.ok.inj same).symm
          · cases impossible
        · intro config
          refine Triple.done ?_
          rintro s ⟨known, same⟩
          refine ⟨known, ?_⟩
          rintro floor ⟨⟩
          rw [same config rfl]
        · intro exc s known
          exact ⟨known.1, fun _ impossible => by cases impossible⟩
      · intro floor
        refine Triple.done ?_
        rintro s ⟨known, same⟩
        refine ⟨known, fun outdated => .inr ⟨isFailed, ?_⟩⟩
        rw [same floor rfl]
        exact Except.ok.inj outdated
      · intro exc s known
        exact ⟨known.1, fun impossible => by cases impossible⟩

/-- `_reusable_attempt`: when it says that a new attempt is needed, this
connection has looked. -/
theorem reusableAttempt_triple
    (stable : (Submitter settings limit force account contentHash i).Stable P)
    (answer : ∀ s found, P s → P { s with lookups := Function.update s.lookups i found }) :
    Triple (Submitter settings limit force account contentHash i) P
      (RemediationService.reusableAttempt settings account contentHash force)
      fun r s => P s ∧ (r = .ok none → Looked settings limit force account contentHash i s) := by
  refine Triple.bind (latestForDocument_triple stable answer) ?_ ?_
  · intro existing
    cases existing with
    | none =>
        refine Triple.done ?_
        rintro s ⟨known, found⟩
        refine ⟨known, fun _ => ?_⟩
        exact (found none rfl).looked fun row impossible => by cases impossible
    | some existing =>
        simp only
        split
        · refine Triple.done ?_
          rintro s ⟨known, -⟩
          exact ⟨known, fun impossible => by cases impossible⟩
        · have stableFound := stable.and
            (@stable_found account i settings limit force contentHash (some existing))
          refine Triple.bind ((shouldRetry_triple existing stableFound).pre
            fun s known => ⟨known.1, known.2 _ rfl⟩) ?_ ?_
          · intro retry
            refine Triple.done ?_
            rintro s ⟨⟨known, found⟩, retried⟩
            refine ⟨known, fun needed => ?_⟩
            cases retry with
            | true =>
                refine found.looked fun row same => ?_
                obtain rfl := Option.some.inj same
                exact retried rfl
            | false => cases needed
          · intro exc s known
            exact ⟨known.1.1, fun impossible => by cases impossible⟩
  · intro exc s known
    exact ⟨known.1, fun impossible => by cases impossible⟩

end Reuse

end Submitter

end DicePipeline
