import DicePipeline.Submission.Rows

/-!
# The unfinished attempt is the current one

`one_unfinished_attempt_per_document` keeps a document from having two
unfinished attempts, in every reachable state and whatever the threads do
(`OneUnfinished`).  That the unfinished attempt is also the *newest* one, which
`latest_for_document` returns, is nobody's constraint.  Every insert establishes
it, because an insert finds no unfinished attempt and its own stamp is later
than all others; and every status write keeps it, as long as no `mark_running`
reopens an attempt that had finished and has been succeeded by a newer one
(`UnfinishedNewest`).

The task takes no lock, so two overlapping runs of one attempt can reopen it:
the slower one read the row before the faster one finished it.  That alone does
no harm: the attempt is still the newest one, and the unique index keeps another
one from being unfinished beside it.  `reopened` is a schedule in which a second,
forced attempt was made and finished in between.

### What is load-bearing

`reopensNewest` is asked of the one operation that takes a row into the index and
is not an insert.  It compares creation times with `≤`.  That is enough because
stamps increase strictly (`stampedLast`), so two attempts at one document never
carry the same one (`StampedApart`).
-/

namespace DicePipeline

open Interaction

/-- A new attempt is stamped later than every other one at its document. -/
def stampedLast (s : Store) : Op → Bool
  | .insertRemediation new =>
      s.rows.all fun row =>
        !row.isFor new.serviceAccount new.contentHash || row.createdAt < new.createdAt
  | _ => true

/-- `mark_running` does not land on an attempt that has finished while there is a newer
attempt at its document. -/
def reopensNewest (s : Store) : Op → Bool
  | .saveRemediation id fields => (s.row id).all fun row =>
      !fields.status.isUnfinished || row.status.isUnfinished ||
        s.rows.all fun other =>
          !other.isFor row.serviceAccount row.contentHash || other.createdAt ≤ row.createdAt
  | _ => true

/-- Creation times increase strictly along each document. -/
def strictStamps : Cluster → Choice → Bool := operationsWhere fun _ s op => stampedLast s op

/-- And no run reopens a finished attempt that is not the newest one at its document. -/
def strictStampsReopenNewest : Cluster → Choice → Bool :=
  operationsWhere fun _ s op => stampedLast s op && reopensNewest s op

/-! ## At most one unfinished attempt -/

/-- Two unfinished attempts at one document are one attempt. -/
def OneUnfinished (rows : List Remediation) : Prop :=
  ∀ row ∈ rows, ∀ row' ∈ rows, row.status.isUnfinished = true →
    row'.status.isUnfinished = true →
    row'.isFor row.serviceAccount row.contentHash = true → row.id = row'.id

/-- An unfinished attempt is newer than every other one at its document. -/
def UnfinishedNewest (rows : List Remediation) : Prop :=
  ∀ row ∈ rows, row.status.isUnfinished = true → ∀ row' ∈ rows,
    row'.isFor row.serviceAccount row.contentHash = true → row'.id ≠ row.id →
      row'.createdAt < row.createdAt

/-- Two attempts at one document carry different creation times. -/
def StampedApart (rows : List Remediation) : Prop :=
  ∀ row ∈ rows, ∀ row' ∈ rows, row'.isFor row.serviceAccount row.contentHash = true →
    row'.createdAt = row.createdAt → row'.id = row.id

/-- `row` is the attempt `old` was, whatever has become of its status. -/
structure SameStamp (old row : Remediation) : Prop where
  id : old.id = row.id
  account : old.serviceAccount = row.serviceAccount
  contentHash : old.contentHash = row.contentHash
  createdAt : old.createdAt = row.createdAt

/-- And it is unfinished only if it was. -/
structure Continues (old row : Remediation) : Prop extends SameStamp old row where
  unfinished : row.status.isUnfinished = true → old.status.isUnfinished = true

theorem Continues.refl (row : Remediation) : Continues row row :=
  ⟨⟨rfl, rfl, rfl, rfl⟩, fun unfinished => unfinished⟩

variable {rows rows' : List Remediation}

theorem isFor_iff {row : Remediation} {account : ℕ} {contentHash : String} :
    row.isFor account contentHash = true ↔
      row.serviceAccount = account ∧ row.contentHash = contentHash := by
  simp [Remediation.isFor]

/-- Two attempts are at one document if they were. -/
theorem SameStamp.isFor {old old' row row' : Remediation} (same : SameStamp old row)
    (same' : SameStamp old' row')
    (isFor : row'.isFor row.serviceAccount row.contentHash = true) :
    old'.isFor old.serviceAccount old.contentHash = true := by
  rw [isFor_iff, same.account, same'.account, same.contentHash, same'.contentHash, ← isFor_iff]
  exact isFor

theorem OneUnfinished.of_continues (one : OneUnfinished rows)
    (same : ∀ row ∈ rows', ∃ old ∈ rows, Continues old row) : OneUnfinished rows' := by
  intro row member row' member' unfinished unfinished' isFor
  obtain ⟨old, oldMember, sameOld⟩ := same row member
  obtain ⟨old', oldMember', sameOld'⟩ := same row' member'
  rw [← sameOld.id, ← sameOld'.id]
  exact one old oldMember old' oldMember' (sameOld.unfinished unfinished)
    (sameOld'.unfinished unfinished') (sameOld.isFor sameOld'.toSameStamp isFor)

theorem UnfinishedNewest.of_continues (newest : UnfinishedNewest rows)
    (same : ∀ row ∈ rows', ∃ old ∈ rows, Continues old row) : UnfinishedNewest rows' := by
  intro row member unfinished row' member' isFor different
  obtain ⟨old, oldMember, sameOld⟩ := same row member
  obtain ⟨old', oldMember', sameOld'⟩ := same row' member'
  rw [← sameOld.createdAt, ← sameOld'.createdAt]
  refine newest old oldMember (sameOld.unfinished unfinished) old' oldMember'
    (sameOld.isFor sameOld'.toSameStamp isFor) ?_
  rw [sameOld.id, sameOld'.id]
  exact different

variable {i : ℕ} {op : Op} {s t : Store}

/-- Rows that are left over are the same attempts. -/
theorem continues_of_subperm (fewer : rows'.Subperm rows) :
    ∀ row ∈ rows', ∃ old ∈ rows, Continues old row :=
  fun row member => ⟨row, fewer.subset member, .refl row⟩

/-- Claiming an attempt changes no status. -/
theorem continues_of_claimed {id : ℕ} {now : ℕ} :
    ∀ row ∈ (s.updateRow id fun row => { row with lastEnqueuedAt := some now }).rows,
      ∃ old ∈ s.rows, Continues old row := by
  intro row member
  rcases Store.mem_updateRow_rows member with old | ⟨old, oldMember, -, rfl⟩
  · exact ⟨row, old, .refl row⟩
  · exact ⟨old, Store.mem_rows_of_mem oldMember, ⟨rfl, rfl, rfl, rfl⟩, fun h => h⟩

/-- A committed row with the key that was looked up is the row that was found. -/
theorem eq_found {id : ℕ} {old found : Remediation} (keyed : WellKeyed s.rows s.nextId)
    (isFound : s.row id = some found) (member : old ∈ s.remediations) (hit : old.id = id) :
    old = found :=
  keyed.eq_of_id (Store.mem_rows_of_mem member) (Store.mem_rows_of_mem (Store.row_mem isFound))
    (hit.trans (Store.row_id isFound).symm)

/-- A status write that reopens nothing. -/
theorem continues_of_saved {id : ℕ} {fields : RemediationUpdate} {found : Remediation}
    (keyed : WellKeyed s.rows s.nextId) (isFound : s.row id = some found)
    (keeps : fields.status.isUnfinished = true → found.status.isUnfinished = true) :
    ∀ row ∈ (s.updateRow id fields.apply).rows, ∃ old ∈ s.rows, Continues old row := by
  intro row member
  rcases Store.mem_updateRow_rows member with old | ⟨old, oldMember, hit, rfl⟩
  · exact ⟨row, old, .refl row⟩
  · obtain rfl := eq_found keyed isFound oldMember hit
    exact ⟨old, Store.mem_rows_of_mem oldMember, ⟨rfl, rfl, rfl, rfl⟩, keeps⟩

/-- What a passed uniqueness check says about all rows: whatever is unfinished
at the document is the attempt that was checked. -/
theorem eq_of_unclashed {id account : ℕ} {contentHash : String}
    (noClash : s.clashes i id account contentHash = false)
    (noWait : s.awaits i account contentHash = false) {row : Remediation}
    (member : row ∈ s.rows) (isFor : row.isFor account contentHash = true)
    (unfinished : row.status.isUnfinished = true) : row.id = id := by
  by_contra different
  have visible : row ∉ s.remediations ++ s.uncommitted i := by
    intro listed
    have clash : s.clashes i id account contentHash = true :=
      List.any_eq_true.mpr ⟨row, listed, by simp [isFor, different, unfinished]⟩
    rw [clash] at noClash
    cases noClash
  rcases List.mem_append.mp member with committed | pending
  · exact visible (List.mem_append_left _ committed)
  · obtain ⟨entry, entryMember, rfl⟩ := List.mem_map.mp pending
    by_cases own : entry.1 = i
    · refine visible (List.mem_append_right _ (List.mem_map.mpr ⟨entry, ?_, rfl⟩))
      exact List.mem_filter.mpr ⟨entryMember, by simpa using own⟩
    · have waits : s.awaits i account contentHash = true :=
        List.any_eq_true.mpr ⟨entry, entryMember, by simp [own, isFor]⟩
      rw [waits] at noWait
      cases noWait

theorem Effect.oneUnfinished (effect : Effect i s op t)
    (keyed : WellKeyed s.rows s.nextId) (one : OneUnfinished s.rows) :
    OneUnfinished t.rows := by
  cases effect with
  | @saved id fields found isFound guarded =>
      cases enters : fields.status.isUnfinished && found.status.isFinished with
      | false =>
          refine one.of_continues (continues_of_saved keyed isFound fun unfinished => ?_)
          rw [unfinished, Bool.true_and] at enters
          simp [JobStatus.isUnfinished_eq, enters]
      | true =>
          -- The row enters the index: the check covered every other row.
          rw [Bool.and_eq_true] at enters
          obtain ⟨noClash, noWait⟩ := guarded enters.1 enters.2
          intro row member row' member' unfinished unfinished' isFor
          rcases Store.mem_updateRow_rows member with old | ⟨old, oldMember, hit, rfl⟩ <;>
            rcases Store.mem_updateRow_rows member' with old' | ⟨old', oldMember', hit', rfl⟩
          · exact one row old row' old' unfinished unfinished' isFor
          · obtain rfl := eq_found keyed isFound oldMember' hit'
            rw [isFor_iff] at isFor
            have same := eq_of_unclashed noClash noWait old
              (isFor_iff.mpr ⟨isFor.1.symm, isFor.2.symm⟩) unfinished
            exact same.trans hit'.symm
          · obtain rfl := eq_found keyed isFound oldMember hit
            exact hit.trans (eq_of_unclashed noClash noWait old' isFor unfinished').symm
          · exact hit.trans hit'.symm
  | claimed _ _ _ => exact one.of_continues continues_of_claimed
  | @inserted new noClash noWait =>
      have noOther : ∀ row ∈ s.rows, row.status.isUnfinished = true →
          row.isFor new.serviceAccount new.contentHash = true → False := by
        intro row member unfinished isFor
        have impossible := eq_of_unclashed noClash noWait member isFor unfinished
        exact absurd (keyed.fresh row member) (by omega)
      rw [Store.insert_rows]
      intro row member row' member' unfinished unfinished' isFor
      rcases List.mem_append.mp member with old | last <;>
        rcases List.mem_append.mp member' with old' | last'
      · exact one row old row' old' unfinished unfinished' isFor
      · obtain rfl := List.mem_singleton.mp last'
        rw [isFor_iff] at isFor
        exact (noOther row old unfinished (isFor_iff.mpr ⟨isFor.1.symm, isFor.2.symm⟩)).elim
      · obtain rfl := List.mem_singleton.mp last
        exact (noOther row' old' unfinished' isFor).elim
      · obtain rfl := List.mem_singleton.mp last
        obtain rfl := List.mem_singleton.mp last'
        rfl
  | committed => exact one.of_continues (continues_of_subperm (s.endTransaction_rows i true))
  | abandoned => exact one.of_continues (continues_of_subperm (s.endTransaction_rows i false))
  | rolledBack => exact one.of_continues (continues_of_subperm (s.endTransaction_rows i false))
  | _ => exact one

/-! ## Creation times -/

theorem StampedApart.of_sameStamp (apart : StampedApart rows)
    (same : ∀ row ∈ rows', ∃ old ∈ rows, SameStamp old row) : StampedApart rows' := by
  intro row member row' member' isFor stamps
  obtain ⟨old, oldMember, sameOld⟩ := same row member
  obtain ⟨old', oldMember', sameOld'⟩ := same row' member'
  rw [← sameOld.id, ← sameOld'.id]
  refine apart old oldMember old' oldMember' (sameOld.isFor sameOld' isFor) ?_
  rw [sameOld.createdAt, sameOld'.createdAt]
  exact stamps

/-- No update touches what an attempt is for, or its creation time. -/
theorem sameStamp_of_updated {id : ℕ} {f : Remediation → Remediation}
    (keeps : ∀ row, SameStamp row (f row)) :
    ∀ row ∈ (s.updateRow id f).rows, ∃ old ∈ s.rows, SameStamp old row := by
  intro row member
  rcases Store.mem_updateRow_rows member with old | ⟨old, oldMember, -, rfl⟩
  · exact ⟨row, old, rfl, rfl, rfl, rfl⟩
  · exact ⟨old, Store.mem_rows_of_mem oldMember, keeps old⟩

theorem sameStamp_of_subperm (fewer : rows'.Subperm rows) :
    ∀ row ∈ rows', ∃ old ∈ rows, SameStamp old row :=
  fun row member => ⟨row, fewer.subset member, rfl, rfl, rfl, rfl⟩

/-- What a new attempt's stamp is compared with. -/
theorem earlier_of_stampedLast {new : NewRemediation}
    (stamped : stampedLast s (.insertRemediation new) = true) {row : Remediation}
    (member : row ∈ s.rows) (isFor : row.isFor new.serviceAccount new.contentHash = true) :
    row.createdAt < new.createdAt := by
  have stamp := List.all_eq_true.mp stamped row member
  simpa [isFor] using stamp

theorem Effect.stampedApart (effect : Effect i s op t) (apart : StampedApart s.rows)
    (stamped : stampedLast s op = true) : StampedApart t.rows := by
  cases effect with
  | saved _ _ =>
      exact apart.of_sameStamp (sameStamp_of_updated fun _ => ⟨rfl, rfl, rfl, rfl⟩)
  | claimed _ _ _ =>
      exact apart.of_sameStamp (sameStamp_of_updated fun _ => ⟨rfl, rfl, rfl, rfl⟩)
  | @inserted new _ _ =>
      rw [Store.insert_rows]
      intro row member row' member' isFor stamps
      rcases List.mem_append.mp member with old | last <;>
        rcases List.mem_append.mp member' with old' | last'
      · exact apart row old row' old' isFor stamps
      · obtain rfl := List.mem_singleton.mp last'
        rw [isFor_iff] at isFor
        have earlier := earlier_of_stampedLast stamped old
          (isFor_iff.mpr ⟨isFor.1.symm, isFor.2.symm⟩)
        exact absurd stamps (Nat.ne_of_gt earlier)
      · obtain rfl := List.mem_singleton.mp last
        exact absurd stamps (Nat.ne_of_lt (earlier_of_stampedLast stamped old' isFor))
      · obtain rfl := List.mem_singleton.mp last
        obtain rfl := List.mem_singleton.mp last'
        rfl
  | committed => exact apart.of_sameStamp (sameStamp_of_subperm (s.endTransaction_rows i true))
  | abandoned => exact apart.of_sameStamp (sameStamp_of_subperm (s.endTransaction_rows i false))
  | rolledBack => exact apart.of_sameStamp (sameStamp_of_subperm (s.endTransaction_rows i false))
  | _ => exact apart

/-! ## And it is the newest one -/

/-- A status write that reopens the newest attempt at its document. -/
theorem UnfinishedNewest.reopened {id : ℕ} {fields : RemediationUpdate} {found : Remediation}
    (newest : UnfinishedNewest s.rows) (keyed : WellKeyed s.rows s.nextId)
    (apart : StampedApart s.rows) (isFound : s.row id = some found)
    (noClash : s.clashes i id found.serviceAccount found.contentHash = false)
    (noWait : s.awaits i found.serviceAccount found.contentHash = false)
    (notOlder : ∀ other ∈ s.rows,
      other.isFor found.serviceAccount found.contentHash = true →
        other.createdAt ≤ found.createdAt) :
    UnfinishedNewest (s.updateRow id fields.apply).rows := by
  intro row member unfinished row' member' isFor different
  rcases Store.mem_updateRow_rows member with old | ⟨old, oldMember, hit, rfl⟩ <;>
    rcases Store.mem_updateRow_rows member' with old' | ⟨old', oldMember', hit', rfl⟩
  · exact newest row old unfinished row' old' isFor different
  · -- The unique index lets no other attempt be unfinished beside the reopened one.
    obtain rfl := eq_found keyed isFound oldMember' hit'
    rw [isFor_iff] at isFor
    have same := eq_of_unclashed noClash noWait old
      (isFor_iff.mpr ⟨isFor.1.symm, isFor.2.symm⟩) unfinished
    exact absurd (hit'.trans same.symm) different
  · obtain rfl := eq_found keyed isFound oldMember hit
    refine lt_of_le_of_ne (notOlder row' old' isFor) fun stamps => different ?_
    exact apart old (Store.mem_rows_of_mem oldMember) row' old' isFor stamps
  · exact absurd (hit'.trans hit.symm) different

theorem Effect.unfinishedNewest (effect : Effect i s op t)
    (keyed : WellKeyed s.rows s.nextId) (newest : UnfinishedNewest s.rows)
    (apart : StampedApart s.rows) (stamped : stampedLast s op = true)
    (keeps : reopensNewest s op = true) : UnfinishedNewest t.rows := by
  cases effect with
  | @saved id fields found isFound guarded =>
      -- A save that reopens the attempt is the one that the condition speaks of; any other save
      -- leaves an unfinished attempt where it was.
      cases enters : fields.status.isUnfinished && found.status.isFinished with
      | false =>
          refine newest.of_continues (continues_of_saved keyed isFound fun unfinished => ?_)
          rw [unfinished, Bool.true_and] at enters
          simp [JobStatus.isUnfinished_eq, enters]
      | true =>
          rw [Bool.and_eq_true] at enters
          obtain ⟨noClash, noWait⟩ := guarded enters.1 enters.2
          refine newest.reopened keyed apart isFound noClash noWait fun other member isFor => ?_
          rw [reopensNewest, isFound, Option.all_some, enters.1, JobStatus.isUnfinished_eq,
            enters.2] at keeps
          have compared := List.all_eq_true.mp keeps other member
          simpa [isFor] using compared
  | claimed _ _ _ => exact newest.of_continues continues_of_claimed
  | @inserted new noClash noWait =>
      -- The insert passed the unique key, so no other attempt at the document is unfinished.
      have noOther : ∀ row ∈ s.rows, row.status.isUnfinished = true →
          row.isFor new.serviceAccount new.contentHash = true → False := by
        intro row member unfinished isFor
        have impossible := eq_of_unclashed noClash noWait member isFor unfinished
        exact absurd (keyed.fresh row member) (by omega)
      rw [Store.insert_rows]
      intro row member unfinished row' member' isFor different
      rcases List.mem_append.mp member with old | last <;>
        rcases List.mem_append.mp member' with old' | last'
      · exact newest row old unfinished row' old' isFor different
      · obtain rfl := List.mem_singleton.mp last'
        rw [isFor_iff] at isFor
        exact (noOther row old unfinished (isFor_iff.mpr ⟨isFor.1.symm, isFor.2.symm⟩)).elim
      · obtain rfl := List.mem_singleton.mp last
        exact earlier_of_stampedLast stamped old' isFor
      · obtain rfl := List.mem_singleton.mp last
        obtain rfl := List.mem_singleton.mp last'
        exact absurd rfl different
  | committed => exact newest.of_continues (continues_of_subperm (s.endTransaction_rows i true))
  | abandoned => exact newest.of_continues (continues_of_subperm (s.endTransaction_rows i false))
  | rolledBack =>
      exact newest.of_continues (continues_of_subperm (s.endTransaction_rows i false))
  | _ => exact newest

/-! ## Runs of the system -/

/-- No document has two unfinished attempts. -/
def AtMostOneUnfinished (s : Store) : Prop :=
  ∀ account contentHash, ∀ row ∈ s.attempts account contentHash,
    ∀ row' ∈ s.attempts account contentHash,
      row.status.isUnfinished = true → row'.status.isUnfinished = true → row = row'

/-- `latest_for_document` returns the unfinished attempt, if there is one. -/
def UnfinishedIsLatest (s : Store) : Prop :=
  ∀ account contentHash, ∀ row ∈ s.attempts account contentHash,
    row.status.isUnfinished = true → s.latest account contentHash = some row

theorem atMostOneUnfinished_of (keyed : WellKeyed s.rows s.nextId) (one : OneUnfinished s.rows) :
    AtMostOneUnfinished s := by
  intro account contentHash row member row' member' unfinished unfinished'
  obtain ⟨committed, isFor⟩ := List.mem_filter.mp member
  obtain ⟨committed', isFor'⟩ := List.mem_filter.mp member'
  obtain ⟨rfl, rfl⟩ := isFor_iff.mp isFor
  exact keyed.eq_of_id (Store.mem_rows_of_mem committed) (Store.mem_rows_of_mem committed')
    (one row (Store.mem_rows_of_mem committed) row' (Store.mem_rows_of_mem committed')
      unfinished unfinished' isFor')

theorem unfinishedIsLatest_of (keyed : WellKeyed s.rows s.nextId)
    (newest : UnfinishedNewest s.rows) : UnfinishedIsLatest s := by
  intro account contentHash row member unfinished
  obtain ⟨committed, isFor⟩ := List.mem_filter.mp member
  obtain ⟨rfl, rfl⟩ := isFor_iff.mp isFor
  cases found : s.latest row.serviceAccount row.contentHash with
  | none =>
      rw [Store.latest, List.argmax_eq_none] at found
      rw [found] at member
      cases member
  | some newestRow =>
      obtain ⟨newestCommitted, newestIsFor⟩ := Store.latest_mem found
      have notLater : row.createdAt ≤ newestRow.createdAt := List.le_of_mem_argmax member found
      by_cases same : newestRow.id = row.id
      · rw [keyed.eq_of_id (Store.mem_rows_of_mem newestCommitted)
          (Store.mem_rows_of_mem committed) same]
      · have earlier := newest row (Store.mem_rows_of_mem committed) unfinished newestRow
          (Store.mem_rows_of_mem newestCommitted) newestIsFor same
        omega

section Runs

variable {settings : Settings} {acceptsUrl : String → Bool} {retryFloor : Option String}
variable {c : Cluster}

private theorem reach_oneUnfinished {ok : Cluster → Choice → Prop}
    (reached : (system settings acceptsUrl).Reach ok (deployed retryFloor) c) :
    WellKeyed c.store.rows c.store.nextId ∧ OneUnfinished c.store.rows := by
  refine store_invariant
    (fun s => WellKeyed s.rows s.nextId ∧ OneUnfinished s.rows) reached ?_ ?_ ?_ ?_
  · exact ⟨⟨List.nodup_nil, fun row member => by cases member⟩, fun row member => by cases member⟩
  · intro _ _ _ _ _ _ _ inv _ _ executed
    have effect := execute_effect executed
    exact ⟨effect.wellKeyed inv.1, effect.oneUnfinished inv.1 inv.2⟩
  · intro i s inv
    exact ⟨inv.1.of_subperm (s.endTransaction_rows i false) le_rfl,
      inv.2.of_continues (continues_of_subperm (s.endTransaction_rows i false))⟩
  · exact fun _ _ inv => inv

private theorem reach_unfinishedNewest
    (reached : (system settings acceptsUrl).Reach (strictStampsReopenNewest · ·)
      (deployed retryFloor) c) :
    WellKeyed c.store.rows c.store.nextId ∧ StampedApart c.store.rows ∧
      UnfinishedNewest c.store.rows := by
  refine store_invariant
    (fun s => WellKeyed s.rows s.nextId ∧ StampedApart s.rows ∧ UnfinishedNewest s.rows)
    reached ?_ ?_ ?_ ?_
  · exact ⟨⟨List.nodup_nil, fun row member => nomatch member⟩,
      fun row member => (nomatch member), fun row member => (nomatch member)⟩
  · rintro c i thread world answer t - ⟨keyed, apart, newest⟩ live admitted executed
    have effect := execute_effect executed
    have conditions := operationsWhere_step admitted live
    rw [Bool.and_eq_true] at conditions
    exact ⟨effect.wellKeyed keyed, effect.stampedApart apart conditions.1,
      effect.unfinishedNewest keyed newest apart conditions.1 conditions.2⟩
  · rintro i s ⟨keyed, apart, newest⟩
    have fewer := s.endTransaction_rows i false
    exact ⟨keyed.of_subperm fewer le_rfl, apart.of_sameStamp (sameStamp_of_subperm fewer),
      newest.of_continues (continues_of_subperm fewer)⟩
  · exact fun _ _ inv => inv

end Runs

/-- **The unfinished attempt is the current one.**  Whatever the threads do, a document never has
two unfinished attempts.  Where creation times increase strictly and no run reopens an
attempt that had finished while a newer one exists, `latest_for_document` returns the
unfinished attempt.

The first part is the unique key over unfinished attempts, which a reopening has to pass as an
insert has.  Reopening the newest attempt is no exception: it is the latest, and unfinished
again. -/
theorem unfinished_attempt_is_current (settings : Settings) (acceptsUrl : String → Bool)
    (retryFloor : Option String) :
    (∀ c, (system settings acceptsUrl).Reach (strictStamps · ·) (deployed retryFloor) c →
      AtMostOneUnfinished c.store) ∧
    (∀ c, (system settings acceptsUrl).Reach (strictStampsReopenNewest · ·)
        (deployed retryFloor) c → UnfinishedIsLatest c.store) := by
  constructor
  · intro c reached
    obtain ⟨keyed, one⟩ := reach_oneUnfinished reached
    exact atMostOneUnfinished_of keyed one
  · intro c reached
    obtain ⟨keyed, -, newest⟩ := reach_unfinishedNewest reached
    exact unfinishedIsLatest_of keyed newest

/-- Two runs of the only attempt overlap.  The first one reads the row, the second one
finishes it, and the first one marks it running again. -/
def reopenedNewest : List Choice :=
  [.spawn (.request .noLimits (.oneByte false))] ++ steps 0 9 ++ [.env 1] ++
  [.spawn (.run 0)] ++ steps 1 1 ++ [.spawn (.run 0)] ++ steps 2 14 ++ steps 1 2

/-- Some attempt had finished and is unfinished again. -/
def unfinishedAgain (c : Cluster) : Bool :=
  c.store.remediations.any fun row => row.status.isUnfinished && row.completedAt.isSome

/-- A reopened attempt is the current one as long as there is no newer one. -/
theorem unfinished_attempt_is_current_reopened :
    ∃ (c : Cluster) (row : Remediation), row.status.isUnfinished = true ∧
      row.completedAt.isSome = true ∧
        c.store.latest row.serviceAccount row.contentHash = some row := by
  obtain ⟨c, reached, checked⟩ := Machine.exists_reach_of_replay
    (system .stepsOff fun _ => true) strictStampsReopenNewest (deployed none) reopenedNewest
    unfinishedAgain (by decide +kernel)
  obtain ⟨row, member, isAgain⟩ := List.any_eq_true.mp checked
  rw [Bool.and_eq_true] at isAgain
  exact ⟨c, row, isAgain.1, isAgain.2,
    (unfinished_attempt_is_current _ _ none).2 c reached _ _ row
      (List.mem_filter.mpr ⟨member, isFor_iff.mpr ⟨rfl, rfl⟩⟩) isAgain.1⟩

/-- Two runs of the first attempt overlap.  The first one reads the row, the
second one finishes it, a forced submit makes another attempt, which finishes
too, and only then does the first run mark its attempt running. -/
def reopened : List Choice :=
  [.spawn (.request .noLimits (.oneByte false))] ++ steps 0 9 ++ [.env 1] ++
  [.spawn (.run 0)] ++ steps 1 1 ++ [.spawn (.run 0)] ++ steps 2 14 ++ [.env 1] ++
  [.spawn (.request .noLimits (.oneByte true))] ++ steps 3 8 ++
  [.spawn (.run 1)] ++ steps 4 14 ++ steps 1 2

/-- Some attempt is unfinished and is not the latest one at its document. -/
def unfinishedOutdated (c : Cluster) : Bool :=
  c.store.remediations.any fun row =>
    row.status.isUnfinished && c.store.latest row.serviceAccount row.contentHash ≠ some row

/-- With strictly increasing creation times alone, a reachable state has an
unfinished attempt that is not the latest one. -/
theorem reopened_attempt_is_not_current :
    ¬ ∀ (settings : Settings) (acceptsUrl : String → Bool) (retryFloor : Option String)
      (c : Cluster),
      (system settings acceptsUrl).Reach (strictStamps · ·) (deployed retryFloor) c →
        AtMostOneUnfinished c.store ∧ UnfinishedIsLatest c.store := by
  intro claim
  obtain ⟨c, reached, outdated⟩ := Machine.exists_reach_of_replay
    (system .stepsOff fun _ => true) strictStamps (deployed none) reopened unfinishedOutdated
    (by decide +kernel)
  obtain ⟨-, latest⟩ := claim _ _ _ c reached
  obtain ⟨row, member, checked⟩ := List.any_eq_true.mp outdated
  rw [Bool.and_eq_true, decide_eq_true_eq] at checked
  exact checked.2 (latest _ _ row
    (List.mem_filter.mpr ⟨member, isFor_iff.mpr ⟨rfl, rfl⟩⟩) checked.1)

end DicePipeline
