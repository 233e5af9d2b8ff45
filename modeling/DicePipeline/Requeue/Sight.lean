import DicePipeline.Interaction.Traces
import DicePipeline.Remediation.Footprints
import DicePipeline.Submission.Rows

/-!
# What a resubmit knows when it claims a job

`claim_enqueue` decides on an object that may be stale: it tests `_is_stuck` on
the attempt as the request read it, takes the time once more, and only then issues
its conditional update.  A `Sight` is what the request has seen of that: the
answer of its last `latest_for_document`, and the clock.

`post_sight` says which conditional updates a submit may issue after what it has
seen: one for the attempt it read, comparing with the `last_enqueued_at` it read,
and only after the attempt, as it read it, had waited too long (`StuckAt`).  A run
of the task issues none.  `sight_clocks` and `sight_stored` relate what a thread
has seen to the store.
-/

namespace DicePipeline

open Interaction Program RemediationService

/-- The wait of a status, in minutes; `none` if its jobs are never stuck. -/
def Settings.stuckWait (settings : Settings) : JobStatus → Option ℕ
  | .queued => some settings.stuckQueuedMinutes
  | .running => some settings.stuckRunningMinutes
  | _ => none

/-- What `_is_stuck` answers for an attempt when the clock says `time`. -/
def StuckAt (settings : Settings) (row : Remediation) (time : ℕ) : Prop :=
  ∃ progress wait, lastProgress settings row = some (progress, wait) ∧
    minutes wait < time - progress

/-- The progress time and the wait of an attempt belong to its status, and no
attempt has made its last progress before it was last queued. -/
theorem lastProgress_eq {settings : Settings} {row : Remediation} {progress wait : ℕ}
    (found : lastProgress settings row = some (progress, wait)) :
    settings.stuckWait row.status = some wait ∧
      ∀ time, row.lastEnqueuedAt = some time → time ≤ progress := by
  cases status : row.status <;> simp only [lastProgress, status] at found
  case queued =>
    obtain ⟨rfl, rfl⟩ := Prod.mk.inj (Option.some.inj found)
    refine ⟨rfl, ?_⟩
    intro time enqueued
    simp [enqueued]
  case running =>
    obtain ⟨rfl, rfl⟩ := Prod.mk.inj (Option.some.inj found)
    refine ⟨rfl, ?_⟩
    intro time enqueued
    simp [enqueued]
  all_goals cases found

/-- Time only makes an attempt more stuck. -/
theorem StuckAt.mono {settings : Settings} {row : Remediation} {time time' : ℕ}
    (stuck : StuckAt settings row time) (later : time ≤ time') : StuckAt settings row time' := by
  obtain ⟨progress, wait, found, waited⟩ := stuck
  exact ⟨progress, wait, found, by omega⟩

/-! ## The trace -/

/-- What a thread has seen that bears on a claim. -/
structure Sight where
  /-- The attempt its last `latest_for_document` returned. -/
  looked : Option Remediation := none
  /-- The clock readings, newest first. -/
  clocks : List ℕ := []

/-- Moves on by one answer. -/
def Sight.after (x : Sight) : (op : Op) → Except Exn op.Ans → Sight
  | .latestForDocument _ _, .ok found => { x with looked := found }
  | .now, .ok time => { x with clocks := time :: x.clocks }
  | _, _ => x

/-- The conditional updates that what has been seen permits: of the attempt that
was looked up, which was stuck at the clock reading before the last one. -/
def Sight.Permits (settings : Settings) (x : Sight) : Op → Prop
  | .claimEnqueue id seen now => ∃ read before earlier,
      x.looked = some read ∧ read.id = id ∧ read.lastEnqueuedAt = seen ∧
        x.clocks = now :: before :: earlier ∧ StuckAt settings read before
  | _ => True

/-- Programs that follow the trace. -/
abbrev Sees (settings : Settings) {α : Type} (Q : Sight → Except Exn α → Prop) (p : Py α)
    (x : Sight) : Prop :=
  p.Tracks Sight.after answered (Sight.Permits settings) Q x

/-- The operation is not the conditional update of `claim_enqueue`. -/
def NoClaim : Op → Prop
  | .claimEnqueue _ _ _ => False
  | _ => True

section Programs

variable {settings : Settings} {x : Sight} {α : Type}

/-- A program without a conditional update may see anything. -/
theorem sees_of_noClaim {p : Py α} (quiet : p.Only answered NoClaim) :
    Sees settings (fun _ _ => True) p x := by
  refine Only.tracks (I := fun _ => True) quiet trivial ?_
  intro y op _ noClaim
  refine ⟨?_, fun _ _ => trivial⟩
  cases op <;> trivial

/-- A result that is reused is the attempt that was looked up. -/
def ReusesLooked (y : Sight) (r : Except Exn (Remediation × Bool)) : Prop :=
  ∀ row, r = .ok (row, false) → y.looked = some row

private theorem reusableAttempt_sees (account : ℕ) (contentHash : String) (force : Bool) :
    Sees settings (fun y r => ∀ row, r = .ok (some row) → y.looked = some row)
      (reusableAttempt settings account contentHash force) x := by
  refine Tracks.bind (M := fun y r => ∀ found, r = .ok found → y.looked = found)
    (Tracks.perform (S := Query) trivial ?_) ?_ ?_
  · rintro answer - found rfl
    rfl
  · intro found y looked
    have same := looked found rfl
    cases found with
    | none => exact fun row impossible => nomatch impossible
    | some existing =>
        dsimp only
        split
        · intro row isRow
          cases isRow
          exact same
        · refine Tracks.bind (M := fun y _ => y.looked = some existing) ?_ ?_ ?_
          · refine Only.tracks (C := (· = Op.pipelineConfig)) ?_ same ?_
            · unfold shouldRetry
              refine Only.ite trivial (Only.ite trivial ?_)
              exact Only.bind (Only.bind ((only_perform _).mpr rfl) fun _ => trivial)
                fun _ => trivial
            · rintro z _ before rfl
              exact ⟨trivial, fun answer _ => by cases answer <;> exact before⟩
          · rintro (_ | _) z before row isRow
            · cases isRow
              exact before
            · cases isRow
          · exact fun _ _ _ row impossible => nomatch impossible
  · exact fun _ _ _ row impossible => nomatch impossible

private theorem createOrReuseUnfinished_sees (account : ℕ) (contentHash : String)
    (originalPath : Uri) (originalFilename : String) :
    Sees settings ReusesLooked
      (createOrReuseUnfinished settings account contentHash originalPath originalFilename) x := by
  refine Tracks.attempt_bind (M := fun _ _ => True) ?_ ?_
  · refine sees_of_noClaim (Only.bind ((only_perform _).mpr trivial) fun _ => ?_)
    exact (only_perform _).mpr trivial
  · intro made y _
    cases made with
    | ok row =>
        intro row isRow
        cases isRow
    | error exc =>
        cases exc with
        | integrityError constraint =>
            refine Tracks.bind (M := fun y r => ∀ found, r = .ok found → y.looked = found)
              (Tracks.perform (S := Query) trivial ?_) ?_ ?_
            · rintro answer - found rfl
              rfl
            · intro found y looked
              have same := looked found rfl
              cases found with
              | none => exact fun row impossible => nomatch impossible
              | some current =>
                  dsimp only
                  split
                  · intro row isRow
                    cases isRow
                    exact same
                  · exact fun row impossible => nomatch impossible
            · exact fun _ _ _ row impossible => nomatch impossible
        | _ => exact fun row impossible => nomatch impossible

private theorem makeAttempt_sees (account : ℕ) (upload : Upload) :
    Sees settings ReusesLooked (makeAttempt settings account upload) x := by
  refine Tracks.bind (M := fun _ _ => True) ?_ ?_ ?_
  · refine sees_of_noClaim (Only.bind ((only_perform _).mpr trivial) fun stored => ?_)
    exact Only.ite trivial (Only.bind ((only_perform _).mpr trivial) fun _ => trivial)
  · exact fun _ _ _ => createOrReuseUnfinished_sees _ _ _ _
  · exact fun _ _ _ row impossible => nomatch impossible

private theorem decide_sees (account : ℕ) (upload : Upload) (limit : Option SubmissionLimit) :
    Sees settings ReusesLooked
      (RemediationService.decide settings account upload (some (checkLimit limit))) x := by
  have reused : ∀ (row : Remediation) (y : Sight), y.looked = some row →
      Sees settings ReusesLooked (pure (row, false) : Py _) y := by
    intro row y looked other same
    cases same
    exact looked
  refine Tracks.bind (reusableAttempt_sees _ _ _) ?_ ?_
  · intro reusable y looked
    cases reusable with
    | some row => exact reused row y (looked row rfl)
    | none =>
        refine Tracks.bind (M := fun _ _ => True) ?_ ?_ ?_
        · exact sees_of_noClaim (checkLimit_only (fun _ _ => trivial) (fun _ _ _ => trivial) trivial)
        · intro _ y _
          refine Tracks.bind (reusableAttempt_sees _ _ _) ?_ ?_
          · intro reusable y looked
            cases reusable with
            | some row => exact reused row y (looked row rfl)
            | none => exact makeAttempt_sees account upload
          · exact fun _ _ _ row impossible => nomatch impossible
        · exact fun _ _ _ row impossible => nomatch impossible
  · exact fun _ _ _ row impossible => nomatch impossible

private theorem getOrCreate_sees (account : ℕ) (upload : Upload) (limit : Option SubmissionLimit) :
    Sees settings ReusesLooked
      (getOrCreateFromUpload settings account upload (some (checkLimit limit))) x := by
  refine Tracks.attempt_bind (decide_sees account upload limit) ?_
  intro outcome y reuses
  -- The end of the transaction is no look-up.
  cases outcome with
  | ok made =>
      refine Tracks.bind (M := fun y _ => ReusesLooked y (.ok made))
        (Tracks.perform (S := Query) trivial ?_) ?_ ?_
      · intro answer _
        cases answer <;> exact reuses
      · exact fun _ _ kept => kept
      · exact fun _ _ _ row impossible => nomatch impossible
  | error exc =>
      refine Tracks.bind (M := fun _ _ => True) (Tracks.perform (S := Query) trivial fun _ _ => trivial) ?_ ?_
      · exact fun _ _ _ row impossible => nomatch impossible
      · exact fun _ _ _ row impossible => nomatch impossible

private theorem subscribe_sees (remediation : Remediation) (callbackUrl : String) :
    Sees settings (fun y _ => y = x) (CreateRemediationView.subscribe remediation callbackUrl) x := by
  refine Only.tracks (C := fun op => op = Op.getOrCreateCallback remediation callbackUrl ∨
    ∃ callback, op = Op.enqueueWebhook callback) (I := (· = x)) ?_ rfl ?_
  · exact subscribe_only (.inl rfl) fun callback => .inr ⟨callback, rfl⟩
  · rintro y op rfl (rfl | ⟨callback, rfl⟩)
    · exact ⟨trivial, fun _ _ => rfl⟩
    · exact ⟨trivial, fun _ _ => rfl⟩

/-- `claim_enqueue` on an attempt that was just made, or on the one looked up. -/
private theorem claimEnqueue_sees (remediation : Remediation) (created : Bool)
    (looked : created = false → x.looked = some remediation) :
    Sees settings (fun _ _ => True) (claimEnqueue settings remediation created) x := by
  unfold claimEnqueue
  split
  · trivial
  · rename_i reused
    have looked := looked (by simpa using reused)
    refine Tracks.bind (M := fun y r => y.looked = some remediation ∧
      (r = .ok true → ∃ before earlier, y.clocks = before :: earlier ∧
        StuckAt settings remediation before)) ?_ ?_ ?_
    · unfold isStuck
      split
      · exact ⟨looked, fun impossible => nomatch impossible⟩
      · rename_i progress wait found
        refine ⟨trivial, fun answer _ => ?_⟩
        cases answer with
        | error exc => exact ⟨looked, fun impossible => nomatch impossible⟩
        | ok before =>
            refine ⟨looked, fun isTrue => ⟨before, x.clocks, rfl, progress, wait, found, ?_⟩⟩
            simpa using isTrue
    · rintro stuck y ⟨looked, stuckAt⟩
      cases stuck with
      | false => trivial
      | true =>
          obtain ⟨before, earlier, clocks, stuckAt⟩ := stuckAt rfl
          refine ⟨trivial, fun answer _ => ?_⟩
          cases answer with
          | error exc => trivial
          | ok now =>
              have clocks' : now :: y.clocks = now :: before :: earlier :=
                congrArg (now :: ·) clocks
              exact ⟨⟨remediation, before, earlier, looked, rfl, rfl, clocks', stuckAt⟩,
                fun _ _ => trivial⟩
    · exact fun _ _ _ => trivial

private theorem queue_sees (remediation : Remediation) (created : Bool)
    (looked : created = false → x.looked = some remediation) :
    Sees settings (fun _ _ => True) (CreateRemediationView.queue settings remediation created) x := by
  refine Tracks.bind (claimEnqueue_sees remediation created looked) ?_ fun _ _ _ => trivial
  intro claimed y _
  cases claimed with
  | false => trivial
  | true =>
      refine sees_of_noClaim (Only.bind ((only_perform _).mpr trivial) fun _ => ?_)
      exact (only_perform _).mpr trivial

/-- **A submit claims only what it has seen to be stuck.** -/
theorem post_sight (settings : Settings) (acceptsUrl : String → Bool) (account : ServiceAccount)
    (upload : Upload) :
    Sees settings (fun _ _ => True)
      (CreateRemediationView.post settings acceptsUrl account upload) {} := by
  unfold CreateRemediationView.post
  cases limitFor account with
  | error exc => trivial
  | ok limit =>
      simp only [CreateRemediationView.submit]
      cases RemediationUploadSerializer.isValid acceptsUrl upload with
      | error exc => trivial
      | ok _ =>
          refine Tracks.bind (getOrCreate_sees account.id upload limit) ?_ fun _ _ _ => trivial
          rintro ⟨remediation, created⟩ y reuses
          refine Tracks.bind (subscribe_sees remediation upload.callbackUrl) ?_ fun _ _ _ => trivial
          rintro _ _ rfl
          refine Tracks.bind (queue_sees remediation created ?_) (fun _ _ _ => trivial)
            fun _ _ _ => trivial
          rintro rfl
          exact reuses remediation rfl

/-- A run of the task claims nothing. -/
theorem run_noClaim (settings : Settings) (id : ℕ) :
    (processRemediation settings id).Only answered NoClaim := by
  refine (processRemediation_only settings id).mono ?_
  intro op ofRun
  cases op <;> trivial

end Programs

/-! ## The system -/

/-- What thread `i` has seen. -/
def sight (i : ℕ) (history : List (Event Query Exn (Option Response) Role)) : Sight :=
  Machine.observed (S := Query) Sight.after {} i history

section Runs

variable {settings : Settings} {acceptsUrl : String → Bool} {retryFloor : Option String}
variable {ok : Cluster → Choice → Prop} {c : Cluster}

/-- Every conditional update a thread is about to issue is one it may. -/
theorem claim_permitted
    (reached : (system settings acceptsUrl).Reach ok (deployed retryFloor) c) {i : ℕ}
    {thread : Thread Query Exn (Option Response) Role} (live : c.threads i = some thread) :
    (sight i c.history).Permits settings thread.op := by
  have followed := reached.tracked (S := Query) Sight.after {} answered
    (fun _ => Sight.Permits settings) (fun _ _ _ => True) ?_ ?_
  · exact (followed.live i thread live).1
  · intro role s body started
    rw [start_eq started]
    cases role with
    | request account upload =>
        exact Tracks.bind (post_sight settings acceptsUrl account upload) (fun _ _ _ => trivial)
          fun _ _ _ => trivial
    | run id =>
        exact sees_of_noClaim (Only.bind (run_noClaim settings id) fun _ => trivial)
  · exact fun _ _ _ _ _ _ executed => execute_answered executed

/-- A worker is not about to claim anything. -/
theorem worker_noClaim
    (reached : (system settings acceptsUrl).Reach ok (deployed retryFloor) c) {i id : ℕ}
    {thread : Thread Query Exn (Option Response) Role} (live : c.threads i = some thread)
    (worker : thread.role = .run id) : NoClaim thread.op := by
  have only := reached.only (S := Query) (R := answered)
    (P := fun role op => ∀ id, role = .run id → NoClaim op) ?_ ?_ live
  · exact only.1 id worker
  · intro role s body started
    rw [start_eq started]
    cases role with
    | request account upload =>
        exact Only.mono (Only.bind (post_only settings acceptsUrl account upload)
          fun _ => trivial) fun _ _ _ impossible => nomatch impossible
    | run other =>
        exact Only.mono (Only.bind (run_noClaim settings other) fun _ => trivial)
          fun _ noClaim _ _ => noClaim
  · exact fun _ _ _ _ _ _ executed => execute_answered executed

/-- The clock readings of a thread are in order, and none is ahead of the clock. -/
theorem sight_clocks (reached : (system settings acceptsUrl).Reach ok (deployed retryFloor) c)
    (i : ℕ) : (c.store.clock :: (sight i c.history).clocks).Pairwise (· ≥ ·) := by
  refine reached.witnessed (S := Query) Sight.after {}
    (fun _ s x => (s.clock :: x.clocks).Pairwise (· ≥ ·)) ?_ ?_ ?_ ?_ ?_ i
  · exact fun _ => List.pairwise_singleton _ _
  · intro c i world thread answer t _ _ _ executed ordered
    replace executed : execute settings world i thread.op c.store = some (answer, t) := executed
    rw [(execute_effect executed).clock]
    generalize Machine.observed (S := Query) Sight.after {} i c.history = x at *
    obtain ⟨role, op, next⟩ := thread
    dsimp only at executed answer ⊢
    cases op with
    | now =>
        cases answer with
        | error exc => exact ordered
        | ok time =>
            obtain ⟨isClock, -⟩ := Prod.mk.inj (Option.some.inj (execute_ok executed))
            cases isClock
            have latest : ∀ other ∈ c.store.clock :: x.clocks, c.store.clock ≥ other := by
              intro other member
              rcases List.mem_cons.mp member with rfl | earlier
              · exact le_refl _
              · exact (List.pairwise_cons.mp ordered).1 other earlier
            exact List.Pairwise.cons (l := c.store.clock :: x.clocks) latest ordered
    | latestForDocument account contentHash => cases answer <;> exact ordered
    | _ => exact ordered
  · intro c i j world thread answer t x _ _ _ executed _ ordered
    rw [(execute_effect executed).clock]
    exact ordered
  · exact fun _ _ _ _ ordered => ordered
  · intro elapsed i s x ordered
    have before := List.pairwise_cons.mp ordered
    exact List.Pairwise.cons
      (fun time member => (before.1 time member).trans (Nat.le_add_right _ _)) before.2

end Runs

end DicePipeline
