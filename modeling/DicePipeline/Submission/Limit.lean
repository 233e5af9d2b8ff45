import DicePipeline.Submission.Submits

/-!
# The submission limit under concurrency

An account with a limit of `L` attempts per `D` seconds never has more than `L`
attempts stamped within one closed window of `D` seconds, however its submits
interleave.  The invariant counts uncommitted attempts too.  An insert keeps it
because of what its submit is entitled to: the count was made under the lock and
looked back at least `D` seconds from the new stamp, so every attempt a window
shares with the new one was counted.

A refused submit creates nothing.  That is a fact about the code alone: a
monitor of the thread's answers (`sawInsert`) shows that no path raises the 429
after an insert.

### What is load-bearing

The stamp of a new attempt is read, and its row inserted, while the lock is held, and
the lock is held until the commit.  So no other submit of the account counts without
the row.

The window is closed: an attempt made exactly `D` seconds earlier still counts.
`recent_submissions` compares with `>=`, and a count with `>` would let one attempt
more into a window.
-/

namespace DicePipeline

open Interaction Program

/-- The attempt is the account's, and stamped in the closed window. -/
def inWindow (account first length : ℕ) (row : Remediation) : Bool :=
  row.serviceAccount = account ∧ first ≤ row.createdAt ∧ row.createdAt ≤ first + length

/-- No window holds more than the limit. -/
def WithinLimit (l : SubmissionLimit) (account : ℕ) (rows : List Remediation) : Prop :=
  ∀ first, rows.countP (inWindow account first (seconds l.duration)) ≤ l.numRequests

variable {l : SubmissionLimit} {account i : ℕ} {rows rows' : List Remediation}

theorem WithinLimit.of_subperm (within : WithinLimit l account rows)
    (fewer : rows'.Subperm rows) : WithinLimit l account rows' :=
  fun first => (fewer.countP_le _).trans (within first)

theorem WithinLimit.of_stamps (within : WithinLimit l account rows)
    (same : rows'.map (fun row => (row.serviceAccount, row.createdAt)) =
      rows.map fun row => (row.serviceAccount, row.createdAt)) : WithinLimit l account rows' := by
  intro first
  have byStamps : ∀ rows : List Remediation,
      rows.countP (inWindow account first (seconds l.duration)) =
        (rows.map fun row => (row.serviceAccount, row.createdAt)).countP fun stamp =>
          stamp.1 = account ∧ first ≤ stamp.2 ∧ stamp.2 ≤ first + seconds l.duration := by
    intro rows
    rw [List.countP_map]
    rfl
  rw [byStamps, same, ← byStamps]
  exact within first

/-- **The new attempt and those counted.**  The rows of a window around the new
stamp are committed rows that the check counted. -/
theorem WithinLimit.insert {settings : Settings} {force : Bool} {contentHash : String}
    {s : Store} {row : Remediation} (within : WithinLimit l account s.rows)
    (locked : InsertedLocked (some l) account s)
    (entitled : Entitled settings (some l) force account contentHash i s row) :
    WithinLimit l account (s.rows ++ [row]) := by
  obtain ⟨held, since, recent, fewer⟩ := entitled.counted l rfl
  -- No row of the account is uncommitted: the lock is ours, and we have none.
  have nonePending : ∀ entry ∈ s.pending, entry.2.serviceAccount ≠ account := by
    intro entry member own
    have holder := locked rfl entry member own
    have isOwn : entry.1 = i := Option.some.inj (holder.symm.trans held)
    have listed : entry.2 ∈ s.uncommitted i :=
      List.mem_map.mpr ⟨entry, List.mem_filter.mpr ⟨member, by simpa using isOwn⟩, rfl⟩
    rw [entitled.alone] at listed
    cases listed
  intro first
  rw [List.countP_append]
  by_cases inside : inWindow account first (seconds l.duration) row = true
  · have stamp : first ≤ row.createdAt ∧ row.createdAt ≤ first + seconds l.duration := by
      simpa [inWindow, entitled.owner] using inside
    have counted : s.rows.countP (inWindow account first (seconds l.duration)) ≤
        (s.recent account since).length := by
      rw [Store.rows, List.countP_append]
      have pending : (s.pending.map (·.2)).countP
          (inWindow account first (seconds l.duration)) = 0 := by
        refine List.countP_eq_zero.mpr fun other member => ?_
        obtain ⟨entry, listed, rfl⟩ := List.mem_map.mp member
        simp [inWindow, nonePending entry listed]
      rw [pending, Nat.add_zero, Store.recent, ← List.countP_eq_length_filter]
      refine List.countP_mono_left fun other _ inside => ?_
      simp only [inWindow, decide_eq_true_eq] at inside ⊢
      refine ⟨inside.1, ?_⟩
      omega
    have one : [row].countP (inWindow account first (seconds l.duration)) ≤ 1 :=
      List.countP_le_length
    omega
  · have none : [row].countP (inWindow account first (seconds l.duration)) = 0 := by
      simp [inside]
    rw [none]
    exact within first

section System

variable {settings : Settings} {acceptsUrl : String → Bool} {ok : Cluster → Choice → Prop}
variable {c : Cluster} {retryFloor : Option String}

private theorem reach_withinLimit
    (limited : ∀ c choice, ok c choice → limitedBy account (some l) choice = true)
    (reached : (system settings acceptsUrl).Reach ok (deployed retryFloor) c) :
    WithinLimit l account c.store.rows := by
  refine store_invariant (fun s => WithinLimit l account s.rows) reached ?_ ?_ ?_ ?_
  · exact fun first => Nat.zero_le _
  · intro c i thread world answer t before within live admitted executed
    obtain ⟨inv, -⟩ := before.safe (submits_sound limited) submitInv_initial
      (Machine.Discipline.holds_initial _ _)
    have entitled := fun row => @insert_entitled settings _ account i acceptsUrl ok c _ limited
      before thread live world answer t row executed
    obtain ⟨role, op, next⟩ := thread
    have effect : Effect i c.store op t := execute_effect executed
    cases effect with
    | saved found guarded => exact within.of_stamps (Store.updateRow_rows_map _ fun _ => rfl)
    | claimed found unfinished unclaimed =>
        exact within.of_stamps (Store.updateRow_rows_map _ fun _ => rfl)
    | @inserted new noClash noWait =>
        rw [Store.insert_rows]
        by_cases own : new.serviceAccount = account
        · obtain ⟨_, _, -, -, mine⟩ := entitled _ rfl own
          exact within.insert inv.locked mine
        · intro first
          rw [List.countP_append]
          simpa [inWindow, NewRemediation.toRow, own] using within first
    | committed => exact within.of_subperm (Store.endTransaction_rows _ _ _)
    | abandoned => exact within.of_subperm (Store.endTransaction_rows _ _ _)
    | rolledBack => exact within.of_subperm (Store.endTransaction_rows _ _ _)
    | _ => exact within
  · exact fun i s within => within.of_subperm (s.endTransaction_rows i false)
  · exact fun _ _ within => within

end System

/-! ## A refused submit -/

/-- The operation inserted an attempt. -/
def isInsert : (op : Op) → Except Exn op.Ans → Bool
  | .insertRemediation _, .ok _ => true
  | _, _ => false

/-- The monitor: whether the thread has inserted an attempt so far. -/
def sawInsert (seen : Bool) (op : Op) (answer : Except Exn op.Ans) : Bool :=
  seen || isInsert op answer

/-- A program watched by the monitor. -/
def InsertMonitor : Environment Query Exn Bool where
  step := fun op seen r seen' => answered op r ∧ seen' = sawInsert seen op r
  rely := fun seen seen' => seen' = seen
  guarantee := fun _ _ => True
  rely_refl := fun _ => rfl
  rely_trans := fun first second => second.trans first

/-- Only a program that has inserted nothing ends with the 429. -/
def RefusedEmpty {α : Type} (r : Except Exn α) (seen : Bool) : Prop :=
  ∀ wait, r = .error (.throttled wait) → seen = false

/-- The program never ends with the 429. -/
def NeverThrottled {α : Type} (p : Py α) : Prop :=
  Triple InsertMonitor (fun _ => True) p fun r _ => ∀ wait, r ≠ .error (.throttled wait)

namespace NeverThrottled

variable {α β : Type}

theorem issue (op : Op) : NeverThrottled (issue op) := by
  refine Triple.perform (fun _ _ _ _ => trivial) ?_
  rintro seen r seen' - ⟨holds, -⟩
  refine ⟨trivial, ?_⟩
  rintro wait rfl
  exact Bool.noConfusion (holds : Exn.isRaisedByCode (.throttled wait) = false)

theorem done {r : Except Exn α} (other : ∀ wait, r ≠ .error (.throttled wait)) :
    NeverThrottled (.done r : Py α) := Triple.done fun _ _ => other

theorem bind {p : Py α} {f : α → Py β} (first : NeverThrottled p)
    (second : ∀ value, NeverThrottled (f value)) : NeverThrottled (p.bind f) := by
  refine Triple.bind first (fun value => (second value).pre fun _ _ => trivial) ?_
  rintro exc seen other wait ⟨⟩
  exact other wait rfl

theorem attempt_bind {p : Py α} {f : Except Exn α → Py β} (first : NeverThrottled p)
    (second : ∀ r, (∀ wait, r ≠ .error (.throttled wait)) → NeverThrottled (f r)) :
    NeverThrottled (p.attempt.bind f) :=
  Triple.attempt_bind first fun r seen other => second r other seen trivial

theorem ite {c : Prop} [Decidable c] {p q : Py α} (yes : NeverThrottled p)
    (no : NeverThrottled q) : NeverThrottled (if c then p else q) := by
  split
  · exact yes
  · exact no

theorem refusedEmpty {p : Py α} (never : NeverThrottled p) {P : Bool → Prop} :
    Triple InsertMonitor P p RefusedEmpty :=
  Triple.conseq never (fun _ _ => trivial) fun _ _ other wait same => absurd same (other wait)

end NeverThrottled

/-- A program that inserts nothing leaves the monitor as it was. -/
theorem unseen_triple {α : Type} {p : Py α} (only : p.Only answered InsertsNothing) :
    Triple InsertMonitor (· = false) p fun _ seen => seen = false := by
  refine Triple.only only ?_ ?_
  · rintro seen seen' unseen rfl
    exact unseen
  · rintro op other seen r seen' rfl ⟨holds, rfl⟩
    refine ⟨holds, trivial, ?_⟩
    cases op with
    | insertRemediation new => exact absurd rfl (other new)
    | _ => cases r <;> rfl

section Refusal

variable {settings : Settings} {upload : Upload}

private theorem makeAttempt_neverThrottled :
    NeverThrottled (RemediationService.makeAttempt settings account upload) := by
  refine NeverThrottled.bind ?_ fun originalPath => ?_
  · refine NeverThrottled.bind (NeverThrottled.issue _) fun stored => ?_
    cases stored with
    | true => exact NeverThrottled.done (by simp)
    | false =>
        exact NeverThrottled.bind (NeverThrottled.issue _) fun _ => NeverThrottled.done (by simp)
  · refine NeverThrottled.attempt_bind ?_ fun made other => ?_
    · exact NeverThrottled.bind (NeverThrottled.issue _) fun createdAt => NeverThrottled.issue _
    · cases made with
      | ok remediation => exact NeverThrottled.done (by simp)
      | error exc =>
          cases exc with
          | integrityError constraint =>
              refine NeverThrottled.bind (NeverThrottled.issue _) fun current => ?_
              cases current with
              | none => exact NeverThrottled.done (by simp)
              | some current =>
                  simp only
                  split
                  · exact NeverThrottled.done (by simp)
                  · exact NeverThrottled.done (by simp)
          | throttled wait => exact absurd rfl (other wait)
          | _ => exact NeverThrottled.done (by simp)

private theorem getOrCreate_refusedEmpty (limit : Option SubmissionLimit) :
    Triple InsertMonitor (· = false) (RemediationService.getOrCreateFromUpload settings account
      upload (some (checkLimit limit))) RefusedEmpty := by
  have looks : (RemediationService.reusableAttempt settings account
      (upload.contentHash settings) upload.force).Only answered InsertsNothing :=
    reusableAttempt_only (fun _ => Op.noConfusion) (fun _ => Op.noConfusion) _
  have unseenEnd : ∀ {α : Type} (exc : Exn) (seen : Bool), seen = false →
      RefusedEmpty (.error exc : Except Exn α) seen := fun _ _ unseen _ _ => unseen
  refine Triple.attempt_bind (M := RefusedEmpty) ?_ fun outcome => ?_
  · refine Triple.bind (unseen_triple looks) ?_ unseenEnd
    intro reusable
    cases reusable with
    | some reusable => exact Triple.done fun _ _ _ impossible => by cases impossible
    | none =>
        refine Triple.bind (unseen_triple (checkLimit_only (fun _ _ _ => Op.noConfusion)
          (fun _ _ _ _ => Op.noConfusion) fun _ => Op.noConfusion)) ?_ unseenEnd
        intro _
        refine Triple.bind (unseen_triple looks) ?_ unseenEnd
        intro reusable
        cases reusable with
        | some reusable => exact Triple.done fun _ _ _ impossible => by cases impossible
        | none => exact makeAttempt_neverThrottled.refusedEmpty
  · cases outcome with
    | ok value =>
        refine NeverThrottled.refusedEmpty ?_
        exact NeverThrottled.bind (NeverThrottled.issue _) fun _ => NeverThrottled.done (by simp)
    | error exc =>
        -- The rollback changes nothing the monitor sees.
        refine Triple.bind (M := fun r seen => (∀ wait, r ≠ .error (.throttled wait)) ∧
          RefusedEmpty (.error exc : Except Exn Unit) seen) ?_ ?_ ?_
        · refine Triple.perform ?_ ?_
          · rintro seen seen' refused rfl
            exact refused
          · rintro seen r seen' refused ⟨holds, rfl⟩
            refine ⟨trivial, ?_, ?_⟩
            · rintro wait rfl
              exact Bool.noConfusion (holds : Exn.isRaisedByCode (.throttled wait) = false)
            · rintro wait ⟨⟩
              have unseen := refused wait rfl
              subst unseen
              cases r <;> rfl
        · rintro _
          refine Triple.done ?_
          rintro seen ⟨-, refused⟩ wait same
          exact refused wait (by cases same; rfl)
        · rintro other seen ⟨never, -⟩ wait ⟨⟩
          exact absurd rfl (never wait)

private theorem subscribe_neverThrottled (remediation : Remediation) (callbackUrl : String) :
    NeverThrottled (CreateRemediationView.subscribe remediation callbackUrl) := by
  rw [CreateRemediationView.subscribe]
  split
  · exact NeverThrottled.done (by simp)
  · exact NeverThrottled.bind (NeverThrottled.issue _) fun made =>
      NeverThrottled.ite (NeverThrottled.issue _) (NeverThrottled.done (by simp))

private theorem queue_neverThrottled (remediation : Remediation) (created : Bool) :
    NeverThrottled (CreateRemediationView.queue settings remediation created) := by
  refine NeverThrottled.bind ?_ fun claimed => ?_
  · rw [RemediationService.claimEnqueue]
    split
    · exact NeverThrottled.done (by simp)
    · refine NeverThrottled.bind ?_ fun stuck => ?_
      · rw [RemediationService.isStuck]
        split
        · exact NeverThrottled.done (by simp)
        · exact NeverThrottled.bind (NeverThrottled.issue _) fun _ => NeverThrottled.done (by simp)
      · cases stuck with
        | true => exact NeverThrottled.bind (NeverThrottled.issue _) fun _ => NeverThrottled.issue _
        | false => exact NeverThrottled.done (by simp)
  · cases claimed with
    | true => exact NeverThrottled.bind (NeverThrottled.issue _) fun _ => NeverThrottled.issue _
    | false => exact NeverThrottled.done (by simp)

private theorem post_refusedEmpty {acceptsUrl : String → Bool}
    (serviceAccount : ServiceAccount) :
    Triple InsertMonitor (· = false)
      (CreateRemediationView.post settings acceptsUrl serviceAccount upload) RefusedEmpty := by
  rw [CreateRemediationView.post]
  cases limitFor serviceAccount with
  | error exc => exact Triple.done fun _ unseen _ _ => unseen
  | ok limit =>
      simp only [CreateRemediationView.submit]
      cases RemediationUploadSerializer.isValid acceptsUrl upload with
      | error exc => exact Triple.done fun _ unseen _ _ => unseen
      | ok _ =>
          refine Triple.bind (getOrCreate_refusedEmpty limit) ?_ ?_
          · intro made
            refine NeverThrottled.refusedEmpty ?_
            refine NeverThrottled.bind (subscribe_neverThrottled _ _) fun _ => ?_
            exact NeverThrottled.bind (queue_neverThrottled _ _) fun _ =>
              NeverThrottled.done (by simp)
          · rintro exc seen refused wait ⟨⟩
            exact refused wait rfl

/-- Every program ends with the 429 only if it inserted nothing. -/
private theorem program_refusedEmpty {acceptsUrl : String → Bool} (role : Role) :
    Triple InsertMonitor (· = false) (role.program settings acceptsUrl) RefusedEmpty := by
  cases role with
  | request serviceAccount upload =>
      refine Triple.bind (post_refusedEmpty serviceAccount) ?_ ?_
      · exact fun response => Triple.done fun _ _ _ impossible => by cases impossible
      · rintro exc seen refused wait ⟨⟩
        exact refused wait rfl
  | run id =>
      have only : (processRemediation settings id).Only answered InsertsNothing := by
        refine (processRemediation_only settings id).mono ?_
        rintro op ofRun new rfl
        exact ofRun
      refine Triple.bind (unseen_triple only) ?_ ?_
      · exact fun _ => Triple.done fun _ _ _ impossible => by cases impossible
      · exact fun _ _ unseen _ _ => unseen

end Refusal

/-- The monitor has seen every insert the history records. -/
theorem sawInsert_of_mem {history : List (Event Query Exn (Option Response) Role)} {i : ℕ}
    {new : NewRemediation} {row : Remediation}
    (member : .answered i (.insertRemediation new) (.ok row) ∈ history) :
    Machine.observed sawInsert false i history = true := by
  induction history with
  | nil => cases member
  | cons event earlier ih =>
      rcases List.mem_cons.mp member with rfl | older
      · simp [Machine.observed, sawInsert, isInsert]
      · have seen := ih older
        cases event with
        | answered j op answer =>
            simp only [Machine.observed]
            split
            · simp [sawInsert, seen]
            · exact seen
        | _ => exact seen

/-- **A refused submit creates no row**, whatever interleaved with it. -/
theorem refused_creates_nothing {settings : Settings} {acceptsUrl : String → Bool}
    {ok : Cluster → Choice → Prop} {c : Cluster} {retryFloor : Option String}
    (reached : (system settings acceptsUrl).Reach ok (deployed retryFloor) c) {i wait : ℕ}
    {role : Role} (refused : .returned i role (.error (.throttled wait)) ∈ c.history)
    (new : NewRemediation) (row : Remediation) :
    .answered i (.insertRemediation new) (.ok row) ∉ c.history := by
  have monitored := reached.monitored sawInsert false
    (fun _ seen body => body.Safe InsertMonitor RefusedEmpty seen) ?_ ?_
  · intro inserted
    have unseen := monitored.returned i role _ refused wait rfl
    rw [sawInsert_of_mem inserted] at unseen
    cases unseen
  · intro role s body started
    obtain rfl := start_eq started
    exact program_refusedEmpty role false rfl
  · intro role seen op next world i s answer t safe executed
    exact (safe seen rfl answer _ ⟨execute_answered executed, rfl⟩).2

/-- **The submission limit holds under concurrency.**  With a limit of `L` attempts per `D`
seconds throughout, no closed window of `D` seconds holds more than `L` attempts of the
account, in any reachable state; and a submit that is answered with the 429 has inserted
none.

What makes it hold is the lock on the account: the count, the stamp of `created_at` and the
insert are made under it, and the stamp is not earlier than the clock that the count was made
at. -/
theorem submission_limit_holds (settings : Settings) (acceptsUrl : String → Bool)
    (retryFloor : Option String) (account : ℕ) (l : SubmissionLimit) (c : Cluster)
    (reached : (system settings acceptsUrl).Reach
      (fun _ choice => limitedBy account (some l) choice) (deployed retryFloor) c) :
    (∀ first, (c.store.remediations.filter fun row =>
        row.serviceAccount = account ∧ first ≤ row.createdAt ∧
          row.createdAt ≤ first + seconds l.duration).length ≤ l.numRequests) ∧
    (∀ i serviceAccount upload wait,
      .returned i (.request serviceAccount upload) (.error (.throttled wait)) ∈ c.history →
        ∀ new row, .answered i (.insertRemediation new) (.ok row) ∉ c.history) := by
  constructor
  · intro first
    rw [← List.countP_eq_length_filter]
    refine le_trans ?_ (reach_withinLimit (fun _ _ h => h) reached first)
    exact (List.sublist_append_left _ _).countP_le
  · exact fun i serviceAccount upload wait refused => refused_creates_nothing reached refused

/-- An account that may submit one document a day. -/
def ServiceAccount.oneADay : ServiceAccount where
  id := 1
  unlimited := false
  rateLimitCount := some 1
  rateLimitPeriod := some .day

/-- One submit makes an attempt, a run finishes it, and a forced submit of the
same file is refused. -/
def refusal : List Choice :=
  [.env 5, .spawn (.request .oneADay .oneByte)] ++ steps 0 12 ++ [.spawn (.run 0)] ++ steps 1 14 ++
  [.env 1, .spawn (.request .oneADay (.oneByte true))] ++ steps 2 7

/-- There is an attempt, and a refusal. -/
def hasRefusal (c : Cluster) : Bool :=
  c.store.remediations.length = 1 && c.history.any fun event =>
    match event with
    | .returned _ (.request _ _) (.error (.throttled _)) => true
    | _ => false

theorem submission_limit_holds_refusal :
    ∃ c, hasRefusal c = true ∧ (c.store.remediations.filter fun row =>
      row.serviceAccount = 1 ∧ 0 ≤ row.createdAt ∧
        row.createdAt ≤ 0 + seconds 86400).length ≤ 1 := by
  obtain ⟨c, reached, refused⟩ := Machine.exists_reach_of_replay
    (system .stepsOff fun _ => true) (fun _ choice => limitedBy 1 (some ⟨1, 1, 86400⟩) choice)
    (deployed none) refusal hasRefusal (by decide +kernel)
  exact ⟨c, refused, (submission_limit_holds _ _ _ 1 ⟨1, 1, 86400⟩ c reached).1 0⟩

end DicePipeline
