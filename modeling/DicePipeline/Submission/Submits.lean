import DicePipeline.Submission.Contract

/-!
# A submit keeps its promise

`post` inserts at most one attempt, and is entitled to it when it does
(`post_triple`).  The proof follows the code: the first look, the limit check
under the account's lock, the second look, and the insert.  `submits_sound`
carries the judgement to all interleavings of the system, and
`insert_entitled` is what the later modules use.
-/

namespace DicePipeline

open Interaction Program

variable {settings : Settings} {limit : Option SubmissionLimit} {force : Bool}
variable {account i : ℕ} {contentHash : String}

/-! ## The limit check -/

/-- The account's lock is this connection's. -/
def Locked (account i : ℕ) (s : Store) : Prop := s.locks account = some i

theorem stable_locked : (Submitter settings limit force account contentHash i).Stable
    (Locked account i) :=
  fun _ _ held tolerated => tolerated.locks.mpr held

theorem stable_clock (now : ℕ) : (Submitter settings limit force account contentHash i).Stable
    fun s => now ≤ s.clock :=
  fun _ _ le tolerated => le.trans tolerated.clock

variable {P : Store → Prop}

/-- `timezone.now()` answers a time the clock has reached. -/
theorem now_triple (stable : (Submitter settings limit force account contentHash i).Stable P) :
    Triple (Submitter settings limit force account contentHash i) P (issue .now)
      fun r s => P s ∧ ∀ now : ℕ, r = .ok now → now = s.clock := by
  refine triple_issue (fun _ => Op.noConfusion) stable ?_
  intro s r t world known executed
  obtain ⟨rfl, rfl⟩ := Prod.mk.inj (Option.some.inj executed)
  exact ⟨known, fun now same => (Except.ok.inj same).symm⟩

/-- `recent_submissions(..., lock=True)`. -/
theorem recentSubmissions_triple {l : SubmissionLimit} (isLimit : limit = some l)
    (stable : (Submitter settings limit force account contentHash i).Stable P)
    (locking : ∀ s, P s → P { s with locks := Function.update s.locks account (some i) }) :
    Triple (Submitter settings limit force account contentHash i) P
      (RemediationService.recentSubmissions account l.duration true)
      fun r s => P s ∧ ∀ usage : SubmissionUsage, r = .ok usage →
        usage.count < l.numRequests → ∃ now ≤ s.clock, Counted limit account i now s := by
  have raisedEnd : ∀ (exc : Exn) (s : Store), P s →
      P s ∧ ∀ usage : SubmissionUsage, (.error exc : Except Exn SubmissionUsage) = .ok usage →
        usage.count < l.numRequests → ∃ now ≤ s.clock, Counted limit account i now s :=
    fun exc s known => ⟨known, fun usage impossible => by cases impossible⟩
  refine Triple.bind (M := fun r s => P s ∧ (r = .ok () → Locked account i s))
    (triple_issue (fun _ => Op.noConfusion) stable ?_) ?_ fun exc s known =>
      raisedEnd exc s known.1
  · intro s r t world known executed
    -- The lock is granted, or it was the account's own already; otherwise the statement waits.
    cases r with
    | error exc =>
        obtain rfl | impossible := execute_error executed
        · exact ⟨known, fun impossible => by cases impossible⟩
        · cases impossible
    | ok value =>
        have performed := execute_ok executed
        simp only [perform] at performed
        split at performed
        · obtain ⟨-, rfl⟩ := Prod.mk.inj (Option.some.inj performed)
          exact ⟨locking s known, fun _ => Function.update_self _ _ _⟩
        · rename_i holder held
          split at performed
          · rename_i same
            obtain ⟨-, rfl⟩ := Prod.mk.inj (Option.some.inj performed)
            exact ⟨known, fun _ => same ▸ held⟩
          · cases performed
  · intro value
    refine Triple.bind (M := fun r s => (P s ∧ Locked account i s) ∧
      ∀ now : ℕ, r = .ok now → now ≤ s.clock) ?_ ?_ fun exc s known => raisedEnd exc s known.1.1
    · exact ((now_triple (stable.and stable_locked)).post
        fun r s post => ⟨post.1, fun now same => (post.2 now same).le⟩).pre
          fun s known => ⟨known.1, known.2 rfl⟩
    · intro now
      -- Nobody else inserts for the account while it is locked, so the count is that of the store.
      have stableAll := (stable.and
        (@stable_locked settings limit force account i contentHash)).and (stable_clock now)
      refine (triple_issue (fun _ => Op.noConfusion) stableAll ?_).pre
        fun s known => ⟨known.1, known.2 now rfl⟩
      rintro s r t world ⟨⟨known, locked⟩, reached⟩ executed
      cases r with
      | error exc =>
          obtain rfl | impossible := execute_error executed
          · exact raisedEnd exc _ known
          · cases impossible
      | ok usage =>
          obtain ⟨answer, rfl⟩ := Prod.mk.inj (Option.some.inj (execute_ok executed))
          refine ⟨known, fun usage' same fewer => ⟨now, reached, ?_⟩⟩
          obtain rfl := Except.ok.inj same
          obtain rfl := Except.ok.inj answer
          intro l' isLimit'
          obtain rfl := Option.some.inj (isLimit.symm.trans isLimit')
          exact ⟨locked, _, le_rfl, fewer⟩

/-- Whatever follows inserts nothing, so nothing is to be shown about it. -/
private theorem triple_rest {α : Type} {p : Py α} (only : p.Only answered InsertsNothing)
    {P : Store → Prop} :
    Triple (Submitter settings limit force account contentHash i) P p fun _ _ => True :=
  triple_of_not_insert only fun _ _ => trivial

private theorem issue_insertsNothing {op : Op} (other : InsertsNothing op) :
    (issue op).Only answered InsertsNothing := (only_perform _).mpr other

/-- `SubmissionLimit.check`, or nothing for an unlimited account. -/
theorem checkLimit_triple (own : ∀ l, limit = some l → l.account = account) :
    Triple (Submitter settings limit force account contentHash i)
      (fun s => s.uncommitted i = []) (checkLimit limit)
      fun r s => r = .ok () →
        s.uncommitted i = [] ∧ ∃ now ≤ s.clock, Counted limit account i now s := by
  cases isLimit : limit with
  | none =>
      exact Triple.done fun s alone _ =>
        ⟨alone, 0, Nat.zero_le _, fun l impossible => by cases impossible⟩
  | some l =>
      have mine : l.account = account := own l isLimit
      subst mine
      subst isLimit
      refine Triple.bind (recentSubmissions_triple rfl stable_alone fun _ alone => alone) ?_ ?_
      · intro usage
        split
        · rename_i fewer
          refine Triple.done ?_
          rintro s ⟨alone, counted⟩ _
          exact ⟨alone, counted usage rfl fewer⟩
        · refine Triple.bind (M := fun _ _ => True) (triple_rest ?_) ?_ fun _ _ _ =>
            fun impossible => by cases impossible
          · obtain ⟨count, oldest⟩ := usage
            cases oldest with
            | none => trivial
            | some oldest =>
                exact Only.bind (issue_insertsNothing fun _ => Op.noConfusion) fun _ => trivial
          · intro wait
            refine Triple.bind (M := fun _ _ => True)
              (triple_rest (issue_insertsNothing fun _ => Op.noConfusion)) ?_ fun _ _ _ =>
                fun impossible => by cases impossible
            exact fun _ => Triple.done fun _ _ impossible => by cases impossible
      · exact fun exc s _ impossible => by cases impossible

/-! ## The insert -/

/-- What the second look and the check leave for the insert. -/
structure Ready (settings : Settings) (limit : Option SubmissionLimit) (force : Bool)
    (account : ℕ) (contentHash : String) (i : ℕ) (s : Store) : Prop where
  alone : s.uncommitted i = []
  counted : ∃ now ≤ s.clock, Counted limit account i now s
  looked : Looked settings limit force account contentHash i s

theorem stable_ready : (Submitter settings limit force account contentHash i).Stable
    (Ready settings limit force account contentHash i) := by
  intro s t ready tolerated
  obtain ⟨now, reached, counted⟩ := ready.counted
  exact ⟨stable_alone s t ready.alone tolerated,
    ⟨now, reached.trans tolerated.clock, stable_counted s t counted tolerated⟩,
    stable_looked s t ready.looked tolerated⟩

/-- A later moment looks at fewer attempts. -/
theorem Counted.later {s : Store} {now later : ℕ} (counted : Counted limit account i now s)
    (le : now ≤ later) : Counted limit account i later s := by
  intro l isLimit
  obtain ⟨held, since, recent, fewer⟩ := counted l isLimit
  exact ⟨held, since, recent.trans (Nat.sub_le_sub_right le _), fewer⟩

/-- The operations of `_store_original`. -/
private def IsStorage (op : Op) : Prop :=
  (∃ uri, op = .storageExists uri) ∨ ∃ uri bytes, op = .storageSave uri bytes

private theorem storeOriginal_triple (filename : String) (bytes : Bytes) :
    Triple (Submitter settings limit force account contentHash i)
      (Ready settings limit force account contentHash i)
      (RemediationService.storeOriginal account contentHash filename bytes)
      fun _ s => Ready settings limit force account contentHash i s := by
  have inClass : (RemediationService.storeOriginal account contentHash filename bytes).Only
      answered IsStorage := by
    refine Only.bind ((only_perform _).mpr (.inl ⟨_, rfl⟩)) fun stored => ?_
    refine Only.ite trivial (Only.bind ((only_perform _).mpr (.inr ⟨_, _, rfl⟩)) fun _ => trivial)
  refine Triple.only inClass stable_ready ?_
  rintro op storage s r t ready ⟨world, executed⟩
  have effect := execute_effect executed
  refine ⟨execute_answered executed, promised_of_not_insert effect ?_, ?_⟩
  · rcases storage with ⟨uri, rfl⟩ | ⟨uri, bytes, rfl⟩ <;> exact fun _ => Op.noConfusion
  · rcases storage with ⟨uri, rfl⟩ | ⟨uri, bytes, rfl⟩
    · cases effect
      exact ready
    · cases effect with
      | unchanged => exact ready
      | stored _ => exact ⟨ready.alone, ready.counted, ready.looked⟩

/-- `create`: the stamp is read after the count, and the insert is entitled. -/
private theorem create_triple (uri : Uri) (filename : String) :
    Triple (Submitter settings limit force account contentHash i)
      (Ready settings limit force account contentHash i)
      (RemediationService.create settings account uri contentHash filename)
      fun _ _ => True := by
  refine Triple.bind (now_triple stable_ready) ?_ fun _ _ _ => trivial
  intro createdAt
  have stable : (Submitter settings limit force account contentHash i).Stable fun s =>
      s.uncommitted i = [] ∧ Counted limit account i createdAt s ∧
        Looked settings limit force account contentHash i s :=
    stable_alone.and (stable_counted.and stable_looked)
  refine Triple.pre (P := fun s => s.uncommitted i = [] ∧ Counted limit account i createdAt s ∧
    Looked settings limit force account contentHash i s) (Triple.perform stable ?_) ?_
  · rintro s r t ⟨alone, counted, looked⟩ ⟨world, executed⟩
    have effect := execute_effect executed
    refine ⟨⟨effect.discreet, fun row added => ?_⟩, trivial⟩
    obtain ⟨new, isInsert, rfl⟩ := effect.pending_append added
    obtain rfl := Op.insertRemediation.inj isInsert
    exact ⟨rfl, rfl, alone, counted, looked⟩
  · rintro s ⟨ready, read⟩
    obtain ⟨now, reached, counted⟩ := ready.counted
    exact ⟨ready.alone, counted.later (reached.trans (read createdAt rfl).ge), ready.looked⟩

variable {upload : Upload}

/-- The last two statements of `get_or_create_from_upload`. -/
private theorem makeAttempt_triple :
    Triple (Submitter settings limit force account (upload.contentHash settings) i)
      (Ready settings limit force account (upload.contentHash settings) i)
      (RemediationService.makeAttempt settings account upload) fun _ _ => True := by
  refine Triple.bind (storeOriginal_triple _ _) ?_ fun _ _ _ => trivial
  intro originalPath
  refine Triple.attempt_bind (create_triple _ _) fun made => triple_rest ?_
  cases made with
  | ok remediation => trivial
  | error exc =>
      cases exc with
      | integrityError constraint =>
          refine Only.bind (issue_insertsNothing fun _ => Op.noConfusion) fun current => ?_
          cases current with
          | none => trivial
          | some current => exact Only.ite trivial trivial
      | _ => trivial

/-- `get_or_create_from_upload`, with the account's limit as its hook. -/
private theorem getOrCreate_triple (own : ∀ l, limit = some l → l.account = account) :
    Triple (Submitter settings limit upload.force account (upload.contentHash settings) i)
      (fun s => s.uncommitted i = [])
      (RemediationService.getOrCreateFromUpload settings account upload
        (some (checkLimit limit))) fun _ _ => True := by
  refine Triple.attempt_bind (M := fun _ _ => True) ?_ fun outcome => triple_rest ?_
  · refine Triple.bind (reusableAttempt_triple stable_alone fun _ _ alone => alone) ?_
      fun _ _ _ => trivial
    intro reusable
    cases reusable with
    | some reusable => exact Triple.done fun _ _ => trivial
    | none =>
        refine Triple.bind ((checkLimit_triple own).pre fun s known => known.1) ?_
          fun _ _ _ => trivial
        intro checked
        have stable : (Submitter settings limit upload.force account
            (upload.contentHash settings) i).Stable fun s => s.uncommitted i = [] ∧
              ∃ now ≤ s.clock, Counted limit account i now s := by
          rintro s t ⟨alone, now, reached, counted⟩ tolerated
          exact ⟨stable_alone s t alone tolerated, now, reached.trans tolerated.clock,
            stable_counted s t counted tolerated⟩
        refine Triple.bind ((reusableAttempt_triple stable fun _ _ known => known).pre
          fun s known => known rfl) ?_ fun _ _ _ => trivial
        intro reusable
        cases reusable with
        | some reusable => exact Triple.done fun _ _ => trivial
        | none =>
            refine makeAttempt_triple.pre ?_
            rintro s ⟨⟨alone, counted⟩, looked⟩
            exact ⟨alone, counted, looked rfl⟩
  · cases outcome with
    | ok value => exact Only.bind (issue_insertsNothing fun _ => Op.noConfusion) fun _ => trivial
    | error exc => exact Only.bind (issue_insertsNothing fun _ => Op.noConfusion) fun _ => trivial

/-- **`post` inserts only what it is entitled to.** -/
theorem post_triple {acceptsUrl : String → Bool} {serviceAccount : ServiceAccount}
    (found : limitFor serviceAccount = .ok limit) :
    Triple (Submitter settings limit upload.force serviceAccount.id
        (upload.contentHash settings) i)
      (fun s => s.uncommitted i = [])
      (CreateRemediationView.post settings acceptsUrl serviceAccount upload) fun _ _ => True := by
  rw [CreateRemediationView.post, found]
  simp only [CreateRemediationView.submit]
  cases RemediationUploadSerializer.isValid acceptsUrl upload with
  | error exc => exact Triple.done fun _ _ => trivial
  | ok _ =>
      refine Triple.bind (getOrCreate_triple (limitFor_account found)) ?_ fun _ _ _ => trivial
      intro made
      refine triple_rest ?_
      refine Only.bind (subscribe_only (fun _ => Op.noConfusion) fun _ _ => Op.noConfusion)
        fun _ => ?_
      exact Only.bind (queue_only (fun _ => Op.noConfusion) (fun _ _ _ _ => Op.noConfusion)
        (fun _ _ => Op.noConfusion) (fun _ _ => Op.noConfusion) _ _) fun _ => trivial

/-! ## Among all threads -/

/-- A thread that inserts no attempt of the account: it promises discretion, and
tolerates anything. -/
def Bystander (settings : Settings) (account i : ℕ) : Environment Query Exn Store where
  step := fun op s r t => ∃ world, execute settings world i op s = some (r, t)
  rely := fun _ _ => True
  guarantee := fun s t => Discreet account i s t ∧
    ∀ row, t.pending = s.pending ++ [(i, row)] → row.serviceAccount ≠ account
  rely_refl := fun _ => trivial
  rely_trans := fun _ _ => trivial

/-- The operation inserts no attempt of the account. -/
def InsertsElsewhere (account : ℕ) (op : Op) : Prop :=
  ∀ new, op = .insertRemediation new → new.serviceAccount ≠ account

theorem bystander_safe {α : Type} {p : Py α} (only : p.Only answered (InsertsElsewhere account))
    (s : Store) : p.Safe (Bystander settings account i) (fun _ _ => True) s := by
  refine (Triple.only only (P := fun _ => True) (fun _ _ _ _ => trivial) ?_) s trivial
  rintro op elsewhere s r t - ⟨world, executed⟩
  have effect := execute_effect executed
  refine ⟨execute_answered executed, ⟨effect.discreet, fun row added => ?_⟩, trivial⟩
  obtain ⟨new, isInsert, rfl⟩ := effect.pending_append added
  exact elsewhere new isInsert

theorem run_insertsElsewhere (settings : Settings) (id : ℕ) :
    (processRemediation settings id).Only answered (InsertsElsewhere account) := by
  refine (processRemediation_only settings id).mono ?_
  rintro op ofRun new rfl
  exact ofRun.elim

theorem post_insertsElsewhere {acceptsUrl : String → Bool} {serviceAccount : ServiceAccount}
    (other : serviceAccount.id ≠ account) :
    (CreateRemediationView.post settings acceptsUrl serviceAccount upload).Only answered
      (InsertsElsewhere account) := by
  refine (post_only settings acceptsUrl serviceAccount upload).mono ?_
  rintro op ofSubmit new rfl
  rw [ofSubmit.1]
  exact other

/-- The environment of each thread, with one account under watch. -/
def submitEnv (settings : Settings) (limit : Option SubmissionLimit) (account i : ℕ) :
    Role → Environment Query Exn Store
  | .request serviceAccount upload =>
      if serviceAccount.id = account then
        Submitter settings limit upload.force account (upload.contentHash settings) i
      else Bystander settings account i
  | .run _ => Bystander settings account i

/-- Every thread is safe for its environment. -/
def submitDiscipline (settings : Settings) (limit : Option SubmissionLimit) (account : ℕ) :
    Machine.Discipline Query Exn (Option Response) Store Role where
  env := submitEnv settings limit account
  post := fun _ _ _ _ => True

/-- The account's limit is `limit` whenever it submits. -/
def limitedBy (account : ℕ) (limit : Option SubmissionLimit) : Choice → Bool
  | .spawn (.request serviceAccount _) =>
      serviceAccount.id ≠ account || (limitFor serviceAccount).toOption = some limit
  | _ => true

theorem limitFor_of_limitedBy {serviceAccount : ServiceAccount} {upload : Upload}
    (limited : limitedBy serviceAccount.id limit (.spawn (.request serviceAccount upload)) = true) :
    limitFor serviceAccount = .ok limit := by
  cases found : limitFor serviceAccount with
  | error exc => simp [limitedBy, found, Except.toOption] at limited
  | ok other =>
      simp only [limitedBy, found, Except.toOption, ne_eq, not_true_eq_false, decide_false,
        Bool.false_or, decide_eq_true_eq, Option.some.injEq] at limited
      rw [limited]

/-- Rows of a limited account are inserted under its lock. -/
def InsertedLocked (limit : Option SubmissionLimit) (account : ℕ) (s : Store) : Prop :=
  limit.isSome = true → ∀ entry ∈ s.pending, entry.2.serviceAccount = account →
    s.locks account = some entry.1

/-- The invariant of whole configurations: uncommitted rows belong to threads
that exist, and rows of a limited account to the holder of its lock. -/
structure SubmitInv (limit : Option SubmissionLimit) (account : ℕ) (c : Cluster) : Prop where
  locked : InsertedLocked limit account c.store
  known : ∀ entry ∈ c.store.pending, entry.1 < c.count
  fresh : ∀ i, c.count ≤ i → c.threads i = none

section Invariant

variable {s t : Store} {op : Op} {j : ℕ}

/-- What one connection does discreetly, a submit on another one tolerates. -/
theorem tolerated_of_discreet (discreet : Discreet account i s t)
    (locked : InsertedLocked limit account s) (different : j ≠ i) :
    Tolerated limit account j s t where
  clock := discreet.clock.ge
  pipelineConfig := discreet.pipelineConfig
  lookups := discreet.lookups j different
  uncommitted := discreet.uncommitted j different
  locks := discreet.locks j different
  stamps := by
    intro limited held
    rcases discreet.stamps with same | ⟨row, member, own⟩
    · exact same
    · obtain ⟨entry, entryMember, rfl⟩ := List.mem_map.mp member
      obtain ⟨listed, isOwn⟩ := List.mem_filter.mp entryMember
      have holder := locked limited entry listed own
      rw [held] at holder
      have impossible : j = i := (Option.some.inj holder).trans (by simpa using isOwn)
      exact absurd impossible different

theorem InsertedLocked.endTransaction (locked : InsertedLocked limit account s) (keep : Bool) :
    InsertedLocked limit account (s.endTransaction i keep) := by
  intro limited entry member own
  obtain ⟨listed, notOwn⟩ := List.mem_filter.mp member
  have holder := locked limited entry listed own
  have different : entry.1 ≠ i := by simpa using notOwn
  simp [Store.endTransaction, holder, different]

theorem Effect.insertedLocked (effect : Effect i s op t)
    (locked : InsertedLocked limit account s)
    (entitled : limit.isSome = true → ∀ row, t.pending = s.pending ++ [(i, row)] →
      row.serviceAccount = account → s.locks account = some i) :
    InsertedLocked limit account t := by
  cases effect with
  | @locked account' free =>
      intro limited entry member own
      have holder := locked limited entry member own
      by_cases same : account = account'
      · rw [← same, holder] at free
        cases free
      · simpa [Function.update_of_ne same] using holder
  | inserted noClash noWait =>
      intro limited entry member own
      rcases List.mem_append.mp member with old | last
      · exact locked limited entry old own
      · obtain rfl := List.mem_singleton.mp last
        exact entitled limited _ rfl own
  | committed => exact locked.endTransaction true
  | abandoned => exact locked.endTransaction false
  | rolledBack => exact locked.endTransaction false
  | _ => exact locked

/-- An operation leaves uncommitted rows to threads that exist. -/
theorem Effect.pending_known (effect : Effect i s op t) {count : ℕ} (used : i < count)
    (known : ∀ entry ∈ s.pending, entry.1 < count) : ∀ entry ∈ t.pending, entry.1 < count := by
  cases effect with
  | inserted noClash noWait =>
      intro entry member
      rcases List.mem_append.mp member with old | last
      · exact known entry old
      · obtain rfl := List.mem_singleton.mp last
        exact used
  | committed => exact fun entry member => known entry (List.mem_of_mem_filter member)
  | abandoned => exact fun entry member => known entry (List.mem_of_mem_filter member)
  | rolledBack => exact fun entry member => known entry (List.mem_of_mem_filter member)
  | _ => exact known

end Invariant

section System

variable {acceptsUrl : String → Bool} {ok : Cluster → Choice → Prop} {c : Cluster}
variable {retryFloor : Option String}

/-- A new thread is safe. -/
private theorem program_safe {role : Role} (isLimited : limitedBy account limit (.spawn role) = true)
    {s : Store} (alone : s.uncommitted i = []) :
    (role.program settings acceptsUrl).Safe (submitEnv settings limit account i role)
      (fun _ _ => True) s := by
  cases role with
  | run id =>
      refine (bystander_safe (run_insertsElsewhere settings id) s).bind ?_ fun _ _ _ => trivial
      exact fun _ _ _ => trivial
  | request serviceAccount upload =>
      rw [submitEnv]
      split
      · rename_i own
        subst own
        refine (post_triple (limitFor_of_limitedBy isLimited) s alone).bind ?_ fun _ _ _ => trivial
        exact fun _ _ _ => trivial
      · rename_i other
        refine (bystander_safe (post_insertsElsewhere other) s).bind ?_ fun _ _ _ => trivial
        exact fun _ _ _ => trivial

/-- What a submit's environment tolerates, any environment does. -/
private theorem rely_of_tolerated {role : Role} {s t : Store} {j : ℕ}
    (tolerated : Tolerated limit account j s t) :
    (submitEnv settings limit account j role).rely s t := by
  cases role with
  | run id => trivial
  | request serviceAccount upload =>
      rw [submitEnv]
      split
      · exact tolerated
      · trivial

private theorem guarantee_discreet {role : Role} {s t : Store}
    (kept : (submitEnv settings limit account i role).guarantee s t) :
    Discreet account i s t := by
  cases role with
  | run id => exact kept.1
  | request serviceAccount upload =>
      rw [submitEnv] at kept
      split at kept
      · exact kept.discreet
      · exact kept.1

/-- An attempt of the account is inserted by a submit of the account that is
entitled to it. -/
private theorem guarantee_entitled {role : Role} {s t : Store} {row : Remediation}
    (kept : (submitEnv settings limit account i role).guarantee s t)
    (added : t.pending = s.pending ++ [(i, row)]) (own : row.serviceAccount = account) :
    ∃ serviceAccount upload, role = .request serviceAccount upload ∧
      serviceAccount.id = account ∧ Entitled settings limit upload.force account
        (upload.contentHash settings) i s row := by
  cases role with
  | run id => exact absurd own (kept.2 row added)
  | request serviceAccount upload =>
      rw [submitEnv] at kept
      split at kept
      · rename_i isAccount
        exact ⟨serviceAccount, upload, rfl, isAccount, kept.entitled row added⟩
      · exact absurd own (kept.2 row added)

/-- Every environment covers what an operation does. -/
private theorem submitEnv_step (role : Role) {op : Op} {s t : Store} {world : World}
    {r : Except Exn op.Ans} (executed : execute settings world i op s = some (r, t)) :
    (submitEnv settings limit account i role).step op s r t := by
  cases role with
  | run id => exact ⟨world, executed⟩
  | request serviceAccount upload =>
      simp only [submitEnv]
      split <;> exact ⟨world, executed⟩

theorem submits_sound (limited : ∀ c choice, ok c choice → limitedBy account limit choice = true) :
    (system settings acceptsUrl).Sound ok (submitDiscipline settings limit account)
      (SubmitInv limit account) where
  spawn := by
    intro c role body inv admitted started
    obtain rfl := start_eq started
    refine program_safe (limited c _ admitted) ?_
    refine List.map_eq_nil_iff.mpr (List.filter_eq_nil_iff.mpr fun entry member => ?_)
    have below := inv.known entry member
    simp only [decide_eq_true_eq]
    omega
  covers := fun _ _ _ thread _ _ _ _ _ executed => submitEnv_step thread.role executed
  -- What one thread guarantees is what the others tolerate, and a kill only gives back a lock.
  compatible := by
    intro c i j threadI threadJ store inv different _ _ kept
    exact rely_of_tolerated
      (tolerated_of_discreet (guarantee_discreet kept) inv.locked (Ne.symm different))
  crash := by
    intro c i j thread inv _ different _
    exact rely_of_tolerated (tolerated_of_discreet
      (Discreet.endTransaction account i c.store false) inv.locked (Ne.symm different))
  env := by
    intro c elapsed j thread _ _ _
    exact rely_of_tolerated
      ⟨Nat.le_add_right _ _, rfl, rfl, rfl, Iff.rfl, fun _ _ => rfl⟩
  keep := by
    intro c choice c' inv holds admitted moved kept
    cases choice with
    | spawn role =>
        obtain ⟨body, -, rfl⟩ := Machine.next_spawn_eq moved
        refine ⟨by simpa using inv.locked, ?_, ?_⟩
        · intro entry member
          rw [Config.place_store] at member
          rw [Config.place_count]
          exact Nat.lt_succ_of_lt (inv.known entry member)
        · intro i unused
          rw [Config.place_count] at unused
          rw [Config.place_threads_of_ne _ _ _ (Nat.ne_of_gt unused)]
          exact inv.fresh i (Nat.le_of_succ_le unused)
    | step i world =>
        obtain ⟨thread, answer, store, live, executed, rfl⟩ := Machine.next_step_eq moved
        have used : i < c.count := by
          by_contra unused
          rw [inv.fresh i (Nat.le_of_not_lt unused)] at live
          cases live
        have promised := kept i world thread rfl live
        rw [Config.place_store] at promised
        have effect := execute_effect executed
        refine ⟨?_, ?_, ?_⟩
        -- An insert for a limited account is entitled by the count it made under the lock.
        · rw [Config.place_store]
          refine effect.insertedLocked inv.locked fun isLimited row added own => ?_
          obtain ⟨_, _, -, -, entitled⟩ := guarantee_entitled promised added own
          obtain ⟨l, isLimit⟩ := Option.isSome_iff_exists.mp isLimited
          exact (entitled.counted l isLimit).1
        · rw [Config.place_store, Config.place_count]
          exact effect.pending_known used inv.known
        · intro j unused
          rw [Config.place_count] at unused
          rw [Config.place_threads_of_ne _ _ _ (Nat.ne_of_gt (Nat.lt_of_lt_of_le used unused))]
          exact inv.fresh j unused
    | kill i =>
        obtain ⟨thread, live, rfl⟩ := Machine.next_kill_eq moved
        refine ⟨inv.locked.endTransaction false, ?_, ?_⟩
        · exact fun entry member => inv.known entry (List.mem_of_mem_filter member)
        · intro j unused
          -- The thread that is killed is not live any more; no other has changed.
          by_cases same : j = i
          · subst same
            exact Function.update_self _ _ _
          · exact (Function.update_of_ne same _ _).trans (inv.fresh j unused)
    | env elapsed =>
        obtain rfl := Machine.next_env_eq moved
        exact ⟨inv.locked, inv.known, inv.fresh⟩

/-- The invariant holds with no thread and empty tables. -/
theorem submitInv_initial : SubmitInv limit account (deployed retryFloor) :=
  ⟨fun _ _ member => (nomatch member), fun _ member => (nomatch member), fun _ _ => rfl⟩

/-- **Every insert is entitled.**  In every reachable configuration, a thread
that inserts an attempt of the account is a submit of it, and is entitled. -/
theorem insert_entitled (limited : ∀ c choice, ok c choice → limitedBy account limit choice = true)
    (reached : (system settings acceptsUrl).Reach ok (deployed retryFloor) c)
    {thread : Thread Query Exn (Option Response) Role} (live : c.threads i = some thread)
    {world : World} {answer : Except Exn thread.op.Ans} {t : Store} {row : Remediation}
    (executed : execute settings world i thread.op c.store = some (answer, t))
    (added : t.pending = c.store.pending ++ [(i, row)]) (own : row.serviceAccount = account) :
    ∃ serviceAccount upload, thread.role = .request serviceAccount upload ∧
      serviceAccount.id = account ∧ Entitled settings limit upload.force account
        (upload.contentHash settings) i c.store row := by
  obtain ⟨inv, holds⟩ := reached.safe (submits_sound limited) submitInv_initial
    (Machine.Discipline.holds_initial _ _)
  have step : ((submitDiscipline settings limit account).env i thread.role).step thread.op
      c.store answer t := submitEnv_step _ executed
  exact guarantee_entitled (holds.guarantee live step) added own

end System

end DicePipeline
