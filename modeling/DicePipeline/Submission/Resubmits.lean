import DicePipeline.Attempt.Verdicts
import DicePipeline.Interaction.Recovery
import DicePipeline.Remediation.Footprints
import DicePipeline.Submission.Contract

/-!
# Submitting a document again and again

A failed document is submitted again, each time without `force`, and fails again.
`_should_retry` makes a new attempt if the version of the latest one is older than the
retry floor, and `create` stamps the new attempt with the deployed version.  That ends
after one attempt if the deployed version is not itself older than the floor: the new
attempt is the latest one, and nothing about it is outdated.

If the deployed version *is* older (a floor that was raised before the deployment, a
roll-back, or a `PIPELINE_VERSION` that `_parse_version` cannot read and takes for
`0.0.0`), the new attempt is outdated the moment it is made, and every later submit runs
the pipeline once more.  `resubmits_run_again` has three attempts of one version.

A submit is answered among all that goes on elsewhere (`Meanwhile`): worker runs, and
submits of other documents and by other accounts.
-/

namespace DicePipeline

open Interaction Program Environment

/-! ## Attempts at one document -/

/-- The version and the creation time of each attempt at the document. -/
def Store.made (s : Store) (account : ℕ) (contentHash : String) : List (String × ℕ) :=
  (s.attempts account contentHash).map fun row => (row.pipelineVersion, row.createdAt)

/-- What may happen while nobody submits the document: time passes, and anything is
written but a new attempt at the document and the retry floor. -/
structure Meanwhile (account : ℕ) (contentHash : String) (s t : Store) : Prop where
  clock : s.clock ≤ t.clock
  pipelineConfig : t.pipelineConfig = s.pipelineConfig
  made : t.made account contentHash = s.made account contentHash

/-- Every attempt at the document was made earlier, and has failed. -/
structure Failed (account : ℕ) (contentHash : String) (s : Store) : Prop where
  status : ∀ row ∈ s.attempts account contentHash,
    row.status = .noncompliant ∨ row.status = .error
  earlier : ∀ row ∈ s.attempts account contentHash, row.createdAt < s.clock

/-- A submit of the document, answered by connection `i`. -/
def Resubmitter (settings : Settings) (account : ℕ) (contentHash : String) (i : ℕ) :
    Environment Query Exn Store where
  step := fun op s r t => ∃ world, execute settings world i op s = some (r, t)
  rely := fun s t => Meanwhile account contentHash s t ∧ t.uncommitted i = s.uncommitted i
  guarantee := fun _ _ => True
  rely_refl := fun _ => ⟨⟨le_rfl, rfl, rfl⟩, rfl⟩
  rely_trans := fun first second =>
    ⟨{ clock := first.1.clock.trans second.1.clock
       pipelineConfig := second.1.pipelineConfig.trans first.1.pipelineConfig
       made := second.1.made.trans first.1.made }, second.2.trans first.2⟩

/-- **Submits of one document by one account**, one after another and without `force`,
each when all attempts so far have failed. -/
inductive Resubmits (settings : Settings) (acceptsUrl : String → Bool)
    (account : ServiceAccount) (contentHash : String) (origin : Store) : Store → Prop
  | start : Resubmits settings acceptsUrl account contentHash origin origin
  | meanwhile {s t : Store} :
      Resubmits settings acceptsUrl account contentHash origin s →
      Meanwhile account.id contentHash s t →
        Resubmits settings acceptsUrl account contentHash origin t
  | submit {s t : Store} {i : ℕ} {upload : Upload} {result : Except Exn Response} :
      Resubmits settings acceptsUrl account contentHash origin s →
      Failed account.id contentHash s → s.uncommitted i = [] →
      upload.contentHash settings = contentHash → upload.force = false →
      (Resubmitter settings account.id contentHash i).Returns
        (CreateRemediationView.post settings acceptsUrl account upload) s result t →
        Resubmits settings acceptsUrl account contentHash origin t

/-- **Automatic retry is bounded.**  After the first attempt the submits make one new
attempt at most, and from the first attempt on no version is run twice. -/
def RetriesBounded (settings : Settings) (acceptsUrl : String → Bool)
    (retryFloor : Option String) : Prop :=
  ∀ account contentHash origin s, origin.pipelineConfig = retryFloor →
    Resubmits settings acceptsUrl account contentHash origin s →
    (s.made account.id contentHash).length ≤
        max 1 (origin.made account.id contentHash).length + 1 ∧
      ((origin.made account.id contentHash).length ≤ 1 →
        ((s.made account.id contentHash).map Prod.fst).Nodup)

/-- A version that `_should_retry` finds older than the retry floor. -/
def outdated (settings : Settings) (retryFloor : Option String) (version : String) : Bool :=
  if retryFloor.getD "" = "" then false
  else versionLt settings version (retryFloor.getD "")

/-- The latest of the attempts is outdated. -/
def LatestOutdated (settings : Settings) (retryFloor : Option String)
    (made : List (String × ℕ)) : Prop :=
  ∃ latest ∈ made, (∀ other ∈ made, other.2 ≤ latest.2) ∧
    outdated settings retryFloor latest.1 = true

section Submit

variable {settings : Settings} {acceptsUrl : String → Bool} {account i : ℕ}
variable {contentHash : String} {retryFloor : Option String} {made : List (String × ℕ)}
variable {start : ℕ} {op : Op} {s t : Store}

/-! ## Everything else -/

/-- Rewriting rows keeps the stamps of `create`. -/
theorem Store.updateRow_made {id : ℕ} {f : Remediation → Remediation}
    (kept : ∀ row, (f row).serviceAccount = row.serviceAccount ∧
      (f row).contentHash = row.contentHash ∧ (f row).pipelineVersion = row.pipelineVersion ∧
        (f row).createdAt = row.createdAt) :
    (s.updateRow id f).made account contentHash = s.made account contentHash := by
  simp only [Store.made, Store.attempts, Store.updateRow]
  induction s.remediations with
  | nil => rfl
  | cons row rest ih =>
    obtain ⟨sameAccount, sameHash, sameVersion, sameTime⟩ := kept row
    have same : ∀ written, (if row.id = id then f row else row) = written →
        written.isFor account contentHash = row.isFor account contentHash ∧
          written.pipelineVersion = row.pipelineVersion ∧ written.createdAt = row.createdAt := by
      rintro _ rfl
      split
      · exact ⟨by rw [Remediation.isFor, Remediation.isFor, sameAccount, sameHash], sameVersion,
          sameTime⟩
      · exact ⟨rfl, rfl, rfl⟩
    obtain ⟨isFor, version, time⟩ := same _ rfl
    rw [List.map_cons, List.filter_cons, List.filter_cons, isFor]
    split
    · rw [List.map_cons, List.map_cons, ih, version, time]
    · exact ih

/-- The end of a transaction adds the attempts that it commits. -/
theorem Store.endTransaction_made (keep : Bool) :
    (s.endTransaction i keep).made account contentHash = s.made account contentHash ++
      if keep then ((s.uncommitted i).filter fun row => row.isFor account contentHash).map
        fun row => (row.pipelineVersion, row.createdAt) else [] := by
  cases keep with
  | true =>
    show ((s.remediations ++ s.uncommitted i).filter _).map _ = _
    rw [List.filter_append, List.map_append]
    rfl
  | false => exact (List.append_nil _).symm

theorem Store.endTransaction_alone (keep : Bool) : (s.endTransaction i keep).uncommitted i = [] := by
  simp [Store.endTransaction, Store.uncommitted, List.filter_filter]

/-- **What goes on elsewhere.**  An operation of another connection is tolerated, unless
it commits an attempt at the document. -/
theorem Effect.meanwhile (effect : Effect i s op t)
    (elsewhere : ∀ row ∈ s.uncommitted i, row.isFor account contentHash = false) :
    Meanwhile account contentHash s t := by
  have ended : ∀ keep, (s.endTransaction i keep).made account contentHash =
      s.made account contentHash := by
    intro keep
    have none : ((s.uncommitted i).filter fun row => row.isFor account contentHash) = [] := by
      rw [List.filter_eq_nil_iff]
      intro row member isFor
      rw [elsewhere row member] at isFor
      cases isFor
    rw [Store.endTransaction_made, none]
    cases keep <;> exact List.append_nil _
  refine ⟨effect.clock.ge, effect.pipelineConfig, ?_⟩
  cases effect with
  | saved found guarded => exact Store.updateRow_made fun _ => ⟨rfl, rfl, rfl, rfl⟩
  | claimed found unfinished unclaimed => exact Store.updateRow_made fun _ => ⟨rfl, rfl, rfl, rfl⟩
  | committed => exact ended true
  | abandoned => exact ended false
  | rolledBack => exact ended false
  | _ => rfl

/-- An operation that inserts nothing, of a connection that has inserted nothing. -/
theorem Effect.alone (effect : Effect i s op t) (other : InsertsNothing op)
    (alone : s.uncommitted i = []) : t.uncommitted i = [] := by
  cases effect with
  | inserted noClash noWait => exact absurd rfl (other _)
  | committed => exact Store.endTransaction_alone true
  | abandoned => exact Store.endTransaction_alone false
  | rolledBack => exact Store.endTransaction_alone false
  | _ => exact alone

/-! ## One submit -/

/-- The submit has inserted nothing. -/
structure NothingMade (account i : ℕ) (contentHash : String) (retryFloor : Option String)
    (made : List (String × ℕ)) (start : ℕ) (s : Store) : Prop where
  clock : start ≤ s.clock
  pipelineConfig : s.pipelineConfig = retryFloor
  made : s.made account contentHash = made
  alone : s.uncommitted i = []

/-- A new attempt is called for. -/
def Wanted (settings : Settings) (retryFloor : Option String) (made : List (String × ℕ)) :
    Prop :=
  made = [] ∨ LatestOutdated settings retryFloor made

/-- The attempts the submit leaves behind: a new one only if it was wanted. -/
structure OneMade (settings : Settings) (account i : ℕ) (contentHash : String)
    (retryFloor : Option String) (made : List (String × ℕ)) (start : ℕ) (s : Store) : Prop where
  pipelineConfig : s.pipelineConfig = retryFloor
  alone : s.uncommitted i = []
  made : s.made account contentHash = made ∨ Wanted settings retryFloor made ∧
    ∃ createdAt, start ≤ createdAt ∧
      s.made account contentHash = made ++ [(settings.pipelineVersion, createdAt)]

/-- The submit has inserted an attempt, and not committed it. -/
structure Inserting (settings : Settings) (account i : ℕ) (contentHash : String)
    (retryFloor : Option String) (made : List (String × ℕ)) (start : ℕ) (s : Store) : Prop where
  pipelineConfig : s.pipelineConfig = retryFloor
  made : s.made account contentHash = made
  inserted : ∃ row, s.uncommitted i = [row] ∧ row.isFor account contentHash = true ∧
    row.pipelineVersion = settings.pipelineVersion ∧ start ≤ row.createdAt

theorem NothingMade.oneMade (before : NothingMade account i contentHash retryFloor made start s) :
    OneMade settings account i contentHash retryFloor made start s :=
  ⟨before.pipelineConfig, before.alone, .inl before.made⟩

theorem stable_nothingMade : (Resubmitter settings account contentHash i).Stable
    (NothingMade account i contentHash retryFloor made start) := by
  rintro s t before ⟨elsewhere, own⟩
  exact ⟨before.clock.trans elsewhere.clock, elsewhere.pipelineConfig.trans before.pipelineConfig,
    elsewhere.made.trans before.made, own.trans before.alone⟩

theorem stable_oneMade : (Resubmitter settings account contentHash i).Stable
    (OneMade settings account i contentHash retryFloor made start) := by
  rintro s t after ⟨elsewhere, own⟩
  refine ⟨elsewhere.pipelineConfig.trans after.pipelineConfig, own.trans after.alone, ?_⟩
  rw [elsewhere.made]
  exact after.made

theorem stable_inserting : (Resubmitter settings account contentHash i).Stable
    (Inserting settings account i contentHash retryFloor made start) := by
  rintro s t inserting ⟨elsewhere, own⟩
  refine ⟨elsewhere.pipelineConfig.trans inserting.pipelineConfig,
    elsewhere.made.trans inserting.made, ?_⟩
  rw [own]
  exact inserting.inserted

/-- The rule of one operation. -/
theorem resubmitter_issue {P : Store → Prop} {Q : Except Exn op.Ans → Store → Prop}
    (stable : (Resubmitter settings account contentHash i).Stable P)
    (outcome : ∀ s r t world, P s → execute settings world i op s = some (r, t) → Q r t) :
    Triple (Resubmitter settings account contentHash i) P (issue op) Q := by
  refine Triple.perform stable ?_
  rintro s r t holds ⟨world, executed⟩
  exact ⟨trivial, outcome s r t world holds executed⟩

theorem NothingMade.kept (before : NothingMade account i contentHash retryFloor made start s)
    (effect : Effect i s op t) (other : InsertsNothing op) :
    NothingMade account i contentHash retryFloor made start t := by
  have elsewhere : Meanwhile account contentHash s t := effect.meanwhile (by simp [before.alone])
  exact ⟨before.clock.trans elsewhere.clock, elsewhere.pipelineConfig.trans before.pipelineConfig,
    elsewhere.made.trans before.made, effect.alone other before.alone⟩

theorem OneMade.kept (after : OneMade settings account i contentHash retryFloor made start s)
    (effect : Effect i s op t) (other : InsertsNothing op) :
    OneMade settings account i contentHash retryFloor made start t := by
  have elsewhere : Meanwhile account contentHash s t := effect.meanwhile (by simp [after.alone])
  refine ⟨elsewhere.pipelineConfig.trans after.pipelineConfig,
    effect.alone other after.alone, ?_⟩
  rw [elsewhere.made]
  exact after.made

variable {α : Type} {p : Py α}

/-- A program that inserts nothing makes nothing. -/
theorem nothingMade_only (only : p.Only answered InsertsNothing) :
    Triple (Resubmitter settings account contentHash i)
      (NothingMade account i contentHash retryFloor made start) p
      fun _ => NothingMade account i contentHash retryFloor made start := by
  refine Triple.only only stable_nothingMade ?_
  rintro op other s r t before ⟨world, executed⟩
  exact ⟨execute_answered executed, trivial, before.kept (execute_effect executed) other⟩

/-- And leaves what has been made. -/
theorem oneMade_only (only : p.Only answered InsertsNothing) :
    Triple (Resubmitter settings account contentHash i)
      (OneMade settings account i contentHash retryFloor made start) p
      fun _ => OneMade settings account i contentHash retryFloor made start := by
  refine Triple.only only stable_oneMade ?_
  rintro op other s r t after ⟨world, executed⟩
  exact ⟨execute_answered executed, trivial, after.kept (execute_effect executed) other⟩

/-- A program that has inserted nothing, and whose value satisfies `φ`. -/
def Finds (account i : ℕ) (contentHash : String) (retryFloor : Option String)
    (made : List (String × ℕ)) (start : ℕ) (φ : α → Prop) (r : Except Exn α) (s : Store) : Prop :=
  NothingMade account i contentHash retryFloor made start s ∧ ∀ value, r = .ok value → φ value

/-- What was found is known from then on. -/
theorem Finds.bind {β : Type} {φ : α → Prop} {f : α → Py β} {Q : Except Exn β → Store → Prop}
    (first : Triple (Resubmitter settings account contentHash i)
      (NothingMade account i contentHash retryFloor made start) p
      (Finds account i contentHash retryFloor made start φ))
    (rest : ∀ value, φ value → Triple (Resubmitter settings account contentHash i)
      (NothingMade account i contentHash retryFloor made start) (f value) Q)
    (raised : ∀ exc s, NothingMade account i contentHash retryFloor made start s →
      Q (.error exc) s) :
    Triple (Resubmitter settings account contentHash i)
      (NothingMade account i contentHash retryFloor made start) (p.bind f) Q := by
  refine Triple.bind first ?_ fun exc s known => raised exc s known.1
  rintro value s ⟨before, known⟩
  exact rest value (known value rfl) s before

theorem Finds.done {φ : α → Prop} {value : α} (known : φ value) :
    Triple (Resubmitter settings account contentHash i)
      (NothingMade account i contentHash retryFloor made start) (.done (.ok value))
      (Finds account i contentHash retryFloor made start φ) := by
  refine Triple.done fun s before => ⟨before, ?_⟩
  rintro _ ⟨⟩
  exact known

/-- The rule of a query. -/
theorem finds_issue {φ : op.Ans → Prop} (other : InsertsNothing op)
    (answer : ∀ s t world value, NothingMade account i contentHash retryFloor made start s →
      perform settings world i op s = some (.ok value, t) → φ value) :
    Triple (Resubmitter settings account contentHash i)
      (NothingMade account i contentHash retryFloor made start) (issue op)
      (Finds account i contentHash retryFloor made start φ) := by
  refine resubmitter_issue stable_nothingMade ?_
  intro s r t world before executed
  refine ⟨before.kept (execute_effect executed) other, ?_⟩
  rintro value rfl
  exact answer s t world value before (execute_ok executed)

/-- What `latest_for_document` finds. -/
def IsLatest (made : List (String × ℕ)) : Option Remediation → Prop
  | none => made = []
  | some row => (row.pipelineVersion, row.createdAt) ∈ made ∧
      ∀ other ∈ made, other.2 ≤ row.createdAt

private theorem latestForDocument_resubmit :
    Triple (Resubmitter settings account contentHash i)
      (NothingMade account i contentHash retryFloor made start)
      (RemediationService.latestForDocument account contentHash)
      (Finds account i contentHash retryFloor made start (IsLatest made)) := by
  refine finds_issue (fun _ => Op.noConfusion) ?_
  intro s t world found before performed
  obtain ⟨same, -⟩ := Prod.mk.inj (Option.some.inj performed)
  rw [← Except.ok.inj same, ← before.made]
  cases isLatest : s.latest account contentHash with
  | none =>
    rw [Store.latest, List.argmax_eq_none] at isLatest
    show s.made account contentHash = []
    rw [Store.made, isLatest, List.map_nil]
  | some row =>
    refine ⟨List.mem_map.mpr ⟨row, List.argmax_mem isLatest, rfl⟩, fun other isMade => ?_⟩
    obtain ⟨earlier, member, rfl⟩ := List.mem_map.mp isMade
    exact List.le_of_mem_argmax member isLatest

/-- `_should_retry` without `force`: only an outdated attempt is retried. -/
private theorem shouldRetry_resubmit (existing : Remediation) :
    Triple (Resubmitter settings account contentHash i)
      (NothingMade account i contentHash retryFloor made start)
      (RemediationService.shouldRetry settings existing false)
      (Finds account i contentHash retryFloor made start fun retry =>
        retry = true → outdated settings retryFloor existing.pipelineVersion = true) := by
  rw [RemediationService.shouldRetry, if_neg Bool.false_ne_true]
  split
  · exact Finds.done (by simp)
  · refine Finds.bind (φ := fun floor => floor = retryFloor.getD "") ?_ ?_
      fun exc s before => ⟨before, by simp⟩
    · refine Finds.bind (φ := fun config => config = retryFloor)
        (finds_issue (fun _ => Op.noConfusion) ?_) ?_ fun exc s before => ⟨before, by simp⟩
      · intro s t world config before performed
        obtain ⟨same, -⟩ := Prod.mk.inj (Option.some.inj performed)
        exact (Except.ok.inj same).symm.trans before.pipelineConfig
      · rintro _ rfl
        exact Finds.done rfl
    · rintro _ rfl
      exact Finds.done fun retry => retry

/-- `_reusable_attempt` without `force`: it finds an attempt, or a new one is wanted. -/
private theorem reusableAttempt_resubmit :
    Triple (Resubmitter settings account contentHash i)
      (NothingMade account i contentHash retryFloor made start)
      (RemediationService.reusableAttempt settings account contentHash false)
      (Finds account i contentHash retryFloor made start fun reusable =>
        reusable = none → Wanted settings retryFloor made) := by
  refine Finds.bind latestForDocument_resubmit ?_ fun exc s before => ⟨before, by simp⟩
  intro found isLatest
  cases found with
  | none => exact Finds.done fun _ => .inl isLatest
  | some row =>
    simp only
    split
    · exact Finds.done (by simp)
    · refine Finds.bind (shouldRetry_resubmit row) ?_ fun exc s before => ⟨before, by simp⟩
      intro retry known
      cases retry with
      | true => exact Finds.done fun _ => .inr ⟨_, isLatest.1, isLatest.2, known rfl⟩
      | false => exact Finds.done (by simp)

/-- How the body of the transaction ends. -/
def Decides (settings : Settings) (account i : ℕ) (contentHash : String)
    (retryFloor : Option String) (made : List (String × ℕ)) (start : ℕ) :
    Except Exn (Remediation × Bool) → Store → Prop
  | .ok (_, true), s => Wanted settings retryFloor made ∧
      Inserting settings account i contentHash retryFloor made start s
  | _, s => NothingMade account i contentHash retryFloor made start s

variable {upload : Upload}

/-- `create`. -/
private theorem create_resubmit (path : Uri) (wanted : Wanted settings retryFloor made) :
    Triple (Resubmitter settings account contentHash i)
      (NothingMade account i contentHash retryFloor made start)
      (RemediationService.create settings account path contentHash upload.filename)
      fun r s => Decides settings account i contentHash retryFloor made start
        (r.map fun row => (row, true)) s := by
  refine Triple.bind (M := fun r s =>
    NothingMade account i contentHash retryFloor made start s ∧
      ∀ createdAt, r = .ok createdAt → start ≤ createdAt) ?_ ?_ fun exc s known => known.1
  · refine finds_issue (fun _ => Op.noConfusion) ?_
    intro s t world createdAt before performed
    obtain ⟨same, -⟩ := Prod.mk.inj (Option.some.inj performed)
    exact Except.ok.inj same ▸ before.clock
  · intro createdAt
    refine Triple.pre (P := fun s => NothingMade account i contentHash retryFloor made start s ∧
      start ≤ createdAt) (resubmitter_issue (stable_nothingMade.and (Stable.const _)) ?_)
      fun s known => ⟨known.1, known.2 _ rfl⟩
    rintro s r t world ⟨before, later⟩ executed
    cases r with
    | error exc =>
      obtain rfl | impossible := execute_error executed
      · exact before
      · cases impossible
    | ok row =>
      have performed := execute_ok executed
      simp only [perform] at performed
      repeat' split at performed
      all_goals cases performed
      refine ⟨wanted, before.pipelineConfig, before.made,
        NewRemediation.toRow ⟨account, path, contentHash, upload.filename,
          settings.pipelineVersion, createdAt⟩ s.nextId, ?_, ?_, rfl, later⟩
      · have alone := before.alone
        rw [Store.uncommitted] at alone
        simp [Store.uncommitted, alone]
      · simp [Remediation.isFor, NewRemediation.toRow]

/-- `_store_original` and `_create_or_reuse_unfinished`. -/
private theorem makeAttempt_resubmit (document : upload.contentHash settings = contentHash)
    (wanted : Wanted settings retryFloor made) :
    Triple (Resubmitter settings account contentHash i)
      (NothingMade account i contentHash retryFloor made start)
      (RemediationService.makeAttempt settings account upload)
      (Decides settings account i contentHash retryFloor made start) := by
  refine Finds.bind (φ := fun _ => True) ?_ (fun path _ => ?_) fun exc s before => before
  · refine Finds.bind (φ := fun _ => True)
      (finds_issue (fun _ => Op.noConfusion) fun _ _ _ _ _ _ => trivial) ?_
      fun exc s before => ⟨before, fun _ _ => trivial⟩
    intro stored _
    cases stored with
    | true => exact Finds.done trivial
    | false =>
      exact Finds.bind (φ := fun _ => True)
        (finds_issue (fun _ => Op.noConfusion) fun _ _ _ _ _ _ => trivial)
        (fun _ _ => Finds.done trivial) fun exc s before => ⟨before, fun _ _ => trivial⟩
  · rw [document]
    refine Triple.attempt_bind (create_resubmit path wanted) fun made => ?_
    cases made with
    | ok row => exact Triple.done fun s inserted => inserted
    | error exc =>
      cases exc with
      | integrityError constraint =>
        refine Finds.bind latestForDocument_resubmit ?_ fun exc s before => before
        intro current _
        cases current with
        | none => exact Triple.done fun s before => before
        | some current =>
          simp only
          split
          · exact Triple.done fun s before => before
          · exact Triple.done fun s before => before
      | _ => exact Triple.done fun s before => before

/-- The body of the transaction. -/
private theorem decide_resubmit (document : upload.contentHash settings = contentHash)
    (notForced : upload.force = false) (limit : Option SubmissionLimit) :
    Triple (Resubmitter settings account contentHash i)
      (NothingMade account i contentHash retryFloor made start)
      (RemediationService.decide settings account upload (some (checkLimit limit)))
      (Decides settings account i contentHash retryFloor made start) := by
  rw [RemediationService.decide, document, notForced]
  refine Finds.bind reusableAttempt_resubmit ?_ fun exc s before => before
  intro reusable _
  cases reusable with
  | some row => exact Triple.done fun s before => before
  | none =>
    refine Triple.bind (nothingMade_only (checkLimit_only (fun _ _ _ => Op.noConfusion)
      (fun _ _ _ _ => Op.noConfusion) fun _ => Op.noConfusion)) ?_ fun exc s before => before
    intro _
    refine Finds.bind reusableAttempt_resubmit ?_ fun exc s before => before
    intro reusable wanted
    cases reusable with
    | some row => exact Triple.done fun s before => before
    | none => exact makeAttempt_resubmit document (wanted rfl)

/-- The end of the transaction that inserted an attempt. -/
theorem Inserting.endTransaction
    (inserting : Inserting settings account i contentHash retryFloor made start s)
    (wanted : Wanted settings retryFloor made) (keep : Bool) :
    OneMade settings account i contentHash retryFloor made start (s.endTransaction i keep) := by
  refine ⟨inserting.pipelineConfig, Store.endTransaction_alone keep, ?_⟩
  obtain ⟨row, own, isFor, version, later⟩ := inserting.inserted
  rw [Store.endTransaction_made, inserting.made, own]
  cases keep with
  | true => exact .inr ⟨wanted, row.createdAt, later, by simp [isFor, version]⟩
  | false => exact .inl (List.append_nil _)

/-- **`get_or_create_from_upload`** makes one attempt at most, and only if it is wanted. -/
private theorem getOrCreate_resubmit (document : upload.contentHash settings = contentHash)
    (notForced : upload.force = false) (limit : Option SubmissionLimit) :
    Triple (Resubmitter settings account contentHash i)
      (NothingMade account i contentHash retryFloor made start)
      (RemediationService.getOrCreateFromUpload settings account upload (some (checkLimit limit)))
      fun _ => OneMade settings account i contentHash retryFloor made start := by
  refine Triple.attempt_bind (decide_resubmit document notForced limit) fun outcome => ?_
  have ended : ∀ (op : Op) (f : op.Ans → Py (Remediation × Bool)), InsertsNothing op →
      (∀ value, (f value).Only answered InsertsNothing) →
      Triple (Resubmitter settings account contentHash i)
        (NothingMade account i contentHash retryFloor made start) ((issue op).bind f)
        fun _ => OneMade settings account i contentHash retryFloor made start := by
    intro op f other rest
    refine (nothingMade_only ?_).post fun r s before => before.oneMade
    exact Only.bind ((only_perform _).mpr other) rest
  cases outcome with
  | error exc => exact ended .rollback _ (fun _ => Op.noConfusion) fun _ => trivial
  | ok pair =>
    obtain ⟨row, created⟩ := pair
    cases created with
    | false => exact ended .commit _ (fun _ => Op.noConfusion) fun _ => trivial
    | true =>
      refine Triple.bind (M := fun _ => OneMade settings account i contentHash retryFloor made start)
        ?_ (fun _ => Triple.done fun s after => after) fun exc s after => after
      rintro s ⟨wanted, inserting⟩
      refine resubmitter_issue stable_inserting ?_ s inserting
      intro s r t world inserting executed
      rw [execute] at executed
      split at executed
      · obtain ⟨-, rfl⟩ := Prod.mk.inj (Option.some.inj executed)
        exact inserting.endTransaction wanted false
      · obtain ⟨-, rfl⟩ := Prod.mk.inj (Option.some.inj executed)
        exact inserting.endTransaction wanted true

/-- **One submit** makes one attempt at most, and only if it is wanted. -/
private theorem post_resubmit {account : ServiceAccount}
    (document : upload.contentHash settings = contentHash) (notForced : upload.force = false) :
    Triple (Resubmitter settings account.id contentHash i)
      (NothingMade account.id i contentHash retryFloor made start)
      (CreateRemediationView.post settings acceptsUrl account upload)
      fun _ => OneMade settings account.id i contentHash retryFloor made start := by
  rw [CreateRemediationView.post]
  cases limitFor account with
  | error exc => exact Triple.done fun s before => before.oneMade
  | ok limit =>
    simp only [CreateRemediationView.submit]
    cases RemediationUploadSerializer.isValid acceptsUrl upload with
    | error exc => exact Triple.done fun s before => before.oneMade
    | ok _ =>
      refine Triple.bind (getOrCreate_resubmit document notForced limit) ?_ fun exc s after => after
      intro made
      refine oneMade_only (Only.bind (subscribe_only (fun _ => Op.noConfusion)
        fun _ _ => Op.noConfusion) fun _ => ?_)
      exact Only.bind (queue_only (fun _ => Op.noConfusion) (fun _ _ _ _ => Op.noConfusion)
        (fun _ _ => Op.noConfusion) (fun _ _ => Op.noConfusion) _ _) fun _ => trivial

end Submit

/-! ## Any number of submits -/

section Run

variable {settings : Settings} {acceptsUrl : String → Bool} {account : ServiceAccount}
variable {contentHash : String} {retryFloor : Option String} {origin s : Store}

/-- What the submits have made so far: nothing, or one attempt that was wanted, is the
latest, and has the deployed version. -/
def SoFar (settings : Settings) (retryFloor : Option String) (first made : List (String × ℕ)) :
    Prop :=
  made = first ∨ Wanted settings retryFloor first ∧ ∃ createdAt,
    (∀ other ∈ first, other.2 < createdAt) ∧
      made = first ++ [(settings.pipelineVersion, createdAt)]

/-- With a deployed version that is not outdated, one attempt is enough. -/
theorem SoFar.not_wanted {first : List (String × ℕ)} {createdAt : ℕ}
    (current : outdated settings retryFloor settings.pipelineVersion = false)
    (newest : ∀ other ∈ first, other.2 < createdAt) :
    ¬ Wanted settings retryFloor (first ++ [(settings.pipelineVersion, createdAt)]) := by
  rintro (none | ⟨latest, isMade, isLatest, isOutdated⟩)
  · simp at none
  · rcases List.mem_append.mp isMade with older | new
    · have before := newest latest older
      have after := isLatest (settings.pipelineVersion, createdAt) (by simp)
      simp only at after
      omega
    · obtain rfl := List.mem_singleton.mp new
      rw [current] at isOutdated
      cases isOutdated

/-- What one submit, and what happens in between, leaves of it. -/
theorem Resubmits.soFar
    (current : outdated settings retryFloor settings.pipelineVersion = false)
    (floor : origin.pipelineConfig = retryFloor)
    (resubmits : Resubmits settings acceptsUrl account contentHash origin s) :
    s.pipelineConfig = retryFloor ∧
      SoFar settings retryFloor (origin.made account.id contentHash)
        (s.made account.id contentHash) := by
  induction resubmits with
  | start => exact ⟨floor, .inl rfl⟩
  | meanwhile _ elsewhere ih =>
    rw [elsewhere.pipelineConfig, elsewhere.made]
    exact ih
  | @submit s t i upload result _ failed alone document notForced returns ih =>
    obtain ⟨sameFloor, soFar⟩ := ih
    have after := Returns.safe returns (post_resubmit document notForced s
      ⟨le_rfl, sameFloor, rfl, alone⟩) fun _ => stable_oneMade
    refine ⟨after.pipelineConfig, ?_⟩
    rcases after.made with same | ⟨wanted, createdAt, later, new⟩
    · rw [same]
      exact soFar
    · have earlier : ∀ other ∈ s.made account.id contentHash, other.2 < createdAt := by
        intro other isMade
        obtain ⟨row, member, rfl⟩ := List.mem_map.mp isMade
        exact (failed.earlier row member).trans_le later
      rcases soFar with same | ⟨-, before, newest, made⟩
      · rw [same] at wanted new earlier
        exact .inr ⟨wanted, createdAt, earlier, new⟩
      · rw [made] at wanted
        exact absurd wanted (SoFar.not_wanted current newest)

/-- **Automatic retry is bounded, under its condition.**  Where the deployed version is
not older than the retry floor, as `_parse_version` reads the two, the submits make one
new attempt at most, and run no version twice. -/
theorem retries_bounded (settings : Settings) (acceptsUrl : String → Bool)
    (retryFloor : Option String)
    (current : outdated settings retryFloor settings.pipelineVersion = false) :
    RetriesBounded settings acceptsUrl retryFloor := by
  intro account contentHash origin s floor resubmits
  obtain ⟨-, same | ⟨wanted, createdAt, newest, made⟩⟩ := resubmits.soFar current floor
  · rw [same]
    refine ⟨by omega, fun few => ?_⟩
    cases whole : origin.made account.id contentHash with
    | nil => exact List.nodup_nil
    | cons first rest =>
      rw [whole, List.length_cons] at few
      obtain rfl := List.length_eq_zero_iff.mp (show rest.length = 0 by omega)
      exact List.nodup_singleton _
  · rw [made]
    refine ⟨by rw [List.length_append, List.length_singleton]; omega, fun few => ?_⟩
    cases whole : origin.made account.id contentHash with
    | nil => exact List.nodup_singleton _
    | cons first rest =>
      rw [whole, List.length_cons] at few
      obtain rfl := List.length_eq_zero_iff.mp (show rest.length = 0 by omega)
      -- The first attempt was outdated, and the new one is not.
      have isOutdated : outdated settings retryFloor first.1 = true := by
        rcases wanted with none | ⟨latest, isMade, -, isOutdated⟩
        · rw [whole] at none
          cases none
        · rw [whole] at isMade
          exact List.mem_singleton.mp isMade ▸ isOutdated
      refine List.nodup_cons.mpr ⟨fun isMade => ?_, List.nodup_singleton _⟩
      have same : first.1 = settings.pipelineVersion := by simpa using isMade
      rw [same, current] at isOutdated
      cases isOutdated

end Run

/-! ## A version below the floor -/

/-- A deployment with postcheck on.  The versions are compared as `Version` compares
them, as far as they occur. -/
def Settings.versioned (pipelineVersion : String) : Settings :=
  { Settings.stepsOn [.postcheck] with
    pipelineVersion := pipelineVersion
    validVersion := fun value => value ∈ ["0.0.0", "0.9.0", "1.0.0"]
    versionLt := fun left right =>
      (left, right) ∈ [("0.0.0", "0.9.0"), ("0.0.0", "1.0.0"), ("0.9.0", "1.0.0")] }

/-- The one-byte file is submitted. -/
def Settings.submits (settings : Settings) (s : Store) : Py Response × Store :=
  runFor (execute settings .uneventful 0) 40
    (CreateRemediationView.post settings (fun _ => true) .noLimits .oneByte) s

/-- A run of the attempt finds the file noncompliant, and a second passes. -/
def Settings.fails (settings : Settings) (remediation : ℕ) (s : Store) : Store :=
  let t := (runFor (execute settings (.judging false []) 1) 60
    (processRemediation settings remediation) s).2
  { t with clock := t.clock + 1000000 }

/-- What happens next: a submit, or a run of an attempt. -/
inductive Turn where
  | submit
  | run (remediation : ℕ)

/-- Every attempt at the file was made earlier and has failed, no transaction is open, and
the submit goes through. -/
def Settings.mayResubmit (settings : Settings) (s : Store) : Bool :=
  ((s.attempts 1 (Upload.oneByte.contentHash settings)).all fun row =>
      (row.status = .noncompliant || row.status = .error) && row.createdAt < s.clock) &&
    s.uncommitted 0 = [] && hasEnded (settings.submits s).1

/-- The run leaves the stamps of the attempts and the floor alone. -/
def Settings.mayRun (settings : Settings) (remediation : ℕ) (s : Store) : Bool :=
  s.clock ≤ (settings.fails remediation s).clock &&
    (settings.fails remediation s).pipelineConfig = s.pipelineConfig &&
    (settings.fails remediation s).made 1 (Upload.oneByte.contentHash settings) =
      s.made 1 (Upload.oneByte.contentHash settings)

/-- Takes the turns, as long as they may be taken. -/
def Settings.take (settings : Settings) : List Turn → Store → Option Store
  | [], s => some s
  | .submit :: rest, s =>
      if settings.mayResubmit s then settings.take rest (settings.submits s).2 else none
  | .run remediation :: rest, s =>
      if settings.mayRun remediation s then settings.take rest (settings.fails remediation s)
      else none

theorem Resubmits.submits {settings : Settings} {origin s : Store}
    (resubmits : Resubmits settings (fun _ => true) .noLimits
      (Upload.oneByte.contentHash settings) origin s) (may : settings.mayResubmit s = true) :
    Resubmits settings (fun _ => true) .noLimits (Upload.oneByte.contentHash settings) origin
      (settings.submits s).2 := by
  simp only [Settings.mayResubmit, Bool.and_eq_true, decide_eq_true_eq, List.all_eq_true,
    Bool.or_eq_true] at may
  obtain ⟨⟨ready, alone⟩, ended⟩ := may
  have failed : Failed 1 (Upload.oneByte.contentHash settings) s :=
    ⟨fun row member => (ready row member).1, fun row member => (ready row member).2⟩
  have reaches : (Resubmitter settings 1 (Upload.oneByte.contentHash settings) 0).Reaches
      (CreateRemediationView.post settings (fun _ => true) .noLimits .oneByte) s
      (settings.submits s).1 (settings.submits s).2 :=
    reaches_runFor (E := Resubmitter settings 1 (Upload.oneByte.contentHash settings) 0)
      (fun op s r t executed => ⟨.uneventful, executed⟩) 40 _ s
  cases isResult : (settings.submits s).1 with
  | done result =>
    rw [isResult] at reaches
    exact .submit resubmits failed alone rfl rfl reaches
  | call op next =>
    rw [isResult] at ended
    cases ended

/-- Turns that may be taken are submits of one document. -/
theorem Resubmits.take {settings : Settings} {origin t : Store} (turns : List Turn) {s : Store}
    (resubmits : Resubmits settings (fun _ => true) .noLimits
      (Upload.oneByte.contentHash settings) origin s)
    (taken : settings.take turns s = some t) :
    Resubmits settings (fun _ => true) .noLimits (Upload.oneByte.contentHash settings) origin
      t := by
  induction turns generalizing s with
  | nil => exact Option.some.inj taken ▸ resubmits
  | cons turn rest ih =>
    cases turn with
    | submit =>
      rw [Settings.take] at taken
      split at taken
      · exact ih (resubmits.submits ‹_›) taken
      · cases taken
    | run remediation =>
      rw [Settings.take] at taken
      split at taken
      · rename_i may
        simp only [Settings.mayRun, Bool.and_eq_true, decide_eq_true_eq] at may
        exact ih (.meanwhile resubmits ⟨may.1.1, may.1.2, may.2⟩) taken
      · cases taken

/-- **An upgrade.**  A document has failed under `0.9.0`, and `1.0.0` is deployed, with the
floor there.  Of two submits the first one makes an attempt, which fails too, and the second
one makes none. -/
theorem retries_bounded_upgrade :
    ∃ origin s, Resubmits (.versioned "1.0.0") (fun _ => true) .noLimits
        (Upload.oneByte.contentHash (.versioned "1.0.0")) origin s ∧
      ((origin.made 1 (Upload.oneByte.contentHash (.versioned "1.0.0"))).map Prod.fst = ["0.9.0"] ∧
        (s.made 1 (Upload.oneByte.contentHash (.versioned "1.0.0"))).map Prod.fst =
          ["0.9.0", "1.0.0"]) ∧
      ((s.made 1 (Upload.oneByte.contentHash (.versioned "1.0.0"))).map Prod.fst).Nodup := by
  have taken : (((Settings.versioned "0.9.0").take [.submit, .run 0]
      (.empty (some "1.0.0"))).any fun origin =>
        ((Settings.versioned "1.0.0").take [.submit, .run 1, .submit] origin).any fun s =>
          origin.pipelineConfig = some "1.0.0" ∧
            (origin.made 1 (Upload.oneByte.contentHash (.versioned "1.0.0"))).map Prod.fst =
              ["0.9.0"] ∧
            (s.made 1 (Upload.oneByte.contentHash (.versioned "1.0.0"))).map Prod.fst =
              ["0.9.0", "1.0.0"]) = true := by
    decide +kernel
  obtain ⟨origin, -, taken⟩ := (Option.any_eq_true _ _).mp taken
  obtain ⟨s, isLeft, checked⟩ := (Option.any_eq_true _ _).mp taken
  obtain ⟨floor, before, after⟩ := of_decide_eq_true checked
  have resubmits := Resubmits.take _ .start isLeft
  have one : (origin.made 1 (Upload.oneByte.contentHash (.versioned "1.0.0"))).length = 1 := by
    rw [← List.length_map (f := Prod.fst), before, List.length_singleton]
  have bounded := retries_bounded (.versioned "1.0.0") (fun _ => true) (some "1.0.0") (by decide)
    .noLimits _ origin s floor resubmits
  exact ⟨origin, s, resubmits, ⟨before, after⟩, bounded.2 one.le⟩

/-- **The same version again and again.**  With the floor at `1.0.0` and `0.9.0` deployed,
three submits of one file make three attempts, of one version. -/
theorem resubmits_run_again :
    ¬ ∀ (settings : Settings) (acceptsUrl : String → Bool) (retryFloor : Option String),
      RetriesBounded settings acceptsUrl retryFloor := by
  intro claim
  have taken : ((Settings.versioned "0.9.0").take [.submit, .run 0, .submit, .run 1, .submit]
      (.empty (some "1.0.0"))).any (fun s =>
        (s.made 1 (Upload.oneByte.contentHash (.versioned "0.9.0"))).length = 3) = true := by
    decide +kernel
  obtain ⟨s, isLeft, made⟩ := (Option.any_eq_true _ _).mp taken
  have bounded := (claim _ _ (some "1.0.0") _ _ _ _ rfl (Resubmits.take _ .start isLeft)).1
  have three : (s.made 1 (Upload.oneByte.contentHash (.versioned "0.9.0"))).length = 3 :=
    of_decide_eq_true made
  have none : ((Store.empty (some "1.0.0")).made 1
    (Upload.oneByte.contentHash (.versioned "0.9.0"))).length = 0 := rfl
  have few : (s.made 1 (Upload.oneByte.contentHash (.versioned "0.9.0"))).length ≤ max 1 0 + 1 :=
    none ▸ bounded
  omega

end DicePipeline
