import DicePipeline.Interaction.Traces
import DicePipeline.Remediation.Footprints
import DicePipeline.Submission.Current

/-!
# A submit whose insert clashes

`_create_or_reuse_unfinished` answers a clash of its `INSERT` with
`one_unfinished_attempt_per_document` by reading the document's latest attempt
again, and returns that attempt if it is unfinished.  The two statements are
separate, so a worker may finish the attempt in between: the re-read then finds
nothing to return, and the `IntegrityError` is raised again.  `finishedMeanwhile`
is such a schedule.

The module is about `get_or_create_from_upload` itself: the threads of
`submissions` are calls of it and runs of the task, over the store of the whole
system.  `Clash` is what a call has seen of its statements, and `resolvesClashes`
admits the runs in which every such re-read finds an unfinished attempt.

### What is load-bearing

The condition is about what is stored before the re-read, and not about its answer or
about how the call ends.  It is asked of re-reads only: a call looks the document up
before its insert too, and what it finds there may be finished.  `Clash` tells the two
apart by the answer to the insert.
-/

namespace DicePipeline

open Interaction Program RemediationService

/-- A call of `get_or_create_from_upload`, with the limit check as its
`before_create`, or a run of `process_remediation`. -/
inductive Caller where
  | submit (account : ℕ) (upload : Upload) (limit : Option SubmissionLimit)
  | run (remediationId : ℕ)
  deriving DecidableEq, Repr

/-- The program of a caller.  A run of the task returns no attempt. -/
def Caller.program (settings : Settings) : Caller → Py (Option (Remediation × Bool))
  | .submit account upload limit => do
      let made ← getOrCreateFromUpload settings account upload (some (checkLimit limit))
      return some made
  | .run remediationId => do
      processRemediation settings remediationId
      return none

/-- **Submits and runs.**  The operations mean what they mean to the system; a run
of the task may start for any attempt at any time. -/
def submissions (settings : Settings) :
    Machine Query Exn (Option (Remediation × Bool)) Store Caller World ℕ where
  exec := fun world i op s => execute settings world i op s
  start := fun caller _ => some (caller.program settings)
  crash := fun i s => s.endTransaction i false
  env := fun elapsed s => { s with clock := s.clock + elapsed }

/-! ## What a call has seen of its statements -/

/-- An `IntegrityError`, whatever the constraint. -/
def Exn.isIntegrityError : Exn → Bool
  | .integrityError _ => true
  | _ => false

/-- The statements a unique constraint can refuse. -/
def Op.mayClash : Op → Bool
  | .saveRemediation _ _ => true
  | .insertRemediation _ => true
  | .createVerificationResult _ _ _ => true
  | .createScore _ _ => true
  | _ => false

/-- The clashes and failures a thread has met. -/
structure Clash where
  /-- An insert clashed, and the document has not been looked up since. -/
  open' : Bool := false
  /-- A look-up right after a clash found no unfinished attempt. -/
  unresolved : Bool := false
  /-- What the thread's operations raised, newest first. -/
  failures : List Exn := []

/-- Moves on by one answer. -/
def Clash.after (x : Clash) : (op : Op) → Except Exn op.Ans → Clash
  | .insertRemediation _, .error exc =>
      { x with
        open' := x.open' || exc.isIntegrityError
        failures := exc :: x.failures }
  | .latestForDocument _ _, .ok found =>
      { x with
        open' := false
        unresolved := x.unresolved ||
          (x.open' && !Option.any (fun row : Remediation => row.status.isUnfinished) found) }
  | _, .error exc => { x with failures := exc :: x.failures }
  | _, .ok _ => x

/-- What an answer satisfies, and that only some statements can clash. -/
def AnsweredOrClashed (op : Op) (answer : Except Exn op.Ans) : Prop :=
  answered op answer ∧ ∀ exc, answer = .error exc → exc.isIntegrityError = true → op.mayClash = true

/-- A statement that no unique constraint guards raises no `IntegrityError`. -/
theorem perform_mayClash {settings : Settings} {world : World} {i : ℕ} {op : Op} {s t : Store}
    {exc : Exn} (executed : perform settings world i op s = some (.error exc, t))
    (integrity : exc.isIntegrityError = true) : op.mayClash = true := by
  cases op with
  | saveRemediation id fields => rfl
  | insertRemediation new => rfl
  | createVerificationResult id step result => rfl
  | createScore id score => rfl
  | adapter call =>
      obtain ⟨failed, -⟩ := Prod.mk.inj (Option.some.inj executed)
      cases outcome : world.adapter call with
      | ok value =>
          rw [outcome] at failed
          cases failed
      | error message =>
          rw [outcome] at failed
          cases failed
          cases integrity
  | _ =>
      -- Every other error is of another kind, and most operations raise none.
      simp only [perform] at executed
      (repeat' split at executed) <;> cases executed <;> cases integrity

theorem execute_answeredOrClashed {settings : Settings} {world : World} {i : ℕ} {op : Op}
    {s t : Store} {answer : Except Exn op.Ans}
    (executed : execute settings world i op s = some (answer, t)) : AnsweredOrClashed op answer := by
  refine ⟨execute_answered executed, ?_⟩
  rintro exc rfl integrity
  unfold execute at executed
  split at executed
  · rename_i failed
    obtain ⟨same, -⟩ := Prod.mk.inj (Option.some.inj executed)
    cases same
    have outside : ∀ {message : Option String} {make : String → Exn},
        message.map make = some exc → (∀ text, (make text).isIntegrityError = false) → False := by
      intro message make isSome never
      obtain ⟨text, -, rfl⟩ := Option.map_eq_some_iff.mp isSome
      rw [never] at integrity
      cases integrity
    cases op <;> first
      | cases failed
      | exact (outside failed fun _ => rfl).elim
  · exact perform_mayClash executed integrity

/-- A failure is recorded. -/
theorem mem_failures_after (x : Clash) (op : Op) (exc : Exn) :
    exc ∈ (x.after op (.error exc)).failures := by
  cases op <;> exact List.mem_cons_self

/-- And not forgotten. -/
theorem failures_after_subset (x : Clash) (op : Op) (answer : Except Exn op.Ans) {exc : Exn}
    (known : exc ∈ x.failures) : exc ∈ (x.after op answer).failures := by
  cases answer with
  | error other => cases op <;> exact List.mem_cons_of_mem _ known
  | ok value => cases op <;> exact known

theorem unresolved_after_error (x : Clash) (op : Op) (exc : Exn) :
    (x.after op (.error exc)).unresolved = x.unresolved := by
  cases op <;> rfl

/-! ## The programs -/

/-- Whatever is raised was raised by a statement, and is no `IntegrityError`. -/
def Plain {α : Type} (y : Clash) (r : Except Exn α) : Prop :=
  ∀ exc, r = .error exc → exc ∈ y.failures ∧ exc.isIntegrityError = false

theorem plain_ok {α : Type} (y : Clash) (value : α) : Plain y (.ok value) :=
  fun _ impossible => nomatch impossible

/-- How a call may end: with an attempt at the document; with an `IntegrityError`,
after a clash that could not be resolved; because `before_create` raised; or with
what one of its statements raised. -/
def EndsResolved (account : ℕ) (contentHash : String) (y : Clash) :
    Except Exn (Remediation × Bool) → Prop
  | .ok (row, _) => row.isFor account contentHash = true
  | .error exc =>
      if exc.isIntegrityError then y.unresolved = true
      else (∃ wait, exc = .throttled wait) ∨ exc ∈ y.failures

/-- Programs that follow the trace. -/
abbrev Meets {α : Type} (Q : Clash → Except Exn α → Prop) (p : Py α) (x : Clash) : Prop :=
  p.Tracks Clash.after AnsweredOrClashed (fun _ _ => True) Q x

section Programs

variable {settings : Settings} {x : Clash} {account : ℕ} {upload : Upload} {contentHash : String}

theorem Plain.error {α β : Type} {y : Clash} {exc : Exn}
    (plain : Plain y (.error exc : Except Exn α)) : Plain y (.error exc : Except Exn β) := by
  rintro _ ⟨⟩
  exact plain exc rfl

theorem Plain.endsResolved {α : Type} {y : Clash} {exc : Exn}
    (plain : Plain y (.error exc : Except Exn α)) :
    EndsResolved account contentHash y (.error exc) := by
  obtain ⟨known, notIntegrity⟩ := plain exc rfl
  simp [EndsResolved, notIntegrity, known]

/-- One statement that cannot clash. -/
private theorem meets_issue {op : Op} (calm : op.mayClash = false) :
    Meets (fun y r => Plain y r ∧ AnsweredOrClashed op r) (issue op) x := by
  refine Tracks.perform (S := Query) trivial fun answer promised => ⟨?_, promised⟩
  rintro exc rfl
  refine ⟨mem_failures_after x op exc, ?_⟩
  cases integrity : exc.isIntegrityError with
  | false => rfl
  | true =>
      have clashes := promised.2 exc rfl integrity
      rw [calm] at clashes
      cases clashes

/-- A program that raises only what its statements raise, and what follows it. -/
private theorem meets_bind {α β : Type} {M : Clash → Except Exn α → Prop}
    {Q : Clash → Except Exn β → Prop} {p : Py α} {f : α → Py β}
    (first : Meets (fun y r => Plain y r ∧ M y r) p x)
    (raised : ∀ exc y, Plain y (.error exc : Except Exn α) → Q y (.error exc))
    (returned : ∀ value y, M y (.ok value) → Meets Q (f value) y) : Meets Q (p.bind f) x :=
  Tracks.bind first (fun value y ended => returned value y ended.2)
    fun exc y ended => raised exc y ended.1

/-- The attempt that `_reusable_attempt` returns, if it returns one, is at the document. -/
private def FoundReusable (account : ℕ) (contentHash : String) (y : Clash)
    (r : Except Exn (Option Remediation)) : Prop :=
  Plain y r ∧ ∀ row, r = .ok (some row) → row.isFor account contentHash = true

private theorem Plain.reusable {α : Type} (exc : Exn) (y : Clash)
    (plain : Plain y (.error exc : Except Exn α)) : FoundReusable account contentHash y (.error exc) :=
  ⟨plain.error, fun _ impossible => nomatch impossible⟩

private theorem reusableAttempt_meets (force : Bool) :
    Meets (FoundReusable account contentHash)
      (reusableAttempt settings account contentHash force) x := by
  refine meets_bind (meets_issue rfl) Plain.reusable fun found y promised => ?_
  have known : ∀ row, found = some row → row.isFor account contentHash = true := promised.1
  cases found with
  | none => exact ⟨plain_ok _ _, fun row impossible => nomatch impossible⟩
  | some existing =>
      have returned : ∀ (retry : Bool) (z : Clash), Meets (FoundReusable account contentHash)
          (pure (if retry then none else some existing)) z := by
        intro retry z
        refine ⟨plain_ok _ _, fun row isRow => ?_⟩
        cases retry <;> cases isRow
        exact known existing rfl
      dsimp only
      split
      · exact returned false y
      · unfold shouldRetry
        split
        · exact returned true y
        · split
          · exact returned false y
          · have floor : Meets (fun y r => Plain y r ∧ True) retryFloorVersion y :=
              meets_bind (meets_issue rfl) (fun _ _ plain => ⟨plain.error, trivial⟩)
                fun _ _ _ => ⟨plain_ok _ _, trivial⟩
            refine meets_bind (M := fun _ _ => True) ?_ Plain.reusable fun retry z _ => returned retry z
            exact meets_bind floor (fun _ _ plain => ⟨plain.error, trivial⟩)
              fun _ _ _ => ⟨plain_ok _ _, trivial⟩

private theorem storeOriginal_meets (filename : String) (bytes : Bytes) :
    Meets (fun y r => Plain y r ∧ True) (storeOriginal account contentHash filename bytes) x := by
  refine meets_bind (meets_issue rfl) (fun _ _ plain => ⟨plain.error, trivial⟩) fun stored y _ => ?_
  split
  · exact ⟨plain_ok _ _, trivial⟩
  · exact meets_bind (meets_issue rfl) (fun _ _ plain => ⟨plain.error, trivial⟩)
      fun _ _ _ => ⟨plain_ok _ _, trivial⟩

/-- What `create` makes is at the document, and after a clash the clash is open. -/
private def CreatedRow (account : ℕ) (contentHash : String) (y : Clash) : Except Exn Remediation → Prop
  | .ok row => row.isFor account contentHash = true
  | .error exc => exc ∈ y.failures ∧ (exc.isIntegrityError = true → y.open' = true)

private theorem create_meets (originalPath : Uri) (filename : String) :
    Meets (CreatedRow account contentHash)
      (create settings account originalPath contentHash filename) x := by
  refine meets_bind (meets_issue rfl) ?_ fun createdAt y _ => ?_
  · intro exc y plain
    obtain ⟨known, notIntegrity⟩ := plain exc rfl
    exact ⟨known, fun integrity => by simp [notIntegrity] at integrity⟩
  · refine ⟨trivial, fun answer promised => ?_⟩
    cases answer with
    | ok row =>
        obtain ⟨id, rfl⟩ : ∃ id, row = NewRemediation.toRow _ id := promised.1
        exact isFor_iff.mpr ⟨rfl, rfl⟩
    | error exc =>
        refine ⟨mem_failures_after y _ exc, fun integrity => ?_⟩
        simp [Clash.after, integrity]

private theorem createOrReuseUnfinished_meets (originalPath : Uri) (filename : String) :
    Meets (EndsResolved account contentHash)
      (createOrReuseUnfinished settings account contentHash originalPath filename) x := by
  refine Tracks.attempt_bind (create_meets originalPath filename) fun made y ended => ?_
  cases made with
  | ok row => exact ended
  | error exc =>
      cases exc with
      | integrityError constraint =>
          have isOpen : y.open' = true := ended.2 rfl
          refine Tracks.bind (M := fun z r => Plain z r ∧ ∀ found, r = .ok found →
              (∀ row, found = some row → row.isFor account contentHash = true) ∧
                (found.any (·.status.isUnfinished) = false → z.unresolved = true)) ?_ ?_ ?_
          · refine ⟨trivial, fun answer promised => ⟨?_, ?_⟩⟩
            · rintro exc rfl
              refine ⟨mem_failures_after y _ exc, ?_⟩
              cases integrity : exc.isIntegrityError with
              | false => rfl
              | true => exact absurd (promised.2 exc rfl integrity) (by simp [Op.mayClash])
            · rintro found rfl
              refine ⟨promised.1, fun none => ?_⟩
              simp [Clash.after, isOpen, none]
          · rintro found z ⟨-, looked⟩
            obtain ⟨isFor, unresolved⟩ := looked found rfl
            cases found with
            | none => exact unresolved rfl
            | some current =>
                dsimp only
                split
                · exact isFor current rfl
                · rename_i finished
                  exact unresolved (by simpa using finished)
          · exact fun exc z ended => ended.1.endsResolved
      | _ => exact .inr ended.1

private theorem makeAttempt_meets :
    Meets (EndsResolved account (upload.contentHash settings)) (makeAttempt settings account upload) x :=
  meets_bind (storeOriginal_meets _ _) (fun _ _ plain => plain.endsResolved)
    fun _ _ _ => createOrReuseUnfinished_meets _ _

/-- The limit check raises `SubmissionLimitReached`, or what its statements raise. -/
private theorem checkLimit_meets (limit : Option SubmissionLimit) :
    Meets (fun y r => ∀ exc, r = .error exc →
      (∃ wait, exc = .throttled wait) ∨ exc ∈ y.failures ∧ exc.isIntegrityError = false)
      (checkLimit limit) x := by
  have raised : ∀ {α β : Type} (exc : Exn) (y : Clash), Plain y (.error exc : Except Exn α) →
      ∀ exc', (.error exc : Except Exn β) = .error exc' →
        (∃ wait, exc' = .throttled wait) ∨ exc' ∈ y.failures ∧ exc'.isIntegrityError = false := by
    rintro α β exc y plain _ ⟨⟩
    exact .inr (plain exc rfl)
  cases limit with
  | none => exact fun _ impossible => nomatch impossible
  | some limit =>
      refine meets_bind (M := fun _ _ => True) ?_ raised fun usage y _ => ?_
      · unfold recentSubmissions
        refine meets_bind (meets_issue rfl) (fun _ _ plain => ⟨plain.error, trivial⟩) fun _ y _ => ?_
        refine meets_bind (meets_issue rfl) (fun _ _ plain => ⟨plain.error, trivial⟩) fun now y _ => ?_
        exact (meets_issue rfl).mono fun _ _ ended => ⟨ended.1, trivial⟩
      · split
        · exact fun _ impossible => nomatch impossible
        · refine meets_bind (M := fun _ _ => True) ?_ raised fun wait y _ => ?_
          · unfold SubmissionLimit.secondsUntilOldestExpires
            split
            · exact ⟨plain_ok _ _, trivial⟩
            · exact meets_bind (meets_issue rfl) (fun _ _ plain => ⟨plain.error, trivial⟩)
                fun _ _ _ => ⟨plain_ok _ _, trivial⟩
          · refine meets_bind (meets_issue rfl) raised fun now y _ => ?_
            rintro _ ⟨⟩
            exact .inl ⟨wait, rfl⟩

private theorem decide_meets (limit : Option SubmissionLimit) :
    Meets (EndsResolved account (upload.contentHash settings))
      (RemediationService.decide settings account upload (some (checkLimit limit))) x := by
  refine meets_bind (reusableAttempt_meets _) (fun _ _ plain => plain.endsResolved) ?_
  intro reusable y isFor
  cases reusable with
  | some row => exact isFor row rfl
  | none =>
      refine Tracks.bind (checkLimit_meets limit) ?_ ?_
      · intro _ y _
        refine meets_bind (reusableAttempt_meets _) (fun _ _ plain => plain.endsResolved) ?_
        intro reusable y isFor
        cases reusable with
        | some row => exact isFor row rfl
        | none => exact makeAttempt_meets
      · intro exc y raised
        rcases raised exc rfl with ⟨wait, rfl⟩ | ⟨known, notIntegrity⟩
        · exact .inl ⟨wait, rfl⟩
        · simp [EndsResolved, notIntegrity, known]

/-- Leaving the transaction keeps how the call ends. -/
private theorem EndsResolved.rolledBack {y : Clash} {exc : Exn}
    (resolved : EndsResolved account contentHash y (.error exc)) (answer : Except Exn Unit) :
    EndsResolved account contentHash (y.after .rollback answer) (.error exc) := by
  simp only [EndsResolved] at resolved ⊢
  split
  · rename_i integrity
    rw [if_pos integrity] at resolved
    cases answer <;> exact resolved
  · rename_i other
    rw [if_neg other] at resolved
    exact resolved.imp_right (failures_after_subset y .rollback answer)

/-- **What `get_or_create_from_upload` ends with.** -/
theorem getOrCreate_meets (limit : Option SubmissionLimit) :
    Meets (EndsResolved account (upload.contentHash settings))
      (getOrCreateFromUpload settings account upload (some (checkLimit limit))) x := by
  refine Tracks.attempt_bind (decide_meets limit) fun outcome y resolved => ?_
  cases outcome with
  | ok made =>
      exact meets_bind (meets_issue rfl) (fun _ _ plain => plain.endsResolved) fun _ _ _ => resolved
  | error exc =>
      -- A rollback always goes through.
      refine ⟨trivial, fun answer promised => ?_⟩
      cases answer with
      | ok _ => exact resolved.rolledBack (.ok ())
      | error failed =>
          refine Plain.endsResolved (α := Unit) ?_
          rintro _ ⟨⟩
          refine ⟨mem_failures_after y .rollback failed, ?_⟩
          cases integrity : failed.isIntegrityError with
          | false => rfl
          | true => exact absurd (promised.2 failed rfl integrity) (by simp [Op.mayClash])

end Programs

/-! ## The runs -/

/-- The clashes and failures of thread `i`. -/
def clash (i : ℕ) (history : List (Event Query Exn (Option (Remediation × Bool)) Caller)) : Clash :=
  Machine.observed (S := Query) Clash.after {} i history

/-- A configuration of submits and runs. -/
abbrev Submissions := Config Query Exn (Option (Remediation × Bool)) Store Caller

/-- **The condition.**  Whenever a call looks the document up right after its insert clashed,
the latest attempt is unfinished.

The insert clashes with an unfinished attempt, or waits for one.  What the condition excludes is
that this one finishes before the look-up, and no other has taken its place. -/
def resolvesClashes (c : Submissions) : Label Caller World ℕ → Bool
  | .step i _ => (c.threads i).all fun thread =>
      match thread.op with
      | .latestForDocument account contentHash =>
          !(clash i c.history).open' ||
            (c.store.latest account contentHash).any (·.status.isUnfinished)
      | _ => true
  | _ => true

/-- Where every such look-up finds an unfinished attempt, no clash is unresolved. -/
private theorem resolved_of_resolvesClashes {settings : Settings} {store : Store} {c : Submissions}
    (reached : (submissions settings).Reach (resolvesClashes · ·) (.initial store) c) (i : ℕ) :
    (clash i c.history).unresolved = false := by
  refine reached.witnessed (S := Query) Clash.after {} (fun _ _ x => x.unresolved = false)
    (fun _ => rfl) ?_ (fun _ _ _ _ _ _ _ _ _ _ _ _ _ same => same)
    (fun _ _ _ _ same => same) (fun _ _ _ _ same => same) i
  intro c i world thread answer t _ live admitted executed before
  replace executed : execute settings world i thread.op c.store = some (answer, t) := executed
  have finds : (match thread.op with
      | .latestForDocument account contentHash =>
          !(clash i c.history).open' ||
            (c.store.latest account contentHash).any (·.status.isUnfinished)
      | _ => true) = true := by
    simpa [resolvesClashes, live] using admitted
  change (clash i c.history).unresolved = false at before
  change ((clash i c.history).after thread.op answer).unresolved = false
  generalize clash i c.history = x at *
  obtain ⟨role, op, next⟩ := thread
  dsimp only at executed answer finds ⊢
  cases answer with
  | error exc => exact (unresolved_after_error x op exc).trans before
  | ok value =>
      cases op with
      | latestForDocument account contentHash =>
          obtain ⟨isLatest, -⟩ := Prod.mk.inj (Option.some.inj (execute_ok executed))
          cases isLatest
          cases isOpen : x.open' with
          | false => simp [Clash.after, before, isOpen]
          | true =>
              rw [isOpen] at finds
              simpa [Clash.after, before, isOpen] using finds
      | _ => exact before

/-- Every call that has ended returned an attempt of its account and document,
unless `before_create` raised, or one of the call's own statements raised something
else than an `IntegrityError`. -/
def SurfacesNoClash (settings : Settings) (c : Submissions) : Prop :=
  ∀ (i account : ℕ) (upload : Upload) (limit : Option SubmissionLimit)
    (result : Except Exn (Option (Remediation × Bool))),
    .returned i (.submit account upload limit) result ∈ c.history →
    (∃ row created, result = .ok (some (row, created)) ∧
        row.isFor account (upload.contentHash settings) = true) ∨
      ∃ exc, result = .error exc ∧ exc.isIntegrityError = false ∧
        ((∃ wait, exc = .throttled wait) ∨ exc ∈ (clash i c.history).failures)

/-- **A submit never surfaces a uniqueness clash**, where every call that looks the document up
right after its insert clashed finds an unfinished attempt.

The attempt that the insert clashed with may finish before the look-up.  Then the handler finds
no unfinished attempt, and raises the `IntegrityError` again; there is no other way out for one. -/
theorem submit_surfaces_no_clash (settings : Settings) (store : Store) (c : Submissions)
    (reached : (submissions settings).Reach (resolvesClashes · ·) (.initial store) c) :
    SurfacesNoClash settings c := by
  intro i account upload limit result ended
  have followed := reached.tracked (S := Query) Clash.after {} AnsweredOrClashed
    (fun _ _ _ => True) (fun caller y r => ∀ account upload limit,
      caller = .submit account upload limit → ∀ value, r = value →
        match value with
        | .ok made => ∃ row created, made = some (row, created) ∧
            row.isFor account (upload.contentHash settings) = true
        | .error exc => EndsResolved account (upload.contentHash settings) y (.error exc)) ?_ ?_
  · have resolved := followed.returned i _ result ended account upload limit rfl result rfl
    -- A clash that stays unresolved is what the condition excludes.
    have settled := resolved_of_resolvesClashes reached i
    cases result with
    | ok made =>
        obtain ⟨row, created, rfl, isFor⟩ := resolved
        exact .inl ⟨row, created, rfl, isFor⟩
    | error exc =>
        refine .inr ⟨exc, rfl, ?_⟩
        change (if exc.isIntegrityError = true then (clash i c.history).unresolved = true
          else _) at resolved
        split at resolved
        · rw [settled] at resolved
          cases resolved
        · rename_i other
          exact ⟨by simpa using other, resolved⟩
  · intro caller s body started
    cases started
    -- A run of the task is promised nothing here.
    cases caller with
    | run id =>
        exact tracks_of_forall (fun _ _ => trivial)
          fun _ _ _ _ _ impossible => nomatch impossible
    | submit account upload limit =>
        refine Tracks.bind (getOrCreate_meets limit) ?_ ?_
        · rintro ⟨row, created⟩ y isFor _ _ _ ⟨⟩ _ rfl
          exact ⟨row, created, rfl, isFor⟩
        · rintro exc y resolved _ _ _ ⟨⟩ _ rfl
          exact resolved
  · exact fun _ _ _ _ _ _ executed => execute_answeredOrClashed executed

/-- Two submits of one document, the first of which is overtaken between its
look-ups and its insert. -/
def overtaken : List (Label Caller World ℕ) :=
  .spawn (.submit 1 .oneByte none) :: List.replicate 5 (.step 0 .uneventful) ++
  .spawn (.submit 1 .oneByte none) :: List.replicate 6 (.step 1 .uneventful)

/-- The return of a call that made no attempt, but got one. -/
def gotOther : Event Query Exn (Option (Remediation × Bool)) Caller → Bool
  | .returned _ (.submit 1 _ none) (.ok (some (_, false))) => true
  | _ => false

/-- The call that was overtaken returns the other one's attempt. -/
theorem submit_surfaces_no_clash_overtaken :
    ∃ c : Submissions, (∃ i upload row,
      .returned i (.submit 1 upload none) (.ok (some (row, false))) ∈ c.history) ∧
        SurfacesNoClash .stepsOff c := by
  obtain ⟨c, reached, returned⟩ := Machine.exists_reach_of_replay (submissions .stepsOff)
    resolvesClashes (.initial (.empty none)) (overtaken ++ List.replicate 3 (.step 0 .uneventful))
    (fun c => c.history.any gotOther) (by decide +kernel)
  refine ⟨c, ?_, submit_surfaces_no_clash _ _ c reached⟩
  obtain ⟨event, member, isReturn⟩ := List.any_eq_true.mp returned
  unfold gotOther at isReturn
  split at isReturn
  · exact ⟨_, _, _, member⟩
  · cases isReturn

/-- A worker finishes the attempt of that schedule before the first call looks the
document up again. -/
def finishedMeanwhile : List (Label Caller World ℕ) :=
  overtaken ++ [.step 0 .uneventful] ++
  .spawn (.run 0) :: List.replicate 14 (.step 2 .uneventful) ++
  List.replicate 2 (.step 0 .uneventful)

/-- The return of a submit that raised an `IntegrityError`. -/
def raisedClash : Event Query Exn (Option (Remediation × Bool)) Caller → Bool
  | .returned _ (.submit _ _ _) (.error exc) => exc.isIntegrityError
  | _ => false

/-- The first call of that schedule raises the `IntegrityError` of its insert. -/
theorem submit_surfaces_clash :
    ¬ ∀ (settings : Settings) (store : Store) (c : Submissions),
      (submissions settings).Reach (fun _ _ => True) (.initial store) c →
        SurfacesNoClash settings c := by
  intro claim
  obtain ⟨c, reached, raised⟩ := Machine.exists_reach_of_replay (submissions .stepsOff)
    (fun _ _ => true) (.initial (.empty none)) finishedMeanwhile
    (fun c => c.history.any raisedClash) (by decide +kernel)
  have surfaces := claim _ _ c (reached.mono fun _ _ _ => trivial)
  obtain ⟨event, member, isClash⟩ := List.any_eq_true.mp raised
  unfold raisedClash at isClash
  split at isClash
  · rename_i i account upload limit exc
    rcases surfaces i account upload limit _ member with ⟨_, _, impossible, -⟩ | ⟨_, same, other, -⟩
    · cases impossible
    · cases same
      rw [isClash] at other
      cases other
  · cases isClash

end DicePipeline
