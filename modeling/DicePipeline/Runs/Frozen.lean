import DicePipeline.Runs.Closing

/-!
# A finished attempt

A run reads its attempt once, at its start, and returns if the attempt is
finished.  All its later writes are unconditional.  So a run that reads a
finished attempt changes nothing, and a run that had read it before may still
change everything: the task has no lock, and two runs of one attempt may
overlap.

`StaysFrozen` says of the steps of runs that they leave the outcome of a finished
attempt and the bytes served for it alone, for a given class of continuations.
It holds of every continuation that spares the attempt
(`finished_attempt_is_frozen`), and not of all of them (`overlapping_run_thaws`).

### What is load-bearing

`spares` stops as little as it can.  A run that reads the row after it is
finished may do all it likes, for its first operation is its last one.  The run
that finished the attempt may go on too: its final write was its last one, and
what is left of it lists and notifies the callbacks (`run_permits`).  Stopped are
the runs in between, which had read the row while it was unfinished and have not
finished it themselves; the next thing such a run does to the row may be
`mark_running`, and it is one of them that `overlapping_run_thaws` lets step.
-/

namespace DicePipeline

open Interaction Program

/-- The columns that say how an attempt ended. -/
structure Outcome where
  status : JobStatus
  error : String
  startedAt : Option ℕ
  completedAt : Option ℕ
  finalOutputUri : Uri
  deriving DecidableEq

/-- How the attempt ended. -/
def Remediation.outcome (row : Remediation) : Outcome where
  status := row.status
  error := row.error
  startedAt := row.startedAt
  completedAt := row.completedAt
  finalOutputUri := row.finalOutputUri

/-- The stored outcome of an attempt. -/
def Store.outcome (s : Store) (a : ℕ) : Option Outcome := (s.row a).map Remediation.outcome

/-- The bytes at `final_output_uri`. -/
def Store.served (s : Store) (a : ℕ) : Option Bytes :=
  (s.row a).bind fun row => s.objects row.finalOutputUri

/-- Thread `i` is a run of attempt `a`. -/
def runs (c : Cluster) (a i : ℕ) : Bool := (c.threads i).any fun thread => thread.role = .run a

/-- **A finished attempt stays as it is.**  From any reachable state in which it
is finished, along every admitted continuation, its outcome stays, and no step of
a run of it changes its outcome or the bytes served for it. -/
def StaysFrozen (settings : Settings) (acceptsUrl : String → Bool) (retryFloor : Option String)
    (later : Cluster → ℕ → Cluster → Choice → Prop) : Prop :=
  ∀ c a row, (system settings acceptsUrl).Reach (fun _ _ => True) (deployed retryFloor) c →
    c.store.row a = some row → row.status.isFinished = true →
      ∀ c', (system settings acceptsUrl).Reach (later c a) c c' →
        c'.store.outcome a = c.store.outcome a ∧
          ∀ i world c'', runs c' a i = true → later c a c' (.step i world) →
            (system settings acceptsUrl).next c' (.step i world) = some c'' →
              c''.store.outcome a = c.store.outcome a ∧ c''.store.served a = c'.store.served a

/-- Thread `i` is a run of attempt `a` that has read its row. -/
def hasRead (c : Cluster) (a i : ℕ) : Bool := runs c a i && phase c i ≠ .unread

/-- Thread `i` is a run of attempt `a` that has read its row and has not written a
final status on it.  Where the attempt is finished, another run has written it. -/
def isBehind (c : Cluster) (a i : ℕ) : Bool := hasRead c a i && finalWrite c a i ≠ .marked

/-- No run that was behind at `origin`, where the attempt was finished, takes a step. -/
def spares (origin : Cluster) (a : ℕ) (_ : Cluster) : Choice → Prop
  | .step i _ => isBehind origin a i = false
  | _ => True

/-! ## What a continuation that spares the attempt keeps -/

variable {settings : Settings} {acceptsUrl : String → Bool} {retryFloor : Option String}
variable {origin c : Cluster} {a i : ℕ}

/-- A run of the attempt that will not write it: it has not read the row yet, or
its final write is behind it. -/
def IsDone (settings : Settings) (a : ℕ) (c : Cluster) (i : ℕ)
    (thread : Thread Query Exn (Option Response) Role) : Prop :=
  thread.body = ((processRemediation settings a).bind fun _ => .done (.ok none)) ∨
    finalWrite c a i = .marked

/-- The attempt is as it was, and every run of it that was not behind is done with it. -/
structure Untouched (settings : Settings) (a : ℕ) (origin c : Cluster) : Prop where
  outcome : c.store.outcome a = origin.store.outcome a
  done : ∀ i thread, c.threads i = some thread → thread.role = .run a →
    isBehind origin a i = false → IsDone settings a c i thread

/-- Only `save` changes the outcome of a stored attempt. -/
theorem Effect.outcome {op : Op} {s t : Store} {row : Remediation} (effect : Effect i s op t)
    (found : s.row a = some row) (other : ∀ fields, op ≠ .saveRemediation a fields) :
    t.outcome a = s.outcome a := by
  rcases effect.row found with ⟨fields, isSave, -⟩ | ⟨enqueued, same⟩
  · exact absurd isSave (other fields)
  · rw [Store.outcome, Store.outcome, same, found]
    rfl

/-- The first operation of a run only reads, and ends the run if the attempt is
finished. -/
theorem first_operation {thread : Thread Query Exn (Option Response) Role} {world : World}
    {s t : Store} {row : Remediation} {answer : Except Exn thread.op.Ans}
    (isStart : thread.body = (processRemediation settings a).bind fun _ => .done (.ok none))
    (found : s.row a = some row) (finished : row.status.isFinished = true)
    (executed : execute settings world i thread.op s = some (answer, t)) :
    t = s ∧ ∃ result, thread.next answer = .done result := by
  obtain ⟨role, op, next⟩ := thread
  change (.call op next : Py _) = .call (Op.getRemediation a) _ at isStart
  cases isStart
  cases answer with
  | error exc =>
      obtain rfl | impossible := execute_error executed
      · exact ⟨rfl, _, rfl⟩
      · cases impossible
  | ok read =>
      have performed := execute_ok executed
      simp only [perform, found] at performed
      obtain ⟨same, rfl⟩ := Prod.mk.inj (Option.some.inj performed)
      obtain rfl := Except.ok.inj same
      refine ⟨rfl, .ok none, ?_⟩
      change (ite (JobStatus.isFinished (Remediation.status row) = true) _ _ : Py Unit).bind _ = _
      rw [if_pos finished]
      rfl

/-- A stored outcome is finished if the stored attempt is. -/
theorem exists_finished {s t : Store} {row : Remediation} (found : s.row a = some row)
    (finished : row.status.isFinished = true) (same : t.outcome a = s.outcome a) :
    ∃ row', t.row a = some row' ∧ row'.status.isFinished = true := by
  rw [Store.outcome, Store.outcome, found, Option.map_some] at same
  obtain ⟨row', found', outcome⟩ := Option.map_eq_some_iff.mp same
  refine ⟨row', found', ?_⟩
  rw [← finished]
  exact congrArg (fun outcome => outcome.status.isFinished) outcome

/-- Listing and notifying callbacks changes no attempt and no object. -/
theorem Effect.kept_of_permits {op : Op} {s t : Store} (effect : Effect i s op t)
    (permits : Closing.marked.Permits op) :
    t.outcome a = s.outcome a ∧ t.served a = s.served a := by
  cases op with
  | callbackIds id =>
      cases effect
      exact ⟨rfl, rfl⟩
  | enqueueWebhook callback => cases effect <;> exact ⟨rfl, rfl⟩
  | _ => exact absurd rfl permits

/-- And it is no try of a final write. -/
theorem closing_marked_after {op : Op} (permits : Closing.marked.Permits op)
    (answer : Except Exn op.Ans) : Closing.marked.after a op answer = .marked := by
  cases op with
  | callbackIds id => rfl
  | enqueueWebhook callback => rfl
  | _ => exact absurd rfl permits

/-- Going on is no try of a final write. -/
@[simp] theorem finalWrite_place (c : Cluster) (i j : ℕ) (role : Role)
    (body : Py (Option Response)) : finalWrite (c.place i role body) a j = finalWrite c a j :=
  Machine.observed_place c i j role body

/-- **A step of a run that is done with the attempt** leaves it alone, and the run
is done with it afterwards. -/
theorem IsDone.step
    (reached : (system settings acceptsUrl).Reach (fun _ _ => True) (deployed retryFloor) c)
    {row : Remediation} (found : c.store.row a = some row)
    (finished : row.status.isFinished = true)
    {thread : Thread Query Exn (Option Response) Role} (live : c.threads i = some thread)
    (isRun : thread.role = .run a) (done : IsDone settings a c i thread)
    {world : World} {answer : Except Exn thread.op.Ans} {t : Store}
    (executed : execute settings world i thread.op c.store = some (answer, t)) :
    (t.outcome a = c.store.outcome a ∧ t.served a = c.store.served a) ∧
      ((∃ result, thread.next answer = .done result) ∨
        (finalWrite c a i).after a thread.op answer = .marked) := by
  rcases done with isStart | isMarked
  · obtain ⟨rfl, isLast⟩ := first_operation isStart found finished executed
    exact ⟨⟨rfl, rfl⟩, .inl isLast⟩
  · have permits := run_permits reached live isRun
    rw [isMarked] at permits ⊢
    exact ⟨(execute_effect executed).kept_of_permits permits,
      .inr (closing_marked_after permits answer)⟩

/-- The invariant of a continuation that spares the attempt. -/
theorem untouched {row : Remediation}
    (before : (system settings acceptsUrl).Reach (fun _ _ => True) (deployed retryFloor) origin)
    (found : origin.store.row a = some row) (finished : row.status.isFinished = true)
    (reached : (system settings acceptsUrl).Reach (spares origin a) origin c) :
    Untouched settings a origin c := by
  refine reached.invariant (Untouched settings a origin) ⟨rfl, ?_⟩ ?_
  · intro i thread live isRun current
    -- Whoever is not behind has marked the attempt itself or has not read its row yet.
    by_cases isMarked : finalWrite origin a i = .marked
    · exact .inr isMarked
    · have describes := run_phase before live isRun
      have isLive : runs origin a i = true := by simp [runs, live, isRun]
      simp only [isBehind, hasRead, isLive, isMarked, Bool.true_and, ne_eq, not_false_eq_true,
        decide_true, Bool.and_true, decide_eq_false_iff_not, not_not] at current
      rw [current] at describes
      exact .inl describes
  · intro c choice c' between inv admitted moved
    have reached := before.trans (between.mono fun _ _ _ => trivial)
    cases choice with
    | spawn role =>
        obtain ⟨body, started, rfl⟩ := Machine.next_spawn_eq moved
        refine ⟨by simpa using inv.outcome, fun j thread live isRun current => ?_⟩
        -- A thread that is new has not read the row.
        by_cases same : j = c.count
        · subst same
          obtain ⟨rfl, rfl⟩ := Config.place_threads_self _ _ _ _ live
          rw [isRun] at started
          exact .inl (start_eq started)
        · rw [Config.place_threads_of_ne _ _ _ same] at live
          refine (inv.done j thread live isRun current).imp_right fun isMarked => ?_
          rw [finalWrite_place]
          exact isMarked
    | step i world =>
        obtain ⟨mover, answer, t, moverLive, executed, rfl⟩ := Machine.next_step_eq moved
        obtain ⟨row', found', finished'⟩ := exists_finished found finished inv.outcome
        -- What the other threads have marked is in the history as before.
        have others : ∀ j, j ≠ i → finalWrite ({ c with
            store := t, history := .answered i mover.op answer :: c.history }.place
              i mover.role (mover.next answer)) a j = finalWrite c a j :=
          fun j different => (finalWrite_place _ i j _ _).trans (if_neg (Ne.symm different))
        -- A run of the attempt that steps is admitted, so it is done with it; all others save
        -- other attempts only.
        by_cases isRun : mover.role = .run a
        · obtain ⟨⟨kept, -⟩, left⟩ := IsDone.step reached found' finished' moverLive isRun
            (inv.done i mover moverLive isRun admitted) executed
          refine ⟨?_, fun j thread live isRun' current => ?_⟩
          · rw [Config.place_store]
            exact kept.trans inv.outcome
          · by_cases same : j = i
            · subst same
              rcases left with ⟨result, isLast⟩ | isMarked
              · rw [isLast] at live
                simp [Config.place] at live
              · exact .inr ((finalWrite_place _ j j _ _).trans ((if_pos rfl).trans isMarked))
            · rw [Config.place_threads_of_ne _ _ _ same] at live
              exact (inv.done j thread live isRun' current).imp_right (others j same).trans
        · have kept := (execute_effect executed).outcome found'
            (saves_elsewhere (footprint reached moverLive) isRun)
          refine ⟨?_, fun j thread live isRun' current => ?_⟩
          · rw [Config.place_store]
            exact kept.trans inv.outcome
          · by_cases same : j = i
            · subst same
              obtain ⟨isRole, -⟩ := Config.place_threads_self _ _ _ _ live
              exact absurd (isRole.symm.trans isRun') isRun
            · rw [Config.place_threads_of_ne _ _ _ same] at live
              exact (inv.done j thread live isRun' current).imp_right (others j same).trans
    | kill i =>
        obtain ⟨_, -, rfl⟩ := Machine.next_kill_eq moved
        refine ⟨inv.outcome, fun j thread live isRun current => ?_⟩
        by_cases same : j = i
        · subst same
          simp at live
        · simp only [Function.update_of_ne same] at live
          exact inv.done j thread live isRun current
    | env elapsed =>
        obtain rfl := Machine.next_env_eq moved
        exact ⟨inv.outcome, inv.done⟩

/-- **A finished attempt is frozen for every run that is not behind**: for those that have not
read its row yet, and for the one that finished it.

A run that read the row while it was unfinished, and has not written the final status itself, is
behind, and writes `RUNNING` and later its own ending over the row whatever the row says by
then.  The continuation leaves out the steps of such runs and of nobody else: kills,
redeliveries, submits and the later steps of the run that finished the attempt are all in it. -/
theorem finished_attempt_is_frozen (settings : Settings) (acceptsUrl : String → Bool)
    (retryFloor : Option String) : StaysFrozen settings acceptsUrl retryFloor spares := by
  intro origin a row before found finished c between
  have inv := untouched before found finished between
  have reached := before.trans (between.mono fun _ _ _ => trivial)
  refine ⟨inv.outcome, fun i world c' isRun admitted moved => ?_⟩
  obtain ⟨thread, answer, t, live, executed, rfl⟩ := Machine.next_step_eq moved
  rw [runs, live, Option.any_some, decide_eq_true_eq] at isRun
  obtain ⟨row', found', finished'⟩ := exists_finished found finished inv.outcome
  obtain ⟨⟨kept, served⟩, -⟩ := IsDone.step reached found' finished' live isRun
    (inv.done i thread live isRun admitted) executed
  rw [Config.place_store]
  exact ⟨kept.trans inv.outcome, served⟩

/-- A submit with a callback queues an attempt.  A run of it comes to its end but for
the callbacks, and a second run of it is started. -/
def finishing : List Choice := upToFinalWrite ++ steps 1 2 ++ [.spawn (.run 0)]

/-- The attempt is finished, its first run is not behind, and both runs can step. -/
def aboutToList (c : Cluster) : Bool :=
  (c.store.row 0).any (·.status.isFinished) && runs c 0 1 && !isBehind c 0 1 &&
    hasRead c 0 1 && runs c 0 2 && !isBehind c 0 2 &&
      (((system .stepsOff fun _ => true).next c (.step 1 .uneventful)).bind fun c' =>
        (system .stepsOff fun _ => true).next c' (.step 2 .uneventful)).isSome

/-- The run that finished the attempt lists the callbacks, and a redelivered run reads
the row. -/
theorem finished_attempt_is_frozen_listing :
    ∃ c c' c'' : Cluster, hasRead c 0 1 = true ∧
      (system .stepsOff fun _ => true).next c (.step 1 .uneventful) = some c' ∧
      (system .stepsOff fun _ => true).next c' (.step 2 .uneventful) = some c'' ∧
      c''.store.outcome 0 = c.store.outcome 0 ∧ c'.store.served 0 = c.store.served 0 := by
  obtain ⟨c, reached, checked⟩ := Machine.exists_reach_of_replay
    (system .stepsOff fun _ => true) (fun _ _ => true) (deployed none) finishing aboutToList
    (by decide +kernel)
  simp only [aboutToList, Bool.and_eq_true, Bool.not_eq_true'] at checked
  obtain ⟨⟨⟨⟨⟨⟨isFinished, isRun⟩, current⟩, isRead⟩, -⟩, second⟩, moves⟩ := checked
  obtain ⟨row, found, finished⟩ := (Option.any_eq_true _ _).mp isFinished
  obtain ⟨c'', moved⟩ := Option.isSome_iff_exists.mp moves
  obtain ⟨c', listed, read⟩ := Option.bind_eq_some_iff.mp moved
  have frozen := finished_attempt_is_frozen .stepsOff (fun _ => true) none c 0 row
    (reached.mono fun _ _ _ => trivial) found finished
  have between : (system .stepsOff fun _ => true).Reach (spares c 0) c c'' :=
    .next (.step 2 .uneventful) (.next (.step 1 .uneventful) .refl current listed) second read
  exact ⟨c, c', c'', isRead, listed, read, (frozen c'' between).1,
    ((frozen c .refl).2 1 .uneventful c' isRun current listed).2⟩

/-! ## Two overlapping runs -/

/-- A submit queues an attempt.  The first run reads it, the second one runs it to
its end, and then the first one reads the clock. -/
def overlapping : List Choice :=
  [.spawn (.request .noLimits .oneByte)] ++ steps 0 9 ++ [.spawn (.run 0)] ++ steps 1 1 ++
  [.spawn (.run 0)] ++ steps 2 14 ++ steps 1 1

/-- The attempt is finished, and the next operation of run `1` rewrites how it
ended. -/
def aboutToThaw (c : Cluster) : Bool :=
  (c.store.row 0).any (·.status.isFinished) && runs c 0 1 &&
    ((system .stepsOff fun _ => true).next c (.step 1 .uneventful)).any fun c' =>
      c'.store.outcome 0 ≠ c.store.outcome 0

/-- A run that had read the attempt before it was finished marks it running
again. -/
theorem overlapping_run_thaws :
    ¬ ∀ (settings : Settings) (acceptsUrl : String → Bool) (retryFloor : Option String),
      StaysFrozen settings acceptsUrl retryFloor fun _ _ _ _ => True := by
  intro claim
  obtain ⟨c, reached, checked⟩ := Machine.exists_reach_of_replay
    (system .stepsOff fun _ => true) (fun _ _ => true) (deployed none) overlapping aboutToThaw
    (by decide +kernel)
  simp only [aboutToThaw, Bool.and_eq_true] at checked
  obtain ⟨⟨isFinished, isRun⟩, moves⟩ := checked
  obtain ⟨row, found, finished⟩ := (Option.any_eq_true _ _).mp isFinished
  obtain ⟨c', moved, differs⟩ := (Option.any_eq_true _ _).mp moves
  have frozen := claim .stepsOff (fun _ => true) none c 0 row (reached.mono fun _ _ _ => trivial)
    found finished c .refl
  rw [decide_eq_true_eq] at differs
  exact differs (frozen.2 1 .uneventful c' isRun trivial moved).1

end DicePipeline
