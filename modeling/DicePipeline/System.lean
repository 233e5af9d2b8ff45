import DicePipeline.Api.Views
import DicePipeline.Interaction.Concurrent
import DicePipeline.Remediation.Effects
import DicePipeline.Remediation.Tasks

/-!
# The running system

Web requests and worker runs interleave over one database.  A submit may arrive
at any time.  A run of `process_remediation` may start for any attempt whose
task was put on the queue, as often as the queue delivers it: the backend
redelivers, so a task is never used up.  A thread may be killed between two of
its operations, and its connection's open transaction is then rolled back.  The
clock only moves forward.
-/

namespace DicePipeline

open Interaction

/-- The kinds of threads. -/
inductive Role where
  /-- A submit by an account. -/
  | request (account : ServiceAccount) (upload : Upload)
  /-- A run of `process_remediation` for an attempt. -/
  | run (remediationId : ℕ)
  deriving DecidableEq, Repr

/-- The program of a role.  A run of the task returns no response. -/
def Role.program (settings : Settings) (acceptsUrl : String → Bool) :
    Role → Py (Option Response)
  | .request account upload => do
      let response ← CreateRemediationView.post settings acceptsUrl account upload
      return some response
  | .run remediationId => do
      processRemediation settings remediationId
      return none

/-- **The system.**  An environment move is a number of microseconds that pass. -/
def system (settings : Settings) (acceptsUrl : String → Bool) :
    Machine Query Exn (Option Response) Store Role World ℕ where
  exec := fun world i op s => execute settings world i op s
  start := fun role s =>
    match role with
    | .request _ _ => some (role.program settings acceptsUrl)
    | .run remediationId =>
        if remediationId ∈ s.processTasks then some (role.program settings acceptsUrl)
        else none
  crash := fun i s => s.endTransaction i false
  env := fun elapsed s => { s with clock := s.clock + elapsed }

/-- A configuration of the system. -/
abbrev Cluster := Config Query Exn (Option Response) Store Role

/-- A choice of the scheduler of the system. -/
abbrev Choice := Label Role World ℕ

/-- The system before its first submit. -/
def deployed (retryFloor : Option String) : Cluster := .initial (.empty retryFloor)

/-- Admits a step by what its operation may do at the current store, and every
other choice. -/
def operationsWhere (admitted : ℕ → Store → Op → Bool) (c : Cluster) : Choice → Bool
  | .step i _ => (c.threads i).all fun thread => admitted i c.store thread.op
  | _ => true

theorem operationsWhere_step {admitted : ℕ → Store → Op → Bool} {c : Cluster} {i : ℕ}
    {world : World} {thread : Thread Query Exn (Option Response) Role}
    (ok : operationsWhere admitted c (.step i world) = true)
    (live : c.threads i = some thread) : admitted i c.store thread.op = true := by
  simpa [operationsWhere, live] using ok

variable {settings : Settings} {acceptsUrl : String → Bool}
variable {ok : Cluster → Choice → Prop} {origin c : Cluster}

/-- A thread starts with the program of its role. -/
theorem start_eq {role : Role} {s : Store} {body : Py (Option Response)}
    (started : (system settings acceptsUrl).start role s = some body) :
    body = role.program settings acceptsUrl := by
  cases role with
  | request account upload => exact (Option.some.inj started).symm
  | run remediationId =>
      simp only [system] at started
      split at started
      · exact (Option.some.inj started).symm
      · cases started

/-- **Invariants of the store.**  What every admitted operation keeps, and a
rollback and the passing of time, holds in every reachable store. -/
theorem store_invariant (Inv : Store → Prop)
    (reached : (system settings acceptsUrl).Reach ok origin c) (initial : Inv origin.store)
    (operation : ∀ c i thread world answer t, (system settings acceptsUrl).Reach ok origin c →
      Inv c.store → c.threads i = some thread → ok c (.step i world) →
      execute settings world i thread.op c.store = some (answer, t) → Inv t)
    (rollback : ∀ i s, Inv s → Inv (s.endTransaction i false))
    (elapse : ∀ n s, Inv s → Inv { s with clock := s.clock + n }) : Inv c.store := by
  refine reached.invariant (fun c => Inv c.store) initial ?_
  intro c choice c' before inv admitted moved
  cases choice with
  | spawn role =>
      obtain ⟨body, -, rfl⟩ := Machine.next_spawn_eq moved
      simpa using inv
  | step i world =>
      obtain ⟨thread, answer, t, live, executed, rfl⟩ := Machine.next_step_eq moved
      have kept := operation c i thread world answer t before inv live admitted executed
      simpa using kept
  | kill i =>
      obtain ⟨_, -, rfl⟩ := Machine.next_kill_eq moved
      exact rollback i c.store inv
  | env elapsed =>
      obtain rfl := Machine.next_env_eq moved
      exact elapse elapsed c.store inv

/-! ## One step -/

/-- The configuration after thread `i` has been answered. -/
def stepped (c : Cluster) (i : ℕ) (thread : Thread Query Exn (Option Response) Role)
    (answer : Except Exn thread.op.Ans) (t : Store) : Cluster :=
  { c with
    store := t
    history := .answered i thread.op answer :: c.history }.place i thread.role (thread.next answer)

section Stepped

variable {i j : ℕ} {thread : Thread Query Exn (Option Response) Role}
variable {answer : Except Exn thread.op.Ans} {t : Store}

/-- What a step of thread `i` does. -/
theorem step_eq {world : World} {c' : Cluster}
    (moved : (system settings acceptsUrl).next c (.step i world) = some c') :
    ∃ (thread : Thread Query Exn (Option Response) Role) (answer : Except Exn thread.op.Ans) (t : Store),
      c.threads i = some thread ∧ execute settings world i thread.op c.store = some (answer, t) ∧
        c' = stepped c i thread answer t :=
  Machine.next_step_eq moved

@[simp] theorem stepped_store : (stepped c i thread answer t).store = t :=
  Config.place_store _ _ _ _

theorem stepped_threads_of_ne (different : j ≠ i) :
    (stepped c i thread answer t).threads j = c.threads j :=
  Config.place_threads_of_ne _ _ _ different

/-- A thread that has an operation left is live. -/
theorem stepped_live {op : Op} {next : Except Exn op.Ans → Py (Option Response)}
    (isCall : thread.next answer = .call op next) :
    (stepped c i thread answer t).threads i = some ⟨thread.role, op, next⟩ := by
  rw [stepped, isCall]
  exact Config.place_threads_call _ _ _ _ _

/-- The monitor of thread `i` sees the answer, the others see nothing. -/
theorem observed_stepped {τ : Type} {advance : τ → (op : Op) → Except Exn op.Ans → τ} {unseen : τ} :
    Machine.observed (S := Query) advance unseen j (stepped c i thread answer t).history =
      if i = j then advance (Machine.observed (S := Query) advance unseen j c.history) thread.op answer
      else Machine.observed (S := Query) advance unseen j c.history :=
  (Machine.observed_place _ _ _ _ _).trans rfl

theorem mem_stepped_history {event : Event Query Exn (Option Response) Role}
    (member : event ∈ c.history) : event ∈ (stepped c i thread answer t).history :=
  Config.mem_place_history _ _ _ _ (List.mem_cons_of_mem _ member)

/-- No thread has a number that is not used yet. -/
theorem fresh_thread {retryFloor : Option String}
    (reached : (system settings acceptsUrl).Reach ok (deployed retryFloor) c)
    (unused : c.count ≤ i) : c.threads i = none :=
  ((reached.monitored (fun _ _ _ => ()) () (fun _ _ _ => True) (fun _ _ _ _ => trivial)
    (fun _ _ _ _ _ _ _ _ _ _ _ => trivial)).fresh i unused).1

end Stepped

/-! ## A deployment to replay schedules on -/

/-- The default deployment: every `RUN_<STEP>` is off.  The hash is the digest
of the one-byte file `01`, the only file the schedules upload. -/
def Settings.stepsOff : Settings where
  run := fun _ => false
  stuckQueuedMinutes := 60
  stuckRunningMinutes := 60
  pipelineVersion := "1.0.0"
  languageCode := "en-us"
  fileOverwrite := false
  sha256 := fun _ => "4bf5122f344554c53bde2ebb8cd2b7e3d1600ad631c385a5d7cce23c7785459a"
  validVersion := fun _ => true
  versionLt := fun _ _ => false

/-- Nothing fails, and no adapter is called. -/
def World.uneventful : World where
  adapter := fun _ => .error "not called"

/-- An account without limits. -/
def ServiceAccount.noLimits : ServiceAccount where
  id := 1
  unlimited := true
  rateLimitCount := none
  rateLimitPeriod := none

/-- A submit of the one-byte file. -/
def Upload.oneByte (force : Bool := false) (callbackUrl : String := "") : Upload where
  filename := "a.pdf"
  bytes := [1]
  force := force
  callbackUrl := callbackUrl

/-- A submit that asks to be notified. -/
def Upload.notifying : Upload := .oneByte false "https://a.example/hook"

/-- The program has ended. -/
def hasEnded {α : Type} : Py α → Bool
  | .done _ => true
  | .call _ _ => false

/-- `n` operations of thread `i`. -/
def steps (i n : ℕ) : List Choice := List.replicate n (.step i .uneventful)

end DicePipeline
