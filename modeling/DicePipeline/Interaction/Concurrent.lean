import DicePipeline.Interaction.Guarantee
import Mathlib.Data.Nat.Notation
import Mathlib.Logic.Function.Basic

/-!
# Many programs over one store

A `Machine` interprets the operations of a signature over a shared store and
runs any number of programs at once.  One `Label` is one choice of the
scheduler: a new thread of some role starts, a live thread issues its next
operation, a live thread is killed, or the environment moves the store.  The
outcome of a label is a function (`Machine.next`), so a schedule is a list of
labels and can be replayed, and everything nondeterministic is in the labels:
`ω` is what the outside world answers to one operation.

A thread holds the operation it is about to issue, so a thread that has
nothing left to do cannot be represented: it is recorded in the history as
returned and disappears.

`Machine.Reach ok s₀` are the configurations that schedules from `s₀` reach
when every label was admitted by `ok` at the moment it was taken.
`Machine.Reach.safe` is the soundness of the rely/guarantee judgement for such
a machine: if each thread starts safe, and each thread's guarantee is inside
the rely of the others, then every thread of every reachable configuration is
still safe.
-/

namespace DicePipeline.Interaction

/-- An interpretation of the operations over a shared store. -/
structure Machine (S : Signature) (ε α σ κ ω η : Type) where
  /-- One operation of thread `i`, answered with the help of `ω`.  `none`: the
  operation has to wait. -/
  exec : ω → ℕ → (op : S.Op) → σ → Option (Except ε (S.Ans op) × σ)
  /-- The program of a new thread, if a thread of that role may start now. -/
  start : κ → σ → Option (Program S ε α)
  /-- What the store keeps of a killed thread. -/
  crash : ℕ → σ → σ
  /-- A move of the environment. -/
  env : η → σ → σ

/-- A live thread: its role, the operation it is about to issue, and what it
does with the answer. -/
structure Thread (S : Signature) (ε α κ : Type) where
  role : κ
  op : S.Op
  next : Except ε (S.Ans op) → Program S ε α

/-- The program a live thread still has to run. -/
def Thread.body {S : Signature} {ε α κ : Type} (thread : Thread S ε α κ) :
    Program S ε α := .call thread.op thread.next

/-- What the history records, one entry for each thing that happened. -/
inductive Event (S : Signature) (ε α κ : Type) where
  | started (thread : ℕ) (role : κ)
  | answered (thread : ℕ) (op : S.Op) (answer : Except ε (S.Ans op))
  | returned (thread : ℕ) (role : κ) (result : Except ε α)
  | killed (thread : ℕ)

/-- The shared store, the live threads, how many threads there have been, and
the history, newest first. -/
structure Config (S : Signature) (ε α σ κ : Type) where
  store : σ
  threads : ℕ → Option (Thread S ε α κ)
  count : ℕ
  history : List (Event S ε α κ)

/-- One choice of the scheduler. -/
inductive Label (κ ω η : Type) where
  | spawn (role : κ)
  | step (thread : ℕ) (world : ω)
  | kill (thread : ℕ)
  | env (move : η)

namespace Config

variable {S : Signature} {ε α σ κ : Type}

/-- No thread, no history. -/
def initial (store : σ) : Config S ε α σ κ where
  store := store
  threads := fun _ => none
  count := 0
  history := []

/-- Thread `i` goes on with `body`. -/
def place (c : Config S ε α σ κ) (i : ℕ) (role : κ) :
    Program S ε α → Config S ε α σ κ
  | .done result =>
      { c with
        threads := Function.update c.threads i none
        history := .returned i role result :: c.history }
  | .call op next =>
      { c with threads := Function.update c.threads i (some ⟨role, op, next⟩) }

@[simp] theorem place_store (c : Config S ε α σ κ) (i : ℕ) (role : κ)
    (body : Program S ε α) : (c.place i role body).store = c.store := by
  cases body <;> rfl

@[simp] theorem place_count (c : Config S ε α σ κ) (i : ℕ) (role : κ)
    (body : Program S ε α) : (c.place i role body).count = c.count := by
  cases body <;> rfl

/-- Another thread is not touched by `place`. -/
theorem place_threads_of_ne (c : Config S ε α σ κ) {i j : ℕ} (role : κ)
    (body : Program S ε α) (different : j ≠ i) :
    (c.place i role body).threads j = c.threads j := by
  cases body <;> exact Function.update_of_ne different _ _

/-- Going on forgets nothing. -/
theorem mem_place_history (c : Config S ε α σ κ) (i : ℕ) (role : κ) (body : Program S ε α)
    {event : Event S ε α κ} (member : event ∈ c.history) :
    event ∈ (c.place i role body).history := by
  cases body with
  | done result => exact List.mem_cons_of_mem _ member
  | call op next => exact member

/-- A program with an operation left is a live thread. -/
theorem place_threads_call (c : Config S ε α σ κ) (i : ℕ) (role : κ) (op : S.Op)
    (next : Except ε (S.Ans op) → Program S ε α) :
    (c.place i role (.call op next)).threads i = some ⟨role, op, next⟩ :=
  Function.update_self _ _ _

/-- The placed thread is live exactly when its program has an operation left. -/
theorem place_threads_self (c : Config S ε α σ κ) (i : ℕ) (role : κ)
    (body : Program S ε α) {thread : Thread S ε α κ}
    (live : (c.place i role body).threads i = some thread) :
    thread.role = role ∧ thread.body = body := by
  cases body with
  | done result => simp [place] at live
  | call op next =>
      simp only [place, Function.update_self, Option.some.injEq] at live
      subst live
      exact ⟨rfl, rfl⟩

end Config

namespace Machine

variable {S : Signature} {ε α σ κ ω η : Type}

/-- The outcome of one label, if it can be taken. -/
def next (m : Machine S ε α σ κ ω η) (c : Config S ε α σ κ) :
    Label κ ω η → Option (Config S ε α σ κ)
  | .spawn role =>
      (m.start role c.store).map fun body =>
        { c with
          count := c.count + 1
          history := .started c.count role :: c.history }.place c.count role body
  | .step i world =>
      (c.threads i).bind fun thread =>
        (m.exec world i thread.op c.store).map fun (answer, store) =>
          { c with
            store
            history := .answered i thread.op answer :: c.history }.place i
              thread.role (thread.next answer)
  | .kill i =>
      (c.threads i).map fun _ =>
        { c with
          store := m.crash i c.store
          threads := Function.update c.threads i none
          history := .killed i :: c.history }
  | .env move => some { c with store := m.env move c.store }

/-- The configurations that admitted labels reach from `origin`. -/
inductive Reach (m : Machine S ε α σ κ ω η)
    (ok : Config S ε α σ κ → Label κ ω η → Prop) (origin : Config S ε α σ κ) :
    Config S ε α σ κ → Prop
  | refl : Reach m ok origin origin
  | next {c c' : Config S ε α σ κ} (label : Label κ ω η) :
      Reach m ok origin c → ok c label → m.next c label = some c' →
        Reach m ok origin c'

variable {m : Machine S ε α σ κ ω η}
variable {ok ok' : Config S ε α σ κ → Label κ ω η → Prop}
variable {origin : Config S ε α σ κ}

theorem Reach.mono {c : Config S ε α σ κ} (h : m.Reach ok origin c)
    (imp : ∀ c label, ok c label → ok' c label) : m.Reach ok' origin c := by
  induction h with
  | refl => exact .refl
  | next label _ admitted moved ih => exact .next label ih (imp _ _ admitted) moved

theorem Reach.trans {c c' : Config S ε α σ κ} (first : m.Reach ok origin c)
    (second : m.Reach ok c c') : m.Reach ok origin c' := by
  induction second with
  | refl => exact first
  | next label _ admitted moved ih => exact .next label ih admitted moved

/-- What every admitted label keeps holds wherever they lead. -/
theorem Reach.invariant (Inv : Config S ε α σ κ → Prop) {c : Config S ε α σ κ}
    (h : m.Reach ok origin c) (initial : Inv origin)
    (keep : ∀ c label c', m.Reach ok origin c → Inv c → ok c label →
      m.next c label = some c' → Inv c') :
    Inv c := by
  induction h with
  | refl => exact initial
  | next label before admitted moved ih => exact keep _ label _ before ih admitted moved

/-- Replays a schedule, stopping with `none` at a label that cannot be taken or
that `admitted` refuses. -/
def replay (m : Machine S ε α σ κ ω η)
    (admitted : Config S ε α σ κ → Label κ ω η → Bool) :
    Config S ε α σ κ → List (Label κ ω η) → Option (Config S ε α σ κ)
  | c, [] => some c
  | c, label :: rest =>
      if admitted c label then (m.next c label).bind (m.replay admitted · rest)
      else none

theorem Reach.replay {admitted : Config S ε α σ κ → Label κ ω η → Bool}
    (sound : ∀ c label, admitted c label = true → ok c label) :
    ∀ {labels : List (Label κ ω η)} {c c' : Config S ε α σ κ},
      m.Reach ok origin c → m.replay admitted c labels = some c' →
        m.Reach ok origin c' := by
  intro labels
  induction labels with
  | nil =>
      intro c c' reached replayed
      obtain rfl := Option.some.inj replayed
      exact reached
  | cons label rest ih =>
      intro c c' reached replayed
      rw [Machine.replay] at replayed
      split at replayed
      · rename_i isAdmitted
        obtain ⟨mid, moved, replayed⟩ := Option.bind_eq_some_iff.mp replayed
        exact ih (.next label reached (sound c label isAdmitted) moved) replayed
      · cases replayed

/-- A schedule that replays to a configuration of a certain kind shows that one
is reachable. -/
theorem exists_reach_of_replay (m : Machine S ε α σ κ ω η)
    (admitted : Config S ε α σ κ → Label κ ω η → Bool) (origin : Config S ε α σ κ)
    (labels : List (Label κ ω η)) (check : Config S ε α σ κ → Bool)
    (replayed : (m.replay admitted origin labels).any check = true) :
    ∃ c, m.Reach (fun c label => admitted c label = true) origin c ∧ check c = true := by
  obtain ⟨c, reached, checked⟩ := (Option.any_eq_true _ _).mp replayed
  exact ⟨c, Reach.replay (fun _ _ h => h) .refl reached, checked⟩

/-! ## What one label can do -/

theorem next_spawn_eq {c c' : Config S ε α σ κ} {role : κ}
    (moved : m.next c (.spawn role) = some c') :
    ∃ body, m.start role c.store = some body ∧
      c' = { c with
        count := c.count + 1
        history := .started c.count role :: c.history }.place c.count role body := by
  obtain ⟨body, started, rfl⟩ := Option.map_eq_some_iff.mp moved
  exact ⟨body, started, rfl⟩

theorem next_step_eq {c c' : Config S ε α σ κ} {i : ℕ} {world : ω}
    (moved : m.next c (.step i world) = some c') :
    ∃ thread answer store, c.threads i = some thread ∧
      m.exec world i thread.op c.store = some (answer, store) ∧
      c' = { c with
        store
        history := .answered i thread.op answer :: c.history }.place i
          thread.role (thread.next answer) := by
  obtain ⟨thread, live, moved⟩ := Option.bind_eq_some_iff.mp moved
  obtain ⟨⟨answer, store⟩, executed, rfl⟩ := Option.map_eq_some_iff.mp moved
  exact ⟨thread, answer, store, live, executed, rfl⟩

theorem next_kill_eq {c c' : Config S ε α σ κ} {i : ℕ}
    (moved : m.next c (.kill i : Label κ ω η) = some c') :
    ∃ thread, c.threads i = some thread ∧
      c' = { c with
        store := m.crash i c.store
        threads := Function.update c.threads i none
        history := .killed i :: c.history } := by
  obtain ⟨thread, live, rfl⟩ := Option.map_eq_some_iff.mp moved
  exact ⟨thread, live, rfl⟩

theorem next_env_eq {c c' : Config S ε α σ κ} {move : η}
    (moved : m.next c (.env move : Label κ ω η) = some c') :
    c' = { c with store := m.env move c.store } :=
  (Option.some.inj moved).symm

/-! ## Soundness of the rely/guarantee judgement -/

/-- The environment and the postcondition of each thread. -/
structure Discipline (S : Signature) (ε α σ κ : Type) where
  env : ℕ → κ → Environment S ε σ
  post : ℕ → κ → Except ε α → σ → Prop

/-- Every live thread is safe at the current store. -/
def Discipline.Holds (d : Discipline S ε α σ κ) (c : Config S ε α σ κ) : Prop :=
  ∀ i thread, c.threads i = some thread →
    thread.body.Safe (d.env i thread.role) (d.post i thread.role) c.store

/-- The obligations of a rely/guarantee argument for one machine.  `Inv` is the
part of the argument that speaks of whole configurations. -/
structure Sound (m : Machine S ε α σ κ ω η)
    (ok : Config S ε α σ κ → Label κ ω η → Prop)
    (d : Discipline S ε α σ κ) (Inv : Config S ε α σ κ → Prop) : Prop where
  /-- A new thread starts safe. -/
  spawn : ∀ c role body, Inv c → ok c (.spawn role) →
    m.start role c.store = some body →
      body.Safe (d.env c.count role) (d.post c.count role) c.store
  /-- The judgement's `step` covers what the machine does. -/
  covers : ∀ c i world thread answer store, Inv c → c.threads i = some thread →
    ok c (.step i world) →
    m.exec world i thread.op c.store = some (answer, store) →
      (d.env i thread.role).step thread.op c.store answer store
  /-- What a thread guarantees, every other thread tolerates. -/
  compatible : ∀ c i j threadI threadJ store, Inv c → i ≠ j →
    c.threads i = some threadI → c.threads j = some threadJ →
    (d.env i threadI.role).guarantee c.store store →
      (d.env j threadJ.role).rely c.store store
  /-- Every thread tolerates a kill and a move of the environment. -/
  crash : ∀ c i j thread, Inv c → ok c (.kill i) → i ≠ j →
    c.threads j = some thread →
      (d.env j thread.role).rely c.store (m.crash i c.store)
  env : ∀ c move j thread, Inv c → ok c (.env move) →
    c.threads j = some thread →
      (d.env j thread.role).rely c.store (m.env move c.store)
  /-- `Inv` is kept, given the guarantee of the thread that moved. -/
  keep : ∀ c label c', Inv c → d.Holds c → ok c label → m.next c label = some c' →
    (∀ i world thread, label = .step i world → c.threads i = some thread →
      (d.env i thread.role).guarantee c.store c'.store) → Inv c'

/-- With no live thread there is nothing to show. -/
theorem Discipline.holds_initial (d : Discipline S ε α σ κ) (store : σ) :
    d.Holds (.initial store) := by
  intro i thread live
  cases live

/-- **Soundness.**  In every reachable configuration the invariant holds and
every live thread is safe. -/
theorem Reach.safe {d : Discipline S ε α σ κ} {Inv : Config S ε α σ κ → Prop}
    (sound : m.Sound ok d Inv) {c : Config S ε α σ κ}
    (reached : m.Reach ok origin c) (initial : Inv origin) (idle : d.Holds origin) :
    Inv c ∧ d.Holds c := by
  induction reached with
  | refl => exact ⟨initial, idle⟩
  | @next c c' label _ admitted moved ih =>
      obtain ⟨inv, holds⟩ := ih
      cases label with
      | spawn role =>
          obtain ⟨body, started, rfl⟩ := next_spawn_eq moved
          refine ⟨sound.keep c _ _ inv holds admitted moved (by simp), ?_⟩
          intro j thread live
          by_cases same : j = c.count
          · subst same
            obtain ⟨rfl, rfl⟩ := Config.place_threads_self _ _ _ _ live
            simpa using sound.spawn c _ _ inv admitted started
          · rw [Config.place_threads_of_ne _ _ _ same] at live
            simpa using holds j thread live
      | step i world =>
          obtain ⟨mover, answer, store, moverLive, executed, rfl⟩ :=
            next_step_eq moved
          -- The mover keeps its promise whatever answer the discipline covers, and this answer is.
          have covered := sound.covers c i world mover answer store inv moverLive
            admitted executed
          obtain ⟨promised, rest⟩ := holds i mover moverLive c.store
            ((d.env i mover.role).rely_refl _) answer store covered
          refine ⟨sound.keep c _ _ inv holds admitted moved ?_, ?_⟩
          · intro i' world' thread same live
            obtain ⟨rfl, rfl⟩ := Label.step.inj same
            obtain rfl := Option.some.inj (moverLive.symm.trans live)
            simpa using promised
          · intro j thread live
            by_cases same : j = i
            · subst same
              obtain ⟨roleEq, bodyEq⟩ := Config.place_threads_self _ _ _ _ live
              rw [roleEq, bodyEq]
              simpa using rest
            · rw [Config.place_threads_of_ne _ _ _ same] at live
              -- What the mover has promised is what every other thread tolerates.
              have tolerated := sound.compatible c i j mover thread store inv
                (Ne.symm same) moverLive live promised
              rw [Config.place_store]
              exact (holds j thread live).of_rely tolerated
      | kill i =>
          obtain ⟨victim, _, rfl⟩ := next_kill_eq moved
          refine ⟨sound.keep c _ _ inv holds admitted moved (by simp), ?_⟩
          intro j thread live
          by_cases same : j = i
          · subst same
            simp at live
          · simp only [Function.update_of_ne same] at live
            exact (holds j thread live).of_rely
              (sound.crash c i j thread inv admitted (Ne.symm same) live)
      | env move =>
          obtain rfl := next_env_eq moved
          refine ⟨sound.keep c _ _ inv holds admitted moved (by simp), ?_⟩
          intro j thread live
          exact (holds j thread live).of_rely
            (sound.env c move j thread inv admitted live)

/-- Every operation a live thread is about to issue keeps its guarantee. -/
theorem Discipline.Holds.guarantee {d : Discipline S ε α σ κ}
    {c : Config S ε α σ κ} (holds : d.Holds c) {i : ℕ}
    {thread : Thread S ε α κ} (live : c.threads i = some thread)
    {answer : Except ε (S.Ans thread.op)} {store : σ}
    (step : (d.env i thread.role).step thread.op c.store answer store) :
    (d.env i thread.role).guarantee c.store store :=
  (holds i thread live c.store ((d.env i thread.role).rely_refl _) answer store
    step).1

/-! ## Threads follow their programs -/

/-- What a monitor of thread `i` has seen: `advance` folded over the answers
the thread received, oldest first. -/
def observed {τ : Type} (advance : τ → (op : S.Op) → Except ε (S.Ans op) → τ)
    (unseen : τ) (i : ℕ) : List (Event S ε α κ) → τ
  | [] => unseen
  | .answered j op answer :: earlier =>
      if j = i then advance (observed advance unseen i earlier) op answer
      else observed advance unseen i earlier
  | .started _ _ :: earlier => observed advance unseen i earlier
  | .returned _ _ _ :: earlier => observed advance unseen i earlier
  | .killed _ :: earlier => observed advance unseen i earlier

section Monitor

variable {τ : Type} {advance : τ → (op : S.Op) → Except ε (S.Ans op) → τ} {unseen : τ}

/-- Going on is not an answer. -/
@[simp] theorem observed_place (c : Config S ε α σ κ) (i j : ℕ) (role : κ)
    (body : Program S ε α) : observed advance unseen j (c.place i role body).history =
      observed advance unseen j c.history := by
  cases body <;> rfl

variable {Φ : κ → τ → Program S ε α → Prop}

/-- What `Reach.monitored` maintains.  A live thread and its monitor are related
by `Φ`, and so are a returned thread and its monitor.  The other fields say that
thread numbers are not used twice. -/
structure Monitored (advance : τ → (op : S.Op) → Except ε (S.Ans op) → τ) (unseen : τ)
    (Φ : κ → τ → Program S ε α → Prop) (c : Config S ε α σ κ) : Prop where
  live : ∀ i thread, c.threads i = some thread →
    Φ thread.role (observed advance unseen i c.history) thread.body
  returned : ∀ i role result, .returned i role result ∈ c.history →
    Φ role (observed advance unseen i c.history) (.done result)
  gone : ∀ i role result, .returned i role result ∈ c.history →
    i < c.count ∧ c.threads i = none
  fresh : ∀ i, c.count ≤ i →
    c.threads i = none ∧ observed advance unseen i c.history = unseen

/-- Placing a related program keeps the relation, where `c` differs from a
monitored configuration in the history of thread `i` only. -/
theorem Monitored.place {c : Config S ε α σ κ} {i : ℕ} {role : κ}
    {body : Program S ε α} (used : i < c.count)
    (related : Φ role (observed advance unseen i c.history) body)
    (live : ∀ j thread, j ≠ i → c.threads j = some thread →
      Φ thread.role (observed advance unseen j c.history) thread.body)
    (returned : ∀ j role result, .returned j role result ∈ c.history → j ≠ i ∧
      j < c.count ∧ c.threads j = none ∧
      Φ role (observed advance unseen j c.history) (.done result))
    (fresh : ∀ j, c.count ≤ j →
      c.threads j = none ∧ observed advance unseen j c.history = unseen) :
    Monitored advance unseen Φ (c.place i role body) := by
  have others : ∀ j, j ≠ i → (c.place i role body).threads j = c.threads j :=
    fun j different => Config.place_threads_of_ne _ _ _ different
  refine ⟨?_, ?_, ?_, ?_⟩
  · intro j thread isLive
    rw [observed_place]
    by_cases same : j = i
    · subst same
      obtain ⟨rfl, rfl⟩ := Config.place_threads_self _ _ _ _ isLive
      exact related
    · rw [others j same] at isLive
      exact live j thread same isLive
  · intro j role' result member
    rw [observed_place]
    cases body with
    | call op next => exact (returned j role' result member).2.2.2
    | done ended =>
        rcases List.mem_cons.mp member with same | earlier
        · obtain ⟨rfl, rfl, rfl⟩ := Event.returned.inj same
          exact related
        · exact (returned j role' result earlier).2.2.2
  · intro j role' result member
    rw [Config.place_count]
    cases body with
    | call op next =>
        obtain ⟨different, known, none, -⟩ := returned j role' result member
        exact ⟨known, (others j different).trans none⟩
    | done ended =>
        rcases List.mem_cons.mp member with same | earlier
        · obtain ⟨rfl, -, -⟩ := Event.returned.inj same
          exact ⟨used, by simp [Config.place]⟩
        · obtain ⟨different, known, none, -⟩ := returned j role' result earlier
          exact ⟨known, (others j different).trans none⟩
  · intro j unused
    rw [Config.place_count] at unused
    rw [observed_place, others j (by omega)]
    exact fresh j unused

/-- **Monitors.**  If `Φ` relates every new program to the unseen monitor, and
each answer keeps the relation, then it relates every live thread, and every
thread that has returned, to what its monitor has seen. -/
theorem Reach.monitored (advance : τ → (op : S.Op) → Except ε (S.Ans op) → τ) (unseen : τ)
    (Φ : κ → τ → Program S ε α → Prop) {store : σ}
    (starts : ∀ role s body, m.start role s = some body → Φ role unseen body)
    (follows : ∀ role x op next world i s answer t, Φ role x (.call op next) →
      m.exec world i op s = some (answer, t) → Φ role (advance x op answer) (next answer))
    {c : Config S ε α σ κ} (reached : m.Reach ok (.initial store) c) :
    Monitored advance unseen Φ c := by
  induction reached with
  | refl =>
      refine ⟨?_, ?_, ?_, fun i _ => ⟨rfl, rfl⟩⟩
      · intro i thread live
        cases live
      · intro i role result member
        cases member
      · intro i role result member
        cases member
  | @next c c' label _ _ moved ih =>
      cases label with
      | spawn role =>
          obtain ⟨body, started, rfl⟩ := next_spawn_eq moved
          -- A new thread has answered nothing, so its monitor is the unseen one.
          have known : ∀ j role' result,
              .returned j role' result ∈ .started c.count role :: c.history →
              .returned j role' result ∈ c.history := by
            intro j role' result member
            simpa using member
          refine Monitored.place (Nat.lt_succ_self _) ?_ ?_ ?_ ?_
          · have := starts role c.store body started
            rwa [← (ih.fresh c.count (Nat.le_refl _)).2] at this
          · exact fun j thread _ live => ih.live j thread live
          · intro j role' result member
            have old := known j role' result member
            obtain ⟨used, none⟩ := ih.gone j role' result old
            exact ⟨Nat.ne_of_lt used, Nat.lt_succ_of_lt used, none,
              ih.returned j role' result old⟩
          · exact fun j unused => ih.fresh j (Nat.le_of_succ_le unused)
      | step i world =>
          obtain ⟨mover, answer, store, moverLive, executed, rfl⟩ := next_step_eq moved
          have used : i < c.count := by
            by_contra unused
            rw [(ih.fresh i (Nat.le_of_not_lt unused)).1] at moverLive
            cases moverLive
          -- An answer moves the mover's monitor and nobody else's.
          have seen : ∀ j, j ≠ i → observed advance unseen j
              (.answered i mover.op answer :: c.history) =
                observed advance unseen j c.history := by
            intro j different
            simp [observed, Ne.symm different]
          refine Monitored.place used ?_ ?_ ?_ ?_
          · have := follows _ _ _ _ world i _ answer store (ih.live i mover moverLive) executed
            simpa [observed] using this
          · intro j thread different live
            rw [seen j different]
            exact ih.live j thread live
          · intro j role' result member
            have old : .returned j role' result ∈ c.history := by simpa using member
            obtain ⟨known, none⟩ := ih.gone j role' result old
            -- Who has returned is not live, so it is not the mover.
            have different : j ≠ i := by
              rintro rfl
              rw [none] at moverLive
              cases moverLive
            rw [seen j different]
            exact ⟨different, known, none, ih.returned j role' result old⟩
          · intro j unused
            have different : j ≠ i := by
              have : c.count ≤ j := unused
              omega
            rw [seen j different]
            exact ih.fresh j unused
      | kill i =>
          obtain ⟨_, _, rfl⟩ := next_kill_eq moved
          -- A kill is not an answer: no monitor moves, and one thread less is live.
          refine ⟨?_, ?_, ?_, ?_⟩
          · intro j thread live
            by_cases same : j = i
            · subst same
              simp at live
            · simp only [Function.update_of_ne same] at live
              exact ih.live j thread live
          · intro j role result member
            exact ih.returned j role result (by simpa using member)
          · intro j role result member
            obtain ⟨known, none⟩ := ih.gone j role result (by simpa using member)
            refine ⟨known, ?_⟩
            by_cases same : j = i
            · subst same
              exact Function.update_self _ _ _
            · exact (Function.update_of_ne same _ _).trans none
          · intro j unused
            obtain ⟨none, unseen⟩ := ih.fresh j unused
            refine ⟨?_, unseen⟩
            by_cases same : j = i
            · subst same
              exact Function.update_self _ _ _
            · exact (Function.update_of_ne same _ _).trans none
      | env move =>
          obtain rfl := next_env_eq moved
          exact ⟨ih.live, ih.returned, ih.gone, ih.fresh⟩

end Monitor

/-- If every program a role can start with issues only operations of `P`, so
does the rest of every live thread of that role. -/
theorem Reach.only {R : (op : S.Op) → Except ε (S.Ans op) → Prop} {P : κ → S.Op → Prop}
    {store : σ} (starts : ∀ role s body, m.start role s = some body → body.Only R (P role))
    (answers : ∀ world i op s answer t, m.exec world i op s = some (answer, t) → R op answer)
    {c : Config S ε α σ κ} (reached : m.Reach ok (.initial store) c) {i : ℕ}
    {thread : Thread S ε α κ} (live : c.threads i = some thread) :
    thread.body.Only R (P thread.role) :=
  (reached.monitored (fun _ _ _ => ()) () (fun role _ body => body.Only R (P role)) starts
    (fun _ _ op _ world i s answer t related executed =>
      related.2 answer (answers world i op s answer t executed))).live i thread live

end Machine

end DicePipeline.Interaction
