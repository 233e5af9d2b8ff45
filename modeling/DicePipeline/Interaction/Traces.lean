import DicePipeline.Interaction.Concurrent

/-!
# What a thread has seen so far

`Program.Only` bounds the operations of a program by the operation alone.  Many
facts about a program speak of its past: an operation carries the answer of an
earlier one, or is issued once, or only after a certain answer.

`Program.Tracks` carries such a past along.  A *trace* is a summary of the
answers received so far, moved on by `advance` at every answer; the program may
issue the operations `P` allows after its trace, and ends in a result that `Q`
allows after its trace.  No store appears in it, so the others cannot interfere
and there is nothing to be stable.  `Reach.tracked` says that the threads of a
machine follow it, with the trace read off the history (`Machine.observed`).
-/

namespace DicePipeline.Interaction

namespace Program

variable {S : Signature} {ε α β τ : Type}
variable {advance : τ → (op : S.Op) → Except ε (S.Ans op) → τ}
variable {R : (op : S.Op) → Except ε (S.Ans op) → Prop} {P : τ → S.Op → Prop}

/-- As long as every operation answers as `R` promises, each operation is one
that `P` allows after the trace so far, and the result is one that `Q` allows. -/
def Tracks (advance : τ → (op : S.Op) → Except ε (S.Ans op) → τ)
    (R : (op : S.Op) → Except ε (S.Ans op) → Prop) (P : τ → S.Op → Prop)
    (Q : τ → Except ε α → Prop) : Program S ε α → τ → Prop
  | .done result, x => Q x result
  | .call op next, x =>
      P x op ∧ ∀ answer, R op answer → (next answer).Tracks advance R P Q (advance x op answer)

theorem Tracks.mono {Q Q' : τ → Except ε α → Prop} {p : Program S ε α} {x : τ}
    (tracked : p.Tracks advance R P Q x) (imp : ∀ y r, Q y r → Q' y r) :
    p.Tracks advance R P Q' x := by
  induction p generalizing x with
  | done result => exact imp x result tracked
  | call op next ih =>
      exact ⟨tracked.1, fun answer promised => ih answer (tracked.2 answer promised)⟩

/-- Every program tracks what is always true. -/
theorem tracks_of_forall {Q : τ → Except ε α → Prop} {p : Program S ε α} {x : τ}
    (allowed : ∀ y op, P y op) (any : ∀ y r, Q y r) : p.Tracks advance R P Q x := by
  induction p generalizing x with
  | done result => exact any x result
  | call op next ih => exact ⟨allowed x op, fun answer _ => ih answer⟩

theorem Tracks.weaken {P' : τ → S.Op → Prop} {Q : τ → Except ε α → Prop}
    {p : Program S ε α} {x : τ} (tracked : p.Tracks advance R P Q x)
    (imp : ∀ y op, P y op → P' y op) : p.Tracks advance R P' Q x := by
  induction p generalizing x with
  | done result => exact tracked
  | call op next ih =>
      exact ⟨imp x op tracked.1, fun answer promised => ih answer (tracked.2 answer promised)⟩

theorem Tracks.bind {M : τ → Except ε α → Prop} {Q : τ → Except ε β → Prop}
    {p : Program S ε α} {f : α → Program S ε β} {x : τ}
    (first : p.Tracks advance R P M x)
    (returned : ∀ value y, M y (.ok value) → (f value).Tracks advance R P Q y)
    (raised : ∀ exc y, M y (.error exc) → Q y (.error exc)) :
    (p.bind f).Tracks advance R P Q x := by
  induction p generalizing x with
  | done result =>
      cases result with
      | ok value => exact returned value x first
      | error exc => exact raised exc x first
  | call op next ih =>
      exact ⟨first.1, fun answer promised => ih answer (first.2 answer promised)⟩

theorem Tracks.attempt {Q : τ → Except ε (Except ε α) → Prop} {p : Program S ε α} {x : τ}
    (tracked : p.Tracks advance R P (fun y r => Q y (.ok r)) x) :
    p.attempt.Tracks advance R P Q x := by
  induction p generalizing x with
  | done result => exact tracked
  | call op next ih =>
      exact ⟨tracked.1, fun answer promised => ih answer (tracked.2 answer promised)⟩

/-- Each way `p` can end has its own continuation, and no exception is left over. -/
theorem Tracks.attempt_bind {M : τ → Except ε α → Prop} {Q : τ → Except ε β → Prop}
    {p : Program S ε α} {f : Except ε α → Program S ε β} {x : τ}
    (first : p.Tracks advance R P M x)
    (rest : ∀ r y, M y r → (f r).Tracks advance R P Q y) :
    (p.attempt.bind f).Tracks advance R P Q x := by
  refine Tracks.bind (M := fun y r => ∃ inner, r = .ok inner ∧ M y inner)
    (Tracks.attempt (first.mono fun y r h => ⟨r, rfl, h⟩)) ?_ ?_
  · rintro inner y ⟨_, ⟨⟩, h⟩
    exact rest inner y h
  · rintro exc y ⟨_, impossible, -⟩
    cases impossible

/-- **The frame rule of an operation class.**  What every operation of `C` keeps of
the trace, a program that issues only operations of `C` keeps. -/
theorem Only.tracks {C : S.Op → Prop} {I : τ → Prop} {p : Program S ε α} {x : τ}
    (inClass : p.Only R C) (before : I x)
    (keep : ∀ y op, I y → C op → P y op ∧ ∀ answer, R op answer → I (advance y op answer)) :
    p.Tracks advance R P (fun y _ => I y) x := by
  induction p generalizing x with
  | done result => exact before
  | call op next ih =>
      obtain ⟨allowed, kept⟩ := keep x op before inClass.1
      exact ⟨allowed, fun answer promised =>
        ih answer (inClass.2 answer promised) (kept answer promised)⟩

theorem Tracks.ite {c : Prop} [Decidable c] {Q : τ → Except ε α → Prop} {p q : Program S ε α}
    {x : τ} (yes : c → p.Tracks advance R P Q x) (no : ¬ c → q.Tracks advance R P Q x) :
    (if c then p else q).Tracks advance R P Q x := by
  split
  · exact yes ‹_›
  · exact no ‹_›

/-- One operation, with what it promises known afterwards. -/
theorem Tracks.perform {op : S.Op} {Q : τ → Except ε (S.Ans op) → Prop} {x : τ}
    (allowed : P x op) (answered : ∀ answer, R op answer → Q (advance x op answer) answer) :
    (Program.perform op).Tracks advance R P Q x :=
  ⟨allowed, answered⟩

/-- An operation that does not raise, and what follows its answer. -/
theorem Tracks.perform_bind {op : S.Op} {f : S.Ans op → Program S ε β}
    {Q : τ → Except ε β → Prop} {x : τ} (allowed : P x op)
    (silent : ∀ exc, ¬ R op (.error exc))
    (returned : ∀ value, R op (.ok value) →
      (f value).Tracks advance R P Q (advance x op (.ok value))) :
    ((Program.perform op).bind f).Tracks advance R P Q x := by
  refine ⟨allowed, fun answer promised => ?_⟩
  cases answer with
  | ok value => exact returned value promised
  | error exc => exact absurd promised (silent exc)

end Program

namespace Machine

variable {S : Signature} {ε α σ κ ω η τ : Type} {m : Machine S ε α σ κ ω η}
variable {ok : Config S ε α σ κ → Label κ ω η → Prop}

/-- **Threads follow their programs.**  What every program of a role tracks, the
live threads and the returned ones of that role track, from the trace the
history gives them. -/
theorem Reach.tracked (advance : τ → (op : S.Op) → Except ε (S.Ans op) → τ) (unseen : τ)
    (R : (op : S.Op) → Except ε (S.Ans op) → Prop) (P : κ → τ → S.Op → Prop)
    (Q : κ → τ → Except ε α → Prop) {store : σ}
    (starts : ∀ role s body, m.start role s = some body →
      body.Tracks advance R (P role) (Q role) unseen)
    (answers : ∀ world i op s answer t, m.exec world i op s = some (answer, t) → R op answer)
    {c : Config S ε α σ κ} (reached : m.Reach ok (.initial store) c) :
    Monitored advance unseen
      (fun role x body => body.Tracks advance R (P role) (Q role) x) c :=
  reached.monitored advance unseen _ starts fun _ _ op _ world i s answer t tracked executed =>
    tracked.2 answer (answers world i op s answer t executed)

/-- **What a store and a trace have in common.**  A relation between the store and
the trace of one thread holds in every reachable configuration if the thread's
own steps keep it, moving both, and what the others do keeps it, moving the store
alone. -/
theorem Reach.witnessed (advance : τ → (op : S.Op) → Except ε (S.Ans op) → τ) (unseen : τ)
    (I : ℕ → σ → τ → Prop) {store : σ} (initial : ∀ i, I i store unseen)
    (own : ∀ c i world thread answer t, m.Reach ok (.initial store) c →
      c.threads i = some thread → ok c (.step i world) →
      m.exec world i thread.op c.store = some (answer, t) →
      I i c.store (observed advance unseen i c.history) →
        I i t (advance (observed advance unseen i c.history) thread.op answer))
    (others : ∀ c i j world thread answer t x, m.Reach ok (.initial store) c →
      c.threads i = some thread → ok c (.step i world) →
      m.exec world i thread.op c.store = some (answer, t) → j ≠ i →
      I j c.store x → I j t x)
    (crash : ∀ i j s x, I j s x → I j (m.crash i s) x)
    (env : ∀ move j s x, I j s x → I j (m.env move s) x)
    {c : Config S ε α σ κ} (reached : m.Reach ok (.initial store) c) (i : ℕ) :
    I i c.store (observed advance unseen i c.history) := by
  induction reached generalizing i with
  | refl => exact initial i
  | @next c c' label before admitted moved ih =>
      cases label with
      | spawn role =>
          obtain ⟨body, -, rfl⟩ := next_spawn_eq moved
          rw [Config.place_store, observed_place]
          exact ih i
      | step j world =>
          obtain ⟨thread, answer, t, live, executed, rfl⟩ := next_step_eq moved
          rw [Config.place_store, observed_place]
          by_cases same : j = i
          · subst same
            have kept := own c j world thread answer t before live admitted executed (ih j)
            simpa [observed] using kept
          · have kept := others c j i world thread answer t _ before live admitted executed
              (Ne.symm same) (ih i)
            simpa [observed, same] using kept
      | kill j =>
          obtain ⟨thread, -, rfl⟩ := next_kill_eq moved
          exact crash j i c.store _ (ih i)
      | env move =>
          obtain rfl := next_env_eq moved
          exact env move i c.store _ (ih i)

/-- **The store and the traces of its threads.**  An invariant of the store, and a
relation between the store and the trace of each thread, where each is kept with
the help of the other. -/
theorem Reach.accompanied (advance : τ → (op : S.Op) → Except ε (S.Ans op) → τ) (unseen : τ)
    (J : σ → Prop) (I : σ → τ → Prop) {store : σ} (initial : J store) (first : I store unseen)
    (own : ∀ c i world thread answer t, m.Reach ok (.initial store) c →
      c.threads i = some thread → ok c (.step i world) →
      m.exec world i thread.op c.store = some (answer, t) → J c.store →
      I c.store (observed advance unseen i c.history) →
        J t ∧ I t (advance (observed advance unseen i c.history) thread.op answer))
    (others : ∀ c i world thread answer t x, m.Reach ok (.initial store) c →
      c.threads i = some thread → ok c (.step i world) →
      m.exec world i thread.op c.store = some (answer, t) → J c.store → I c.store x → I t x)
    (crash : ∀ i s, J s → J (m.crash i s) ∧ ∀ x, I s x → I (m.crash i s) x)
    (env : ∀ move s, J s → J (m.env move s) ∧ ∀ x, I s x → I (m.env move s) x)
    {c : Config S ε α σ κ} (reached : m.Reach ok (.initial store) c) :
    J c.store ∧ ∀ i, I c.store (observed advance unseen i c.history) := by
  induction reached with
  | refl => exact ⟨initial, fun _ => first⟩
  | @next c c' label before admitted moved ih =>
      obtain ⟨inv, related⟩ := ih
      cases label with
      | spawn role =>
          obtain ⟨body, -, rfl⟩ := next_spawn_eq moved
          rw [Config.place_store]
          refine ⟨inv, fun i => ?_⟩
          rw [observed_place]
          exact related i
      | step j world =>
          obtain ⟨thread, answer, t, live, executed, rfl⟩ := next_step_eq moved
          obtain ⟨kept, mine⟩ :=
            own c j world thread answer t before live admitted executed inv (related j)
          rw [Config.place_store]
          refine ⟨kept, fun i => ?_⟩
          rw [observed_place]
          by_cases same : j = i
          · subst same
            simpa [observed] using mine
          · have theirs := others c j world thread answer t _ before live admitted executed inv
              (related i)
            simpa [observed, same] using theirs
      | kill j =>
          obtain ⟨thread, -, rfl⟩ := next_kill_eq moved
          obtain ⟨kept, theirs⟩ := crash j c.store inv
          exact ⟨kept, fun i => theirs _ (related i)⟩
      | env move =>
          obtain rfl := next_env_eq moved
          obtain ⟨kept, theirs⟩ := env move c.store inv
          exact ⟨kept, fun i => theirs _ (related i)⟩

/-- **What returned threads established.**  A safe thread ends in its
postcondition, so what every postcondition says of the result alone is true of
every result in the history. -/
theorem Reach.returned {d : Discipline S ε α σ κ} {Inv : Config S ε α σ κ → Prop}
    (sound : m.Sound ok d Inv) {store : σ} (initial : Inv (.initial store))
    {Post : κ → Except ε α → Prop}
    (ends : ∀ i role result s, d.post i role result s → Post role result)
    {c : Config S ε α σ κ} (reached : m.Reach ok (.initial store) c) :
    ∀ i role result, .returned i role result ∈ c.history → Post role result := by
  -- A body that is placed and has ended establishes its postcondition; others return as before.
  have placed : ∀ (e : Config S ε α σ κ) i role (body : Program S ε α),
      body.Safe (d.env i role) (d.post i role) e.store →
      (∀ j role' result, .returned j role' result ∈ e.history → Post role' result) →
      ∀ j role' result, .returned j role' result ∈ (e.place i role body).history →
        Post role' result := by
    intro e i role body safe old j role' result member
    cases body with
    | call op next => exact old j role' result member
    | done ended =>
        rcases List.mem_cons.mp member with same | earlier
        · cases same
          exact ends _ _ _ _ safe
        · exact old j role' result earlier
  induction reached with
  | refl => exact fun i role result member => nomatch member
  | @next c c' label before admitted moved ih =>
      obtain ⟨inv, holds⟩ := before.safe sound initial (d.holds_initial store)
      cases label with
      -- The new body is safe because its role starts so, the mover's rest because it was safe.
      | spawn role =>
          obtain ⟨body, started, rfl⟩ := next_spawn_eq moved
          have safe : body.Safe (d.env c.count role) (d.post c.count role)
              { c with
                count := c.count + 1
                history := .started c.count role :: c.history }.store :=
            sound.spawn c role body inv admitted started
          refine placed _ _ _ _ safe ?_
          exact fun j role result member => ih j role result (by simpa using member)
      | step i world =>
          obtain ⟨thread, answer, store, live, executed, rfl⟩ := next_step_eq moved
          have covered := sound.covers c i world thread answer store inv live admitted executed
          have safe : (thread.next answer).Safe (d.env i thread.role) (d.post i thread.role)
              { c with
                store
                history := .answered i thread.op answer :: c.history }.store :=
            (holds i thread live c.store ((d.env i thread.role).rely_refl _) answer store
              covered).2
          refine placed _ _ _ _ safe ?_
          exact fun j role result member => ih j role result (by simpa using member)
      | kill i =>
          obtain ⟨thread, -, rfl⟩ := next_kill_eq moved
          exact fun j role result member => ih j role result (by simpa using member)
      | env move =>
          obtain rfl := next_env_eq moved
          exact ih

/-- A live thread has been started in its role. -/
theorem Reach.started {store : σ} {c : Config S ε α σ κ} (reached : m.Reach ok (.initial store) c) :
    ∀ i thread, c.threads i = some thread → .started i thread.role ∈ c.history := by
  have placed : ∀ (d : Config S ε α σ κ) (i : ℕ) (role : κ) (body : Program S ε α),
      .started i role ∈ d.history →
      (∀ j thread, j ≠ i → d.threads j = some thread → .started j thread.role ∈ d.history) →
      ∀ j thread, (d.place i role body).threads j = some thread →
        .started j thread.role ∈ (d.place i role body).history := by
    intro d i role body mine others j thread live
    by_cases same : j = i
    · subst same
      rw [(Config.place_threads_self _ _ _ _ live).1]
      exact Config.mem_place_history _ _ _ _ mine
    · rw [Config.place_threads_of_ne _ _ _ same] at live
      exact Config.mem_place_history _ _ _ _ (others j thread same live)
  induction reached with
  | refl => exact fun i thread live => nomatch live
  | @next c c' label _ _ moved ih =>
      cases label with
      | spawn role =>
          obtain ⟨body, -, rfl⟩ := next_spawn_eq moved
          exact placed _ _ _ _ List.mem_cons_self fun j thread _ live =>
            List.mem_cons_of_mem _ (ih j thread live)
      | step i world =>
          obtain ⟨thread, answer, t, live, -, rfl⟩ := next_step_eq moved
          exact placed _ _ _ _ (List.mem_cons_of_mem _ (ih i thread live)) fun j other _ isLive =>
            List.mem_cons_of_mem _ (ih j other isLive)
      | kill i =>
          obtain ⟨victim, -, rfl⟩ := next_kill_eq moved
          intro j thread live
          by_cases same : j = i
          · subst same
            simp at live
          · simp only [Function.update_of_ne same] at live
            exact List.mem_cons_of_mem _ (ih j thread live)
      | env move =>
          obtain rfl := next_env_eq moved
          exact ih

/-- **What a role needs to start stays true** of its live threads, if whatever happens
keeps it. -/
theorem Reach.standing (P : κ → σ → Prop)
    (starts : ∀ role s body, m.start role s = some body → P role s)
    (keeps : ∀ c label c' role, ok c label → m.next c label = some c' → P role c.store →
      P role c'.store) {store : σ} {c : Config S ε α σ κ}
    (reached : m.Reach ok (.initial store) c) :
    ∀ i thread, c.threads i = some thread → P thread.role c.store := by
  induction reached with
  | refl => exact fun i thread live => nomatch live
  | @next c c' label _ admitted moved ih =>
      have kept : ∀ role, P role c.store → P role c'.store :=
        fun role => keeps c label c' role admitted moved
      cases label with
      | spawn role =>
          obtain ⟨body, started, rfl⟩ := next_spawn_eq moved
          intro i thread live
          by_cases same : i = c.count
          · subst same
            rw [(Config.place_threads_self _ _ _ _ live).1]
            exact kept role (starts role c.store body started)
          · rw [Config.place_threads_of_ne _ _ _ same] at live
            exact kept _ (ih i thread live)
      | step j world =>
          obtain ⟨mover, answer, t, moverLive, -, rfl⟩ := next_step_eq moved
          intro i thread live
          by_cases same : i = j
          · subst same
            rw [(Config.place_threads_self _ _ _ _ live).1]
            exact kept _ (ih i mover moverLive)
          · rw [Config.place_threads_of_ne _ _ _ same] at live
            exact kept _ (ih i thread live)
      | kill j =>
          obtain ⟨victim, -, rfl⟩ := next_kill_eq moved
          intro i thread live
          by_cases same : i = j
          · subst same
            simp at live
          · simp only [Function.update_of_ne same] at live
            exact kept _ (ih i thread live)
      | env move =>
          obtain rfl := next_env_eq moved
          exact fun i thread live => kept _ (ih i thread live)

/-- The threads that have been started in a role, newest first. -/
def startedIn [DecidableEq κ] (role : κ) : List (Event S ε α κ) → List ℕ
  | [] => []
  | .started i other :: earlier =>
      if other = role then i :: startedIn role earlier else startedIn role earlier
  | .answered _ _ _ :: earlier => startedIn role earlier
  | .returned _ _ _ :: earlier => startedIn role earlier
  | .killed _ :: earlier => startedIn role earlier

theorem mem_startedIn [DecidableEq κ] {role : κ} {i : ℕ} {history : List (Event S ε α κ)} :
    i ∈ startedIn role history ↔ .started i role ∈ history := by
  induction history with
  | nil => simp [startedIn]
  | cons event earlier ih =>
      cases event with
      | started j other =>
          by_cases same : other = role
          · subst same
            simp [startedIn, ih]
          · simp [startedIn, ih, same, Ne.symm same]
      | _ => simp [startedIn, ih]

/-- Going on starts nothing. -/
@[simp] theorem startedIn_place [DecidableEq κ] {role : κ} (c : Config S ε α σ κ) (i : ℕ)
    (other : κ) (body : Program S ε α) :
    startedIn role (c.place i other body).history = startedIn role c.history := by
  cases body <;> rfl

/-- The history of a run extends the history it started from. -/
theorem Reach.history_suffix {origin c : Config S ε α σ κ} (reached : m.Reach ok origin c) :
    ∃ recent, c.history = recent ++ origin.history := by
  have placed : ∀ (d : Config S ε α σ κ) i role (body : Program S ε α),
      ∃ recent, (d.place i role body).history = recent ++ d.history := by
    intro d i role body
    cases body with
    | done result => exact ⟨[_], rfl⟩
    | call op next => exact ⟨[], rfl⟩
  induction reached with
  | refl => exact ⟨[], rfl⟩
  | @next c c' label _ _ moved ih =>
      obtain ⟨recent, same⟩ := ih
      cases label with
      | spawn role =>
          obtain ⟨body, -, rfl⟩ := next_spawn_eq moved
          obtain ⟨more, placed⟩ := placed { c with
            count := c.count + 1
            history := .started c.count role :: c.history } c.count role body
          exact ⟨more ++ .started c.count role :: recent, by rw [placed]; simp [same]⟩
      | step i world =>
          obtain ⟨thread, answer, store, -, -, rfl⟩ := next_step_eq moved
          obtain ⟨more, placed⟩ := placed { c with
            store
            history := .answered i thread.op answer :: c.history } i thread.role
              (thread.next answer)
          exact ⟨more ++ .answered i thread.op answer :: recent, by rw [placed]; simp [same]⟩
      | kill i =>
          obtain ⟨thread, -, rfl⟩ := next_kill_eq moved
          exact ⟨.killed i :: recent, by simp [same]⟩
      | env move =>
          obtain rfl := next_env_eq moved
          exact ⟨recent, same⟩

end Machine

end DicePipeline.Interaction
