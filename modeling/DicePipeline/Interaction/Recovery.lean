import Mathlib.Data.List.Induction
import Mathlib.Data.Nat.Notation
import DicePipeline.Interaction.Guarantee

/-!
# Runs that may be killed, and their redelivery

At-least-once delivery runs one program again and again over a store that
survives.  A run may be stopped before any of its operations, the next run
starts from the store it left, and in between (and between two operations of a
run) the rely may change the store.

* `Reaches p s q t`: running `p` from `s` may arrive at the rest program `q`
  and the store `t`.
* `Returns p s r t`: it may end there with `r`.
* `Deliveries body s₀ ks s`: after delivering `body` any number of times from
  `s₀`, where the runs were stopped at the stores `ks`, the store is `s`.

`Deliveries.invariant` is the induction over such a history.  It separates what
holds *between* runs from what holds at every point *inside* a run: a run may
break the invariant for a while, and then a stop at that point has to be
excluded, or shown to be harmless, by its caller.
-/

namespace DicePipeline.Interaction

variable {S : Signature} {ε α σ : Type}

/-- Whether a program has ended. -/
def Program.isDone : Program S ε α → Bool
  | .done _ => true
  | .call _ _ => false

namespace Environment

/-- Running `p` from `s`, with the rely in between, may arrive at `q` and `t`. -/
inductive Reaches (E : Environment S ε σ) :
    Program S ε α → σ → Program S ε α → σ → Prop
  | refl (p : Program S ε α) (s : σ) : Reaches E p s p s
  | rely {p q : Program S ε α} {s t u : σ} :
      E.rely s t → Reaches E p t q u → Reaches E p s q u
  | op {op : S.Op} {next : Except ε (S.Ans op) → Program S ε α}
      {q : Program S ε α} {r : Except ε (S.Ans op)} {s t u : σ} :
      E.step op s r t → Reaches E (next r) t q u →
        Reaches E (.call op next) s q u

/-- Delivering `body` repeatedly from `start`: `stops` are the stores at which
the runs were stopped, oldest first. -/
inductive Deliveries (E : Environment S ε σ) (body : Program S ε α)
    (start : σ) : List σ → σ → Prop
  | start : Deliveries E body start [] start
  | idle {stops : List σ} {s t : σ} :
      Deliveries E body start stops s → E.rely s t →
        Deliveries E body start stops t
  | stopped {stops : List σ} {s t : σ} {rest : Program S ε α} :
      Deliveries E body start stops s → Reaches E body s rest t →
        Deliveries E body start (stops ++ [t]) t

variable {E : Environment S ε σ} {p q : Program S ε α} {s t : σ}
variable {Q : Except ε α → σ → Prop} {Mid : σ → Prop}

theorem Reaches.trans {r : Program S ε α} {u : σ} (first : E.Reaches p s q t)
    (second : E.Reaches q t r u) : E.Reaches p s r u := by
  induction first with
  | refl p s => exact second
  | rely move _ ih => exact .rely move (ih second)
  | op move _ ih => exact .op move (ih second)

/-- The rest of a safe run is safe. -/
theorem Reaches.safe (reaches : E.Reaches p s q t) (safe : p.Safe E Q s)
    (stable : ∀ r, E.Stable (Q r)) : q.Safe E Q t := by
  induction reaches with
  | refl p s => exact safe
  | rely move _ ih => exact ih (safe.stable stable move)
  | @op op next q r s t u move _ ih =>
      exact ih (safe s (E.rely_refl s) r t move).2

/-- What every operation keeps holds at every point a run can reach. -/
theorem Reaches.midway (reaches : E.Reaches p s q t) (safe : p.Safe E Q s)
    (stable : ∀ r, E.Stable (Q r)) (stableMid : E.Stable Mid)
    (kept : ∀ s t, Mid s → E.guarantee s t → Mid t) (start : Mid s) : Mid t := by
  induction reaches with
  | refl p s => exact start
  | @rely p q s t u move _ ih =>
      exact ih (safe.stable stable move) (stableMid s t start move)
  | @op op next q r s t u move _ ih =>
      obtain ⟨promised, rest⟩ := safe s (E.rely_refl s) r t move
      exact ih rest (kept s t start promised)

/-- The same environment, asking another promise of the thread. -/
def promising (E : Environment S ε σ) (guarantee : σ → σ → Prop) : Environment S ε σ :=
  { E with guarantee := guarantee }

/-- What is promised of a run does not change where it may arrive. -/
theorem Reaches.promising (reaches : E.Reaches p s q t) (guarantee : σ → σ → Prop) :
    (E.promising guarantee).Reaches p s q t := by
  induction reaches with
  | refl p s => exact .refl p s
  | rely move _ ih => exact .rely move ih
  | op move _ ih => exact .op move ih

/-! ## Runs that end -/

/-- Running `p` from `s` may end with `r` and leave `t`. -/
def Returns (E : Environment S ε σ) (p : Program S ε α) (s : σ) (r : Except ε α) (t : σ) : Prop :=
  E.Reaches p s (.done r) t

variable {β : Type} {r : Except ε α}

/-- What a safe run ends with. -/
theorem Returns.safe (returns : E.Returns p s r t) (safe : p.Safe E Q s)
    (stable : ∀ r, E.Stable (Q r)) : Q r t :=
  Reaches.safe returns safe stable

theorem Returns.done : E.Returns (.done r : Program S ε α) s r s := .refl _ _

theorem Returns.perform {op : S.Op} {r : Except ε (S.Ans op)} (step : E.step op s r t) :
    E.Returns (Program.perform op) s r t := .op step (.refl _ _)

theorem Reaches.bind (first : E.Reaches p s q t) (f : α → Program S ε β) :
    E.Reaches (p.bind f) s (q.bind f) t := by
  induction first with
  | refl p s => exact .refl _ _
  | rely move _ ih => exact .rely move ih
  | op move _ ih => exact .op move ih

theorem Reaches.attempt (first : E.Reaches p s q t) : E.Reaches p.attempt s q.attempt t := by
  induction first with
  | refl p s => exact .refl _ _
  | rely move _ ih => exact .rely move ih
  | op move _ ih => exact .op move ih

/-- The continuation of a program that has returned. -/
theorem Returns.bind (value : α) {f : α → Program S ε β} {r : Except ε β} {u : σ}
    (first : E.Returns p s (.ok value) t) (second : E.Returns (f value) t r u) :
    E.Returns (p.bind f) s r u :=
  (Reaches.bind first f).trans second

/-- A program that has raised has no continuation. -/
theorem Returns.bind_error {exc : ε} (first : E.Returns p s (.error exc) t)
    (f : α → Program S ε β) : E.Returns (p.bind f) s (.error exc) t :=
  Reaches.bind first f

/-- The continuation of an attempt, however it ended. -/
theorem Returns.attempt_bind {f : Except ε α → Program S ε β} {r' : Except ε β} {u : σ}
    (first : E.Returns p s r t) (second : E.Returns (f r) t r' u) :
    E.Returns (p.attempt.bind f) s r' u :=
  Returns.bind r (Reaches.attempt first) second

/-! ## Histories of redelivery -/

/-- **Invariants of redelivery.**  `Inv` holds between runs and `Mid` at every
point inside one.  If each stop happened where `Mid` is already `Inv` again,
then every store of the history satisfies `Inv`. -/
theorem Deliveries.invariant {body : Program S ε α} {start : σ}
    {stops : List σ} (Inv Mid : σ → Prop)
    (deliveries : E.Deliveries body start stops s)
    (safe : ∀ s, Inv s → body.Safe E Q s) (stable : ∀ r, E.Stable (Q r))
    (stableInv : E.Stable Inv) (stableMid : E.Stable Mid)
    (kept : ∀ s t, Mid s → E.guarantee s t → Mid t) (weaken : ∀ s, Inv s → Mid s)
    (settled : ∀ t ∈ stops, Mid t → Inv t) (initial : Inv start) : Inv s := by
  induction deliveries with
  | start => exact initial
  | @idle stops s t _ move ih => exact stableInv s t (ih settled) move
  | @stopped stops s t rest _ reaches ih =>
      have before : Inv s := ih fun u hu => settled u (List.mem_append_left _ hu)
      refine settled t (by simp) ?_
      exact reaches.midway (safe s before) stable stableMid kept (weaken s before)

theorem Deliveries.promising {body : Program S ε α} {start : σ} {stops : List σ}
    (deliveries : E.Deliveries body start stops s) (guarantee : σ → σ → Prop) :
    (E.promising guarantee).Deliveries body start stops s := by
  induction deliveries with
  | start => exact .start
  | idle _ move ih => exact .idle ih move
  | stopped _ reaches ih => exact .stopped ih (reaches.promising guarantee)

/-! ## Replaying a history -/

/-- The first `n` operations of `p`, as `exec` decides them. -/
def runFor (exec : (op : S.Op) → σ → Option (Except ε (S.Ans op) × σ)) :
    ℕ → Program S ε α → σ → Program S ε α × σ
  | 0, p, s => (p, s)
  | _ + 1, .done r, s => (.done r, s)
  | n + 1, .call op next, s =>
      match exec op s with
      | some (r, t) => runFor exec n (next r) t
      | none => (.call op next, s)

/-- One delivery after another, each stopped after so many operations. -/
def deliver (body : Program S ε α)
    (schedule : List (((op : S.Op) → σ → Option (Except ε (S.Ans op) × σ)) × ℕ)) (s : σ) : σ :=
  schedule.foldl (fun s run => (runFor run.1 run.2 body s).2) s

theorem reaches_runFor {exec : (op : S.Op) → σ → Option (Except ε (S.Ans op) × σ)}
    (sound : ∀ op s r t, exec op s = some (r, t) → E.step op s r t) (n : ℕ)
    (p : Program S ε α) (s : σ) : E.Reaches p s (runFor exec n p s).1 (runFor exec n p s).2 := by
  induction n generalizing p s with
  | zero => exact .refl p s
  | succ n ih =>
      cases p with
      | done r => exact .refl _ s
      | call op next =>
          rw [runFor]
          split
          · rename_i r t executed
            exact .op (sound op s r t executed) (ih (next r) t)
          · exact .refl _ s

/-- A replay that ends is a run that ends. -/
theorem exists_returns_runFor {exec : (op : S.Op) → σ → Option (Except ε (S.Ans op) × σ)}
    (sound : ∀ op s r t, exec op s = some (r, t) → E.step op s r t) (n : ℕ)
    (p : Program S ε α) (s : σ) (ended : (runFor exec n p s).1.isDone = true) :
    ∃ r, E.Returns p s r (runFor exec n p s).2 := by
  have reaches := E.reaches_runFor sound n p s
  cases last : (runFor exec n p s).1 with
  | done r =>
      rw [last] at reaches
      exact ⟨r, reaches⟩
  | call op next =>
      rw [last] at ended
      cases ended

/-- **A schedule is a history.** -/
theorem exists_deliveries {body : Program S ε α} {start : σ}
    (schedule : List (((op : S.Op) → σ → Option (Except ε (S.Ans op) × σ)) × ℕ))
    (sound : ∀ run ∈ schedule, ∀ op s r t, run.1 op s = some (r, t) → E.step op s r t) :
    ∃ stops, E.Deliveries body start stops (deliver body schedule start) := by
  induction schedule using List.reverseRecOn with
  | nil => exact ⟨[], .start⟩
  | append_singleton schedule run ih =>
      obtain ⟨stops, deliveries⟩ := ih fun other member => sound other (by simp [member])
      have last := reaches_runFor (sound run (by simp)) run.2 body (deliver body schedule start)
      rw [deliver, List.foldl_append]
      exact ⟨_, .stopped deliveries last⟩

end Environment

end DicePipeline.Interaction
