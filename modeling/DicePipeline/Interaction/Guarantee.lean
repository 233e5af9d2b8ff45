import DicePipeline.Interaction.Program

/-!
# Rely/guarantee judgements for programs

A thread does not run alone: between any two of its operations other threads
may change the shared state.  An `Environment` says how much.

* `step op s r t`: issued at `s`, the operation may answer `r` and leave `t`.
  It is a relation, so an operation may fail, or answer what the outside world
  chooses, or (when no outcome is related) wait.
* `rely s t`: what the others may do to the state between two operations.
* `guarantee s t`: what this thread promises about each of its own operations.

`Program.Safe E Q p s` reads a program as its weakest precondition under such
an environment.  Every operation that may happen keeps the guarantee, whatever
the rely has done just before it, and the program ends in `Q`.  `Triple` is
the Hoare form of it, and the rules below are the ones a proof about a concrete
program is assembled from.  Only the assertion *before* an operation has to be
stable under the rely; a postcondition does not, since it speaks of the moment
the program ends.
-/

namespace DicePipeline.Interaction

/-- What one thread may observe, must tolerate and has to promise. -/
structure Environment (S : Signature) (ε σ : Type) where
  /-- The outcomes of one operation. -/
  step : (op : S.Op) → σ → Except ε (S.Ans op) → σ → Prop
  /-- What the others may do between two operations. -/
  rely : σ → σ → Prop
  /-- What every operation of this thread keeps. -/
  guarantee : σ → σ → Prop
  rely_refl : ∀ s, rely s s
  rely_trans : ∀ {s t u}, rely s t → rely t u → rely s u

namespace Environment

variable {S : Signature} {ε σ : Type}

/-- The rely cannot falsify `P`. -/
def Stable (E : Environment S ε σ) (P : σ → Prop) : Prop :=
  ∀ s t, P s → E.rely s t → P t

variable {E : Environment S ε σ} {P Q : σ → Prop}

theorem Stable.and (hP : E.Stable P) (hQ : E.Stable Q) :
    E.Stable fun s => P s ∧ Q s :=
  fun s t h rely => ⟨hP s t h.1 rely, hQ s t h.2 rely⟩

theorem Stable.exists {ι : Type} {P : ι → σ → Prop}
    (h : ∀ i, E.Stable (P i)) : E.Stable fun s => ∃ i, P i s := by
  rintro s t ⟨i, hi⟩ rely
  exact ⟨i, h i s t hi rely⟩

theorem Stable.const (p : Prop) : E.Stable fun _ => p := fun _ _ h _ => h

end Environment

namespace Program

variable {S : Signature} {ε α β σ : Type}

/-- **The weakest precondition under interference.**  Every operation the
program may issue keeps the guarantee, and the program ends in `Q`. -/
def Safe (E : Environment S ε σ) (Q : Except ε α → σ → Prop) :
    Program S ε α → σ → Prop
  | .done result, s => Q result s
  | .call op next, s => ∀ t, E.rely s t → ∀ r u, E.step op t r u →
      E.guarantee t u ∧ (next r).Safe E Q u

variable {E : Environment S ε σ}

theorem safe_done {Q : Except ε α → σ → Prop} {result : Except ε α} {s : σ} :
    (done result : Program S ε α).Safe E Q s ↔ Q result s := Iff.rfl

theorem safe_call {Q : Except ε α → σ → Prop} {op : S.Op}
    {next : Except ε (S.Ans op) → Program S ε α} {s : σ} :
    (call op next).Safe E Q s ↔ ∀ t, E.rely s t → ∀ r u, E.step op t r u →
      E.guarantee t u ∧ (next r).Safe E Q u := Iff.rfl

/-- A program that still has an operation to issue tolerates the rely. -/
theorem Safe.of_rely {Q : Except ε α → σ → Prop} {op : S.Op}
    {next : Except ε (S.Ans op) → Program S ε α} {s t : σ}
    (safe : (call op next).Safe E Q s) (rely : E.rely s t) :
    (call op next).Safe E Q t :=
  fun u hu r v hv => safe u (E.rely_trans rely hu) r v hv

/-- With a stable postcondition every program tolerates the rely. -/
theorem Safe.stable {Q : Except ε α → σ → Prop} {p : Program S ε α} {s t : σ}
    (safe : p.Safe E Q s) (stable : ∀ r, E.Stable (Q r)) (rely : E.rely s t) :
    p.Safe E Q t := by
  cases p with
  | done result => exact stable result s t safe rely
  | call op next => exact safe.of_rely rely

theorem Safe.mono {Q Q' : Except ε α → σ → Prop} {p : Program S ε α} {s : σ}
    (safe : p.Safe E Q s) (imp : ∀ r t, Q r t → Q' r t) : p.Safe E Q' s := by
  induction p generalizing s with
  | done result => exact imp result s safe
  | call op next ih =>
      intro t rely r u step
      obtain ⟨kept, rest⟩ := safe t rely r u step
      exact ⟨kept, ih r rest⟩

theorem Safe.bind {M : Except ε α → σ → Prop} {Q : Except ε β → σ → Prop}
    {p : Program S ε α} {f : α → Program S ε β} {s : σ}
    (first : p.Safe E M s)
    (returned : ∀ value t, M (.ok value) t → (f value).Safe E Q t)
    (raised : ∀ exc t, M (.error exc) t → Q (.error exc) t) :
    (p.bind f).Safe E Q s := by
  induction p generalizing s with
  | done result =>
      cases result with
      | ok value => exact returned value s first
      | error exc => exact raised exc s first
  | call op next ih =>
      intro t rely r u step
      obtain ⟨kept, rest⟩ := first t rely r u step
      exact ⟨kept, ih r rest⟩

theorem Safe.attempt {Q : Except ε (Except ε α) → σ → Prop}
    {p : Program S ε α} {s : σ}
    (safe : p.Safe E (fun r t => Q (.ok r) t) s) : p.attempt.Safe E Q s := by
  induction p generalizing s with
  | done result => exact safe
  | call op next ih =>
      intro t rely r u step
      obtain ⟨kept, rest⟩ := safe t rely r u step
      exact ⟨kept, ih r rest⟩

/-! ## Triples -/

/-- From every state of `P`, the program is safe and ends in `Q`. -/
def Triple (E : Environment S ε σ) (P : σ → Prop) (p : Program S ε α)
    (Q : Except ε α → σ → Prop) : Prop :=
  ∀ s, P s → p.Safe E Q s

namespace Triple

variable {P P' : σ → Prop} {p : Program S ε α}

theorem done {Q : Except ε α → σ → Prop} {result : Except ε α}
    (h : ∀ s, P s → Q result s) :
    Triple E P (.done result : Program S ε α) Q := h

theorem conseq {Q Q' : Except ε α → σ → Prop} (h : Triple E P p Q)
    (pre : ∀ s, P' s → P s) (post : ∀ r s, Q r s → Q' r s) :
    Triple E P' p Q' :=
  fun s hs => (h s (pre s hs)).mono post

theorem pre {Q : Except ε α → σ → Prop} (h : Triple E P p Q)
    (imp : ∀ s, P' s → P s) : Triple E P' p Q :=
  fun s hs => h s (imp s hs)

theorem post {Q Q' : Except ε α → σ → Prop} (h : Triple E P p Q)
    (imp : ∀ r s, Q r s → Q' r s) : Triple E P p Q' :=
  fun s hs => (h s hs).mono imp

/-- The rule of one operation: its precondition tolerates the rely, and each
outcome keeps the guarantee and establishes the postcondition. -/
theorem perform {op : S.Op} {Q : Except ε (S.Ans op) → σ → Prop}
    (stable : E.Stable P)
    (outcome : ∀ s r t, P s → E.step op s r t → E.guarantee s t ∧ Q r t) :
    Triple E P (Program.perform op) Q :=
  fun s hs t rely r u step => outcome t r u (stable s t hs rely) step

theorem bind {M : Except ε α → σ → Prop} {Q : Except ε β → σ → Prop}
    {f : α → Program S ε β} (first : Triple E P p M)
    (returned : ∀ value, Triple E (M (.ok value)) (f value) Q)
    (raised : ∀ exc s, M (.error exc) s → Q (.error exc) s) :
    Triple E P (p.bind f) Q :=
  fun s hs => (first s hs).bind (fun value => returned value) raised

/-- The rule of a sequence whose first part never raises. -/
theorem bind_ok {M : α → σ → Prop} {Q : Except ε β → σ → Prop} {f : α → Program S ε β}
    (first : Triple E P p fun r s => ∃ value, r = .ok value ∧ M value s)
    (rest : ∀ value, Triple E (M value) (f value) Q) : Triple E P (p.bind f) Q := by
  refine bind first ?_ ?_
  · rintro value s ⟨_, ⟨⟩, known⟩
    exact rest value s known
  · rintro exc s ⟨_, impossible, -⟩
    cases impossible

theorem attempt {Q : Except ε (Except ε α) → σ → Prop}
    (h : Triple E P p fun r s => Q (.ok r) s) : Triple E P p.attempt Q :=
  fun s hs => (h s hs).attempt

/-- The usual shape of a `match ← attempt p with`: each way `p` can end has its
own continuation, and no exception is left over. -/
theorem attempt_bind {M : Except ε α → σ → Prop} {Q : Except ε β → σ → Prop}
    {f : Except ε α → Program S ε β} (first : Triple E P p M)
    (rest : ∀ r, Triple E (M r) (f r) Q) : Triple E P (p.attempt.bind f) Q := by
  refine Triple.bind (M := fun r s => ∃ inner, r = .ok inner ∧ M inner s)
    (Triple.attempt (first.post fun r s h => ⟨r, rfl, h⟩)) ?_ ?_
  · rintro inner s ⟨_, ⟨⟩, h⟩
    exact rest inner s h
  · rintro exc s ⟨_, impossible, -⟩
    cases impossible

theorem handle {M Q : Except ε α → σ → Prop} {handler : ε → Program S ε α}
    (body : Triple E P p M) (returned : ∀ value s, M (.ok value) s → Q (.ok value) s)
    (caught : ∀ exc, Triple E (M (.error exc)) (handler exc) Q) :
    Triple E P (p.handle handler) Q := by
  refine attempt_bind body fun r => ?_
  cases r with
  | ok value => exact Triple.done (returned value)
  | error exc => exact caught exc

theorem ensure {M Q : Except ε α → σ → Prop} {final : Program S ε Unit}
    (body : Triple E P p M)
    (last : ∀ r, Triple E (M r) final fun ended s =>
      match ended with
      | .ok () => Q r s
      | .error exc => Q (.error exc) s) :
    Triple E P (p.ensure final) Q := by
  refine attempt_bind body fun r => ?_
  refine Triple.bind (last r) ?_ ?_
  · intro _ s h
    exact h
  · intro exc s h
    exact h

/-- **The frame rule of an operation class.**  An assertion that every
operation of `C` keeps is kept by every program that issues only operations of
`C`. -/
theorem only {R : (op : S.Op) → Except ε (S.Ans op) → Prop} {C : S.Op → Prop}
    (inClass : p.Only R C) (stable : E.Stable P)
    (kept : ∀ op, C op → ∀ s r t, P s → E.step op s r t →
      R op r ∧ E.guarantee s t ∧ P t) :
    Triple E P p fun _ s => P s := by
  induction p with
  | done result => exact fun s hs => hs
  | call op next ih =>
      intro s hs t rely r u step
      obtain ⟨answered, promised, hu⟩ :=
        kept op inClass.1 t r u (stable s t hs rely) step
      exact ⟨promised, ih r (inClass.2 r answered) u hu⟩

end Triple

end Program

end DicePipeline.Interaction
