import Mathlib.Logic.Basic
import Mathlib.Control.Basic

/-!
# Programs over an operation signature

A `Program S ε α` is a finite tree of **atomic operations**.  At each node it
issues one operation `op` of the signature `S` and continues with whatever the
operation answers, which is either a value of `S.Ans op` or an exception of
`ε`.  At a leaf it has returned or raised.

Keeping the operations uninterpreted is what the later modules need.  The same
tree is read

* by one thread running alone, with any operation possibly its last
  (`Interaction.Recovery`);
* by many threads whose operations interleave (`Interaction.Concurrent`);
* by a rely/guarantee judgement that bounds what others may do between any two
  of its operations (`Interaction.Guarantee`).

Exceptions follow the usual rules of an imperative language: `bind` skips the
continuation of a raising program, `attempt` reifies the exception, and
`ensure` runs a final block whatever happened and then re-raises.
-/

namespace DicePipeline.Interaction

/-- An operation signature: the operations, and what each one answers. -/
structure Signature where
  /-- The atomic operations. -/
  Op : Type
  /-- What an operation answers when it does not raise. -/
  Ans : Op → Type

/-- A tree of atomic operations over `S`, raising `ε`, returning `α`. -/
inductive Program (S : Signature) (ε α : Type) : Type where
  /-- The program has returned or raised. -/
  | done (result : Except ε α)
  /-- The program issues `op` and goes on with its answer. -/
  | call (op : S.Op) (next : Except ε (S.Ans op) → Program S ε α)

namespace Program

variable {S : Signature} {ε α β γ : Type}

/-- Sequencing.  A raised exception skips the continuation. -/
def bind : Program S ε α → (α → Program S ε β) → Program S ε β
  | .done (.ok value), f => f value
  | .done (.error exc), _ => .done (.error exc)
  | .call op next, f => .call op fun answer => (next answer).bind f

/-- The program that raises `exc`. -/
def raise (exc : ε) : Program S ε α := .done (.error exc)

/-- The program that issues one operation and returns its answer. -/
def perform (op : S.Op) : Program S ε (S.Ans op) := .call op .done

instance : Monad (Program S ε) where
  pure value := .done (.ok value)
  bind := Program.bind

/-- Reifies exceptions: `attempt p` never raises, and returns how `p` ended. -/
def attempt : Program S ε α → Program S ε (Except ε α)
  | .done result => .done (.ok result)
  | .call op next => .call op fun answer => (next answer).attempt

/-- `try: body except exc: handler exc`. -/
def handle (body : Program S ε α) (handler : ε → Program S ε α) :
    Program S ε α :=
  body.attempt.bind fun
    | .ok value => .done (.ok value)
    | .error exc => handler exc

/-- `try: body finally: final`.  The final block runs after a return and after
an exception alike, and an exception of its own replaces the body's result. -/
def ensure (body : Program S ε α) (final : Program S ε Unit) :
    Program S ε α :=
  body.attempt.bind fun result => final.bind fun _ => .done result

@[simp] theorem bind_eq (p : Program S ε α) (f : α → Program S ε β) :
    p >>= f = p.bind f := rfl

@[simp] theorem pure_eq (value : α) :
    (pure value : Program S ε α) = .done (.ok value) := rfl

@[simp] theorem done_ok_bind (value : α) (f : α → Program S ε β) :
    (done (.ok value) : Program S ε α).bind f = f value := rfl

@[simp] theorem done_error_bind (exc : ε) (f : α → Program S ε β) :
    (done (.error exc) : Program S ε α).bind f = .done (.error exc) := rfl

@[simp] theorem call_bind (op : S.Op)
    (next : Except ε (S.Ans op) → Program S ε α) (f : α → Program S ε β) :
    (call op next).bind f = .call op fun answer => (next answer).bind f := rfl

@[simp] theorem attempt_done (result : Except ε α) :
    (done result : Program S ε α).attempt = .done (.ok result) := rfl

@[simp] theorem attempt_call (op : S.Op)
    (next : Except ε (S.Ans op) → Program S ε α) :
    (call op next).attempt = .call op fun answer => (next answer).attempt := rfl

theorem bind_pure (p : Program S ε α) :
    p.bind (fun value => .done (.ok value)) = p := by
  induction p with
  | done result => cases result <;> rfl
  | call op next ih => exact congrArg (call op) (funext ih)

theorem bind_assoc (p : Program S ε α) (f : α → Program S ε β)
    (g : β → Program S ε γ) :
    (p.bind f).bind g = p.bind fun value => (f value).bind g := by
  induction p with
  | done result => cases result <;> rfl
  | call op next ih => exact congrArg (call op) (funext ih)

instance : LawfulMonad (Program S ε) :=
  LawfulMonad.mk' (Program S ε) (fun p => bind_pure p) (fun _ _ => rfl)
    (fun p f g => bind_assoc p f g)

/-! ## Every node of a program -/

section Nodes

variable {R : (op : S.Op) → Except ε (S.Ans op) → Prop} {P Q : S.Op → Prop}

/-- The program issues no operation outside `P`, as long as every operation
answers as `R` promises. -/
def Only (R : (op : S.Op) → Except ε (S.Ans op) → Prop) (P : S.Op → Prop) :
    Program S ε α → Prop
  | .done _ => True
  | .call op next => P op ∧ ∀ answer, R op answer → (next answer).Only R P

@[simp] theorem only_done (result : Except ε α) :
    (done result : Program S ε α).Only R P := trivial

@[simp] theorem only_perform (op : S.Op) :
    (perform op : Program S ε (S.Ans op)).Only R P ↔ P op :=
  ⟨fun h => h.1, fun h => ⟨h, fun _ _ => trivial⟩⟩

theorem Only.mono {p : Program S ε α} (h : p.Only R P)
    (imp : ∀ op, P op → Q op) : p.Only R Q := by
  induction p with
  | done result => trivial
  | call op next ih =>
      exact ⟨imp op h.1, fun answer promised => ih answer (h.2 answer promised)⟩

theorem Only.bind {p : Program S ε α} {f : α → Program S ε β}
    (first : p.Only R P) (second : ∀ value, (f value).Only R P) :
    (p.bind f).Only R P := by
  induction p with
  | done result =>
      cases result with
      | ok value => exact second value
      | error exc => trivial
  | call op next ih =>
      exact ⟨first.1, fun answer promised => ih answer (first.2 answer promised)⟩

theorem Only.ite {c : Prop} [Decidable c] {p q : Program S ε α} (yes : p.Only R P)
    (no : q.Only R P) : (if c then p else q).Only R P := by
  split
  · exact yes
  · exact no

/-- What an operation promises about its answer is known afterwards. -/
theorem Only.perform_bind {op : S.Op} {f : S.Ans op → Program S ε β}
    (first : P op) (second : ∀ value, R op (.ok value) → (f value).Only R P) :
    ((perform op).bind f).Only R P := by
  refine ⟨first, fun answer promised => ?_⟩
  cases answer with
  | ok value => exact second value promised
  | error exc => trivial

theorem Only.attempt {p : Program S ε α} (h : p.Only R P) :
    p.attempt.Only R P := by
  induction p with
  | done result => trivial
  | call op next ih =>
      exact ⟨h.1, fun answer promised => ih answer (h.2 answer promised)⟩

theorem Only.attempt_bind {p : Program S ε α} {f : Except ε α → Program S ε β}
    (first : p.Only R P) (second : ∀ result, (f result).Only R P) :
    (p.attempt.bind f).Only R P :=
  first.attempt.bind second

theorem Only.handle {p : Program S ε α} {handler : ε → Program S ε α}
    (body : p.Only R P) (caught : ∀ exc, (handler exc).Only R P) :
    (p.handle handler).Only R P := by
  refine body.attempt_bind fun result => ?_
  cases result with
  | ok value => trivial
  | error exc => exact caught exc

theorem Only.ensure {p : Program S ε α} {final : Program S ε Unit}
    (body : p.Only R P) (last : final.Only R P) : (p.ensure final).Only R P :=
  body.attempt_bind fun _ => last.bind fun _ => trivial

end Nodes

end Program

end DicePipeline.Interaction
