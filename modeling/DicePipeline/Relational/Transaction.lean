import Mathlib.Logic.Basic

/-!
# Transactions, committed or rolled back

A `Transaction` reads and changes a state, and may raise.  If it raises there is
no state: what it had done is rolled back.  A handler (`tryCatch`) goes on with
the state before the block, as a savepoint does.

`commit` is the state after a transaction, the old one if it raised, and `run`
the state after many.  `run_induction` is the rule for what every committed
transaction keeps.
-/

namespace DicePipeline.Relational

/-- A block of statements on a state. -/
abbrev Transaction (σ ε α : Type) := StateT σ (Except ε) α

namespace Transaction

variable {σ ε α β : Type} {s s' : σ} {a : α} {b : β} {error : ε}
variable {x : Transaction σ ε α} {f : α → Transaction σ ε β} {handler : ε → Transaction σ ε α}

/-- A sequence that succeeds has two parts that do. -/
theorem of_bind_ok (done : (x >>= f).run s = .ok (b, s')) :
    ∃ a s₁, x.run s = .ok (a, s₁) ∧ (f a).run s₁ = .ok (b, s') := by
  rw [StateT.run_bind] at done
  cases first : x.run s with
  | error _ =>
    rw [first] at done
    cases done
  | ok pair =>
    rw [first] at done
    exact ⟨pair.1, pair.2, rfl, done⟩

theorem of_pure_ok {result : α} (done : (pure a : Transaction σ ε α).run s = .ok (result, s')) :
    result = a ∧ s' = s := by
  cases done
  exact ⟨rfl, rfl⟩

/-- A block with a handler succeeds, or its handler does from the state before. -/
theorem of_tryCatch_ok (done : (tryCatch x handler).run s = .ok (a, s')) :
    x.run s = .ok (a, s') ∨ ∃ error, x.run s = .error error ∧ (handler error).run s = .ok (a, s') := by
  cases first : x.run s with
  | ok pair =>
    refine .inl ?_
    have whole : (tryCatch x handler).run s = tryCatch (x.run s) fun error => (handler error).run s :=
      rfl
    rw [whole, first] at done
    exact done
  | error error =>
    refine .inr ⟨error, rfl, ?_⟩
    have whole : (tryCatch x handler).run s = tryCatch (x.run s) fun error => (handler error).run s :=
      rfl
    rw [whole, first] at done
    exact done

end Transaction

/-! ## Runs -/

section Runs

variable {σ ε α Action : Type} {act : Action → Transaction σ ε α} {s s' : σ} {a : α}
variable {action : Action} {actions : List Action}

/-- The state after a transaction. -/
def commit (act : Action → Transaction σ ε α) (s : σ) (action : Action) : σ :=
  match (act action).run s with
  | .ok (_, s') => s'
  | .error _ => s

/-- The state after many transactions. -/
def run (act : Action → Transaction σ ε α) (s : σ) (actions : List Action) : σ :=
  actions.foldl (commit act) s

theorem commit_of_ok (done : (act action).run s = .ok (a, s')) : commit act s action = s' := by
  unfold commit
  rw [done]

/-- A transaction is committed, or changes nothing. -/
theorem commit_cases (act : Action → Transaction σ ε α) (s : σ) (action : Action) :
    commit act s action = s ∨ ∃ a, (act action).run s = .ok (a, commit act s action) := by
  unfold commit
  cases (act action).run s with
  | ok pair => exact .inr ⟨pair.1, rfl⟩
  | error _ => exact .inl rfl

@[simp] theorem run_nil : run act s [] = s := rfl

theorem run_append (first second : List Action) :
    run act s (first ++ second) = run act (run act s first) second := List.foldl_append

theorem run_snoc : run act s (actions ++ [action]) = commit act (run act s actions) action :=
  run_append actions [action]

/-- What every committed transaction of a run keeps holds after it. -/
theorem run_induction_of_mem {P : σ → Prop} (start : P s)
    (step : ∀ action ∈ actions, ∀ s s' a, P s → (act action).run s = .ok (a, s') → P s') :
    P (run act s actions) := by
  induction actions generalizing s with
  | nil => exact start
  | cons action rest ih =>
    refine ih ?_ fun later member => step later (List.mem_cons_of_mem _ member)
    rcases commit_cases act s action with same | ⟨a, done⟩
    · rw [same]
      exact start
    · exact step action List.mem_cons_self s _ a start done

/-- What every committed transaction keeps holds after every run. -/
theorem run_induction {P : σ → Prop} (start : P s)
    (step : ∀ action s s' a, P s → (act action).run s = .ok (a, s') → P s') :
    P (run act s actions) :=
  run_induction_of_mem start fun action _ => step action

end Runs

end DicePipeline.Relational
