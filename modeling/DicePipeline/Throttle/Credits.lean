import DicePipeline.Interaction.Traces
import DicePipeline.Throttle.Counter

/-!
# Which window a hit is credited to

A row says how many hits its window has had, not which.  The history does:
`credits` lists, newest first, every statement that counted a hit, with the
thread that issued it and the number of the window of its key.  Windows of a key
are numbered in the order they begin, and a window begins when a row is created
or an ended one is renewed.

`Effect` says once what a statement can do to the table.  `counts_exact` is the
accounting identity that follows from it for every caller whatsoever, without a
word about the code: a row's count is the number of credits of the last window
of its key.
-/

namespace DicePipeline.Throttle

open Interaction

/-- The key a statement counted a hit under, and whether it began a window. -/
def Statement.counted :
    (statement : Statement) → Except Failure statement.Ans → Option (String × Bool)
  | .updateLive key _, .ok (matched : ℕ) => if matched ≠ 0 then some (key, false) else none
  | .updateExpired key _ _, .ok (matched : ℕ) => if matched ≠ 0 then some (key, true) else none
  | .create key _, .ok _ => some (key, true)
  | _, _ => none

/-- **What a statement can do.**  `Effect s statement counted t`: run at `s`, the
statement counts `counted` and leaves `t`. -/
inductive Effect (s : Counters) : Statement → Option (String × Bool) → Counters → Prop
  /-- The row's window is live at the statement's own time. -/
  | added {key : String} {now : ℕ} {row : ThrottleCounter} (found : s.rows key = some row)
      (live : now < row.windowEndsAt) :
      Effect s (.updateLive key now) (some (key, false))
        (s.set key { row with count := row.count + 1 })
  /-- The row's window has ended by the statement's own time. -/
  | renewed {key : String} {now endsAt : ℕ} {row : ThrottleCounter}
      (found : s.rows key = some row) (ended : row.windowEndsAt ≤ now) :
      Effect s (.updateExpired key now endsAt) (some (key, true)) (s.set key ⟨1, endsAt⟩)
  | created {key : String} {endsAt : ℕ} (vacant : s.rows key = none) :
      Effect s (.create key endsAt) (some (key, true)) (s.set key ⟨1, endsAt⟩)
  | removed {moment : ℕ} : Effect s (.deleteEndedBefore moment) none
      { s with rows := fun key => (s.rows key).filter fun row => ¬ row.windowEndsAt < moment }
  | unchanged {statement : Statement} : Effect s statement none s

theorem Statement.run_effect (verdict : TokenCheck) (statement : Statement) (s : Counters) :
    Effect s statement (statement.counted (statement.run verdict s).1)
      (statement.run verdict s).2 := by
  cases statement with
  | timezoneNow => exact .unchanged
  | updateLive key now =>
      cases found : s.rows key with
      | none => simpa [run, counted, found] using Effect.unchanged
      | some row =>
          by_cases live : now < row.windowEndsAt
          · simpa [run, counted, found, live] using Effect.added found live
          · simpa [run, counted, found, live] using Effect.unchanged
  | updateExpired key now endsAt =>
      cases found : s.rows key with
      | none => simpa [run, counted, found] using Effect.unchanged
      | some row =>
          by_cases ended : row.windowEndsAt ≤ now
          · simpa [run, counted, found, ended] using Effect.renewed found ended
          · simpa [run, counted, found, ended] using Effect.unchanged
  | create key endsAt =>
      cases found : s.rows key with
      | none => simpa [run, counted, found] using Effect.created found
      | some row => simpa [run, counted, found] using Effect.unchanged
  | deleteEndedBefore moment => exact .removed
  | firstLive key now => exact .unchanged
  | checkToken key => cases verdict <;> exact .unchanged

/-- A statement does not move the clock. -/
theorem Effect.clock {s t : Counters} {statement : Statement} {counted : Option (String × Bool)}
    (effect : Effect s statement counted t) : t.clock = s.clock := by
  cases effect <;> rfl

/-! ## Credits -/

/-- What has happened to a table. -/
abbrev Log (κ α : Type) := List (Event Sql Failure α κ)

/-- A hit that has been counted: by which call, under which key, in which window
of that key. -/
structure Credit where
  thread : ℕ
  key : String
  window : ℕ
  deriving DecidableEq, Repr

variable {κ α : Type}

/-- How many windows of `key` have begun. -/
def windows (key : String) : Log κ α → ℕ
  | [] => 0
  | .answered _ statement answer :: earlier =>
      if Statement.counted statement answer = some (key, true) then windows key earlier + 1
      else windows key earlier
  | .started _ _ :: earlier => windows key earlier
  | .returned _ _ _ :: earlier => windows key earlier
  | .killed _ :: earlier => windows key earlier

/-- Every credit there has been, newest first. -/
def credits : Log κ α → List Credit
  | [] => []
  | .answered i statement answer :: earlier =>
      match Statement.counted statement answer with
      | none => credits earlier
      | some (key, begins) => ⟨i, key, windows key earlier + begins.toNat⟩ :: credits earlier
  | .started _ _ :: earlier => credits earlier
  | .returned _ _ _ :: earlier => credits earlier
  | .killed _ :: earlier => credits earlier

/-- The calls credited to one window, newest first. -/
def creditedTo (key : String) (window : ℕ) (log : Log κ α) : List ℕ :=
  ((credits log).filter fun credit => credit.key = key ∧ credit.window = window).map
    Credit.thread

/-- The rank of a call among those credited to a window: it and all before it. -/
def rank (i : ℕ) (key : String) (window : ℕ) (log : Log κ α) : ℕ :=
  ((creditedTo key window log).dropWhile (· ≠ i)).length

section Events

variable {log : Log κ α} {i : ℕ} {statement : Statement} {answer : Except Failure statement.Ans}

/-- A statement that counts nothing credits nobody and begins no window. -/
theorem credits_of_not_counted (nothing : statement.counted answer = none) :
    credits (.answered i statement answer :: log : Log κ α) = credits log := by
  simp [credits, nothing]

theorem windows_of_not_counted (key : String) (nothing : statement.counted answer = none) :
    windows key (.answered i statement answer :: log : Log κ α) = windows key log := by
  simp [windows, nothing]

/-- A counted hit is credited to the window it found or began. -/
theorem credits_of_counted {key : String} {begins : Bool}
    (counted : statement.counted answer = some (key, begins)) :
    credits (.answered i statement answer :: log : Log κ α) =
      ⟨i, key, windows key log + begins.toNat⟩ :: credits log := by
  simp [credits, counted]

theorem windows_of_counted {key : String} {begins : Bool} (other : String)
    (counted : statement.counted answer = some (key, begins)) :
    windows other (.answered i statement answer :: log : Log κ α) =
      windows other log + if key = other then begins.toNat else 0 := by
  cases begins <;> by_cases same : key = other <;> simp [windows, counted, same]

theorem creditedTo_of_not_counted (key : String) (window : ℕ)
    (nothing : statement.counted answer = none) :
    creditedTo key window (.answered i statement answer :: log : Log κ α) =
      creditedTo key window log := by
  rw [creditedTo, credits_of_not_counted nothing, creditedTo]

/-- A counted hit comes first among the credits of its window, and is not among
the credits of any other. -/
theorem creditedTo_of_counted {hitKey : String} {begins : Bool} (key : String) (window : ℕ)
    (counted : statement.counted answer = some (hitKey, begins)) :
    creditedTo key window (.answered i statement answer :: log : Log κ α) =
      if hitKey = key ∧ windows hitKey log + begins.toNat = window then
        i :: creditedTo key window log
      else creditedTo key window log := by
  rw [creditedTo, credits_of_counted counted, List.filter_cons]
  by_cases its : hitKey = key ∧ windows hitKey log + begins.toNat = window
  · obtain ⟨rfl, rfl⟩ := its
    simp [creditedTo]
  · rw [if_neg its, if_neg (by simpa using its), creditedTo]

@[simp] theorem windows_started (key : String) (i : ℕ) (call : κ) :
    windows key (.started i call :: log : Log κ α) = windows key log := rfl

@[simp] theorem windows_killed (key : String) (i : ℕ) :
    windows key (.killed i :: log : Log κ α) = windows key log := rfl

@[simp] theorem credits_started (i : ℕ) (call : κ) :
    credits (.started i call :: log : Log κ α) = credits log := rfl

@[simp] theorem credits_killed (i : ℕ) :
    credits (.killed i :: log : Log κ α) = credits log := rfl

end Events

@[simp] theorem creditedTo_started (key : String) (window i : ℕ) (call : κ) (log : Log κ α) :
    creditedTo key window (.started i call :: log : Log κ α) = creditedTo key window log := rfl

@[simp] theorem creditedTo_killed (key : String) (window i : ℕ) (log : Log κ α) :
    creditedTo key window (.killed i :: log : Log κ α) = creditedTo key window log := rfl

@[simp] theorem windows_place (key : String) (c : Config Sql Failure α Counters κ) (i : ℕ)
    (call : κ) (body : Code α) : windows key (c.place i call body).history =
      windows key c.history := by
  cases body <;> rfl

@[simp] theorem credits_place (c : Config Sql Failure α Counters κ) (i : ℕ) (call : κ)
    (body : Code α) : credits (c.place i call body).history = credits c.history := by
  cases body <;> rfl

@[simp] theorem creditedTo_place (key : String) (window : ℕ)
    (c : Config Sql Failure α Counters κ) (i : ℕ) (call : κ) (body : Code α) :
    creditedTo key window (c.place i call body).history = creditedTo key window c.history := by
  rw [creditedTo, credits_place, creditedTo]

/-- No credit is of a window yet to begin. -/
theorem window_le_windows {log : Log κ α} {credit : Credit} (member : credit ∈ credits log) :
    credit.window ≤ windows credit.key log := by
  induction log with
  | nil => cases member
  | cons event earlier ih =>
      cases event with
      | started i call => exact ih member
      | returned i call result => exact ih member
      | killed i => exact ih member
      | answered i statement answer =>
          cases counted : Statement.counted statement answer with
          | none =>
              rw [credits_of_not_counted counted] at member
              rw [windows_of_not_counted _ counted]
              exact ih member
          | some hit =>
              obtain ⟨key, begins⟩ := hit
              rw [credits_of_counted counted] at member
              rw [windows_of_counted _ counted]
              rcases List.mem_cons.mp member with rfl | old
              · simp
              · exact (ih old).trans (Nat.le_add_right _ _)

/-! ## The accounting identity -/

/-- Every row counts the hits credited to the last window of its key. -/
def Exact (rows : String → Option ThrottleCounter) (log : Log κ α) : Prop :=
  ∀ key row, rows key = some row →
    row.count = (creditedTo key (windows key log) log).length

/-- Once a window has begun, nothing is credited to a window after it. -/
theorem creditedTo_next (key : String) (log : Log κ α) :
    creditedTo key (windows key log + 1) log = [] := by
  unfold creditedTo
  rw [List.map_eq_nil_iff, List.filter_eq_nil_iff]
  intro credit member
  have old := window_le_windows member
  simp only [decide_eq_true_eq, not_and]
  rintro rfl
  omega

/-- One statement keeps the identity. -/
theorem Exact.step {s t : Counters} {log : Log κ α} {i : ℕ} {statement : Statement}
    {answer : Except Failure statement.Ans}
    (effect : Effect s statement (statement.counted answer) t) (exact : Exact s.rows log) :
    Exact t.rows (.answered i statement answer :: log) := by
  intro key row found
  cases counted : statement.counted answer with
  | none =>
      rw [windows_of_not_counted _ counted, creditedTo_of_not_counted _ _ counted]
      rw [counted] at effect
      cases effect with
      | removed => exact exact key row (Option.filter_eq_some_iff.mp found).1
      | unchanged => exact exact key row found
  | some hit =>
      obtain ⟨hitKey, begins⟩ := hit
      rw [windows_of_counted _ counted, creditedTo_of_counted _ _ counted]
      rw [counted] at effect
      by_cases same : hitKey = key
      · subst same
        rw [if_pos rfl, if_pos ⟨rfl, rfl⟩, List.length_cons]
        -- A live window gains one, and a new one starts with this hit.
        cases effect with
        | added before live =>
            rw [Counters.set_rows_self, Option.some.injEq] at found
            subst found
            exact congrArg (· + 1) (exact hitKey _ before)
        | renewed before ended =>
            rw [Counters.set_rows_self, Option.some.injEq] at found
            subst found
            rw [Bool.toNat_true, creditedTo_next]
            rfl
        | created vacant =>
            rw [Counters.set_rows_self, Option.some.injEq] at found
            subst found
            rw [Bool.toNat_true, creditedTo_next]
            rfl
      · rw [if_neg same, if_neg (fun its => same its.1)]
        refine exact key row ?_
        cases effect with
        | added _ _ => rwa [Counters.set_rows_of_ne _ _ (Ne.symm same)] at found
        | renewed _ _ => rwa [Counters.set_rows_of_ne _ _ (Ne.symm same)] at found
        | created _ => rwa [Counters.set_rows_of_ne _ _ (Ne.symm same)] at found

variable {code : κ → Code α}
variable {ok : Config Sql Failure α Counters κ → Label κ TokenCheck ℕ → Prop}

/-- An invariant of the rows and the history.  Only the statements matter to it:
that a call starts, returns or is killed changes no row, and time passing
changes neither. -/
theorem rows_invariant (Inv : (String → Option ThrottleCounter) → Log κ α → Prop)
    (empty : Inv (fun _ => none) [])
    (quiet : ∀ rows log event, (∀ i statement answer, event ≠ .answered i statement answer) →
      Inv rows log → Inv rows (event :: log))
    (step : ∀ (s t : Counters) log i (statement : Statement)
      (answer : Except Failure statement.Ans), Effect s statement (statement.counted answer) t →
      Inv s.rows log → Inv t.rows (.answered i statement answer :: log))
    {c : Config Sql Failure α Counters κ}
    (reached : (counters code).Reach ok (.initial .empty) c) : Inv c.store.rows c.history := by
  have place : ∀ (d : Config Sql Failure α Counters κ) i call (body : Code α),
      Inv d.store.rows d.history →
      Inv (d.place i call body).store.rows (d.place i call body).history := by
    intro d i call body inv
    cases body with
    | done result => exact quiet _ _ _ nofun inv
    | call statement next => exact inv
  refine reached.invariant (fun c => Inv c.store.rows c.history) empty ?_
  intro c label c' _ inv _ moved
  cases label with
  | spawn call =>
      obtain ⟨body, -, rfl⟩ := Machine.next_spawn_eq moved
      exact place _ _ _ _ (quiet _ _ _ nofun inv)
  | step i verdict =>
      obtain ⟨thread, answer, store, -, executed, rfl⟩ := Machine.next_step_eq moved
      have effect := Statement.run_effect verdict thread.op c.store
      obtain ⟨rfl, rfl⟩ := Prod.mk.inj (Option.some.inj executed)
      exact place _ _ _ _ (step _ _ _ i _ _ effect inv)
  | kill i =>
      obtain ⟨thread, -, rfl⟩ := Machine.next_kill_eq moved
      exact quiet _ _ _ nofun inv
  | env elapsed =>
      obtain rfl := Machine.next_env_eq moved
      exact inv

/-- **The accounting identity.**  Whatever the callers do, in every reachable
configuration a row's count is the number of hits credited to its key since its
current window began. -/
theorem counts_exact {c : Config Sql Failure α Counters κ}
    (reached : (counters code).Reach ok (.initial .empty) c) :
    Exact c.store.rows c.history := by
  refine rows_invariant Exact ?_ ?_ (fun s t log i statement answer effect => Exact.step effect)
    reached
  · intro key row found
    cases found
  · intro rows log event quiet exact key row found
    cases event with
    | started i call => exact exact key row found
    | returned i call result => exact exact key row found
    | killed i => exact exact key row found
    | answered i statement answer => exact absurd rfl (quiet i statement answer)

/-- A row is of a window that has begun, and so is every credit. -/
def Begun (rows : String → Option ThrottleCounter) (log : Log κ α) : Prop :=
  (∀ key row, rows key = some row → 0 < windows key log) ∧
    ∀ credit ∈ credits log, 0 < credit.window

theorem Begun.step {s t : Counters} {log : Log κ α} {i : ℕ} {statement : Statement}
    {answer : Except Failure statement.Ans}
    (effect : Effect s statement (statement.counted answer) t) (begun : Begun s.rows log) :
    Begun t.rows (.answered i statement answer :: log) := by
  obtain ⟨rows, old⟩ := begun
  cases counted : statement.counted answer with
  | none =>
      rw [counted] at effect
      refine ⟨fun key row found => ?_, ?_⟩
      · rw [windows_of_not_counted _ counted]
        cases effect with
        | removed => exact rows key row (Option.filter_eq_some_iff.mp found).1
        | unchanged => exact rows key row found
      · rw [credits_of_not_counted counted]
        exact old
  | some hit =>
      obtain ⟨hitKey, begins⟩ := hit
      rw [counted] at effect
      have its : 0 < windows hitKey log + begins.toNat := by
        cases effect with
        | added found live => exact Nat.add_pos_left (rows hitKey _ found) _
        | renewed found ended => exact Nat.succ_pos _
        | created vacant => exact Nat.succ_pos _
      refine ⟨fun key row found => ?_, ?_⟩
      · rw [windows_of_counted _ counted]
        by_cases same : hitKey = key
        · subst same
          simpa using its
        · refine Nat.add_pos_left (rows key row ?_) _
          cases effect with
          | added _ _ => rwa [Counters.set_rows_of_ne _ _ (Ne.symm same)] at found
          | renewed _ _ => rwa [Counters.set_rows_of_ne _ _ (Ne.symm same)] at found
          | created _ => rwa [Counters.set_rows_of_ne _ _ (Ne.symm same)] at found
      · rw [credits_of_counted counted]
        intro credit member
        rcases List.mem_cons.mp member with rfl | earlier
        · exact its
        · exact old credit earlier

/-- Every credit is of a window that has begun. -/
theorem credit_begun {c : Config Sql Failure α Counters κ}
    (reached : (counters code).Reach ok (.initial .empty) c) {credit : Credit}
    (member : credit ∈ credits c.history) :
    0 < credit.window ∧ credit.window ≤ windows credit.key c.history := by
  have begun : Begun c.store.rows c.history := by
    refine rows_invariant Begun ⟨nofun, nofun⟩ ?_
      (fun s t log i statement answer effect => Begun.step effect) reached
    intro rows log event quiet begun
    cases event with
    | started i call => exact begun
    | returned i call result => exact begun
    | killed i => exact begun
    | answered i statement answer => exact absurd rfl (quiet i statement answer)
  exact ⟨begun.2 credit member, window_le_windows member⟩

end DicePipeline.Throttle
