import Mathlib.Data.List.Forall2

/-!
# Loops over lists

A loop that may fail is `List.foldlM` in `Option`.  What holds before it and is kept by
each turn holds after it (`foldlM_invariant`), and two loops whose turns do the same, over
lists that belong together item by item, end the same way (`foldlM_congr_forall₂`).

A loop that may raise is `List.mapM` in `Except`.  It returns what its turns return if
each of them does (`mapM_eq_ok`), and raises if one of them raises (`mapM_eq_error`).
-/

namespace DicePipeline

variable {α β σ : Type} {related : α → β → Prop} {items : List α} {items' : List β}

/-- What each turn of a loop keeps. -/
theorem foldlM_invariant {step : σ → α → Option σ} {start final : σ} (invariant : σ → Prop)
    (kept : ∀ a ∈ items, ∀ state next, invariant state → step state a = some next →
      invariant next)
    (holds : invariant start) (done : items.foldlM step start = some final) :
    invariant final := by
  induction items generalizing start with
  | nil =>
    obtain rfl := Option.some.inj done
    exact holds
  | cons first rest ih =>
    rw [List.foldlM_cons] at done
    obtain ⟨next, stepped, later⟩ := Option.bind_eq_some_iff.mp done
    exact ih (fun a member => kept a (List.mem_cons_of_mem _ member))
      (kept first List.mem_cons_self start next holds stepped) later

/-- Two loops that do the same in each turn. -/
theorem foldlM_congr_forall₂ (pairs : List.Forall₂ related items items')
    {step : σ → α → Option σ} {step' : σ → β → Option σ}
    (same : ∀ a b, related a b → ∀ state, step' state b = step state a) (state : σ) :
    items'.foldlM step' state = items.foldlM step state := by
  induction pairs generalizing state with
  | nil => rfl
  | cons isRelated _ ih =>
    rw [List.foldlM_cons, List.foldlM_cons, same _ _ isRelated]
    congr 1
    funext next
    exact ih next

theorem countP_congr_forall₂ (pairs : List.Forall₂ related items items') {p : α → Bool}
    {q : β → Bool} (same : ∀ a b, related a b → q b = p a) : items'.countP q = items.countP p := by
  induction pairs with
  | nil => rfl
  | cons isRelated _ ih => rw [List.countP_cons, List.countP_cons, same _ _ isRelated, ih]

theorem mapM_congr_of_mem {f g : α → Option β} (same : ∀ a ∈ items, f a = g a) :
    items.mapM f = items.mapM g := by
  induction items with
  | nil => rfl
  | cons first rest ih =>
    rw [List.mapM_cons, List.mapM_cons, same first List.mem_cons_self,
      ih fun a member => same a (List.mem_cons_of_mem _ member)]

/-- A loop of which no turn raises. -/
theorem mapM_eq_ok {ε : Type} {f : α → Except ε β} {g : α → β}
    (returns : ∀ a ∈ items, f a = .ok (g a)) : items.mapM f = .ok (items.map g) := by
  induction items with
  | nil => rfl
  | cons first rest ih =>
    rw [List.mapM_cons, returns first List.mem_cons_self,
      ih fun a member => returns a (List.mem_cons_of_mem _ member)]
    rfl

/-- A loop that returned has in its list what each of its turns returned. -/
theorem exists_of_mapM_eq_ok {ε : Type} {f : α → Except ε β} {values : List β}
    (returned : items.mapM f = .ok values) {a : α} (member : a ∈ items) :
    ∃ value ∈ values, f a = .ok value := by
  induction items generalizing values with
  | nil => exact absurd member List.not_mem_nil
  | cons first rest ih =>
    rw [List.mapM_cons] at returned
    cases isFirst : f first with
    | error exc =>
      rw [isFirst] at returned
      cases returned
    | ok value =>
      cases isRest : rest.mapM f with
      | error exc =>
        rw [isFirst, isRest] at returned
        cases returned
      | ok later =>
        rw [isFirst, isRest] at returned
        obtain rfl : value :: later = values := Except.ok.inj returned
        rcases List.mem_cons.mp member with rfl | isLater
        · exact ⟨value, List.mem_cons_self, isFirst⟩
        · obtain ⟨other, isOther, same⟩ := ih isRest isLater
          exact ⟨other, List.mem_cons_of_mem _ isOther, same⟩

/-- A loop of which a turn raises. -/
theorem mapM_eq_error {ε : Type} {f : α → Except ε β} {a : α} {exc : ε} (member : a ∈ items)
    (raises : f a = .error exc) : ∃ other, items.mapM f = .error other := by
  cases done : items.mapM f with
  | error other => exact ⟨other, rfl⟩
  | ok values =>
    obtain ⟨value, -, returns⟩ := exists_of_mapM_eq_ok done member
    rw [raises] at returns
    cases returns

theorem all_congr_of_mem {p q : α → Bool} (same : ∀ a ∈ items, p a = q a) :
    items.all p = items.all q := by
  rw [Bool.eq_iff_iff, List.all_eq_true, List.all_eq_true]
  exact forall₂_congr fun a member => by rw [same a member]

/-- A key that is looked up among others that are equal where its likes are. -/
theorem lookup_map_congr {f g : α → ℕ} {value : α → β} {a b : ℕ}
    (same : ∀ item ∈ items, f item = a ↔ g item = b) :
    (items.map fun item => (f item, value item)).lookup a =
      (items.map fun item => (g item, value item)).lookup b := by
  induction items with
  | nil => rfl
  | cons item rest ih =>
    have later := ih fun item member => same item (List.mem_cons_of_mem _ member)
    have first := same item List.mem_cons_self
    rw [List.map_cons, List.map_cons, List.lookup_cons, List.lookup_cons, later]
    by_cases found : f item = a
    · rw [found, first.mp found, beq_self_eq_true, beq_self_eq_true]
    · have missed : (a == f item) = false := by simpa using Ne.symm found
      have missed' : (b == g item) = false := by
        simpa using fun same => found (first.mpr same.symm)
      rw [missed, missed']

end DicePipeline
