import DicePipeline.Throttle.OneKey

/-!
# How many tokens can be guessed

A login looks the failures of its address up, lets Knox judge the token, and
counts a wrong one afterwards, so logins that are in flight together all pass
before any of them is counted.  ADR 0031 accepts this overshoot: it is the
number of logins one address can have in flight at once, on top of the limit.

Between two ends of windows the bound comes from the last login to pass.  When
it passes, the wrong tokens tried so far belong to logins in flight, of which
there are few, or to logins that have ended; the ended ones are all counted in
one window that is still live, so the look-up that passed has seen them.
`Stretch` is that argument as an invariant.

One kind of ended login escapes the count: `record` gives up with a
`RuntimeError` when the row changes under every one of its rounds.  Among any
requests those are left out of the bound (`lockout_bounds_counted`).  Among logins
of one key there are none, however slow they are (`gaveUp_eq_false`), and
`lockout_bounds_guessing` is the bound without exception.

### What is load-bearing

That a window ends neither at nor between the two ends of the stretch is used
twice: a failure that was counted in it is still counted at the last look-up, and no
renewal sets the count back to one.  Without it the bound is one for each window.
-/

namespace DicePipeline.Throttle

open Interaction

variable {κ α : Type}

/-! ## Between two ends of windows -/

section Stretch

variable {rates : ThrottleScope → Rate} {key : String} {C : ℕ} {origin c : Limits}

/-- Call `i` has tried a wrong token since `origin`. -/
def Tried (key : String) (origin c : Limits) (i : ℕ) : Prop :=
  (traceOf i c.history).token = some (key, true) ∧
    (traceOf i origin.history).token ≠ some (key, true)

/-- Login `i` has passed the lockout and Knox has yet to judge its token. -/
def Passed (rates : ThrottleScope → Rate) (key : String) (c : Limits) (i : ℕ) : Prop :=
  i ∈ inFlight key c ∧ (traceOf i c.history).token = none ∧
    ∃ count, (traceOf i c.history).found = some (key, count) ∧
      count < (rates .failedAuth).numRequests

open scoped Classical in
/-- Who has tried a wrong token since `origin`, without giving up on counting it,
or is about to try one. -/
noncomputable def exposed (rates : ThrottleScope → Rate) (key : String) (origin c : Limits) :
    Finset ℕ :=
  (Finset.range c.count).filter fun i =>
    Tried key origin c i ∧ gaveUp i c.history = false ∨ Passed rates key c i

open scoped Classical in
/-- Whose wrong token since `origin` has been counted. -/
noncomputable def recorded (key : String) (origin c : Limits) : Finset ℕ :=
  (Finset.range c.count).filter fun i =>
    Tried key origin c i ∧ (traceOf i c.history).counted ≠ []

theorem mem_exposed {i : ℕ} : i ∈ exposed rates key origin c ↔ i < c.count ∧
    (Tried key origin c i ∧ gaveUp i c.history = false ∨ Passed rates key c i) := by
  simp [exposed]

theorem mem_recorded {i : ℕ} : i ∈ recorded key origin c ↔ i < c.count ∧
    Tried key origin c i ∧ (traceOf i c.history).counted ≠ [] := by
  simp [recorded]

/-- No window of `key` has ended since `origin`. -/
def Between (key : String) (origin c : Limits) : Prop :=
  ∀ endsAt ∈ windowEnds key c.history,
    endsAt ≤ origin.store.clock ∨ c.store.clock < endsAt

/-- **The argument.** -/
structure Stretch (rates : ThrottleScope → Rate) (key : String) (C : ℕ) (origin c : Limits) :
    Prop where
  clock : origin.store.clock ≤ c.store.clock
  /-- A hit for a token tried since `origin` has read its time since `origin`. -/
  fresh : ∀ i, Tried key origin c i → ∀ now, (traceOf i c.history).now = some now →
    origin.store.clock ≤ now
  /-- Those counted are counted in one window that ends after `origin`. -/
  counted : recorded key origin c = ∅ ∨ ∃ row, c.store.rows key = some row ∧
    origin.store.clock < row.windowEndsAt ∧ (recorded key origin c).card ≤ row.count
  bound : (exposed rates key origin c).card ≤ (rates .failedAuth).numRequests + C - 1

/-- Nothing has been tried since `origin` at `origin`. -/
theorem Stretch.start
    (reached : (counters (LimitCall.code rates)).Reach (AtMost key C) (.initial .empty) origin) :
    Stretch rates key C origin origin where
  clock := Nat.le_refl _
  fresh i tried := absurd tried.1 tried.2
  counted := by
    refine .inl (Finset.eq_empty_of_forall_notMem fun i member => ?_)
    obtain ⟨-, tried, -⟩ := mem_recorded.mp member
    exact tried.2 tried.1
  bound := by
    have passed : ∀ i ∈ exposed rates key origin origin, Passed rates key origin i := by
      intro i member
      obtain ⟨-, ⟨tried, -⟩ | passed⟩ := mem_exposed.mp member
      · exact absurd tried.1 tried.2
      · exact passed
    rcases (exposed rates key origin origin).eq_empty_or_nonempty with none | ⟨i, member⟩
    · rw [none]
      exact Nat.zero_le _
    · obtain ⟨-, -, count, -, below⟩ := passed i member
      have few := (Finset.card_le_card fun i member => (passed i member).1).trans
        (inFlight_le reached)
      omega

/-- The configuration after call `j` has issued its statement. -/
abbrev afterStep (c : Limits) (j : ℕ) (verdict : TokenCheck)
    (thread : Thread Sql Failure LimitAnswer LimitCall) : Limits :=
  { c with
    store := (Statement.run verdict thread.op c.store).2
    history := .answered j thread.op (Statement.run verdict thread.op c.store).1 ::
      c.history }.place j thread.role (thread.next (Statement.run verdict thread.op c.store).1)

section Step

variable {ok : Limits → Label LimitCall TokenCheck ℕ → Prop} {j : ℕ} {verdict : TokenCheck}
variable {thread : Thread Sql Failure LimitAnswer LimitCall}

theorem traceOf_afterStep_of_ne {i : ℕ} (different : i ≠ j) :
    traceOf i (afterStep c j verdict thread).history = traceOf i c.history := by
  rw [traceOf_place, traceOf_answered, if_neg (Ne.symm different)]

theorem traceOf_afterStep_self :
    traceOf j (afterStep c j verdict thread).history = (traceOf j c.history).advance thread.op
      (Statement.run verdict thread.op c.store).1 := by
  rw [traceOf_place, traceOf_answered, if_pos rfl]

/-- A `RuntimeError` stays in the history. -/
theorem gaveUp_of_afterStep {i : ℕ} (kept : gaveUp i (afterStep c j verdict thread).history = false) :
    gaveUp i c.history = false := by
  rw [Bool.eq_false_iff] at kept ⊢
  intro before
  obtain ⟨event, member, isSuch⟩ := List.any_eq_true.mp before
  exact kept (List.any_eq_true.mpr
    ⟨event, Config.mem_place_history _ _ _ _ (List.mem_cons_of_mem _ member), isSuch⟩)

/-- Who has tried a wrong token had done so before, unless it was just judged. -/
theorem tried_of_afterStep {i : ℕ} (tried : Tried key origin (afterStep c j verdict thread) i) :
    Tried key origin c i ∨ i = j ∧ thread.op = .checkToken key := by
  obtain ⟨wrong, new⟩ := tried
  by_cases same : i = j
  · subst same
    rw [traceOf_afterStep_self] at wrong
    by_cases asks : ∃ k, thread.op = .checkToken k
    · obtain ⟨k, asked⟩ := asks
      obtain ⟨role, op, next⟩ := thread
      dsimp only at asked
      subst asked
      obtain ⟨found, checked⟩ := checked_checkToken k
        (Statement.run verdict (.checkToken k) c.store).1
      have its : (k, found) = (key, true) := Option.some.inj ((checked _).symm.trans wrong)
      exact .inr ⟨rfl, congrArg _ (Prod.mk.inj its).1⟩
    · have other : ∀ k, thread.op ≠ .checkToken k := fun k asked => asks ⟨k, asked⟩
      exact .inl ⟨(checked_of_ne _ other).symm.trans wrong, new⟩
  · rw [traceOf_afterStep_of_ne same] at wrong
    exact .inl ⟨wrong, new⟩

/-- Who is counted had been, unless it is counted just now, under its own key. -/
theorem recorded_of_afterStep
    (reached : (counters (LimitCall.code rates)).Reach ok (.initial .empty) c)
    (live : c.threads j = some thread) {i : ℕ}
    (member : i ∈ recorded key origin (afterStep c j verdict thread)) :
    i ∈ recorded key origin c ∨ i = j ∧ Tried key origin c j ∧
      ∃ k begins, Statement.counted thread.op (Statement.run verdict thread.op c.store).1
        = some (k, begins) := by
  obtain ⟨known, tried, counted⟩ := mem_recorded.mp member
  rw [Config.place_count] at known
  rcases tried_of_afterStep tried with before | ⟨rfl, asked⟩
  · by_cases same : i = j
    · subst same
      rw [traceOf_afterStep_self] at counted
      cases now : Statement.counted thread.op (Statement.run verdict thread.op c.store).1 with
      | none =>
          refine .inl (mem_recorded.mpr ⟨known, before, ?_⟩)
          simpa [Trace.advance, now] using counted
      | some hit => exact .inr ⟨rfl, before, hit.1, hit.2, rfl⟩
    · rw [traceOf_afterStep_of_ne same] at counted
      exact .inl (mem_recorded.mpr ⟨known, before, counted⟩)
  · -- Knox's verdict counts nothing, and nothing was counted before it.
    obtain ⟨role, op, next⟩ := thread
    dsimp only at asked
    subst asked
    obtain ⟨-, idle, -⟩ := (may_of_live reached live).of_checkToken
    rw [traceOf_afterStep_self] at counted
    refine absurd ?_ counted
    have nothing : Statement.counted (.checkToken key)
        (Statement.run verdict (.checkToken key) c.store).1 = none := by
      cases verdict <;> rfl
    have before : (traceOf i c.history).counted = [] := idle.counted
    simp [Trace.advance, nothing, before]

/-- Who is exposed had been, unless its look-up has just let it pass. -/
theorem exposed_of_afterStep
    (reached : (counters (LimitCall.code rates)).Reach ok (.initial .empty) c)
    (live : c.threads j = some thread) {i : ℕ}
    (member : i ∈ exposed rates key origin (afterStep c j verdict thread)) :
    i ∈ exposed rates key origin c ∨ ∃ now, thread.op = .firstLive key now ∧
      countOf ((c.store.rows key).filter fun row => now < row.windowEndsAt) <
        (rates .failedAuth).numRequests := by
  obtain ⟨known, ⟨tried, kept⟩ | ⟨flying, untried, count, found, below⟩⟩ := mem_exposed.mp member
  · rw [Config.place_count] at known
    rcases tried_of_afterStep tried with before | ⟨rfl, asked⟩
    · exact .inl (mem_exposed.mpr ⟨known, .inl ⟨before, gaveUp_of_afterStep kept⟩⟩)
    · obtain ⟨login, idle, below⟩ := LimitCall.May.of_checkToken
        (asked ▸ may_of_live reached live)
      exact .inl (mem_exposed.mpr ⟨known, .inr
        ⟨mem_inFlight.mpr ⟨known, thread, live, login⟩, idle.token, below⟩⟩)
  · rw [Config.place_count] at known
    by_cases same : i = j
    · subst same
      rw [traceOf_afterStep_self] at untried found
      obtain ⟨-, after, isLive, login⟩ := mem_inFlight.mp flying
      obtain ⟨sameRole, -⟩ := Config.place_threads_self _ _ _ _ isLive
      have flying : i ∈ inFlight key c := mem_inFlight.mpr ⟨known, thread, live, sameRole ▸ login⟩
      have untriedBefore : (traceOf i c.history).token = none := by
        by_cases asks : ∃ k, thread.op = .checkToken k
        · obtain ⟨k, asked⟩ := asks
          exact (LimitCall.May.of_checkToken (asked ▸ may_of_live reached live)).2.1.token
        · exact (checked_of_ne _ fun k asked => asks ⟨k, asked⟩).symm.trans untried
      rcases lookedUp_run found with before | ⟨k, now, looks, seen⟩
      · exact .inl (mem_exposed.mpr ⟨known, .inr
          ⟨flying, untriedBefore, count, before, below⟩⟩)
      · obtain ⟨rfl, rfl⟩ := Prod.mk.inj (Option.some.inj seen)
        exact .inr ⟨now, looks, below⟩
    · rw [inFlight_place_of_ne same] at flying
      rw [traceOf_afterStep_of_ne same] at untried found
      exact .inl (mem_exposed.mpr ⟨known, .inr ⟨flying, untried, count, found, below⟩⟩)

/-- The window that the recorded ones are counted in is live. -/
theorem Stretch.live_window (inv : Stretch rates key C origin c)
    (reached : (counters (LimitCall.code rates)).Reach ok (.initial .empty) c)
    (quiet : Between key origin c) :
    recorded key origin c = ∅ ∨ ∃ row, c.store.rows key = some row ∧
      c.store.clock < row.windowEndsAt ∧ (recorded key origin c).card ≤ row.count := by
  refine inv.counted.imp id ?_
  rintro ⟨row, found, later, counted⟩
  have ends := (quiet _ (row_ends reached found)).resolve_left (Nat.not_le_of_lt later)
  exact ⟨row, found, ends, counted⟩

/-- A hit of a token tried since `origin` carries a time since `origin`. -/
theorem Stretch.hit_since (inv : Stretch rates key C origin c)
    (reached : (counters (LimitCall.code rates)).Reach ok (.initial .empty) c)
    (live : c.threads j = some thread) (tried : Tried key origin c j) :
    (∀ k now, thread.op = .updateLive k now → k = key ∧ origin.store.clock ≤ now) ∧
    (∀ k now endsAt, thread.op = .updateExpired k now endsAt →
      k = key ∧ origin.store.clock < endsAt) ∧
    (∀ k endsAt, thread.op = .create k endsAt → k = key ∧ origin.store.clock < endsAt) := by
  obtain ⟨-, may⟩ := (may_of_live reached live).of_wrong tried.1
  have long : 0 < seconds (rates .failedAuth).duration :=
    Nat.mul_pos (Rate.duration_pos _) (by decide)
  refine ⟨?_, ?_, ?_⟩
  · intro k now issued
    rw [issued] at may
    exact ⟨may.1, inv.fresh j tried now may.2.1⟩
  · intro k now endsAt issued
    rw [issued] at may
    obtain ⟨rfl, read, rfl, -⟩ := may
    exact ⟨rfl, (inv.fresh j tried now read).trans_lt (Nat.lt_add_of_pos_right long)⟩
  · intro k endsAt issued
    rw [issued] at may
    obtain ⟨rfl, ⟨now, read, rfl⟩, -⟩ := may
    exact ⟨rfl, (inv.fresh j tried now read).trans_lt (Nat.lt_add_of_pos_right long)⟩

/-- **Counting.**  A statement keeps the recorded ones in one window. -/
theorem Stretch.counted_step (inv : Stretch rates key C origin c)
    (reached : (counters (LimitCall.code rates)).Reach ok (.initial .empty) c)
    (quiet : Between key origin c) (live : c.threads j = some thread) :
    recorded key origin (afterStep c j verdict thread) = ∅ ∨
      ∃ row, (afterStep c j verdict thread).store.rows key = some row ∧
        origin.store.clock < row.windowEndsAt ∧
        (recorded key origin (afterStep c j verdict thread)).card ≤ row.count := by
  rw [Config.place_store]
  have before : ∀ i ∈ recorded key origin (afterStep c j verdict thread),
      i ∈ recorded key origin c ∨ i = j ∧ Tried key origin c j ∧
        ∃ k begins, Statement.counted thread.op (Statement.run verdict thread.op c.store).1
          = some (k, begins) := fun i member => recorded_of_afterStep reached live member
  -- One more is recorded at most.
  have oneMore : (recorded key origin (afterStep c j verdict thread)).card ≤
      (recorded key origin c).card + 1 :=
    (Finset.card_le_card fun i member => Finset.mem_insert.mpr
      ((before i member).symm.imp And.left id)).trans (Finset.card_insert_le j _)
  have read := (may_of_live reached live).read
  have past := read_le_clock reached
  have effect := Statement.run_effect verdict thread.op c.store
  obtain ⟨since, sinceExpired, sinceCreate⟩ : (∀ k now, thread.op = .updateLive k now →
      Tried key origin c j → k = key ∧ origin.store.clock ≤ now) ∧
      (∀ k now endsAt, thread.op = .updateExpired k now endsAt →
        Tried key origin c j → k = key ∧ origin.store.clock < endsAt) ∧
      (∀ k endsAt, thread.op = .create k endsAt →
        Tried key origin c j → k = key ∧ origin.store.clock < endsAt) :=
    ⟨fun k now issued tried => (inv.hit_since reached live tried).1 k now issued,
      fun k now endsAt issued tried => (inv.hit_since reached live tried).2.1 k now endsAt issued,
      fun k endsAt issued tried => (inv.hit_since reached live tried).2.2 k endsAt issued⟩
  -- A statement that leaves the row as it is and records nobody.
  have same : (∀ i ∈ recorded key origin (afterStep c j verdict thread),
      i ∈ recorded key origin c) →
      (∀ row, c.store.rows key = some row → c.store.clock < row.windowEndsAt →
        (Statement.run verdict thread.op c.store).2.rows key = some row) →
      recorded key origin (afterStep c j verdict thread) = ∅ ∨
        ∃ row, (Statement.run verdict thread.op c.store).2.rows key = some row ∧
          origin.store.clock < row.windowEndsAt ∧
          (recorded key origin (afterStep c j verdict thread)).card ≤ row.count := by
    intro shrinks keeps
    have fewer := Finset.card_le_card fun i member => shrinks i member
    rcases inv.live_window reached quiet with none | ⟨row, found, ends, counted⟩
    · refine .inl (Finset.subset_empty.mp (none ▸ fun i member => shrinks i member))
    · exact .inr ⟨row, keeps row found ends, inv.clock.trans_lt ends, fewer.trans counted⟩
  -- A new window: nobody is recorded yet, so at most the caller is from now on.
  have begins : ∀ k endsAt, recorded key origin c = ∅ ∨ k ≠ key →
      Statement.counted thread.op (Statement.run verdict thread.op c.store).1 = some (k, true) →
      (Tried key origin c j → k = key ∧ origin.store.clock < endsAt) →
      (Statement.run verdict thread.op c.store).2 = c.store.set k ⟨1, endsAt⟩ →
      recorded key origin (afterStep c j verdict thread) = ∅ ∨
        ∃ row, (Statement.run verdict thread.op c.store).2.rows key = some row ∧
          origin.store.clock < row.windowEndsAt ∧
          (recorded key origin (afterStep c j verdict thread)).card ≤ row.count := by
    intro k endsAt empty counted its store
    by_cases tried : Tried key origin c j
    · obtain ⟨rfl, later⟩ := its tried
      have none := empty.resolve_right fun other => other rfl
      refine .inr ⟨⟨1, endsAt⟩, by rw [store, Counters.set_rows_self], later, ?_⟩
      rw [none] at oneMore
      exact oneMore
    · have shrinks : ∀ i ∈ recorded key origin (afterStep c j verdict thread),
          i ∈ recorded key origin c :=
        fun i member => (before i member).resolve_right fun new => tried new.2.1
      rcases empty with none | other
      · exact .inl (Finset.subset_empty.mp (none ▸ fun i member => shrinks i member))
      · refine same shrinks fun row found _ => ?_
        rw [store, Counters.set_rows_of_ne _ _ (Ne.symm other), found]
  generalize issued : thread.op = statement at *
  generalize Statement.counted statement (Statement.run verdict statement c.store).1
    = hit at *
  generalize (Statement.run verdict statement c.store).2 = after at *
  cases effect with
  | @added k now row found live =>
      by_cases its : k = key
      · subst its
        rcases (recorded k origin (afterStep c j verdict thread)).eq_empty_or_nonempty with
          none | ⟨i, member⟩
        · exact .inl none
        · refine .inr ⟨_, Counters.set_rows_self _ _ _, ?_, ?_⟩
          · rcases before i member with old | ⟨-, tried, -⟩
            · rcases inv.live_window reached quiet with none | ⟨row', found', ends, -⟩
              · rw [none] at old
                cases old
              · rw [Option.some.inj (found.symm.trans found')]
                exact inv.clock.trans_lt ends
            · exact (since k now rfl tried).2.trans_lt live
          · refine oneMore.trans (Nat.succ_le_succ ?_)
            rcases inv.live_window reached quiet with none | ⟨row', found', -, counted⟩
            · rw [none]
              exact Nat.zero_le _
            · rwa [Option.some.inj (found.symm.trans found')]
      · refine same (fun i member => (before i member).resolve_right fun new =>
          its (since k now rfl new.2.1).1) fun row' found' _ => ?_
        rwa [Counters.set_rows_of_ne _ _ (Ne.symm its)]
  | @renewed k now endsAt row found ended =>
      refine begins k endsAt ?_ rfl (sinceExpired k now endsAt rfl) rfl
      by_cases its : k = key
      · subst its
        refine .inl ((inv.live_window reached quiet).resolve_right ?_)
        rintro ⟨row', found', ends, -⟩
        rw [Option.some.inj (found'.symm.trans found)] at ends
        have := past j now (read.1 k now endsAt rfl)
        omega
      · exact .inr its
  | @created k endsAt vacant =>
      refine begins k endsAt ?_ rfl (sinceCreate k endsAt rfl) rfl
      by_cases its : k = key
      · subst its
        refine .inl ((inv.live_window reached quiet).resolve_right ?_)
        rintro ⟨row', found', -⟩
        cases vacant.symm.trans found'
      · exact .inr its
  | @removed moment =>
      refine same (fun i member => (before i member).resolve_right ?_) fun row found ends => ?_
      · rintro ⟨-, -, k, begins, impossible⟩
        cases impossible
      · obtain ⟨now, isRead, notAfter⟩ := read.2.1 moment rfl
        have := past j now isRead
        have stays : ¬ row.windowEndsAt < moment := by omega
        exact Option.filter_eq_some_iff.mpr ⟨found, by simpa using stays⟩
  | unchanged =>
      refine same (fun i member => (before i member).resolve_right ?_) fun row found _ => found
      rintro ⟨-, -, k, begins, impossible⟩
      cases impossible

/-- **The last login to pass.**  Those exposed when a login passes are in flight, or
counted where its look-up has seen them. -/
theorem Stretch.bound_step (inv : Stretch rates key C origin c)
    (reached : (counters (LimitCall.code rates)).Reach (AtMost key C) (.initial .empty) c)
    (quiet : Between key origin c) (live : c.threads j = some thread) :
    (exposed rates key origin (afterStep c j verdict thread)).card ≤
      (rates .failedAuth).numRequests + C - 1 := by
  -- The exposed grow only when a check is about to pass; then they are counted afresh.
  by_cases passes : ∃ now, thread.op = .firstLive key now ∧
      countOf ((c.store.rows key).filter fun row => now < row.windowEndsAt) <
        (rates .failedAuth).numRequests
  · obtain ⟨now, looks, below⟩ := passes
    -- What the check has found is at least the number of those recorded in this window.
    have seen : (recorded key origin c).card ≤
        countOf ((c.store.rows key).filter fun row => now < row.windowEndsAt) := by
      rcases inv.live_window reached quiet with none | ⟨row, found, ends, counted⟩
      · rw [none]
        exact Nat.zero_le _
      · have past := read_le_clock reached j now ((may_of_live reached live).read.2.2 key now looks)
        have kept : (c.store.rows key).filter (fun row => now < row.windowEndsAt) = some row :=
          Option.filter_eq_some_iff.mpr ⟨found, by simpa using past.trans_lt ends⟩
        rw [kept]
        exact counted
    -- Each of the exposed is in flight or recorded, and at most `C` are in flight.
    have split : ∀ i ∈ exposed rates key origin (afterStep c j verdict thread),
        i ∈ inFlight key c ∪ recorded key origin c := by
      intro i member
      rw [Finset.mem_union]
      obtain ⟨known, ⟨tried, kept⟩ | ⟨flying, -⟩⟩ := mem_exposed.mp member
      · rw [Config.place_count] at known
        have tried := (tried_of_afterStep tried).resolve_right fun asks => by
          obtain ⟨-, asked⟩ := asks
          rw [looks] at asked
          cases asked
        rcases live_or_returned reached i tried.1 with ⟨other, isLive⟩ | ⟨call, result, returned⟩
        · exact .inl (inFlight_of_wrong reached isLive tried.1)
        · exact .inr (mem_recorded.mpr ⟨known, tried,
            counted_of_returned reached tried.1 returned (gaveUp_of_afterStep kept)⟩)
      · by_cases same : i = j
        · subst same
          obtain ⟨known, after, isLive, login⟩ := mem_inFlight.mp flying
          obtain ⟨sameRole, -⟩ := Config.place_threads_self _ _ _ _ isLive
          rw [Config.place_count] at known
          exact .inl (mem_inFlight.mpr ⟨known, thread, live, sameRole ▸ login⟩)
        · rw [inFlight_place_of_ne same] at flying
          exact .inl flying
    have both := (Finset.card_le_card split).trans (Finset.card_union_le _ _)
    have few := inFlight_le reached
    omega
  · refine (Finset.card_le_card fun i member => ?_).trans inv.bound
    exact (exposed_of_afterStep reached live member).resolve_right passes

/-- One statement keeps the argument. -/
theorem Stretch.step (inv : Stretch rates key C origin c)
    (reached : (counters (LimitCall.code rates)).Reach (AtMost key C) (.initial .empty) c)
    (quiet : Between key origin c) (live : c.threads j = some thread) :
    Stretch rates key C origin (afterStep c j verdict thread) where
  clock := by
    rw [Config.place_store]
    show _ ≤ (Statement.run verdict thread.op c.store).2.clock
    rw [(Statement.run_effect verdict thread.op c.store).clock]
    exact inv.clock
  fresh i tried now read := by
    by_cases same : i = j
    · subst same
      rw [traceOf_afterStep_self] at read
      rcases clockRead_run read with rfl | ⟨before, other⟩
      · exact inv.clock
      · have tried := (tried_of_afterStep tried).resolve_right fun asked => other key asked.2
        exact inv.fresh i tried now before
    · rw [traceOf_afterStep_of_ne same] at read
      have tried := (tried_of_afterStep tried).resolve_right fun asked => same asked.1
      exact inv.fresh i tried now read
  counted := inv.counted_step reached quiet live
  bound := inv.bound_step reached quiet live

/-- A label after which the sets are no larger, and the rows and traces as before,
keeps the argument. -/
theorem Stretch.mono {c' : Limits} (inv : Stretch rates key C origin c)
    (clock : c.store.clock ≤ c'.store.clock) (rows : c'.store.rows = c.store.rows)
    (traces : ∀ i, traceOf i c'.history = traceOf i c.history)
    (recordedLess : ∀ i ∈ recorded key origin c', i ∈ recorded key origin c)
    (exposedLess : ∀ i ∈ exposed rates key origin c', i ∈ exposed rates key origin c) :
    Stretch rates key C origin c' where
  clock := inv.clock.trans clock
  fresh i tried now read := by
    rw [Tried, traces i] at tried
    rw [traces i] at read
    exact inv.fresh i tried now read
  counted := by
    have fewer := Finset.card_le_card fun i member => recordedLess i member
    rw [rows]
    rcases inv.counted with none | ⟨row, found, later, counted⟩
    · exact .inl (Finset.subset_empty.mp (none ▸ fun i member => recordedLess i member))
    · exact .inr ⟨row, found, later, fewer.trans counted⟩
  bound := (Finset.card_le_card fun i member => exposedLess i member).trans inv.bound

end Step

/-- A window that has not ended later has not ended before. -/
theorem Between.earlier {c' : Limits} (quiet : Between key origin c')
    (clock : c.store.clock ≤ c'.store.clock) (history : ∀ event ∈ c.history, event ∈ c'.history) :
    Between key origin c := by
  intro endsAt member
  obtain ⟨event, inLog, ends⟩ := List.mem_flatMap.mp member
  exact (quiet endsAt (List.mem_flatMap.mpr ⟨event, history event inLog, ends⟩)).imp id
    fun later => clock.trans_lt later

/-- **Up to the next end of a window**, the argument holds. -/
theorem Stretch.run
    (reached : (counters (LimitCall.code rates)).Reach (AtMost key C) (.initial .empty) origin)
    (run : (counters (LimitCall.code rates)).Reach (AtMost key C) origin c)
    (quiet : Between key origin c) : Stretch rates key C origin c := by
  refine traces_invariant (fun c => Between key origin c → Stretch rates key C origin c)
    reached run (fun _ => .start reached) ?_ ?_ ?_ ?_ quiet
  · intro c call body before _ inv quiet
    have quiet := quiet.earlier (c := c) (by rw [Config.place_store]) fun event member =>
      Config.mem_place_history _ _ _ _ (List.mem_cons_of_mem _ member)
    have traces : ∀ i, traceOf i ({ c with
        count := c.count + 1
        history := .started c.count call :: c.history }.place c.count call body).history =
          traceOf i c.history := fun i => by rw [traceOf_place, traceOf_started]
    -- The new call has done nothing.
    have unseen : traceOf c.count c.history = Trace.unseen :=
      ((calls_follow (limitCall_follows rates) before).fresh c.count (Nat.le_refl _)).2
    refine (inv quiet).mono (by rw [Config.place_store]) (by rw [Config.place_store]) traces ?_ ?_
    · intro i member
      obtain ⟨known, ⟨wrong, new⟩, counted⟩ := mem_recorded.mp member
      rw [Config.place_count] at known
      rw [traces] at wrong counted
      by_cases same : i = c.count
      · rw [same, unseen] at wrong
        cases wrong
      · exact mem_recorded.mpr ⟨Nat.lt_of_le_of_ne (Nat.le_of_lt_succ known) same,
          ⟨wrong, new⟩, counted⟩
    · intro i member
      obtain ⟨known, its⟩ := mem_exposed.mp member
      rw [Config.place_count] at known
      by_cases same : i = c.count
      · rcases its with ⟨⟨wrong, -⟩, -⟩ | ⟨-, -, count, found, -⟩
        · rw [traces, same, unseen] at wrong
          cases wrong
        · rw [traces, same, unseen] at found
          cases found
      · refine mem_exposed.mpr ⟨Nat.lt_of_le_of_ne (Nat.le_of_lt_succ known) same, ?_⟩
        rcases its with ⟨⟨wrong, new⟩, kept⟩ | ⟨flying, untried, below⟩
        · rw [traces] at wrong
          refine .inl ⟨⟨wrong, new⟩, ?_⟩
          rw [Bool.eq_false_iff] at kept ⊢
          intro before
          obtain ⟨event, inLog, isSuch⟩ := List.any_eq_true.mp before
          exact kept (List.any_eq_true.mpr
            ⟨event, Config.mem_place_history _ _ _ _ (List.mem_cons_of_mem _ inLog), isSuch⟩)
        · rw [traces] at untried below
          rw [inFlight_place_of_ne same, mem_inFlight] at flying
          exact .inr ⟨mem_inFlight.mpr ⟨Nat.lt_of_le_of_ne (Nat.le_of_lt_succ known) same,
            flying.2⟩, untried, below⟩
  · intro c i verdict thread before live inv quiet
    have quiet := quiet.earlier (c := c) (by
      rw [Config.place_store]
      exact (Statement.run_effect verdict thread.op c.store).clock.ge) fun event member =>
      Config.mem_place_history _ _ _ _ (List.mem_cons_of_mem _ member)
    exact (inv quiet).step before quiet live
  · intro c i thread before _ live inv quiet
    have quiet := quiet.earlier (c := c) (Nat.le_refl _) fun event member =>
      List.mem_cons_of_mem _ member
    refine (inv quiet).mono (Nat.le_refl _) rfl (fun _ => rfl) (fun _ member => member) ?_
    intro j member
    obtain ⟨known, its⟩ := mem_exposed.mp member
    refine mem_exposed.mpr ⟨known, its.imp id ?_⟩
    rintro ⟨flying, rest⟩
    obtain ⟨known, after, isLive, login⟩ := mem_inFlight.mp flying
    by_cases same : j = i
    · subst same
      simp at isLive
    · exact ⟨mem_inFlight.mpr ⟨known, after, by simpa [same] using isLive, login⟩, rest⟩
  · intro c elapsed inv quiet
    have quiet := quiet.earlier (c := c) (Nat.le_add_right _ _) fun event member => member
    exact (inv quiet).mono (Nat.le_add_right _ _) rfl (fun _ => rfl) (fun _ member => member)
      (fun _ member => member)

end Stretch

/-! ## The lockout -/

/-- A call that has written nothing has issued only statements that cannot. -/
theorem readOnly_of_unwritten {i : ℕ} {log : Log κ α} (silent : (traceOf i log).wrote = false)
    {statement : Statement} {answer : Except Failure statement.Ans}
    (issued : .answered i statement answer ∈ log) : statement.readOnly = true := by
  induction log with
  | nil => cases issued
  | cons event earlier ih =>
      rcases List.mem_cons.mp issued with rfl | old
      · rw [traceOf_answered, if_pos rfl] at silent
        simpa [Trace.advance] using (Bool.or_eq_false_iff.mp silent).2
      · refine ih ?_ old
        cases event with
        | started j call => exact silent
        | returned j call result => exact silent
        | killed j => exact silent
        | answered j other given =>
            rw [traceOf_answered] at silent
            by_cases same : j = i
            · rw [if_pos same] at silent
              exact (Bool.or_eq_false_iff.mp silent).1
            · rwa [if_neg same] at silent

/-- **The overshoot, among any requests.**  With at most `C` logins under `key` in
flight, and between two ends of its windows, no more wrong tokens are counted than the
limit and `C` less one: those whose `record` gave up are left out.  And a login that was
refused, or whose token was missing or valid, has only issued statements that
leave every table as it is. -/
theorem lockout_bounds_counted {rates : ThrottleScope → Rate} {key : String} {C : ℕ}
    {origin c : Limits}
    (reached : (counters (LimitCall.code rates)).Reach (AtMost key C) (.initial .empty) origin)
    (run : (counters (LimitCall.code rates)).Reach (AtMost key C) origin c)
    (recent : Log LimitCall LimitAnswer) (history : c.history = recent ++ origin.history)
    (between : ∀ endsAt ∈ windowEnds key c.history,
      endsAt ≤ origin.store.clock ∨ c.store.clock < endsAt) :
    ((wrongTokens key recent).filter fun i => !gaveUp i c.history).length ≤
      (rates .failedAuth).numRequests + C - 1 ∧
    ∀ i request result, .returned i (.authenticate request) result ∈ c.history →
      ((∃ answer, result = .ok answer) ∨ ∃ wait, result = .error (.throttled wait)) →
      ∀ statement answer, .answered i statement answer ∈ c.history →
        ∀ verdict s, (Statement.run verdict statement s).2 = s := by
  have whole := reached.trans run
  obtain ⟨nodup, isWrong⟩ := wrongTokens_iff whole key
  constructor
  · have split : wrongTokens key c.history =
        wrongTokens key recent ++ wrongTokens key origin.history := by
      rw [history, wrongTokens, List.filterMap_append]
      rfl
    rw [split, List.nodup_append] at nodup
    have once : ((wrongTokens key recent).filter fun i => !gaveUp i c.history).Nodup :=
      nodup.1.filter _
    rw [← List.toFinset_card_of_nodup once]
    -- Who is counted has tried its token within the stretch, so is among the exposed.
    refine (Finset.card_le_card fun i member => ?_).trans (Stretch.run reached run between).bound
    obtain ⟨listed, kept⟩ := List.mem_filter.mp (List.mem_toFinset.mp member)
    have wrong : (traceOf i c.history).token = some (key, true) :=
      (isWrong i).mp (split ▸ List.mem_append_left _ listed)
    have new : (traceOf i origin.history).token ≠ some (key, true) := fun before =>
      nodup.2.2 i listed i (((wrongTokens_iff reached key).2 i).mpr before) rfl
    have known : i < c.count := by
      by_contra unused
      have unseen := ((calls_follow (limitCall_follows rates) whole).fresh i
        (Nat.le_of_not_lt unused)).2
      change traceOf i c.history = Trace.unseen at unseen
      rw [unseen] at wrong
      cases wrong
    exact mem_exposed.mpr ⟨known, .inl ⟨⟨wrong, new⟩, by simpa using kept⟩⟩
  · intro i request result returned spared statement answer issued verdict s
    have ends : LimitCall.Ends rates (.authenticate request) (traceOf i c.history) result :=
      (calls_follow (limitCall_follows rates) whole).returned i _ result returned
    -- A login that ended so has written nothing, by what its trace says of its end.
    have silent : (traceOf i c.history).wrote = false := by
      rcases spared with ⟨⟨letThrough, secondsLeft⟩ | user, rfl⟩ | ⟨wait, rfl⟩
      · exact ends.elim
      · exact ends.2.2
      · exact ends.wrote
    exact Statement.run_of_readOnly (readOnly_of_unwritten silent issued) verdict s

/-- **Bounded token guessing.**  Among logins of one key, with at most `C` of them in
flight, and between two ends of its windows, no more wrong tokens are tried than the
limit and `C` less one.  And a login that was refused, or whose token was missing or
valid, has only issued statements that leave every table as it is. -/
theorem lockout_bounds_guessing {rates : ThrottleScope → Rate} {key : String} {C : ℕ}
    {origin c : Limits}
    (reached : (counters (LimitCall.code rates)).Reach (LoginsOf key C) (.initial .empty) origin)
    (run : (counters (LimitCall.code rates)).Reach (LoginsOf key C) origin c)
    (recent : Log LimitCall LimitAnswer) (history : c.history = recent ++ origin.history)
    (between : ∀ endsAt ∈ windowEnds key c.history,
      endsAt ≤ origin.store.clock ∨ c.store.clock < endsAt) :
    (wrongTokens key recent).length ≤ (rates .failedAuth).numRequests + C - 1 ∧
    ∀ i request result, .returned i (.authenticate request) result ∈ c.history →
      ((∃ answer, result = .ok answer) ∨ ∃ wait, result = .error (.throttled wait)) →
      ∀ statement answer, .answered i statement answer ∈ c.history →
        ∀ verdict s, (Statement.run verdict statement s).2 = s := by
  obtain ⟨counted, spares⟩ := lockout_bounds_counted
    (reached.mono fun _ _ => LoginsOf.atMost) (run.mono fun _ _ => LoginsOf.atMost) recent
    history between
  have all : (wrongTokens key recent).filter (fun i => !gaveUp i c.history) =
      wrongTokens key recent :=
    List.filter_eq_self.mpr fun i _ => by rw [gaveUp_eq_false (reached.trans run) i, Bool.not_false]
  rw [all] at counted
  exact ⟨counted, spares⟩

/-- `LoginsOf`, decided. -/
def loginsOf (key : String) (C : ℕ) (c : Limits) : Label LimitCall TokenCheck ℕ → Bool
  | .spawn call => call.loginKey = some key ∧ (inFlight key c).card < C
  | .kill i => i ∉ inFlight key c
  | _ => true

theorem loginsOf_sound (key : String) (C : ℕ) (c : Limits)
    (label : Label LimitCall TokenCheck ℕ) (admitted : loginsOf key C c label = true) :
    LoginsOf key C c label := by
  cases label with
  | spawn call =>
      exact of_decide_eq_true
        (p := call.loginKey = some key ∧ (inFlight key c).card < C) admitted
  | kill i => exact of_decide_eq_true (p := i ∉ inFlight key c) admitted
  | step i verdict => trivial
  | env elapsed => trivial

/-- The steps of one login, up to Knox's verdict. -/
def guess (i : ℕ) : List (Label LimitCall TokenCheck ℕ) := List.replicate 3 (.step i .wrong)

/-- Two guesses at once, against a limit of one: the overshoot is the one the bound
allows. -/
theorem lockout_bounds_guessing_together :
    ∃ c, (counters (LimitCall.code onceAMinute)).Reach (LoginsOf "failed_auth:9.9.9.9" 2)
        (.initial .empty) c ∧
      wrongTokens "failed_auth:9.9.9.9" c.history = [1, 0] ∧
      (wrongTokens "failed_auth:9.9.9.9" c.history).length ≤ 1 + 2 - 1 := by
  have replayed := Machine.exists_reach_of_replay (counters (LimitCall.code onceAMinute))
    (loginsOf "failed_auth:9.9.9.9" 2) (.initial .empty)
    ([.spawn (.authenticate .example), .spawn (.authenticate .example)] ++ guess 0 ++ guess 1 ++
      (List.replicate 7 0 ++ List.replicate 4 1).map fun i => .step i .wrong)
    (fun c => decide (wrongTokens "failed_auth:9.9.9.9" c.history = [1, 0] ∧
      ∀ endsAt ∈ windowEnds "failed_auth:9.9.9.9" c.history, endsAt ≤ 0 ∨
        c.store.clock < endsAt))
    (by decide +kernel)
  obtain ⟨c, reached, checked⟩ := replayed
  obtain ⟨tried, between⟩ := of_decide_eq_true checked
  have reached := reached.mono (loginsOf_sound "failed_auth:9.9.9.9" 2)
  exact ⟨c, reached, tried, (lockout_bounds_guessing .refl reached c.history
    (by simp [Config.initial]) between).1⟩

end DicePipeline.Throttle
