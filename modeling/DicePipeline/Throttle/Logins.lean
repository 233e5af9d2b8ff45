import DicePipeline.Throttle.Calls
import Mathlib.Data.Finset.Card
import Mathlib.Tactic.ByContra

/-!
# Logins and their tokens

What can be said of a login from its trace and from the history of a run: which
logins are in flight, whose token was found wrong, who has counted it, and when
the windows of a key end.  The times that statements carry have been read off
the clock, Knox is asked once by each login, and a login that has returned after
a wrong token has either counted it or given up.

Nothing here depends on how many logins there are, except `inFlight_le`.
-/

namespace DicePipeline.Throttle

open Interaction

variable {κ α : Type}

/-- The requests at the two limits over one table. -/
abbrev Limits := Config Sql Failure LimitAnswer Counters LimitCall

/-- The key a login is counted under. -/
def LimitCall.loginKey : LimitCall → Option String
  | .allowRequest _ => none
  | .authenticate request => some (buildCounterKey .failedAuth request)

/-- The logins under `key` that are in flight. -/
def inFlight (key : String) (c : Limits) : Finset ℕ :=
  (Finset.range c.count).filter fun i =>
    (c.threads i).any fun thread => thread.role.loginKey = some key

/-- Whose token was found wrong, under `key`, newest first. -/
def wrongTokens (key : String) (log : Log κ α) : List ℕ :=
  log.filterMap fun
    | .answered i statement answer =>
        if Statement.checked none statement answer = some (key, true) then some i else none
    | _ => none

/-- Whether call `i` ended with the `RuntimeError` of a hit. -/
def gaveUp (i : ℕ) (log : Log κ α) : Bool :=
  log.any fun
    | .returned j _ (.error (.runtimeError _)) => j = i
    | _ => false

/-- When a window begun by this statement ends. -/
def Statement.windowEnd : Statement → Option ℕ
  | .updateExpired _ _ endsAt => some endsAt
  | .create _ endsAt => some endsAt
  | _ => none

/-- When the windows of `key` that have begun end or ended. -/
def windowEnds (key : String) (log : Log κ α) : List ℕ :=
  log.flatMap fun
    | .answered _ statement answer =>
        if Statement.counted statement answer = some (key, true) then
          (Statement.windowEnd statement).toList
        else []
    | _ => []

/-- **At most `C` logins under `key` in flight.**  They are not killed; a killed
one would have tried a token without counting it. -/
def AtMost (key : String) (C : ℕ) (c : Limits) : Label LimitCall TokenCheck ℕ → Prop
  | .spawn call => call.loginKey = some key → (inFlight key c).card < C
  | .kill i => i ∉ inFlight key c
  | _ => True

theorem mem_inFlight {key : String} {c : Limits} {i : ℕ} :
    i ∈ inFlight key c ↔ i < c.count ∧ ∃ thread, c.threads i = some thread ∧
      thread.role.loginKey = some key := by
  simp [inFlight, Option.any_eq_true]

/-! ## Single answers -/

theorem clockRead_run {before : Option ℕ} {verdict : TokenCheck} {statement : Statement}
    {s : Counters} {now : ℕ}
    (read : statement.clockRead before (statement.run verdict s).1 = some now) :
    now = s.clock ∨ before = some now ∧ ∀ key, statement ≠ .checkToken key := by
  cases statement with
  | timezoneNow => exact .inl (Option.some.inj read).symm
  | checkToken key => cases verdict <;> cases read
  | updateLive key now => exact .inr ⟨read, nofun⟩
  | updateExpired key now endsAt => exact .inr ⟨read, nofun⟩
  | create key endsAt => exact .inr ⟨read, nofun⟩
  | deleteEndedBefore moment => exact .inr ⟨read, nofun⟩
  | firstLive key now => exact .inr ⟨read, nofun⟩

theorem checked_of_ne {before : Option (String × Bool)} {statement : Statement}
    (answer : Except Failure statement.Ans) (other : ∀ key, statement ≠ .checkToken key) :
    statement.checked before answer = before := by
  cases statement with
  | checkToken key => exact absurd rfl (other key)
  | timezoneNow => rfl
  | updateLive key now => rfl
  | updateExpired key now endsAt => rfl
  | create key endsAt => rfl
  | deleteEndedBefore moment => rfl
  | firstLive key now => rfl

theorem checked_checkToken (key : String)
    (answer : Except Failure (Statement.checkToken key).Ans) :
    ∃ wrong, ∀ before, Statement.checked before (.checkToken key) answer = some (key, wrong) := by
  cases answer with
  | ok user => exact ⟨false, fun _ => rfl⟩
  | error exc => exact ⟨true, fun _ => rfl⟩

theorem lookedUp_run {before found : Option (String × ℕ)} {verdict : TokenCheck}
    {statement : Statement} {s : Counters}
    (looked : statement.lookedUp before (statement.run verdict s).1 = found) :
    before = found ∨ ∃ key now, statement = .firstLive key now ∧
      found = some (key, countOf ((s.rows key).filter fun row => now < row.windowEndsAt)) := by
  cases statement with
  | firstLive key now => exact .inr ⟨key, now, rfl, looked.symm⟩
  | checkToken key => cases verdict <;> exact .inl looked
  | timezoneNow => exact .inl looked
  | updateLive key now => exact .inl looked
  | updateExpired key now endsAt => exact .inl looked
  | create key endsAt => exact .inl looked
  | deleteEndedBefore moment => exact .inl looked

/-! ## What the code of a login says about its trace -/

/-- A call that may issue a statement after its token was found wrong is a login
that records it. -/
theorem LimitCall.May.of_wrong {rates : ThrottleScope → Rate} {call : LimitCall} {x : Trace}
    {statement : Statement} {key : String} (may : call.May rates x statement)
    (wrong : x.token = some (key, true)) :
    call.loginKey = some key ∧
      HitMay key (rates .failedAuth).duration (some (key, true)) x statement := by
  have token : ∀ {k w t}, HitMay k w t x statement → x.token = t := by
    intro k w t hit
    cases statement with
    | timezoneNow => exact hit
    | updateLive key now => exact hit.2.2.2
    | updateExpired key now endsAt => exact hit.2.2.2.2
    | create key endsAt => exact hit.2.2.2
    | deleteEndedBefore moment => exact hit.2
    | firstLive key now => exact hit.2.2.2
    | checkToken key => exact hit.elim
  cases call with
  | allowRequest request =>
      cases (token may).symm.trans wrong
  | authenticate request =>
      rcases may with checking | recording
      · have none : x.token = none := by
          cases statement with
          | timezoneNow => exact checking.token
          | firstLive key now => exact checking.2.2.token
          | checkToken key => exact checking.2.1.token
          | updateLive key now => exact checking.elim
          | updateExpired key now endsAt => exact checking.elim
          | create key endsAt => exact checking.elim
          | deleteEndedBefore moment => exact checking.elim
        cases none.symm.trans wrong
      · have same := (token recording).symm.trans wrong
        obtain rfl : buildCounterKey .failedAuth request = key := by simpa using same
        exact ⟨rfl, recording⟩

/-- Knox is asked by a login that has found fewer failures than the limit. -/
theorem LimitCall.May.of_checkToken {rates : ThrottleScope → Rate} {call : LimitCall} {x : Trace}
    {key : String} (may : call.May rates x (.checkToken key)) :
    call.loginKey = some key ∧ Trace.unseen.Idle x ∧
      ∃ count, x.found = some (key, count) ∧ count < (rates .failedAuth).numRequests := by
  cases call with
  | allowRequest request => exact may.elim
  | authenticate request =>
      obtain ⟨rfl, idle, below⟩ | impossible := may
      · exact ⟨rfl, idle, below⟩
      · exact impossible.elim

/-- The time in a statement has been read off the clock. -/
theorem LimitCall.May.read {rates : ThrottleScope → Rate} {call : LimitCall} {x : Trace}
    {statement : Statement} (may : call.May rates x statement) :
    (∀ key now endsAt, statement = .updateExpired key now endsAt → x.now = some now) ∧
    (∀ moment, statement = .deleteEndedBefore moment →
      ∃ now, x.now = some now ∧ moment ≤ now) ∧
    (∀ key now, statement = .firstLive key now → x.now = some now) := by
  have hits : ∀ {k w t}, HitMay k w t x statement →
      (∀ key now endsAt, statement = .updateExpired key now endsAt → x.now = some now) ∧
      (∀ moment, statement = .deleteEndedBefore moment →
        ∃ now, x.now = some now ∧ moment ≤ now) ∧
      (∀ key now, statement = .firstLive key now → x.now = some now) := by
    intro k w t hit
    refine ⟨?_, ?_, ?_⟩
    · rintro key now endsAt rfl
      exact hit.2.1
    · rintro moment rfl
      obtain ⟨⟨now, read, same⟩, -⟩ := hit
      exact ⟨now, read, by omega⟩
    · rintro key now rfl
      exact hit.2.1
  cases call with
  | allowRequest request => exact hits may
  | authenticate request =>
      rcases may with checking | recording
      · refine ⟨?_, ?_, ?_⟩
        · rintro key now endsAt rfl
          exact checking.elim
        · rintro moment rfl
          exact checking.elim
        · rintro key now rfl
          exact checking.2.1
      · exact hits recording

/-! ## Facts about any run -/

section Runs

variable {rates : ThrottleScope → Rate} {key : String} {C : ℕ} {c : Limits}
variable {ok : Limits → Label LimitCall TokenCheck ℕ → Prop}

/-- A call that is about to issue a statement may issue it. -/
theorem may_of_live (reached : (counters (LimitCall.code rates)).Reach ok (.initial .empty) c)
    {i : ℕ} {thread : Thread Sql Failure LimitAnswer LimitCall}
    (live : c.threads i = some thread) :
    thread.role.May rates (traceOf i c.history) thread.op :=
  ((calls_follow (limitCall_follows rates) reached).live i thread live).1

/-- A live call whose token was wrong is a login in flight. -/
theorem inFlight_of_wrong
    (reached : (counters (LimitCall.code rates)).Reach ok (.initial .empty) c) {i : ℕ}
    {thread : Thread Sql Failure LimitAnswer LimitCall} (live : c.threads i = some thread)
    (wrong : (traceOf i c.history).token = some (key, true)) : i ∈ inFlight key c := by
  refine mem_inFlight.mpr ⟨?_, thread, live, ((may_of_live reached live).of_wrong wrong).1⟩
  by_contra unused
  have := ((calls_follow (limitCall_follows rates) reached).fresh i (Nat.le_of_not_lt unused)).1
  rw [this] at live
  cases live

/-- What every answer keeps of the traces and the clock, every label keeps. -/
theorem traces_invariant (Inv : Limits → Prop) {origin : Limits}
    (reached : (counters (LimitCall.code rates)).Reach ok (.initial .empty) origin)
    (run : (counters (LimitCall.code rates)).Reach ok origin c) (initial : Inv origin)
    (spawn : ∀ c call body, (counters (LimitCall.code rates)).Reach ok (.initial .empty) c →
      ok c (.spawn call) → Inv c →
      Inv ({ c with
        count := c.count + 1
        history := .started c.count call :: c.history }.place c.count call body))
    (step : ∀ c i verdict thread, (counters (LimitCall.code rates)).Reach ok (.initial .empty) c →
      c.threads i = some thread → Inv c →
      Inv ({ c with
        store := (Statement.run verdict thread.op c.store).2
        history := .answered i thread.op (Statement.run verdict thread.op c.store).1 ::
          c.history }.place i thread.role
            (thread.next (Statement.run verdict thread.op c.store).1)))
    (kill : ∀ c i thread, (counters (LimitCall.code rates)).Reach ok (.initial .empty) c →
      ok c (.kill i) → c.threads i = some thread → Inv c →
      Inv { c with
        threads := Function.update c.threads i none
        history := .killed i :: c.history })
    (wait : ∀ c elapsed, Inv c →
      Inv { c with store := { c.store with clock := c.store.clock + elapsed } }) : Inv c := by
  refine run.invariant Inv initial ?_
  intro c label c' before inv admitted moved
  have before := reached.trans before
  cases label with
  | spawn call =>
      obtain ⟨body, -, rfl⟩ := Machine.next_spawn_eq moved
      exact spawn c call body before admitted inv
  | step i verdict =>
      obtain ⟨thread, answer, store, live, executed, rfl⟩ := Machine.next_step_eq moved
      obtain ⟨rfl, rfl⟩ := Prod.mk.inj (Option.some.inj executed)
      exact step c i verdict thread before live inv
  | kill i =>
      obtain ⟨thread, live, rfl⟩ := Machine.next_kill_eq moved
      exact kill c i thread before admitted live inv
  | env elapsed =>
      obtain rfl := Machine.next_env_eq moved
      exact wait c elapsed inv

/-- No call has read a time that is still to come. -/
theorem read_le_clock
    (reached : (counters (LimitCall.code rates)).Reach ok (.initial .empty) c) :
    ∀ i now, (traceOf i c.history).now = some now → now ≤ c.store.clock := by
  refine traces_invariant (fun c => ∀ i now, (traceOf i c.history).now = some now →
    now ≤ c.store.clock) .refl reached nofun ?_ ?_ ?_ ?_
  · intro c call body _ _ inv i now read
    rw [traceOf_place, traceOf_started] at read
    rw [Config.place_store]
    exact inv i now read
  · intro c j verdict thread _ _ inv i now read
    rw [traceOf_place, traceOf_answered] at read
    rw [Config.place_store]
    show now ≤ (Statement.run verdict thread.op c.store).2.clock
    rw [(Statement.run_effect verdict thread.op c.store).clock]
    by_cases same : j = i
    · rw [if_pos same] at read
      rcases clockRead_run read with rfl | ⟨before, -⟩
      · exact Nat.le_refl _
      · exact inv i now before
    · rw [if_neg same] at read
      exact inv i now read
  · exact fun c i thread _ _ _ inv => inv
  · exact fun c elapsed inv i now read => (inv i now read).trans (Nat.le_add_right _ _)

/-- A row ends when a window of its key that has begun ends. -/
theorem row_ends (reached : (counters (LimitCall.code rates)).Reach ok (.initial .empty) c)
    {row : ThrottleCounter} (found : c.store.rows key = some row) :
    row.windowEndsAt ∈ windowEnds key c.history := by
  refine rows_invariant (fun rows log => ∀ row, rows key = some row →
    row.windowEndsAt ∈ windowEnds key log) nofun ?_ ?_ reached row found
  · intro rows log event quiet inv row found
    cases event with
    | answered i statement answer => exact absurd rfl (quiet i statement answer)
    | started i call => exact inv row found
    | returned i call result => exact inv row found
    | killed i => exact inv row found
  · intro s t log i statement answer effect inv row found
    -- The ends are never taken off the list, so a row that stays has its own on it.
    have later : ∀ row, s.rows key = some row →
        row.windowEndsAt ∈ windowEnds key (.answered i statement answer :: log) :=
      fun row before => List.mem_append_right _ (inv row before)
    have began : ∀ endsAt, statement.counted answer = some (key, true) →
        statement.windowEnd = some endsAt →
        endsAt ∈ windowEnds key (.answered i statement answer :: log) := by
      intro endsAt counted ends
      exact List.mem_append_left _ (by simp [counted, ends])
    cases counted : statement.counted answer with
    | none =>
        rw [counted] at effect
        cases effect with
        | removed => exact later row (Option.filter_eq_some_iff.mp found).1
        | unchanged => exact later row found
    | some hit =>
        rw [counted] at effect
        cases effect with
        -- A hit in a live window leaves its end; one that starts a window lists the new end.
        | @added hitKey now old before live =>
            by_cases same : key = hitKey
            · subst same
              rw [Counters.set_rows_self, Option.some.injEq] at found
              subst found
              exact later old before
            · rw [Counters.set_rows_of_ne _ _ same] at found
              exact later row found
        | @renewed hitKey now endsAt old before ended =>
            by_cases same : key = hitKey
            · subst same
              rw [Counters.set_rows_self, Option.some.injEq] at found
              subst found
              exact began endsAt counted rfl
            · rw [Counters.set_rows_of_ne _ _ same] at found
              exact later row found
        | @created hitKey endsAt vacant =>
            by_cases same : key = hitKey
            · subst same
              rw [Counters.set_rows_self, Option.some.injEq] at found
              subst found
              exact began endsAt counted rfl
            · rw [Counters.set_rows_of_ne _ _ same] at found
              exact later row found

/-- Whose token was found wrong is who has tried a wrong token, and each call tries
one token. -/
theorem wrongTokens_iff
    (reached : (counters (LimitCall.code rates)).Reach ok (.initial .empty) c) (key : String) :
    (wrongTokens key c.history).Nodup ∧ ∀ i, i ∈ wrongTokens key c.history ↔
      (traceOf i c.history).token = some (key, true) := by
  have placed : ∀ (d : Limits) i call body,
      wrongTokens key (d.place i call body).history = wrongTokens key d.history := by
    intro d i call body
    cases body <;> rfl
  refine traces_invariant (fun c => (wrongTokens key c.history).Nodup ∧ ∀ i,
    i ∈ wrongTokens key c.history ↔ (traceOf i c.history).token = some (key, true))
    .refl reached ⟨List.nodup_nil, fun i => ⟨nofun, nofun⟩⟩ ?_ ?_ ?_ ?_
  · intro c call body _ _ inv
    simp only [placed, traceOf_place, traceOf_started]
    exact inv
  · intro c j verdict thread before live inv
    simp only [placed, traceOf_place, traceOf_answered]
    have may := may_of_live before live
    by_cases asks : ∃ k, thread.op = .checkToken k
    · -- Knox is asked once, so nobody is on the list twice.
      obtain ⟨k, asked⟩ := asks
      obtain ⟨role, op, next⟩ := thread
      dsimp only at asked
      subst asked
      obtain ⟨-, idle, -⟩ := may.of_checkToken
      have unlisted : j ∉ wrongTokens key c.history := by
        rw [inv.2 j, idle.token]
        nofun
      obtain ⟨wrong, checked⟩ := checked_checkToken k
        (Statement.run verdict (.checkToken k) c.store).1
      have list : wrongTokens key (.answered j (.checkToken k)
          (Statement.run verdict (.checkToken k) c.store).1 :: c.history) =
            if (k, wrong) = (key, true) then j :: wrongTokens key c.history
            else wrongTokens key c.history := by
        -- The list grows by `j` exactly when the token of this key was found wrong.
        by_cases its : (k, wrong) = (key, true) <;>
          simp only [wrongTokens, List.filterMap_cons, checked, Option.some.injEq, its, if_true,
            if_false]
      rw [list]
      have token : ∀ i, (if j = i then (traceOf i c.history).advance (.checkToken k)
          (Statement.run verdict (.checkToken k) c.store).1
            else traceOf i c.history).token =
            if j = i then some (k, wrong) else (traceOf i c.history).token := by
        intro i
        by_cases same : j = i <;> simp [same, Trace.advance, checked]
      by_cases its : (k, wrong) = (key, true)
      · rw [if_pos its]
        refine ⟨List.nodup_cons.mpr ⟨unlisted, inv.1⟩, fun i => ?_⟩
        rw [token, List.mem_cons, inv.2 i, its]
        by_cases same : j = i
        · simp [same]
        · simp [same, Ne.symm same]
      · rw [if_neg its]
        refine ⟨inv.1, fun i => ?_⟩
        rw [token, inv.2 i]
        by_cases same : j = i
        · subst same
          simp only [if_true, Option.some.injEq, its, iff_false]
          rw [← inv.2 j]
          exact unlisted
        · rw [if_neg same]
    -- No other statement says anything about a token.
    · have other : ∀ k, thread.op ≠ .checkToken k := fun k same => asks ⟨k, same⟩
      have list : wrongTokens key (.answered j thread.op
          (Statement.run verdict thread.op c.store).1 :: c.history) =
            wrongTokens key c.history := by
        simp [wrongTokens, checked_of_ne _ other]
      rw [list]
      refine ⟨inv.1, fun i => ?_⟩
      rw [inv.2 i]
      by_cases same : j = i <;> simp [same, Trace.advance, checked_of_ne _ other]
  · exact fun c i thread _ _ _ inv => inv
  · exact fun c elapsed inv => inv

/-- A returned call is gone from the threads, another one is as it was. -/
theorem inFlight_place_of_ne {d : Limits} {i j : ℕ} {call : LimitCall} {body : Code LimitAnswer}
    (different : i ≠ j) : i ∈ inFlight key (d.place j call body) ↔ i ∈ inFlight key d := by
  rw [mem_inFlight, mem_inFlight, Config.place_count, Config.place_threads_of_ne _ _ _ different]

/-- There are at most `C` logins in flight. -/
theorem inFlight_le
    (reached : (counters (LimitCall.code rates)).Reach (AtMost key C) (.initial .empty) c) :
    (inFlight key c).card ≤ C := by
  refine traces_invariant (fun c => (inFlight key c).card ≤ C) .refl reached (Nat.zero_le _)
    ?_ ?_ ?_ ?_
  · intro c call body before few inv
    by_cases login : call.loginKey = some key
    · refine (Finset.card_le_card fun i member => ?_).trans
        ((Finset.card_insert_le c.count (inFlight key c)).trans (few login))
      rw [Finset.mem_insert]
      by_cases new : i = c.count
      · exact .inl new
      · rw [inFlight_place_of_ne new, mem_inFlight] at member
        exact .inr (mem_inFlight.mpr ⟨Nat.lt_of_le_of_ne (Nat.le_of_lt_succ member.1) new,
          member.2⟩)
    · refine (Finset.card_le_card fun i member => ?_).trans inv
      by_cases new : i = c.count
      · subst new
        obtain ⟨-, thread, live, its⟩ := mem_inFlight.mp member
        obtain ⟨same, -⟩ := Config.place_threads_self _ _ _ _ live
        exact absurd (same ▸ its) login
      · rw [inFlight_place_of_ne new, mem_inFlight] at member
        exact mem_inFlight.mpr ⟨Nat.lt_of_le_of_ne (Nat.le_of_lt_succ member.1) new, member.2⟩
  · intro c j verdict thread before live inv
    refine (Finset.card_le_card fun i member => ?_).trans inv
    by_cases same : i = j
    · subst same
      obtain ⟨known, after, isLive, its⟩ := mem_inFlight.mp member
      obtain ⟨sameRole, -⟩ := Config.place_threads_self _ _ _ _ isLive
      rw [Config.place_count] at known
      exact mem_inFlight.mpr ⟨known, thread, live, sameRole ▸ its⟩
    · rwa [inFlight_place_of_ne same] at member
  · intro c i thread _ _ _ inv
    refine (Finset.card_le_card fun j member => ?_).trans inv
    obtain ⟨known, after, isLive, its⟩ := mem_inFlight.mp member
    by_cases same : j = i
    · subst same
      simp at isLive
    · exact mem_inFlight.mpr ⟨known, after, by simpa [same] using isLive, its⟩
  · exact fun c elapsed inv => inv

/-- A call that has tried a wrong token is still in flight or has returned. -/
theorem live_or_returned
    (reached : (counters (LimitCall.code rates)).Reach (AtMost key C) (.initial .empty) c) :
    ∀ i, (traceOf i c.history).token = some (key, true) →
      (∃ thread, c.threads i = some thread) ∨
        ∃ call result, .returned i call result ∈ c.history := by
  have placed : ∀ (d : Limits) i call body, (∃ thread, (d.place i call body).threads i =
      some thread) ∨ ∃ call' result, .returned i call' result ∈
        (d.place i call body).history := by
    intro d i call body
    cases body with
    | done result => exact .inr ⟨call, result, List.mem_cons_self⟩
    | call op next => exact .inl ⟨_, Function.update_self _ _ _⟩
  refine traces_invariant (fun c => ∀ i, (traceOf i c.history).token = some (key, true) →
    (∃ thread, c.threads i = some thread) ∨
      ∃ call result, .returned i call result ∈ c.history) .refl reached nofun ?_ ?_ ?_ ?_
  · intro c call body _ _ inv i wrong
    by_cases new : i = c.count
    · exact new ▸ placed _ _ _ _
    · rw [traceOf_place, traceOf_started] at wrong
      rw [Config.place_threads_of_ne _ _ _ new]
      refine (inv i wrong).imp id ?_
      rintro ⟨call', result, member⟩
      exact ⟨call', result, Config.mem_place_history _ _ _ _ (List.mem_cons_of_mem _ member)⟩
  · intro c j verdict thread _ _ inv i wrong
    by_cases same : i = j
    · exact same ▸ placed _ _ _ _
    · rw [traceOf_place, traceOf_answered, if_neg (Ne.symm same)] at wrong
      rw [Config.place_threads_of_ne _ _ _ same]
      refine (inv i wrong).imp id ?_
      rintro ⟨call, result, member⟩
      exact ⟨call, result, Config.mem_place_history _ _ _ _ (List.mem_cons_of_mem _ member)⟩
  · intro c j thread before spared live inv i wrong
    by_cases same : i = j
    · subst same
      exact absurd (inFlight_of_wrong before live wrong) spared
    · simp only [Function.update_of_ne same]
      refine (inv i wrong).imp id ?_
      rintro ⟨call, result, member⟩
      exact ⟨call, result, List.mem_cons_of_mem _ member⟩
  · exact fun c elapsed inv => inv

/-- A login that has returned after a wrong token has counted it, unless it gave
up. -/
theorem counted_of_returned
    (reached : (counters (LimitCall.code rates)).Reach ok (.initial .empty) c) {i : ℕ}
    (wrong : (traceOf i c.history).token = some (key, true)) {call : LimitCall}
    {result : Except Failure LimitAnswer} (returned : .returned i call result ∈ c.history)
    (kept : gaveUp i c.history = false) : (traceOf i c.history).counted ≠ [] := by
  have ends : call.Ends rates (traceOf i c.history) result :=
    (calls_follow (limitCall_follows rates) reached).returned i call result returned
  have noToken : ∀ {t : Option (String × Bool)}, (traceOf i c.history).token = t →
      t = some (key, true) := fun same => same.symm.trans wrong
  cases call with
  | allowRequest request =>
      rcases result with exc | ⟨letThrough, secondsLeft⟩ | user
      · cases noToken ends.1
      · cases noToken ends.1
      · exact ends.elim
  | authenticate request =>
      rcases result with exc | ⟨letThrough, secondsLeft⟩ | user
      · cases exc with
        | integrityError => exact ends.elim
        | throttled wait => cases noToken ends.token
        | authenticationFailed => simp [ends.1]
        | runtimeError k =>
            have : gaveUp i c.history = true :=
              List.any_eq_true.mpr ⟨_, returned, by simp⟩
            cases kept.symm.trans this
      · exact ends.elim
      · cases noToken ends.2.1

end Runs

end DicePipeline.Throttle
