import DicePipeline.Throttle.Calls

/-!
# The per-IP cap

A request is let through if the count it reads back is within the rate, so the
cap stands or falls with that count being no smaller than the request's own rank
in its window.  The increment and the read-back are two statements, and the
read-back uses a later time: once the window has ended in between it finds
nothing, or a new window with a small count, although the service promises a
count with "never fewer" hits than there were.

`ReadsOwnWindow` is the condition under which it does keep the promise: the
window is still there, and not over, when its count is read back.  It is asked of
the hits of one key, whose cap it saves; what becomes of the other keys' windows does
not matter.

### What is load-bearing

Both parts of the condition are.  A window that is there but over is not read, since the
read-back asks for a live row, and the count is 0.  A window that has been followed by
another one is not the row that is read, and the count is that of the new window.  In
either case the hit's own increment is not in the count it is judged by.
-/

namespace DicePipeline.Throttle

open Interaction

variable {κ α : Type}

/-! ## Ranks -/

/-- A list with no more than `bound` entries from any chosen one on has no more
than `bound` chosen ones. -/
theorem filter_length_le {l : List ℕ} {chosen : ℕ → Bool} {bound : ℕ} (nodup : l.Nodup)
    (ranks : ∀ i ∈ l, chosen i = true → (l.dropWhile (· ≠ i)).length ≤ bound) :
    (l.filter chosen).length ≤ bound := by
  induction l with
  | nil => exact Nat.zero_le _
  | cons head tail ih =>
      rw [List.nodup_cons] at nodup
      by_cases isChosen : chosen head = true
      · -- The newest chosen one comes after all the others.
        have newest := ranks head List.mem_cons_self isChosen
        rw [List.dropWhile_cons_of_neg (by simp)] at newest
        exact (List.length_filter_le _ _).trans newest
      · rw [List.filter_cons_of_neg isChosen]
        refine ih nodup.2 fun i member isChosen => ?_
        have different : head ≠ i := fun same => nodup.1 (same ▸ member)
        have later := ranks i (List.mem_cons_of_mem _ member) isChosen
        rwa [List.dropWhile_cons_of_pos (by simpa using different)] at later

/-- Nobody's rank exceeds the number of credits of the window. -/
theorem rank_le (i : ℕ) (key : String) (window : ℕ) (log : Log κ α) :
    rank i key window log ≤ (creditedTo key window log).length :=
  (List.dropWhile_sublist _).length_le

/-- Later credits of others do not change a rank. -/
theorem rank_answered {i j : ℕ} {statement : Statement} {answer : Except Failure statement.Ans}
    (key : String) (window : ℕ) (log : Log κ α)
    (others : statement.counted answer ≠ none → j ≠ i) :
    rank i key window (.answered j statement answer :: log : Log κ α) =
      rank i key window log := by
  unfold rank
  cases counted : statement.counted answer with
  | none => rw [creditedTo_of_not_counted _ _ counted]
  | some hit =>
      obtain ⟨hitKey, begins⟩ := hit
      have different : j ≠ i := others (by simp [counted])
      rw [creditedTo_of_counted _ _ counted]
      split
      · rw [List.dropWhile_cons_of_pos (by simpa using different)]
      · rfl

@[simp] theorem rank_place (i : ℕ) (key : String) (window : ℕ)
    (c : Config Sql Failure α Counters κ) (j : ℕ) (call : κ) (body : Code α) :
    rank i key window (c.place j call body).history = rank i key window c.history := by
  rw [rank, creditedTo_place, rank]

/-! ## Reading back -/

/-- The count that the hit of call `i` has read back, once it was counted. -/
def readBack (i : ℕ) (log : Log κ α) : Option ℕ := (traceOf i log).readBack

/-- **The condition.**  When a counted hit of `key` reads its count back, the window it
was credited to is still the last one of the key, and has not ended by the time
the hit reads it at. -/
def ReadsOwnWindow (key : String) (c : Config Sql Failure α Counters κ) :
    Label κ TokenCheck ℕ → Prop
  | .step i _ => ∀ thread now, c.threads i = some thread →
      thread.op = .firstLive key now →
        ∀ credit ∈ credits c.history, credit.thread = i →
          credit.window = windows key c.history ∧
            ∃ row, c.store.rows key = some row ∧ now < row.windowEndsAt
  | _ => True

/-- What the calls of both limits have in common. -/
def LimitMay (x : Trace) (statement : Statement) : Prop :=
  FirstCount x statement ∧
    ∀ key now, statement = .firstLive key now → ∀ counted ∈ x.counted, counted = key

theorem HitMay.limitMay {key : String} {windowSeconds : ℕ} {token : Option (String × Bool)}
    {x : Trace} {statement : Statement} (may : HitMay key windowSeconds token x statement) :
    LimitMay x statement := by
  refine ⟨may.firstCount, ?_⟩
  rintro key' now rfl counted member
  obtain ⟨rfl, -, only, -⟩ := may
  rw [only, List.mem_singleton] at member
  exact member

theorem LoginMay.limitMay {rates : ThrottleScope → Rate} {request : ApiRequest} {x : Trace}
    {statement : Statement} (may : LoginMay rates request x statement) :
    LimitMay x statement := by
  rcases may with checking | recording
  · have nothing : x.counted = [] := by
      cases statement with
      | timezoneNow => exact checking.counted
      | firstLive key now => exact checking.2.2.counted
      | checkToken key => exact checking.2.1.counted
      | updateLive key now => exact checking.elim
      | updateExpired key now endsAt => exact checking.elim
      | create key endsAt => exact checking.elim
      | deleteEndedBefore moment => exact checking.elim
    refine ⟨fun answer counts => nothing, fun key now same counted member => ?_⟩
    rw [nothing] at member
    cases member
  · exact recording.limitMay

/-- What a call of either limit does, as far as the cap is concerned. -/
private theorem capCall_follows (rates : ThrottleScope → Rate) (call : LimitCall) :
    Follows LimitMay (fun y result => ∀ secondsLeft,
      result = .ok (.allowed true secondsLeft) → y.counted ≠ [] →
        ∃ count, y.readBack = some count ∧ count ≤ (rates .clientIp).numRequests)
      (call.code rates) Trace.unseen := by
  refine ((limitCall_follows rates call).weaken fun y statement may => ?_).mono ?_
  · cases call with
    | allowRequest request => exact HitMay.limitMay may
    | authenticate request => exact LoginMay.limitMay may
  · rintro y result ends secondsLeft rfl counted
    cases call with
    | authenticate request => exact ends.elim
    | allowRequest request =>
        obtain ⟨-, ⟨-, nothing⟩ | ⟨-, count, back, decided⟩⟩ := ends
        · exact absurd nothing counted
        · exact ⟨count, back, of_decide_eq_true decided.symm⟩

variable {rates : ThrottleScope → Rate}
variable {ok : Config Sql Failure LimitAnswer Counters LimitCall →
  Label LimitCall TokenCheck ℕ → Prop}
variable {c : Config Sql Failure LimitAnswer Counters LimitCall} {key : String}

/-- A call that has not been counted has read nothing back. -/
theorem readBack_of_not_counted (i : ℕ) (log : Log κ α) (nothing : (traceOf i log).counted = []) :
    readBack i log = none := by
  induction log with
  | nil => rfl
  | cons event earlier ih =>
      cases event with
      | started j call => exact ih nothing
      | returned j call result => exact ih nothing
      | killed j => exact ih nothing
      | answered j statement answer =>
          rw [readBack, traceOf_answered]
          rw [traceOf_answered] at nothing
          by_cases same : j = i
          · rw [if_pos same] at nothing ⊢
            have before : (traceOf i earlier).counted = [] := (List.append_eq_nil_iff.mp nothing).2
            cases back : ((traceOf i earlier).advance statement answer).readBack with
            | none => rfl
            | some count =>
                rcases Statement.readBack_cases back with old | ⟨counted, -⟩
                · exact old.symm.trans (ih before)
                · exact absurd before counted
          · rw [if_neg same] at nothing ⊢
            exact ih nothing

/-- Every count that has been read back under `key` is at least the rank of the hit. -/
def Ranked (key : String) (log : Log κ α) : Prop :=
  ∀ credit ∈ credits log, credit.key = key → ∀ count,
    readBack credit.thread log = some count →
      rank credit.thread credit.key credit.window log ≤ count

theorem ranked_place (c : Config Sql Failure α Counters κ) (i : ℕ) (call : κ) (body : Code α)
    (ranked : Ranked key c.history) : Ranked key (c.place i call body).history := by
  intro credit member its count back
  rw [credits_place] at member
  rw [readBack, traceOf_place] at back
  rw [rank_place]
  exact ranked credit member its count back

/-- A hit that reads its own window back finds at least its rank. -/
private theorem rank_le_found (reached : (counters (LimitCall.code rates)).Reach ok
      (.initial .empty) c) {i now : ℕ} {looked foundKey : String} {count : ℕ}
    {verdict : TokenCheck} {thread : Thread Sql Failure LimitAnswer LimitCall}
    (live : c.threads i = some thread) (looks : thread.op = .firstLive looked now)
    (reads : ReadsOwnWindow key c (.step i verdict))
    (found : Statement.lookedUp none (.firstLive looked now)
      (Statement.run verdict (.firstLive looked now) c.store).1 = some (foundKey, count))
    {credit : Credit} (member : credit ∈ credits c.history) (its : credit.thread = i)
    (itsKey : credit.key = key) :
    rank i credit.key credit.window c.history ≤ count := by
  have may := ((calls_follow (capCall_follows rates) reached).live i thread live).1
  obtain rfl : key = looked := by
    rw [← itsKey]
    refine may.2 looked now looks credit.key ?_
    change credit.key ∈ (traceOf i c.history).counted
    rw [traceOf_counted]
    exact List.mem_map_of_mem (List.mem_filter.mpr ⟨member, by simp [its]⟩)
  obtain ⟨window, row, stored, stillOpen⟩ := reads thread now live looks credit member its
  have kept : (c.store.rows key).filter (fun row => now < row.windowEndsAt) = some row :=
    Option.filter_eq_some_iff.mpr ⟨stored, by simpa using stillOpen⟩
  have count_eq : row.count = count := by
    simp only [Statement.run, Statement.lookedUp, kept, countOf, Option.some.injEq,
      Prod.mk.injEq] at found
    exact found.2
  rw [← count_eq, counts_exact reached key row stored, ← window, ← itsKey]
  exact rank_le _ _ _ _

/-- One statement keeps the ranks, if a read-back finds the hit's own window. -/
private theorem ranked_step (reached : (counters (LimitCall.code rates)).Reach ok
      (.initial .empty) c) {i : ℕ} {verdict : TokenCheck}
    {thread : Thread Sql Failure LimitAnswer LimitCall} (live : c.threads i = some thread)
    (reads : ReadsOwnWindow key c (.step i verdict)) (ranked : Ranked key c.history) :
    Ranked key (.answered i thread.op (Statement.run verdict thread.op c.store).1 :: c.history) := by
  have may : LimitMay (traceOf i c.history) thread.op :=
    ((calls_follow (capCall_follows rates) reached).live i thread live).1
  -- Whoever is counted now has not been counted before.
  have first : Statement.counted thread.op (Statement.run verdict thread.op c.store).1 ≠ none →
      ∀ credit ∈ credits c.history, credit.thread ≠ i := by
    intro counts credit member same
    have nothing := may.1 _ counts
    rw [traceOf_counted, List.map_eq_nil_iff, List.filter_eq_nil_iff] at nothing
    exact nothing credit member (by simpa using same)
  have old : ∀ credit ∈ credits c.history, credit.key = key → ∀ count,
      readBack credit.thread
        (.answered i thread.op (Statement.run verdict thread.op c.store).1 :: c.history)
          = some count →
      rank credit.thread credit.key credit.window c.history ≤ count := by
    intro credit member itsKey count back
    rw [readBack, traceOf_answered] at back
    by_cases its : i = credit.thread
    · rw [if_pos its] at back
      rcases Statement.readBack_cases back with before | ⟨-, looked, now, looks, found⟩
      · exact ranked credit member itsKey count before
      · rw [looks] at found
        exact its ▸ rank_le_found reached live looks reads found member its.symm itsKey
    · rw [if_neg its] at back
      exact ranked credit member itsKey count back
  intro credit member itsKey count back
  cases counted : Statement.counted thread.op (Statement.run verdict thread.op c.store).1 with
  | none =>
      rw [credits_of_not_counted counted] at member
      rw [rank_answered _ _ _ fun counts => absurd counted counts]
      exact old credit member itsKey count back
  | some hit =>
      obtain ⟨hitKey, begins⟩ := hit
      rw [credits_of_counted counted] at member
      have counts : Statement.counted thread.op (Statement.run verdict thread.op c.store).1
          ≠ none := by simp [counted]
      rcases List.mem_cons.mp member with rfl | earlier
      · -- The hit counted just now has read nothing back.
        have nothing := may.1 _ counts
        rw [readBack, traceOf_answered, if_pos rfl] at back
        rcases Statement.readBack_cases back with before | ⟨before, -⟩
        · cases (readBack_of_not_counted i c.history nothing).symm.trans before
        · exact absurd nothing before
      · rw [rank_answered _ _ _ fun _ => (first counts credit earlier).symm]
        exact old credit earlier itsKey count back

/-! ## The cap -/

/-- Whether call `i` has been let through. -/
def letThrough (i : ℕ) (log : Log LimitCall LimitAnswer) : Bool :=
  log.any fun
    | .returned j _ (.ok (.allowed true _)) => j = i
    | _ => false

theorem exists_of_letThrough {i : ℕ} {log : Log LimitCall LimitAnswer}
    (through : letThrough i log = true) :
    ∃ call secondsLeft, .returned i call (.ok (.allowed true secondsLeft)) ∈ log := by
  obtain ⟨event, member, isSuch⟩ := List.any_eq_true.mp through
  cases event with
  | returned j call result =>
      rcases result with exc | ⟨_ | _, secondsLeft⟩ | user
      · cases isSuch
      · cases isSuch
      · obtain rfl := of_decide_eq_true isSuch
        exact ⟨call, secondsLeft, member⟩
      · cases isSuch
  | started j call => cases isSuch
  | answered j statement answer => cases isSuch
  | killed j => cases isSuch

/-- **The cap holds** for a key in every run in which a counted hit of it always reads
its own window back: every hit returns a count at least as large as its rank among the
hits credited to its window, and no more calls credited to one window are let
through than the rate allows. -/
theorem cap_of_readsOwnWindow
    (reached : (counters (LimitCall.code rates)).Reach (ReadsOwnWindow key) (.initial .empty) c) :
    (∀ credit ∈ credits c.history, credit.key = key → ∀ count,
      readBack credit.thread c.history = some count →
        rank credit.thread credit.key credit.window c.history ≤ count) ∧
    ∀ window, ((creditedTo key window c.history).filter
      (letThrough · c.history)).length ≤ (rates .clientIp).numRequests := by
  -- The invariant: what a hit has read back is at least its rank.
  have ranked : Ranked key c.history := by
    refine reached.invariant (fun c => Ranked key c.history) nofun ?_
    intro c label c' before ranked reads moved
    cases label with
    | spawn call =>
        obtain ⟨body, -, rfl⟩ := Machine.next_spawn_eq moved
        exact ranked_place _ _ _ _ ranked
    | step i verdict =>
        obtain ⟨thread, answer, store, live, executed, rfl⟩ := Machine.next_step_eq moved
        obtain ⟨rfl, rfl⟩ := Prod.mk.inj (Option.some.inj executed)
        exact ranked_place _ _ _ _ (ranked_step before live reads ranked)
    | kill i =>
        obtain ⟨thread, -, rfl⟩ := Machine.next_kill_eq moved
        exact ranked
    | env elapsed =>
        obtain rfl := Machine.next_env_eq moved
        exact ranked
  refine ⟨ranked, fun window => filter_length_le ?_ fun i member through => ?_⟩
  -- Nobody is credited twice, so the ranks of those let through are different numbers.
  · have once := credits_nodup (fun call => (capCall_follows rates call).weaken
      fun _ _ may => may.1) reached
    exact once.sublist (List.filter_sublist.map _)
  · obtain ⟨credit, inWindow, rfl⟩ := List.mem_map.mp member
    obtain ⟨inLog, its⟩ := List.mem_filter.mp inWindow
    obtain ⟨rfl, rfl⟩ := of_decide_eq_true its
    obtain ⟨call, secondsLeft, returned⟩ := exists_of_letThrough through
    have counted : (traceOf credit.thread c.history).counted ≠ [] := by
      rw [traceOf_counted, Ne, List.map_eq_nil_iff, List.filter_eq_nil_iff]
      exact fun none => none credit inLog (by simp)
    obtain ⟨count, back, within⟩ := (calls_follow (capCall_follows rates) reached).returned
      credit.thread call _ returned secondsLeft rfl counted
    exact (ranked credit inLog rfl count back).trans within

/-- `ReadsOwnWindow`, decided. -/
def readsOwnWindow (key : String) (c : Config Sql Failure α Counters κ) :
    Label κ TokenCheck ℕ → Bool
  | .step i _ => (c.threads i).all fun thread =>
      match thread.op with
      | .firstLive looked now => (credits c.history).all fun credit =>
          looked ≠ key ∨ credit.thread ≠ i ∨ credit.window = windows key c.history ∧
            (c.store.rows key).any (now < ·.windowEndsAt)
      | _ => true
  | _ => true

theorem readsOwnWindow_sound (key : String) (c : Config Sql Failure α Counters κ)
    (label : Label κ TokenCheck ℕ) (reads : readsOwnWindow key c label = true) :
    ReadsOwnWindow key c label := by
  cases label with
  | step i verdict =>
      intro thread now live looks credit member its
      simp only [readsOwnWindow, live, Option.all_some, looks, List.all_eq_true] at reads
      rcases of_decide_eq_true (reads credit member) with other | other | ⟨window, open'⟩
      · exact absurd rfl other
      · exact absurd its other
      · obtain ⟨row, found, ends⟩ := (Option.any_eq_true _ _).mp open'
        exact ⟨window, row, found, of_decide_eq_true ends⟩
  | spawn call => trivial
  | kill i => trivial
  | env elapsed => trivial

/-- Two requests at once: the first is let through, the second reads a count of
two back and is not. -/
theorem cap_of_readsOwnWindow_together :
    ∃ c, (counters (LimitCall.code onceAMinute)).Reach (ReadsOwnWindow "client_ip:9.9.9.9")
        (.initial .empty) c ∧
      readBack 1 c.history = some 2 ∧
      ((creditedTo "client_ip:9.9.9.9" 1 c.history).filter
        (letThrough · c.history)).length ≤ 1 := by
  have replayed := Machine.exists_reach_of_replay (counters (LimitCall.code onceAMinute))
    (readsOwnWindow "client_ip:9.9.9.9") (.initial .empty)
    ([.spawn (.allowRequest .example), .spawn (.allowRequest .example)] ++
      [0, 0, 0, 0, 0, 1, 1, 0, 0, 0, 1, 1, 1].map fun i => .step i .noToken)
    (fun c => decide (readBack 1 c.history = some 2)) (by decide +kernel)
  obtain ⟨c, reached, checked⟩ := replayed
  have reached := reached.mono (readsOwnWindow_sound "client_ip:9.9.9.9")
  exact ⟨c, reached, of_decide_eq_true checked,
    (cap_of_readsOwnWindow reached).2 1⟩

/-- **Without the condition the cap fails.**  Two requests are counted in one
window of a rate of one, and both read their count back as the window ends: each
finds nothing, and both are let through. -/
theorem cap_exceeded_at_window_end :
    ∃ c, (counters (LimitCall.code onceAMinute)).Reach (fun _ _ => True) (.initial .empty) c ∧
      (∃ credit ∈ credits c.history, ∃ count, readBack credit.thread c.history = some count ∧
        count < rank credit.thread credit.key credit.window c.history) ∧
      (onceAMinute .clientIp).numRequests <
        ((creditedTo "client_ip:9.9.9.9" 1 c.history).filter
          (letThrough · c.history)).length := by
  have replayed := Machine.exists_reach_of_replay (counters (LimitCall.code onceAMinute))
    (fun _ _ => true) (.initial .empty)
    ([.spawn (.allowRequest .example), .spawn (.allowRequest .example)] ++
      ([0, 0, 0, 0, 0, 1, 1].map fun i => .step i .noToken) ++ [.env (seconds 60)] ++
      [0, 0, 1, 1].map fun i => .step i .noToken)
    (fun c => decide (⟨1, "client_ip:9.9.9.9", 1⟩ ∈ credits c.history ∧
      readBack 1 c.history = some 0 ∧ rank 1 "client_ip:9.9.9.9" 1 c.history = 2 ∧
      ((creditedTo "client_ip:9.9.9.9" 1 c.history).filter
        (letThrough · c.history)).length = 2))
    (by decide +kernel)
  obtain ⟨c, reached, checked⟩ := replayed
  obtain ⟨credited, back, second, both⟩ := of_decide_eq_true checked
  refine ⟨c, reached.mono fun _ _ _ => trivial, ⟨_, credited, 0, back, ?_⟩, ?_⟩
  · rw [second]
    decide
  · rw [both]
    decide

end DicePipeline.Throttle
