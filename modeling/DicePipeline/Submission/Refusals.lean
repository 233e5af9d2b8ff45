import DicePipeline.Text.Words
import DicePipeline.Submission.RetryAfter

/-!
# The headers and the body of a refusal

A refused submit is answered with a body that `check` puts together, and with headers
that `finalize_response` adds after the submit's transaction has ended.  Both come from
`_state_from`, but of two counts: `check` counts under the account's lock, and `headers`
counts again, at a later moment and without the lock.

`refusal_agrees_iff` is about any run of one request in which other connections do as
they like.  `Observed` writes down what the request reads: the clock, and the jobs that
each count finds.  The headers repeat the body if and only if the limit is still used up
at the second count, and no whole number of seconds lies between what was left of the
period of the oldest job then and what is left of it now (`Steady`).

### What is load-bearing

The two numbers of the body fail apart from each other.  The body says that nothing
remains, and the headers say so only if the limit is still used up at the second count.
The seconds are rounded up, so what is left of the oldest job's period may shrink between
the counts, as long as no whole second lies between the two.  The oldest job of the
second count need not be that of the first.
-/

namespace DicePipeline

open Interaction Program Environment

/-- `SubmissionLimitState`, whose numbers the headers write. -/
structure SubmissionLimitState where
  limit : ℕ
  remaining : ℕ
  resetSeconds : ℕ
  deriving DecidableEq, Repr

/-- The body of the 429, `SubmissionLimitSerializer`, with its numbers and its moment. -/
structure SubmissionLimitBody where
  retryAfter : ℕ
  remaining : ℕ
  resetsAt : ℕ
  deriving DecidableEq, Repr

namespace SubmissionLimitState

/-- `as_headers`. -/
def asHeaders (state : SubmissionLimitState) : List (String × Text) :=
  [("X-RateLimit-Limit", Text.decimal state.limit),
    ("X-RateLimit-Remaining", Text.decimal state.remaining),
    ("X-RateLimit-Reset", Text.decimal state.resetSeconds)]

end SubmissionLimitState

namespace SubmissionLimit

/-- `_state_from`. -/
def stateFrom (limit : SubmissionLimit) (usage : SubmissionUsage) : Py SubmissionLimitState := do
  let resetSeconds ← limit.secondsUntilOldestExpires usage.oldest
  return { limit := limit.numRequests
           remaining := limit.numRequests - usage.count
           resetSeconds := resetSeconds }

/-- `headers`, before they are written as texts. -/
def headers (limit : SubmissionLimit) : Py SubmissionLimitState := do
  let usage ← RemediationService.recentSubmissions limit.account limit.duration false
  limit.stateFrom usage

/-- `check`, with the body of the 429 it raises. -/
def refusal (limit : SubmissionLimit) : Py (Option SubmissionLimitBody) := do
  let usage ← RemediationService.recentSubmissions limit.account limit.duration true
  if usage.count < limit.numRequests then return none
  else do
    let state ← limit.stateFrom usage
    let now : ℕ ← issue .now
    return some { retryAfter := state.resetSeconds
                  remaining := state.remaining
                  resetsAt := now + seconds state.resetSeconds }

/-- The body is that of the 429 which `check` raises. -/
theorem check_eq_refusal (limit : SubmissionLimit) : limit.check = limit.refusal.bind fun body =>
    body.elim (pure ()) fun body => Program.raise (.throttled body.retryAfter) := by
  unfold check refusal
  show Program.bind _ _ = Program.bind (Program.bind _ _) _
  rw [bind_assoc]
  refine congrArg _ (funext fun usage => ?_)
  split
  · rfl
  · unfold stateFrom
    show Program.bind _ _ = Program.bind (Program.bind (Program.bind _ _) _) _
    rw [bind_assoc, bind_assoc]
    refine congrArg _ (funext fun wait => ?_)
    refine congrArg (@Program.call Query Exn Unit Op.now) (funext fun answer => ?_)
    cases answer <;> rfl

/-- A request from its `check` on: if it is refused its transaction is rolled back, and
`finalize_response` adds the headers. -/
def refusedRequest (limit : SubmissionLimit) :
    Py (Option (SubmissionLimitBody × SubmissionLimitState)) := do
  match ← limit.refusal with
  | none => return none
  | some body => do
      issue .rollback
      let state ← limit.headers
      return some (body, state)

end SubmissionLimit

/-! ## What a request reads -/

/-- Something a request reads: the clock, or the jobs that one of its counts finds, as
the moments they were made at. -/
inductive Reading where
  | moment (now : ℕ)
  | jobs (times : List ℕ)
  deriving DecidableEq, Repr

/-- What is read by an operation. -/
def Reading.ofOp (account : ℕ) (s : Store) : (op : Op) → Except Exn op.Ans → List Reading
  | .now, .ok now => [.moment now]
  | .recentSubmissions _ _, .ok _ => [.jobs (s.creationTimes account)]
  | _, _ => []

/-- One request of connection `i` while other connections do as they like and the
database answers, with what the request has read. -/
def Observed (settings : Settings) (i account : ℕ) :
    Environment Query Exn (Store × List Reading) where
  step := fun op before answer after =>
    (∃ world : World, world.database = none ∧
      execute settings world i op before.1 = some (answer, after.1)) ∧
    after.2 = before.2 ++ Reading.ofOp account before.1 op answer
  rely := fun before after => before.1.clock ≤ after.1.clock ∧ after.2 = before.2
  guarantee := fun _ _ => True
  rely_refl := fun _ => ⟨Nat.le_refl _, rfl⟩
  rely_trans := fun first second => ⟨first.1.trans second.1, second.2.trans first.2⟩

/-- One count of the account's jobs, and what is worked out of it. -/
structure Count where
  /-- when the jobs were counted -/
  counted : ℕ
  /-- when the jobs there were then had been made -/
  times : List ℕ
  /-- when the seconds were worked out, if there was a job to wait for -/
  moment : ℕ
  deriving DecidableEq, Repr

namespace Count

variable (l : SubmissionLimit)

/-- The jobs of the last period. -/
def usage (count : Count) : SubmissionUsage :=
  usageSince count.times (count.counted - seconds l.duration)

/-- What is left until the oldest job of the period stops counting, in microseconds;
without one, a period if the limit is 0. -/
def left (count : Count) : ℕ :=
  match (count.usage l).oldest with
  | none => if l.numRequests = 0 then seconds l.duration else 0
  | some oldest => oldest + seconds l.duration - count.moment

/-- `_state_from` of the count. -/
def state (count : Count) : SubmissionLimitState where
  limit := l.numRequests
  remaining := l.numRequests - (count.usage l).count
  resetSeconds := (count.left l + 999999) / 1000000

/-- What is read for the count. -/
def readings (count : Count) : List Reading :=
  [.moment count.counted, .jobs count.times] ++
    (((count.usage l).oldest.map fun _ => .moment count.moment).toList)

variable {l} {count : Count} {oldest : ℕ}

theorem state_of_none (none : (count.usage l).oldest = none) : count.state l =
    { limit := l.numRequests
      remaining := l.numRequests - (count.usage l).count
      resetSeconds := if l.numRequests = 0 then l.duration else 0 } := by
  unfold state left
  rw [none]
  by_cases zero : l.numRequests = 0
  · simp only [zero, if_true, SubmissionLimitState.mk.injEq, true_and]
    unfold seconds
    omega
  · simp only [zero, if_false]

theorem state_of_some (found : (count.usage l).oldest = some oldest) : count.state l =
    { limit := l.numRequests
      remaining := l.numRequests - (count.usage l).count
      resetSeconds := secondsUntil (oldest + seconds l.duration) count.moment } := by
  unfold state left
  rw [found]
  rfl

theorem readings_of_none (none : (count.usage l).oldest = none) :
    count.readings l = [.moment count.counted, .jobs count.times] := by
  unfold readings
  rw [none]
  rfl

theorem readings_of_some (found : (count.usage l).oldest = some oldest) :
    count.readings l = [.moment count.counted, .jobs count.times, .moment count.moment] := by
  unfold readings
  rw [found]
  rfl

/-- What is read says how many jobs were counted and what was left. -/
theorem readings_append_inj {other : Count} {rest rest' : List Reading}
    (same : count.readings l ++ rest = other.readings l ++ rest') :
    count.usage l = other.usage l ∧ count.left l = other.left l ∧ rest = rest' := by
  obtain ⟨counted, times, moment⟩ := count
  obtain ⟨counted', times', moment'⟩ := other
  unfold readings at same
  simp only [List.cons_append, List.nil_append, List.cons.injEq, Reading.moment.injEq,
    Reading.jobs.injEq] at same
  obtain ⟨rfl, rfl, after⟩ := same
  have sameUsage : (Count.mk counted times moment).usage l =
    (Count.mk counted times moment').usage l := rfl
  unfold left
  rw [← sameUsage] at after ⊢
  cases found : ((Count.mk counted times moment).usage l).oldest with
  | none =>
    rw [found] at after
    exact ⟨rfl, rfl, after⟩
  | some oldest =>
    rw [found] at after
    simp only [Option.map_some, Option.toList_some, List.cons_append, List.nil_append,
      List.cons.injEq, Reading.moment.injEq] at after
    obtain ⟨rfl, after⟩ := after
    exact ⟨rfl, rfl, after⟩

end Count

section Run

variable {settings : Settings} {i account : ℕ} {log : List Reading} {l : SubmissionLimit}

/-- What has been read so far. -/
def HasRead (log : List Reading) (x : Store × List Reading) : Prop := x.2 = log

private theorem stable_hasRead : (Observed settings i account).Stable (HasRead log) :=
  fun _ _ read moved => moved.2.trans read

private theorem observed_issue {op : Op} {Q : Except Exn op.Ans → Store × List Reading → Prop}
    (step : ∀ s answer t world, world.database = none →
      execute settings world i op s = some (answer, t) →
      Q answer (t, log ++ Reading.ofOp account s op answer)) :
    Triple (Observed settings i account) (HasRead log) (issue op) Q := by
  refine Triple.perform stable_hasRead ?_
  rintro ⟨s, log'⟩ answer ⟨t, log''⟩ read ⟨⟨world, reached, executed⟩, rfl⟩
  obtain rfl : log' = log := read
  exact ⟨trivial, step s answer t world reached executed⟩

private theorem now_observed :
    Triple (Observed settings i account) (HasRead log) (issue .now)
      fun answer x => ∃ now : ℕ, answer = .ok now ∧ HasRead (log ++ [.moment now]) x := by
  refine observed_issue fun s answer t world reached executed => ?_
  simp only [execute, World.failure, perform] at executed
  cases executed
  exact ⟨s.clock, rfl, rfl⟩

private theorem silent_observed {op : Op}
    (silent : ∀ s (answer : Except Exn op.Ans), Reading.ofOp account s op answer = [])
    (answers : ∀ s answer t world, world.database = none →
      execute settings world i op s = some (answer, t) → ∃ value, answer = .ok value) :
    Triple (Observed settings i account) (HasRead log) (issue op)
      fun answer x => ∃ value, answer = .ok value ∧ HasRead log x := by
  refine observed_issue fun s answer t world reached executed => ?_
  obtain ⟨value, rfl⟩ := answers s answer t world reached executed
  refine ⟨value, rfl, ?_⟩
  unfold HasRead
  rw [silent, List.append_nil]

private theorem lock_observed :
    Triple (Observed settings i account) (HasRead log) (issue (.lockAccount account))
      fun answer x => ∃ value, answer = .ok value ∧ HasRead log x := by
  refine silent_observed (fun _ _ => rfl) fun s answer t world reached executed => ?_
  simp only [execute, World.failure, reached, Option.map_none, perform] at executed
  split at executed
  · cases executed
    exact ⟨(), rfl⟩
  · split at executed
    · cases executed
      exact ⟨(), rfl⟩
    · cases executed

private theorem rollback_observed :
    Triple (Observed settings i account) (HasRead log) (issue .rollback)
      fun answer x => ∃ value, answer = .ok value ∧ HasRead log x := by
  refine silent_observed (fun _ _ => rfl) fun s answer t world reached executed => ?_
  simp only [execute, World.failure, perform] at executed
  cases executed
  exact ⟨(), rfl⟩

private theorem count_observed {since : ℕ} :
    Triple (Observed settings i account) (HasRead log) (issue (.recentSubmissions account since))
      fun answer x => ∃ usage, answer = .ok usage ∧ ∃ times, usage = usageSince times since ∧
        HasRead (log ++ [.jobs times]) x := by
  refine observed_issue fun s answer t world reached executed => ?_
  simp only [execute, World.failure, reached, Option.map_none, perform] at executed
  cases executed
  exact ⟨_, rfl, s.creationTimes account, usageSince_creationTimes s account since, rfl⟩

/-- `recent_submissions` reads the clock and then the jobs. -/
private theorem recentSubmissions_observed (lock : Bool) :
    Triple (Observed settings i l.account) (HasRead log)
      (RemediationService.recentSubmissions l.account l.duration lock)
      fun answer x => ∃ usage, answer = .ok usage ∧ ∃ counted times,
        usage = usageSince times (counted - seconds l.duration) ∧
          HasRead (log ++ [.moment counted, .jobs times]) x := by
  have counting : Triple (Observed settings i l.account) (HasRead log)
      ((issue .now).bind fun now : ℕ =>
        issue (.recentSubmissions l.account (now - seconds l.duration)))
      fun answer x => ∃ usage, answer = .ok usage ∧ ∃ counted times,
        usage = usageSince times (counted - seconds l.duration) ∧
          HasRead (log ++ [.moment counted, .jobs times]) x := by
    refine Triple.bind_ok now_observed fun now => ?_
    refine count_observed.post ?_
    rintro _ x ⟨usage, rfl, times, same, read⟩
    refine ⟨usage, rfl, now, times, same, ?_⟩
    rwa [List.append_assoc] at read
  unfold RemediationService.recentSubmissions
  cases lock with
  | false => exact counting
  | true => exact Triple.bind_ok lock_observed fun _ => counting

/-- `_state_from` reads the clock if there is a job to wait for. -/
private theorem stateFrom_observed (counted : ℕ) (times : List ℕ) :
    Triple (Observed settings i l.account) (HasRead (log ++ [.moment counted, .jobs times]))
      (l.stateFrom (usageSince times (counted - seconds l.duration)))
      fun answer x => ∃ state, answer = .ok state ∧ ∃ count : Count,
        (count.counted = counted ∧ count.times = times) ∧ state = count.state l ∧
          HasRead (log ++ count.readings l) x := by
  unfold SubmissionLimit.stateFrom
  cases found : (usageSince times (counted - seconds l.duration)).oldest with
  | none =>
    refine Triple.done fun x read => ⟨_, rfl, ⟨counted, times, 0⟩, ⟨rfl, rfl⟩, ?_, ?_⟩
    · rw [@Count.state_of_none l ⟨counted, times, 0⟩ found]
      rfl
    · rw [@Count.readings_of_none l ⟨counted, times, 0⟩ found]
      exact read
  | some oldest =>
    have waiting : Triple (Observed settings i l.account)
        (HasRead (log ++ [.moment counted, .jobs times]))
        (l.secondsUntilOldestExpires (some oldest)) fun answer x => ∃ wait, answer = .ok wait ∧
          ∃ moment, wait = secondsUntil (oldest + seconds l.duration) moment ∧
            HasRead (log ++ [.moment counted, .jobs times, .moment moment]) x := by
      refine Triple.bind_ok now_observed fun moment => Triple.done fun x read => ?_
      refine ⟨_, rfl, moment, rfl, ?_⟩
      rwa [List.append_assoc] at read
    refine Triple.bind_ok waiting fun wait => Triple.done ?_
    rintro x ⟨moment, rfl, read⟩
    refine ⟨_, rfl, ⟨counted, times, moment⟩, ⟨rfl, rfl⟩, ?_, ?_⟩
    · rw [@Count.state_of_some l ⟨counted, times, moment⟩ oldest found]
      rfl
    · rw [@Count.readings_of_some l ⟨counted, times, moment⟩ oldest found]
      exact read

/-- What a request from its check on ends with: if it is refused, the body is that of one
count, which the limit does not exceed, and the headers are those of another one. -/
theorem refusedRequest_observed :
    Triple (Observed settings i l.account) (HasRead []) l.refusedRequest
      fun answer x => ∀ body state, answer = .ok (some (body, state)) →
        ∃ (first second : Count) (last : ℕ),
          x.2 = first.readings l ++ .moment last :: second.readings l ∧
          l.numRequests ≤ (first.usage l).count ∧
          body = ⟨(first.state l).resetSeconds, (first.state l).remaining,
            last + seconds (first.state l).resetSeconds⟩ ∧
          state = second.state l := by
  -- The check: a count that is full, the moment the body is made, and nothing written.
  have refused : Triple (Observed settings i l.account) (HasRead []) l.refusal
      fun answer x => ∃ body, answer = .ok body ∧ ∀ known, body = some known →
        ∃ (first : Count) (last : ℕ), l.numRequests ≤ (first.usage l).count ∧
          known = ⟨(first.state l).resetSeconds, (first.state l).remaining,
            last + seconds (first.state l).resetSeconds⟩ ∧
          HasRead (first.readings l ++ [.moment last]) x := by
    refine Triple.bind_ok (recentSubmissions_observed true) fun usage => ?_
    rintro x ⟨counted, times, rfl, read⟩
    split
    · refine Triple.done (P := fun _ => True) (fun y _ => ⟨none, rfl, ?_⟩) x trivial
      intro known impossible
      cases impossible
    · rename_i notFewer
      refine Triple.bind_ok (stateFrom_observed counted times) (fun state => ?_) x read
      rintro y ⟨first, ⟨rfl, rfl⟩, rfl, read⟩
      refine Triple.bind_ok now_observed (fun last => Triple.done fun z read => ?_) y read
      refine ⟨_, rfl, fun known same => ⟨first, last, Nat.le_of_not_lt notFewer, ?_, read⟩⟩
      exact (Option.some.inj same).symm
  refine Triple.bind_ok refused fun body => ?_
  intro x known
  cases body with
  | none =>
    refine Triple.done (P := fun _ => True) (fun y _ body state impossible => ?_) x trivial
    cases impossible
  -- A refusal: the transaction is rolled back and the headers count once more.
  | some body =>
    obtain ⟨first, last, full, rfl, read⟩ := known _ rfl
    refine Triple.bind_ok rollback_observed (fun _ => ?_) x read
    refine Triple.bind_ok (M := fun state y => ∃ second : Count, state = second.state l ∧
      HasRead (first.readings l ++ [.moment last] ++ second.readings l) y) ?_ fun state => ?_
    · refine Triple.bind_ok (recentSubmissions_observed false) fun usage => ?_
      rintro y ⟨counted, times, rfl, read⟩
      refine (stateFrom_observed counted times).post ?_ y read
      rintro _ z ⟨_, rfl, second, -, same, read⟩
      exact ⟨_, rfl, second, same, read⟩
    · refine Triple.done ?_
      rintro y ⟨second, rfl, read⟩ body state same
      obtain ⟨rfl, rfl⟩ := Prod.mk.inj (Option.some.inj (Except.ok.inj same))
      refine ⟨first, second, last, ?_, full, rfl, rfl⟩
      rw [List.append_assoc] at read
      exact read

/-! ## Headers and body -/

/-- The headers write the numbers of the body. -/
def Agrees (body : SubmissionLimitBody) (headers : List (String × Text)) : Prop :=
  ("X-RateLimit-Remaining", Text.decimal body.remaining) ∈ headers ∧
    ("X-RateLimit-Reset", Text.decimal body.retryAfter) ∈ headers

/-- **The condition.**  At the second count the limit is still used up, and no whole number of
seconds lies between what was left then and what is left now.

The first count is the check's, from which the body is made; the second one is made for the
headers, later, without the lock and at another time. -/
def Steady (l : SubmissionLimit) (first second : Count) : Prop :=
  l.numRequests ≤ (second.usage l).count ∧
    ∀ k, first.left l ≤ seconds k ↔ second.left l ≤ seconds k

theorem agrees_iff {body : SubmissionLimitBody} {state : SubmissionLimitState} :
    Agrees body state.asHeaders ↔
      body.remaining = state.remaining ∧ body.retryAfter = state.resetSeconds := by
  unfold Agrees SubmissionLimitState.asHeaders
  simp only [List.mem_cons, Prod.mk.injEq, List.not_mem_nil, or_false]
  constructor
  · rintro ⟨remaining, reset⟩
    refine ⟨Text.decimal_injective ?_, Text.decimal_injective ?_⟩
    · simpa using remaining
    · simpa using reset
  · rintro ⟨remaining, reset⟩
    rw [remaining, reset]
    simp

/-- Two waits are the same number of seconds, rounded up, if no whole number of seconds
lies between them. -/
theorem roundedUp_eq_iff (a b : ℕ) : (a + 999999) / 1000000 = (b + 999999) / 1000000 ↔
    ∀ k, a ≤ seconds k ↔ b ≤ seconds k := by
  have below : ∀ c k : ℕ, (c + 999999) / 1000000 ≤ k ↔ c ≤ seconds k := by
    intro c k
    unfold seconds
    omega
  constructor
  · intro same k
    rw [← below, ← below, same]
  · intro between
    refine Nat.le_antisymm ?_ ?_
    · exact (below a _).mpr ((between _).mpr ((below b _).mp (Nat.le_refl _)))
    · exact (below b _).mpr ((between _).mp ((below a _).mp (Nat.le_refl _)))

/-- **When the headers of a refusal repeat its body**: in every run of a refused request,
whatever jobs each count found and however much time passed.

Headers and body are each computed from a count of their own, at a moment of their own.  So they
agree only as far as the second count is still full and rounds up to the seconds of the first. -/
theorem refusal_agrees_iff {s t : Store} {body : SubmissionLimitBody}
    {state : SubmissionLimitState} {first second : Count} {last : ℕ}
    (run : (Observed settings i l.account).Returns l.refusedRequest (s, [])
      (.ok (some (body, state)))
      (t, first.readings l ++ .moment last :: second.readings l)) :
    Agrees body state.asHeaders ↔ Steady l first second := by
  obtain ⟨first', second', last', read, full, rfl, rfl⟩ :=
    Returns.safe run (refusedRequest_observed (s, []) rfl) (fun r x y known moved body state same => by
      obtain ⟨first, second, last, read, rest⟩ := known body state same
      exact ⟨first, second, last, moved.2.trans read, rest⟩) body state rfl
  obtain ⟨-, sameLeft, after⟩ := Count.readings_append_inj read
  obtain ⟨-, after⟩ := List.cons.inj after
  obtain ⟨sameUsage', sameLeft', -⟩ :=
    @Count.readings_append_inj l second second' [] [] (by rw [after])
  rw [agrees_iff]
  unfold Count.state Steady
  simp only
  rw [← sameLeft, ← sameLeft', ← sameUsage', roundedUp_eq_iff]
  refine and_congr_left fun _ => ?_
  omega

end Run

/-! ## One job a minute -/

/-- A store at ten and a half seconds past its only job. -/
def tenSecondsLater : Store := { halfASecondLater with clock := 10500000 }

/-- One job a minute. -/
def oneAMinute : SubmissionLimit := ⟨1, 1, 60⟩

private theorem observes {settings : Settings} {i account : ℕ} {log : List Reading} {op : Op}
    {answer : Except Exn op.Ans} {s t : Store}
    (executed : execute settings .uneventful i op s = some (answer, t)) :
    (Observed settings i account).Returns (issue op) (s, log) answer
      (t, log ++ Reading.ofOp account s op answer) :=
  Returns.perform ⟨⟨.uneventful, rfl, executed⟩, rfl⟩

/-- What is read of the only job, and when. -/
def onlyJob (now : ℕ) : Count := ⟨now, [0], now⟩

/-- The second job in a minute is refused, and some time passes before the headers are
added. -/
theorem refusedRequest_returns (elapsed : ℕ) (early : 10500000 + elapsed ≤ 60000000) :
    ∃ t, (Observed .stepsOff 0 1).Returns oneAMinute.refusedRequest (tenSecondsLater, [])
      (.ok (some (⟨50, 0, 60500000⟩,
        ⟨1, 0, secondsUntil 60000000 (10500000 + elapsed)⟩)))
      (t, (onlyJob 10500000).readings oneAMinute ++ .moment 10500000 ::
        (onlyJob (10500000 + elapsed)).readings oneAMinute) := by
  let locked : Store := { tenSecondsLater with
    locks := Function.update tenSecondsLater.locks 1 (some 0) }
  let later : Store := { locked.endTransaction 0 false with clock := 10500000 + elapsed }
  have since : 10500000 + elapsed - seconds 60 = 0 := Nat.sub_eq_zero_of_le early
  have usage : (onlyJob (10500000 + elapsed)).usage oneAMinute = ⟨1, some 0⟩ := by
    show usageSince [0] (10500000 + elapsed - seconds 60) = ⟨1, some 0⟩
    rw [since]
    rfl
  have read : (onlyJob (10500000 + elapsed)).readings oneAMinute =
      [.moment (10500000 + elapsed), .jobs [0], .moment (10500000 + elapsed)] :=
    Count.readings_of_some (congrArg SubmissionUsage.oldest usage)
  have counting : execute .stepsOff .uneventful 0
      (.recentSubmissions 1 (10500000 + elapsed - seconds 60)) later = some (.ok ⟨1, some 0⟩, later) := by
    rw [since]
    rfl
  refine ⟨later, ?_⟩
  rw [read]
  refine Returns.bind (some ⟨50, 0, 60500000⟩) (t := (locked, [.moment 10500000, .jobs [0],
    .moment 10500000, .moment 10500000])) ?_ ?_
  · refine Returns.bind (⟨1, some 0⟩ : SubmissionUsage)
      (Returns.bind () (observes rfl) (Returns.bind (10500000 : ℕ) (observes rfl) (observes rfl))) ?_
    exact Returns.bind (⟨1, 0, 50⟩ : SubmissionLimitState)
      (Returns.bind (50 : ℕ) (Returns.bind (10500000 : ℕ) (observes rfl) Returns.done) Returns.done)
      (Returns.bind (10500000 : ℕ) (observes rfl) Returns.done)
  · -- The clock moves on between the rollback and the second count.
    refine Returns.bind () (observes rfl) (.rely (t := (later, _)) ⟨Nat.le_add_right _ _, rfl⟩ ?_)
    refine Returns.bind (⟨1, 0, secondsUntil 60000000 (10500000 + elapsed)⟩ : SubmissionLimitState)
      (Returns.bind (⟨1, some 0⟩ : SubmissionUsage)
        (Returns.bind (10500000 + elapsed : ℕ) (observes rfl) (observes counting)) ?_) Returns.done
    exact Returns.bind (secondsUntil 60000000 (10500000 + elapsed) : ℕ)
      (Returns.bind (10500000 + elapsed : ℕ) (observes rfl) Returns.done) Returns.done

/-- Four tenths of a second, in the last second but forty-nine. -/
theorem refusal_agrees_iff_soon :
    ∃ t, (Observed .stepsOff 0 1).Returns oneAMinute.refusedRequest (tenSecondsLater, [])
        (.ok (some (⟨50, 0, 60500000⟩, ⟨1, 0, secondsUntil 60000000 10900000⟩)))
        (t, (onlyJob 10500000).readings oneAMinute ++ .moment 10500000 ::
          (onlyJob 10900000).readings oneAMinute) ∧
      Agrees ⟨50, 0, 60500000⟩
        (SubmissionLimitState.mk 1 0 (secondsUntil 60000000 10900000)).asHeaders := by
  obtain ⟨t, run⟩ := refusedRequest_returns 400000 (by decide)
  refine ⟨t, run, (@refusal_agrees_iff .stepsOff 0 oneAMinute _ _ _ _ (onlyJob 10500000)
    (onlyJob 10900000) _ run).mpr ⟨by decide, fun k => ?_⟩⟩
  show 49500000 ≤ seconds k ↔ 49100000 ≤ seconds k
  unfold seconds
  omega

/-- Half a second, and a whole number of seconds is left: the body says 50 and the
headers say 49. -/
theorem headers_differ_from_body :
    ¬ ∀ (settings : Settings) (i : ℕ) (l : SubmissionLimit) (s t : Store)
      (body : SubmissionLimitBody) (state : SubmissionLimitState) (log : List Reading),
      (Observed settings i l.account).Returns l.refusedRequest (s, [])
        (.ok (some (body, state))) (t, log) → Agrees body state.asHeaders := by
  intro claim
  obtain ⟨t, run⟩ := refusedRequest_returns 500000 (by decide)
  have agrees := agrees_iff.mp (claim _ _ oneAMinute _ _ _ _ _ run)
  exact absurd agrees.2 (by decide)

end DicePipeline
