import DicePipeline.Throttle.Credits

/-!
# What a call of the throttles has done so far

A `Trace` is what the statements a call has issued amount to: the last time it
read, the keys it has counted a hit under, what its last look-up found, and what
Knox made of its token.  One lemma for each function of the source says what its
calls do to the trace, over every answer the table may give.

The one that matters is `hit_tracks`: a hit that returns has counted exactly one
hit, under its key, and a hit that gives up has counted none.
-/

namespace DicePipeline.Throttle

open Interaction ThrottleCounterService

/-- What every statement promises about its answer, whatever the table holds. -/
def Statement.Answers : (statement : Statement) → Except Failure statement.Ans → Prop
  | .create _ _, .error exc => exc = .integrityError
  | .checkToken _, .error exc => exc = .authenticationFailed
  | _, .error _ => False
  | _, .ok _ => True

theorem Statement.run_answers (verdict : TokenCheck) (statement : Statement) (s : Counters) :
    statement.Answers (statement.run verdict s).1 := by
  cases statement with
  | timezoneNow => trivial
  | updateLive key now =>
      cases found : s.rows key with
      | none => simp [run, Answers, found]
      | some row => by_cases live : now < row.windowEndsAt <;> simp [run, Answers, found, live]
  | updateExpired key now endsAt =>
      cases found : s.rows key with
      | none => simp [run, Answers, found]
      | some row => by_cases ended : row.windowEndsAt ≤ now <;> simp [run, Answers, found, ended]
  | create key endsAt => cases found : s.rows key <;> simp [run, Answers, found]
  | deleteEndedBefore moment => trivial
  | firstLive key now => trivial
  | checkToken key =>
      cases verdict with
      | noToken => trivial
      | valid user => trivial
      | wrong => rfl

/-- How many hits a look-up found, `reading.count` of it. -/
def countOf (row : Option ThrottleCounter) : ℕ := (row.map ThrottleCounter.count).getD 0

/-- The last time read.  Knox's check takes its time, so what was read before it
does not count afterwards. -/
def Statement.clockRead (before : Option ℕ) :
    (statement : Statement) → Except Failure statement.Ans → Option ℕ
  | .timezoneNow, .ok (now : ℕ) => some now
  | .checkToken _, _ => none
  | _, _ => before

/-- What the last look-up found, and under which key. -/
def Statement.lookedUp (before : Option (String × ℕ)) :
    (statement : Statement) → Except Failure statement.Ans → Option (String × ℕ)
  | .firstLive key _, .ok (row : Option ThrottleCounter) => some (key, countOf row)
  | _, _ => before

/-- What a counted hit has read back. -/
def Statement.readBack (counted : List String) (before : Option ℕ) :
    (statement : Statement) → Except Failure statement.Ans → Option ℕ
  | .firstLive _ _, .ok (row : Option ThrottleCounter) =>
      if counted = [] then before else some (countOf row)
  | _, _ => before

/-- A count is read back by a look-up, after the hit was counted. -/
theorem Statement.readBack_cases {counted : List String} {before : Option ℕ} {count : ℕ}
    {statement : Statement} {answer : Except Failure statement.Ans}
    (back : statement.readBack counted before answer = some count) :
    before = some count ∨ counted ≠ [] ∧ ∃ key now, statement = .firstLive key now ∧
      statement.lookedUp none answer = some (key, count) := by
  cases statement with
  | firstLive key now =>
      cases answer with
      | error exc => exact .inl back
      | ok row =>
          by_cases nothing : counted = []
          · simp only [Statement.readBack, nothing, if_true] at back
            exact .inl back
          · simp only [Statement.readBack, nothing, if_false, Option.some.injEq] at back
            exact .inr ⟨nothing, key, now, rfl, congrArg (fun n => some (key, n)) back⟩
  | timezoneNow => exact .inl back
  | updateLive key now => exact .inl back
  | updateExpired key now endsAt => exact .inl back
  | create key endsAt => exact .inl back
  | deleteEndedBefore moment => exact .inl back
  | checkToken key => exact .inl back

/-- Whether the token was wrong, and which key counts it. -/
def Statement.checked (before : Option (String × Bool)) :
    (statement : Statement) → Except Failure statement.Ans → Option (String × Bool)
  | .checkToken key, .ok _ => some (key, false)
  | .checkToken key, .error _ => some (key, true)
  | _, _ => before

/-- A statement that writes nothing, whatever the table holds. -/
def Statement.readOnly : Statement → Bool
  | .timezoneNow => true
  | .firstLive _ _ => true
  | .checkToken _ => true
  | _ => false

theorem Statement.run_of_readOnly {statement : Statement} (reads : statement.readOnly = true)
    (verdict : TokenCheck) (s : Counters) : (statement.run verdict s).2 = s := by
  cases statement with
  | timezoneNow => rfl
  | firstLive key now => rfl
  | checkToken key => cases verdict <;> rfl
  | updateLive key now => cases reads
  | updateExpired key now endsAt => cases reads
  | create key endsAt => cases reads
  | deleteEndedBefore moment => cases reads

/-- What a call has done so far. -/
structure Trace where
  now : Option ℕ
  counted : List String
  found : Option (String × ℕ)
  readBack : Option ℕ
  token : Option (String × Bool)
  wrote : Bool

namespace Trace

/-- A call that has done nothing. -/
def unseen : Trace := ⟨none, [], none, none, none, false⟩

/-- One more answer. -/
def advance (x : Trace) (statement : Statement) (answer : Except Failure statement.Ans) :
    Trace where
  now := statement.clockRead x.now answer
  counted := ((statement.counted answer).map Prod.fst).toList ++ x.counted
  found := statement.lookedUp x.found answer
  readBack := statement.readBack x.counted x.readBack answer
  token := statement.checked x.token answer
  wrote := x.wrote || !statement.readOnly

/-- Nothing has been counted, checked or written in between. -/
structure Idle (x y : Trace) : Prop where
  counted : y.counted = x.counted
  token : y.token = x.token
  wrote : y.wrote = x.wrote

end Trace

/-- A piece of the code follows `P` and ends in `Q`. -/
abbrev Follows {α : Type} (P : Trace → Statement → Prop) (Q : Trace → Except Failure α → Prop)
    (body : Code α) (x : Trace) : Prop :=
  body.Tracks (S := Sql) Trace.advance Statement.Answers P Q x

/-! ## The service -/

/-- `read` looks its key up at the time it has just read, and returns what it
found; after a counted hit, that is what the hit reads back. -/
theorem read_follows (key : String) {P : Trace → Statement → Prop} {x : Trace}
    (clock : ∀ y, x.Idle y → P y .timezoneNow)
    (look : ∀ y now, x.Idle y → y.now = some now → P y (.firstLive key now)) :
    Follows P (fun y result => ∃ reading, result = .ok reading ∧ x.Idle y ∧
      y.found = some (key, reading.count) ∧
      y.readBack = if x.counted = [] then x.readBack else some reading.count) (read key) x := by
  have idle : ∀ {y : Trace}, y.counted = x.counted → y.token = x.token →
      y.wrote = (((x.wrote || false) || false) || false) → x.Idle y := by
    intro y counted token wrote
    exact ⟨counted, token, by simpa using wrote⟩
  refine Program.Tracks.perform_bind (clock x ⟨rfl, rfl, rfl⟩) (fun _ h => h) fun now _ => ?_
  refine Program.Tracks.perform_bind (look _ now (idle rfl rfl (by simp [Trace.advance,
    Statement.readOnly])) rfl) (fun _ h => h) fun row _ => ?_
  cases row with
  | none =>
      exact ⟨⟨0, 0⟩, rfl, idle rfl rfl (by simp [Trace.advance, Statement.readOnly]), rfl, rfl⟩
  | some row =>
      refine Program.Tracks.perform_bind (clock _ (idle rfl rfl (by simp [Trace.advance,
        Statement.readOnly]))) (fun _ h => h) fun later _ => ?_
      exact ⟨⟨row.count, secondsUntil row.windowEndsAt later⟩, rfl,
        idle rfl rfl (by simp [Trace.advance, Statement.readOnly]), rfl, rfl⟩

/-- What a hit of `key` may issue after a trace: its statements carry the time
it has read, and it has counted nothing before the one that counts. -/
def HitMay (key : String) (windowSeconds : ℕ) (token : Option (String × Bool)) (x : Trace) :
    Statement → Prop
  | .timezoneNow => x.token = token
  | .updateLive k now => k = key ∧ x.now = some now ∧ x.counted = [] ∧ x.token = token
  | .updateExpired k now endsAt =>
      k = key ∧ x.now = some now ∧ endsAt = now + seconds windowSeconds ∧ x.counted = [] ∧
        x.token = token
  | .create k endsAt =>
      k = key ∧ (∃ now, x.now = some now ∧ endsAt = now + seconds windowSeconds) ∧
        x.counted = [] ∧ x.token = token
  | .deleteEndedBefore moment =>
      (∃ now, x.now = some now ∧ moment = now - expiredRowGrace) ∧ x.token = token
  | .firstLive k now => k = key ∧ x.now = some now ∧ x.counted = [key] ∧ x.token = token
  | .checkToken _ => False

/-- How a hit of `key` ends: counted once and read back, or given up uncounted. -/
def HitEnds (key : String) (token : Option (String × Bool)) (y : Trace) :
    Except Failure CounterReading → Prop
  | .ok reading => y.counted = [key] ∧ y.token = token ∧ y.readBack = some reading.count
  | .error exc => exc = .runtimeError key ∧ y.counted = [] ∧ y.token = token

/-- The read-back of a counted hit. -/
theorem readBack_follows {key : String} {windowSeconds : ℕ} {token : Option (String × Bool)}
    {x : Trace} (counted : x.counted = [key]) (same : x.token = token) :
    Follows (HitMay key windowSeconds token) (HitEnds key token) (read key) x := by
  refine (read_follows key ?_ ?_).mono ?_
  · exact fun y idle => idle.token.trans same
  · exact fun y now idle read =>
      ⟨rfl, read, idle.counted.trans counted, idle.token.trans same⟩
  · rintro y result ⟨reading, rfl, idle, -, back⟩
    exact ⟨idle.counted.trans counted, idle.token.trans same, by simpa [counted] using back⟩

/-- Creating the row counts the hit, and a clash counts nothing. -/
private theorem create_follows {key : String} {windowSeconds now : ℕ}
    {token : Option (String × Bool)} {x : Trace} (read : x.now = some now)
    (counted : x.counted = []) (same : x.token = token) :
    Follows (HitMay key windowSeconds token)
      (fun y result => y.now = some now ∧ y.token = token ∧
        match result with
        | .ok _ => y.counted = [key]
        | .error exc => exc = .integrityError ∧ y.counted = [])
      (ask (.create key (now + seconds windowSeconds))) x := by
  refine ⟨⟨rfl, ⟨now, read, rfl⟩, counted, same⟩, fun answer promised => ?_⟩
  cases answer with
  | ok created => exact ⟨read, same, by simp [Trace.advance, Statement.counted, counted]⟩
  | error exc => exact ⟨read, same, promised, counted⟩

theorem hitRounds_follows {key : String} {windowSeconds now : ℕ}
    {token : Option (String × Bool)} (rounds : ℕ) :
    ∀ {x : Trace}, x.now = some now → x.counted = [] → x.token = token →
      Follows (HitMay key windowSeconds token) (HitEnds key token)
        (hitRounds key now (now + seconds windowSeconds) rounds) x := by
  induction rounds with
  | zero => exact fun _ counted same => ⟨rfl, counted, same⟩
  | succ rounds ih =>
      intro x read counted same
      refine Program.Tracks.perform_bind ⟨rfl, read, counted, same⟩ (fun _ h => h)
        fun updated _ => ?_
      by_cases matched : updated ≠ 0
      · rw [if_pos matched]
        refine readBack_follows ?_ same
        simp [Trace.advance, Statement.counted, matched, counted]
      · rw [if_neg matched]
        refine Program.Tracks.perform_bind ⟨rfl, read, rfl, ?_, same⟩ (fun _ h => h)
          fun renewed _ => ?_
        · simp [Trace.advance, Statement.counted, matched, counted]
        · by_cases hasRenewed : renewed ≠ 0
          · rw [if_pos hasRenewed]
            refine readBack_follows ?_ same
            simp [Trace.advance, Statement.counted, matched, hasRenewed, counted]
          · rw [if_neg hasRenewed]
            have uncounted : ((x.advance (.updateLive key now) (.ok updated)).advance
                (.updateExpired key now (now + seconds windowSeconds)) (.ok renewed)).counted
                  = [] := by
              simp [Trace.advance, Statement.counted, matched, hasRenewed, counted]
            refine Program.Tracks.attempt_bind (create_follows read uncounted same) ?_
            rintro result y ⟨readStill, sameStill, outcome⟩
            cases result with
            | error exc =>
                obtain ⟨rfl, nothing⟩ := outcome
                exact ih readStill nothing sameStill
            | ok created =>
                refine Program.Tracks.perform_bind ⟨⟨now, readStill, rfl⟩, sameStill⟩
                  (fun _ h => h) fun _ _ => ?_
                exact readBack_follows outcome sameStill

/-- **A hit counts once.** -/
theorem hit_follows (key : String) (windowSeconds : ℕ) {x : Trace} (counted : x.counted = []) :
    Follows (HitMay key windowSeconds x.token) (HitEnds key x.token) (hit key windowSeconds) x :=
  Program.Tracks.perform_bind rfl (fun _ h => h) fun _ _ =>
    hitRounds_follows maxHitAttempts rfl counted rfl

/-! ## The limits -/

/-- What a request at the per-IP cap may issue: what a hit of its key may. -/
def CapMay (rates : ThrottleScope → Rate) (request : ApiRequest) : Trace → Statement → Prop :=
  HitMay (buildCounterKey .clientIp request) (rates .clientIp).duration none

/-- How a request at the cap ends.  One that was counted is let through exactly
when the count it read back is within the rate. -/
def CapEnds (rates : ThrottleScope → Rate) (request : ApiRequest) (y : Trace) :
    Except Failure (Bool × ℕ) → Prop
  | .ok (letThrough, _) => y.token = none ∧
      (isUnlimitedAccount request ∧ y.counted = [] ∨
        y.counted = [buildCounterKey .clientIp request] ∧
          ∃ count, y.readBack = some count ∧
            letThrough = decide (count ≤ (rates .clientIp).numRequests))
  | .error _ => y.token = none ∧ y.counted = []

/-- **The per-IP cap.** -/
theorem allowRequest_follows (rates : ThrottleScope → Rate) (request : ApiRequest) :
    Follows (CapMay rates request) (CapEnds rates request)
      (ClientIPThrottle.allowRequest rates request) Trace.unseen := by
  unfold ClientIPThrottle.allowRequest
  by_cases unlimited : isUnlimitedAccount request = true
  · rw [if_pos unlimited]
    exact ⟨rfl, .inl ⟨unlimited, rfl⟩⟩
  · rw [if_neg unlimited]
    refine Program.Tracks.bind (hit_follows _ _ (x := Trace.unseen) rfl) ?_ ?_
    · rintro reading y ⟨counted, token, back⟩
      exact ⟨token, .inr ⟨counted, reading.count, back, rfl⟩⟩
    · rintro exc y ⟨-, counted, token⟩
      exact ⟨token, counted⟩

/-- What a login may issue before Knox has judged its token: the token is only
checked once a look-up has found fewer failures than the limit. -/
def CheckMay (rates : ThrottleScope → Rate) (key : String) (x : Trace) : Statement → Prop
  | .timezoneNow => Trace.unseen.Idle x
  | .firstLive k now => k = key ∧ x.now = some now ∧ Trace.unseen.Idle x
  | .checkToken k => k = key ∧ Trace.unseen.Idle x ∧
      ∃ count, x.found = some (key, count) ∧ count < (rates .failedAuth).numRequests
  | _ => False

/-- What a login may issue: a hit only once its token was found wrong. -/
def LoginMay (rates : ThrottleScope → Rate) (request : ApiRequest) (x : Trace)
    (statement : Statement) : Prop :=
  CheckMay rates (buildCounterKey .failedAuth request) x statement ∨
    HitMay (buildCounterKey .failedAuth request) (rates .failedAuth).duration
      (some (buildCounterKey .failedAuth request, true)) x statement

/-- How a login ends, and what it has counted by then. -/
def LoginEnds (request : ApiRequest) (y : Trace) : Except Failure (Option ℕ) → Prop
  | .ok _ => y.counted = [] ∧ y.token = some (buildCounterKey .failedAuth request, false) ∧
      y.wrote = false
  | .error (.throttled _) => Trace.unseen.Idle y
  | .error .authenticationFailed => y.counted = [buildCounterKey .failedAuth request] ∧
      y.token = some (buildCounterKey .failedAuth request, true)
  | .error (.runtimeError _) => y.counted = [] ∧
      y.token = some (buildCounterKey .failedAuth request, true)
  | .error .integrityError => False

/-- **A failed login is counted once, and nothing else is.** -/
theorem authenticate_follows (rates : ThrottleScope → Rate) (request : ApiRequest) :
    Follows (LoginMay rates request) (LoginEnds request)
      (LockoutTokenAuthentication.authenticate rates request) Trace.unseen := by
  have check : Follows (LoginMay rates request)
      (fun y result => Trace.unseen.Idle y ∧
        match result with
        | .ok _ => ∃ count, y.found = some (buildCounterKey .failedAuth request, count) ∧
            count < (rates .failedAuth).numRequests
        | .error exc => ∃ wait, exc = .throttled wait)
      (FailedAuthLockout.check rates request) Trace.unseen := by
    refine Program.Tracks.bind (read_follows _ ?_ ?_) ?_ ?_
    · exact fun y idle => .inl idle
    · exact fun y now idle read => .inl ⟨rfl, read, idle⟩
    · rintro reading y ⟨_, ⟨⟩, idle, found, -⟩
      by_cases used : (rates .failedAuth).numRequests ≤ reading.count
      · rw [if_pos used]
        exact ⟨idle, _, rfl⟩
      · rw [if_neg used]
        exact ⟨idle, reading.count, found, Nat.lt_of_not_le used⟩
    · rintro exc y ⟨reading, impossible, -⟩
      cases impossible
  -- The check has let the login through, so its token is tried, once.
  refine Program.Tracks.bind check ?_ ?_
  · rintro passed y ⟨idle, below⟩
    have judged : Follows (LoginMay rates request)
        (fun z result => z.counted = [] ∧
          match result with
          | .ok _ => z.token = some (buildCounterKey .failedAuth request, false) ∧
              z.wrote = false
          | .error exc => exc = .authenticationFailed ∧
              z.token = some (buildCounterKey .failedAuth request, true))
        (ask (.checkToken (buildCounterKey .failedAuth request))) y := by
      refine ⟨.inl ⟨rfl, idle, below⟩, fun answer promised => ?_⟩
      cases answer with
      -- A valid token is not recorded, a wrong one is, by one hit.
      | ok user =>
          refine ⟨idle.counted, rfl, ?_⟩
          have silent : y.wrote = false := idle.wrote
          simp [Trace.advance, Statement.readOnly, silent]
      | error exc => exact ⟨idle.counted, promised, rfl⟩
    refine Program.Tracks.attempt_bind judged ?_
    rintro result z ⟨counted, outcome⟩
    cases result with
    | ok user => exact ⟨counted, outcome⟩
    | error exc =>
        obtain ⟨rfl, wrong⟩ := outcome
        refine Program.Tracks.bind (M := fun w result =>
          match result with
          | .ok _ => LoginEnds request w (.error .authenticationFailed)
          | .error exc => LoginEnds request w (.error exc)) ?_ (fun _ w ends => ends)
          (fun exc w ends => ends)
        have recorded := hit_follows (buildCounterKey .failedAuth request)
          (rates .failedAuth).duration counted
        rw [wrong] at recorded
        refine Program.Tracks.bind (recorded.weaken fun _ _ may => .inr may) ?_ ?_
        · rintro reading w ⟨once, same, -⟩
          exact ⟨once, same⟩
        · rintro exc w ⟨rfl, nothing, same⟩
          exact ⟨nothing, same⟩
  · rintro exc y ⟨idle, wait, rfl⟩
    exact idle

/-- What a request at a limit may issue. -/
def LimitCall.May (rates : ThrottleScope → Rate) : LimitCall → Trace → Statement → Prop
  | .allowRequest request => CapMay rates request
  | .authenticate request => LoginMay rates request

/-- How a request at a limit ends. -/
def LimitCall.Ends (rates : ThrottleScope → Rate) :
    LimitCall → Trace → Except Failure LimitAnswer → Prop
  | .allowRequest request, y, .ok (.allowed letThrough secondsLeft) =>
      CapEnds rates request y (.ok (letThrough, secondsLeft))
  | .allowRequest request, y, .error exc => CapEnds rates request y (.error exc)
  | .authenticate request, y, .ok (.authenticated user) => LoginEnds request y (.ok user)
  | .authenticate request, y, .error exc => LoginEnds request y (.error exc)
  | _, _, _ => False

/-- **The code of the limits.** -/
theorem limitCall_follows (rates : ThrottleScope → Rate) (call : LimitCall) :
    Follows (call.May rates) (call.Ends rates) (call.code rates) Trace.unseen := by
  cases call with
  | allowRequest request =>
      exact Program.Tracks.bind (allowRequest_follows rates request)
        (fun _ _ ends => ends) (fun _ _ ends => ends)
  | authenticate request =>
      exact Program.Tracks.bind (authenticate_follows rates request)
        (fun _ _ ends => ends) (fun _ _ ends => ends)

/-! ## Calls of a machine -/

section Machine

variable {κ α : Type} {code : κ → Code α}
variable {ok : Config Sql Failure α Counters κ → Label κ TokenCheck ℕ → Prop}

/-- What call `i` has done so far, read off the history. -/
def traceOf (i : ℕ) (log : Log κ α) : Trace :=
  Machine.observed (S := Sql) Trace.advance Trace.unseen i log

/-- What the code of every call follows, the calls of a run follow. -/
theorem calls_follow {P : κ → Trace → Statement → Prop}
    {Q : κ → Trace → Except Failure α → Prop}
    (follows : ∀ call, Follows (P call) (Q call) (code call) Trace.unseen)
    {c : Config Sql Failure α Counters κ}
    (reached : (counters code).Reach ok (.initial .empty) c) :
    Machine.Monitored (S := Sql) Trace.advance Trace.unseen
      (fun call x body => Follows (P call) (Q call) body x) c := by
  refine Machine.Reach.tracked (S := Sql) Trace.advance Trace.unseen Statement.Answers P Q ?_ ?_
    reached
  · rintro call s body ⟨⟩
    exact follows call
  · intro verdict i statement s answer t executed
    have := Statement.run_answers verdict statement s
    rwa [Option.some.inj executed] at this

theorem traceOf_answered (i j : ℕ) (statement : Statement)
    (answer : Except Failure statement.Ans) (log : Log κ α) :
    traceOf i (.answered j statement answer :: log : Log κ α) =
      if j = i then (traceOf i log).advance statement answer else traceOf i log := rfl

@[simp] theorem traceOf_place (i : ℕ) (c : Config Sql Failure α Counters κ) (j : ℕ) (call : κ)
    (body : Code α) : traceOf i (c.place j call body).history = traceOf i c.history := by
  cases body <;> rfl

@[simp] theorem traceOf_started (i j : ℕ) (call : κ) (log : Log κ α) :
    traceOf i (.started j call :: log : Log κ α) = traceOf i log := rfl

@[simp] theorem traceOf_killed (i j : ℕ) (log : Log κ α) :
    traceOf i (.killed j :: log : Log κ α) = traceOf i log := rfl

/-- The keys a call has counted are those of its credits. -/
theorem traceOf_counted (i : ℕ) (log : Log κ α) :
    (traceOf i log).counted =
      ((credits log).filter fun credit => credit.thread = i).map Credit.key := by
  induction log with
  | nil => rfl
  | cons event earlier ih =>
      cases event with
      | started j call => exact ih
      | returned j call result => exact ih
      | killed j => exact ih
      | answered j statement answer =>
          rw [traceOf_answered]
          cases counted : Statement.counted statement answer with
          | none =>
              rw [credits_of_not_counted counted, ← ih]
              by_cases same : j = i <;> simp [same, Trace.advance, counted]
          | some hit =>
              obtain ⟨key, begins⟩ := hit
              rw [credits_of_counted counted]
              by_cases same : j = i <;> simp [same, Trace.advance, counted, ← ih]

/-- A statement that may count a hit is the call's first. -/
def FirstCount (x : Trace) (statement : Statement) : Prop :=
  ∀ answer, statement.counted answer ≠ none → x.counted = []

theorem HitMay.firstCount {key : String} {windowSeconds : ℕ} {token : Option (String × Bool)}
    {x : Trace} {statement : Statement} (may : HitMay key windowSeconds token x statement) :
    FirstCount x statement := by
  intro answer counts
  cases statement with
  | updateLive k now => exact may.2.2.1
  | updateExpired k now endsAt => exact may.2.2.2.1
  | create k endsAt => exact may.2.2.1
  | timezoneNow => cases answer <;> exact absurd rfl counts
  | deleteEndedBefore moment => cases answer <;> exact absurd rfl counts
  | firstLive k now => cases answer <;> exact absurd rfl counts
  | checkToken k => cases answer <;> exact absurd rfl counts

/-- **Nobody is credited twice.** -/
theorem credits_nodup {Q : κ → Trace → Except Failure α → Prop}
    (follows : ∀ call, Follows FirstCount (Q call) (code call) Trace.unseen)
    {c : Config Sql Failure α Counters κ}
    (reached : (counters code).Reach ok (.initial .empty) c) :
    ((credits c.history).map Credit.thread).Nodup := by
  refine reached.invariant (fun c => ((credits c.history).map Credit.thread).Nodup)
    List.nodup_nil ?_
  intro c label c' before nodup _ moved
  cases label with
  | spawn call =>
      obtain ⟨body, -, rfl⟩ := Machine.next_spawn_eq moved
      simpa using nodup
  | kill i =>
      obtain ⟨thread, -, rfl⟩ := Machine.next_kill_eq moved
      exact nodup
  | env elapsed =>
      obtain rfl := Machine.next_env_eq moved
      exact nodup
  | step i verdict =>
      obtain ⟨thread, answer, store, live, executed, rfl⟩ := Machine.next_step_eq moved
      rw [credits_place]
      cases counted : Statement.counted thread.op answer with
      | none =>
          rw [credits_of_not_counted counted]
          exact nodup
      | some hit =>
          obtain ⟨key, begins⟩ := hit
          rw [credits_of_counted counted, List.map_cons, List.nodup_cons]
          refine ⟨?_, nodup⟩
          -- The call has no credit yet, by its code.
          have first : (traceOf i c.history).counted = [] :=
            ((calls_follow follows before).live i thread live).1 answer (by simp [counted])
          rw [traceOf_counted, List.map_eq_nil_iff, List.filter_eq_nil_iff] at first
          intro member
          obtain ⟨credit, old, its⟩ := List.mem_map.mp member
          exact first credit old (by simpa using its)

end Machine

end DicePipeline.Throttle
