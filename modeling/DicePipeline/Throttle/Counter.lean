import DicePipeline.Api.SubmissionLimits
import DicePipeline.Interaction.Concurrent

/-!
# The counters behind the per-IP limits (ADR 0031)

`ThrottleCounterService` (`api/services.py`) and its two callers: the per-IP cap
(`api/throttles.py`) and the failed-login lockout (`api/lockout.py`,
`api/authentication.py`).

One table holds a row per key, and a row a count and the end of the window it
counts.  Every statement of the service is atomic and is its own `Statement`
here, so that requests interleave between any two of them.  A hit fixes its
time once, at its start, and compares the row with *that* time in every
statement: by the time a statement runs the clock may have moved on.

Knox's own token check is outside the repository.  It is one operation that
changes no counter, and the outside world chooses its verdict.
-/

namespace DicePipeline.Throttle

open Interaction

/-- `api.models.ThrottleCounter`; the key is what the table is indexed by. -/
structure ThrottleCounter where
  count : ℕ
  windowEndsAt : ℕ
  deriving DecidableEq, Repr

/-- The counter table (`key` is unique) and the clock. -/
structure Counters where
  rows : String → Option ThrottleCounter
  clock : ℕ

/-- The table before the first request. -/
def Counters.empty : Counters := ⟨fun _ => none, 0⟩

/-- `MAX_HIT_ATTEMPTS`. -/
def maxHitAttempts : ℕ := 5

/-- `EXPIRED_ROW_GRACE`, an hour. -/
def expiredRowGrace : ℕ := seconds 3600

/-- What a counter statement or a throttle raises. -/
inductive Failure where
  /-- The unique key is taken. -/
  | integrityError
  /-- `RuntimeError`: could not count a hit for this key. -/
  | runtimeError (key : String)
  /-- `Throttled`, a 429 with the seconds to wait. -/
  | throttled (wait : ℕ)
  /-- Knox's `AuthenticationFailed`: a wrong token. -/
  | authenticationFailed
  deriving DecidableEq, Repr

/-- `api.services.CounterReading`. -/
structure CounterReading where
  count : ℕ
  secondsLeft : ℕ
  deriving DecidableEq, Repr

/-- What Knox makes of a request. -/
inductive TokenCheck where
  | noToken
  | valid (user : ℕ)
  | wrong
  deriving DecidableEq, Repr

/-! ## Statements -/

/-- The operations of the throttles. -/
inductive Statement where
  /-- `timezone.now()`. -/
  | timezoneNow
  /-- `live.update(count=F("count") + 1)`: rows of `key` that end after `now`. -/
  | updateLive (key : String) (now : ℕ)
  /-- `expired.update(count=1, window_ends_at=…)`: rows of `key` that ended by `now`. -/
  | updateExpired (key : String) (now endsAt : ℕ)
  /-- `ThrottleCounter.objects.create(key=…, count=1, window_ends_at=…)`. -/
  | create (key : String) (endsAt : ℕ)
  /-- `filter(window_ends_at__lt=…).delete()`, whatever the key. -/
  | deleteEndedBefore (moment : ℕ)
  /-- `filter(key=…, window_ends_at__gt=now).values(…).first()`. -/
  | firstLive (key : String) (now : ℕ)
  /-- Knox's `TokenAuthentication.authenticate` for a caller with this key. -/
  | checkToken (key : String)
  deriving DecidableEq, Repr

/-- What a statement answers; an update answers how many rows it matched. -/
@[reducible] def Statement.Ans : Statement → Type
  | .timezoneNow => ℕ
  | .updateLive _ _ => ℕ
  | .updateExpired _ _ _ => ℕ
  | .create _ _ => Unit
  | .deleteEndedBefore _ => Unit
  | .firstLive _ _ => Option ThrottleCounter
  | .checkToken _ => Option ℕ

/-- The signature of the throttles. -/
abbrev Sql : Signature := ⟨Statement, Statement.Ans⟩

/-- A piece of the modelled code. -/
abbrev Code (α : Type) := Program Sql Failure α

/-- Issues one statement. -/
def ask (statement : Statement) : Code statement.Ans := Program.perform (S := Sql) statement

/-- The row of `key` becomes `row`. -/
def Counters.set (s : Counters) (key : String) (row : ThrottleCounter) : Counters :=
  { s with rows := Function.update s.rows key (some row) }

@[simp] theorem Counters.set_clock (s : Counters) (key : String) (row : ThrottleCounter) :
    (s.set key row).clock = s.clock := rfl

@[simp] theorem Counters.set_rows_self (s : Counters) (key : String) (row : ThrottleCounter) :
    (s.set key row).rows key = some row :=
  Function.update_self _ _ _

theorem Counters.set_rows_of_ne (s : Counters) {key other : String} (row : ThrottleCounter)
    (different : other ≠ key) : (s.set key row).rows other = s.rows other :=
  Function.update_of_ne different _ _

/-- One statement against the table. -/
def Statement.run (verdict : TokenCheck) :
    (statement : Statement) → Counters → Except Failure statement.Ans × Counters
  | .timezoneNow, s => (.ok s.clock, s)
  | .updateLive key now, s =>
      match s.rows key with
      | some row =>
          if now < row.windowEndsAt then (.ok 1, s.set key { row with count := row.count + 1 })
          else (.ok 0, s)
      | none => (.ok 0, s)
  | .updateExpired key now endsAt, s =>
      match s.rows key with
      | some row =>
          if row.windowEndsAt ≤ now then (.ok 1, s.set key ⟨1, endsAt⟩) else (.ok 0, s)
      | none => (.ok 0, s)
  | .create key endsAt, s =>
      match s.rows key with
      | some _ => (.error .integrityError, s)
      | none => (.ok (), s.set key ⟨1, endsAt⟩)
  | .deleteEndedBefore moment, s =>
      (.ok (), { s with rows := fun key =>
        (s.rows key).filter fun row => ¬ row.windowEndsAt < moment })
  | .firstLive key now, s =>
      (.ok ((s.rows key).filter fun row => now < row.windowEndsAt), s)
  | .checkToken _, s =>
      match verdict with
      | .noToken => (.ok none, s)
      | .valid user => (.ok (some user), s)
      | .wrong => (.error .authenticationFailed, s)

/-! ## `ThrottleCounterService` -/

namespace ThrottleCounterService

/-- `read`. -/
def read (key : String) : Code CounterReading := do
  let now : ℕ ← ask .timezoneNow
  let row : Option ThrottleCounter ← ask (.firstLive key now)
  match row with
  | none => return ⟨0, 0⟩
  | some row => do
      let later : ℕ ← ask .timezoneNow
      return ⟨row.count, secondsUntil row.windowEndsAt later⟩

/-- `_remove_old_rows`. -/
def removeOldRows (now : ℕ) : Code Unit := ask (.deleteEndedBefore (now - expiredRowGrace))

/-- The rounds of `hit` that are left. -/
def hitRounds (key : String) (now endsAt : ℕ) : ℕ → Code CounterReading
  | 0 => Program.raise (.runtimeError key)
  | rounds + 1 => do
      let updated : ℕ ← ask (.updateLive key now)
      if updated ≠ 0 then read key
      else do
        let updated : ℕ ← ask (.updateExpired key now endsAt)
        if updated ≠ 0 then read key
        else do
          match ← Program.attempt (ask (.create key endsAt)) with
          | .ok () => do
              removeOldRows now
              read key
          | .error .integrityError => hitRounds key now endsAt rounds
          | .error exc => Program.raise exc

/-- `hit`. -/
def hit (key : String) (windowSeconds : ℕ) : Code CounterReading := do
  let now : ℕ ← ask .timezoneNow
  hitRounds key now (now + seconds windowSeconds) maxHitAttempts

end ThrottleCounterService

/-! ## The two limits -/

/-- `common.throttle_scopes.ThrottleScope`. -/
inductive ThrottleScope where
  | failedAuth
  | clientIp
  deriving DecidableEq, Repr

/-- The stored text of a scope. -/
def ThrottleScope.value : ThrottleScope → String
  | .failedAuth => "failed_auth"
  | .clientIp => "client_ip"

/-- A rate such as `100/hour`, as `parse_rate` reads it. -/
structure Rate where
  numRequests : ℕ
  period : RateLimitPeriod
  deriving DecidableEq, Repr

/-- The period of a rate in seconds. -/
def Rate.duration (rate : Rate) : ℕ := rate.period.duration

/-- Every period is at least a second. -/
theorem Rate.duration_pos (rate : Rate) : 0 < rate.duration := by
  unfold Rate.duration
  cases rate.period <;> decide

/-- What the throttles look at in a request: `client_ip(request)` and the
service account of its user. -/
structure ApiRequest where
  clientIp : String
  account : Option ServiceAccount
  deriving DecidableEq, Repr

/-- `build_counter_key`. -/
def buildCounterKey (scope : ThrottleScope) (request : ApiRequest) : String :=
  scope.value ++ ":" ++ request.clientIp

/-- `_is_unlimited_account`. -/
def isUnlimitedAccount (request : ApiRequest) : Bool :=
  request.account.any (·.unlimited)

/-- `ClientIPThrottle.allow_request`: whether the request is let through, and
`seconds_left`, which `wait` returns. -/
def ClientIPThrottle.allowRequest (rates : ThrottleScope → Rate) (request : ApiRequest) :
    Code (Bool × ℕ) := do
  let rate := rates .clientIp
  if isUnlimitedAccount request then return (true, 0)
  else do
    let key := buildCounterKey .clientIp request
    let reading ← ThrottleCounterService.hit key rate.duration
    return (decide (reading.count ≤ rate.numRequests), reading.secondsLeft)

namespace FailedAuthLockout

/-- `check`. -/
def check (rates : ThrottleScope → Rate) (request : ApiRequest) : Code Unit := do
  let reading ← ThrottleCounterService.read (buildCounterKey .failedAuth request)
  if (rates .failedAuth).numRequests ≤ reading.count then
    Program.raise (.throttled reading.secondsLeft)
  else return ()

/-- `record`. -/
def record (rates : ThrottleScope → Rate) (request : ApiRequest) : Code Unit := do
  let _ ← ThrottleCounterService.hit (buildCounterKey .failedAuth request)
    (rates .failedAuth).duration
  return ()

end FailedAuthLockout

/-- `LockoutTokenAuthentication.authenticate`. -/
def LockoutTokenAuthentication.authenticate (rates : ThrottleScope → Rate)
    (request : ApiRequest) : Code (Option ℕ) := do
  FailedAuthLockout.check rates request
  Program.handle (ask (.checkToken (buildCounterKey .failedAuth request))) fun
    | .authenticationFailed => do
        FailedAuthLockout.record rates request
        Program.raise .authenticationFailed
    | exc => Program.raise exc

/-! ## Callers side by side -/

/-- **The machine.**  Any calls of `code` interleave over one table.  A killed
call leaves the table as it is, and an environment move is a number of
microseconds that pass. -/
def counters {κ α : Type} (code : κ → Code α) :
    Machine Sql Failure α Counters κ TokenCheck ℕ where
  exec verdict _ statement s := some (Statement.run verdict statement s)
  start call _ := some (code call)
  crash _ s := s
  env elapsed s := { s with clock := s.clock + elapsed }

/-- A direct call of the service. -/
inductive ServiceCall where
  | hit (key : String) (windowSeconds : ℕ)
  | read (key : String)
  deriving DecidableEq, Repr

/-- The code of a direct call. -/
def ServiceCall.code : ServiceCall → Code CounterReading
  | .hit key windowSeconds => ThrottleCounterService.hit key windowSeconds
  | .read key => ThrottleCounterService.read key

/-- A request at one of the two limits. -/
inductive LimitCall where
  | allowRequest (request : ApiRequest)
  | authenticate (request : ApiRequest)
  deriving DecidableEq, Repr

/-- What a limit answers. -/
inductive LimitAnswer where
  /-- Let through or not, and the throttle's `seconds_left`. -/
  | allowed (letThrough : Bool) (secondsLeft : ℕ)
  /-- The user of the token, if there was a token. -/
  | authenticated (user : Option ℕ)
  deriving DecidableEq, Repr

/-- The code of a request at a limit. -/
def LimitCall.code (rates : ThrottleScope → Rate) : LimitCall → Code LimitAnswer
  | .allowRequest request => do
      let (letThrough, secondsLeft) ← ClientIPThrottle.allowRequest rates request
      return .allowed letThrough secondsLeft
  | .authenticate request => do
      let user ← LockoutTokenAuthentication.authenticate rates request
      return .authenticated user

/-- One request a minute. -/
def onceAMinute : ThrottleScope → Rate := fun _ => ⟨1, .minute⟩

/-- An anonymous caller. -/
def ApiRequest.example : ApiRequest := ⟨"9.9.9.9", none⟩

end DicePipeline.Throttle
