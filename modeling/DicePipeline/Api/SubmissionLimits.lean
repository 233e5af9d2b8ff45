import DicePipeline.Remediation.RemediationService

/-!
# An account's submission limit (`api/submission_limits.py`, `accounts/models.py`)

The limit counts the account's actual attempts of the last period, and the
submit view hands `check` to `get_or_create_from_upload` as its hook.
-/

namespace DicePipeline

open Interaction

/-- `accounts.models.RateLimitPeriod`. -/
inductive RateLimitPeriod where
  | second
  | minute
  | hour
  | day
  deriving DecidableEq, Repr

/-- The seconds the rate parser reads a period as. -/
def RateLimitPeriod.duration : RateLimitPeriod → ℕ
  | .second => 1
  | .minute => 60
  | .hour => 3600
  | .day => 86400

/-- `accounts.models.ServiceAccount`, with the columns that limit submissions. -/
structure ServiceAccount where
  id : ℕ
  unlimited : Bool
  rateLimitCount : Option ℕ
  rateLimitPeriod : Option RateLimitPeriod
  deriving DecidableEq, Repr

/-- `ServiceAccount.rate_limit`: `none` if the account is unlimited. -/
def ServiceAccount.rateLimit (account : ServiceAccount) :
    Except Exn (Option (ℕ × RateLimitPeriod)) :=
  if account.unlimited then .ok none
  else
    match account.rateLimitCount, account.rateLimitPeriod with
    | some count, some period => .ok (some (count, period))
    | _, _ => .error .incompleteLimits

/-- `SubmissionLimit`. -/
structure SubmissionLimit where
  account : ℕ
  numRequests : ℕ
  duration : ℕ
  deriving DecidableEq, Repr

/-- `common.clock.seconds_until`, at the instant `now`. -/
def secondsUntil (moment now : ℕ) : ℕ := (moment - now + 999999) / 1000000

namespace SubmissionLimit

/-- `_seconds_until_oldest_expires`. -/
def secondsUntilOldestExpires (limit : SubmissionLimit) : Option ℕ → Py ℕ
  | none => pure (if limit.numRequests = 0 then limit.duration else 0)
  | some oldest => do
      let now : ℕ ← issue .now
      return secondsUntil (oldest + seconds limit.duration) now

/-- `check`. -/
def check (limit : SubmissionLimit) : Py Unit := do
  let usage ← RemediationService.recentSubmissions limit.account limit.duration true
  if usage.count < limit.numRequests then return ()
  else do
    let wait ← limit.secondsUntilOldestExpires usage.oldest
    -- `resets_at` of the 429's body.
    let _ : ℕ ← issue .now
    Program.raise (.throttled wait)

end SubmissionLimit

/-- `limit_for`: `none` is `NoSubmissionLimit`. -/
def limitFor (account : ServiceAccount) : Except Exn (Option SubmissionLimit) :=
  account.rateLimit.map fun rate =>
    rate.map fun (count, period) =>
      { account := account.id, numRequests := count, duration := period.duration }

/-- `SubmissionLimitLike.check`; `NoSubmissionLimit.check` does nothing. -/
def checkLimit : Option SubmissionLimit → Py Unit
  | none => pure ()
  | some limit => limit.check

end DicePipeline
