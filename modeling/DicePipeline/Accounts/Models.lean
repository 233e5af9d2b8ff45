import DicePipeline.Api.SubmissionLimits
import DicePipeline.Relational.Database

/-!
# Organizations, service accounts and tokens (`accounts/models.py`)

The rows of the accounts' tables, with the tables they refer to: the login of an
account (Django's `User`), the knox token that authenticates it, and the
documents (`Remediation`), which keep their account from being deleted.  `schema`
lists the keys, the unique constraints and the checks as the migrations create
them, so `Accounts.Store` is a database that meets them.

The name, the creation time and the expiry of a knox token are left out, and so are the
columns of a `User` and a `Remediation` that nothing here reads.  knox itself, which
checks a token, is not part of the repository; `Knox` says what is relied on of it.
-/

namespace DicePipeline.Accounts

open Relational

/-! ## Limits -/

/-- The value of a period. -/
def periodValue : RateLimitPeriod → String
  | .second => "second"
  | .minute => "minute"
  | .hour => "hour"
  | .day => "day"

/-- `RateLimitPeriod.values`. -/
def periodValues : List String := [.second, .minute, .hour, .day].map periodValue

/-- The `LIMIT_FIELDS`. -/
structure Limits where
  unlimited : Bool
  maxInFlight : Option ℤ
  rateLimitCount : Option ℤ
  rateLimitPeriod : Option String
  deriving DecidableEq, Repr

/-- The limits given to `create`.  What is left out gets the model's default. -/
structure LimitKeywords where
  unlimited : Option Bool
  maxInFlight : Option (Option ℤ)
  rateLimitCount : Option (Option ℤ)
  rateLimitPeriod : Option (Option String)
  deriving DecidableEq, Repr

/-- `DEFAULT_MAX_IN_FLIGHT` and `DEFAULT_RATE_LIMIT_COUNT`. -/
structure LimitSettings where
  maxInFlight : ℤ
  rateLimitCount : ℤ
  deriving DecidableEq, Repr

/-- The limits of `ServiceAccount(**limits)`. -/
def LimitKeywords.withDefaults (settings : LimitSettings) (given : LimitKeywords) : Limits where
  unlimited := given.unlimited.getD false
  maxInFlight := given.maxInFlight.getD (some settings.maxInFlight)
  rateLimitCount := given.rateLimitCount.getD (some settings.rateLimitCount)
  rateLimitPeriod := given.rateLimitPeriod.getD (some (periodValue .day))

/-- The largest value of an integer column. -/
def maxInteger : ℤ := 2147483647

/-- `PositiveIntegerField`: an empty value is not looked at. -/
def cleanCount : Option ℤ → Bool
  | none => true
  | some count => 0 ≤ count && count ≤ maxInteger

/-- The choices of the period.  An empty text counts as empty too, and is not looked at. -/
def cleanPeriod : Option String → Bool
  | none => true
  | some period => period == "" || periodValues.contains period

/-- The condition of `limits_set_unless_unlimited`. -/
def Limits.areSet (limits : Limits) : Bool :=
  limits.unlimited ||
    (limits.maxInFlight.isSome && limits.rateLimitCount.isSome && limits.rateLimitPeriod.isSome)

/-- `validate_limits`: whether it does not raise. -/
def Limits.validate (limits : Limits) : Bool :=
  cleanCount limits.maxInFlight && cleanCount limits.rateLimitCount &&
    cleanPeriod limits.rateLimitPeriod && limits.areSet

/-! ## Rows -/

/-- `Organization`. -/
structure Organization where
  id : ℕ
  name : String
  deriving DecidableEq, Repr

/-- A login. -/
structure User where
  id : ℕ
  username : String
  deriving DecidableEq, Repr

/-- `ServiceAccount`. -/
structure ServiceAccount extends Limits where
  id : ℕ
  organization : ℕ
  name : String
  user : ℕ
  webhookSecret : String
  deriving DecidableEq, Repr

/-- A knox token.  Only the hash of its text is kept. -/
structure AuthToken where
  digest : String
  user : ℕ
  deriving DecidableEq, Repr

/-- `ServiceAccountToken`: the name of a knox token. -/
structure ServiceAccountToken where
  id : ℕ
  serviceAccount : ℕ
  name : String
  authToken : String
  deriving DecidableEq, Repr

/-- A row of a table. -/
inductive Row where
  | organization (row : Organization)
  | user (row : User)
  | serviceAccount (row : ServiceAccount)
  | authToken (row : AuthToken)
  | serviceAccountToken (row : ServiceAccountToken)
  | remediation (id serviceAccount : ℕ)
  deriving DecidableEq, Repr

/-- A table and a primary key. -/
inductive Key where
  | organization (id : ℕ)
  | user (id : ℕ)
  | serviceAccount (id : ℕ)
  | authToken (digest : String)
  | serviceAccountToken (id : ℕ)
  | remediation (id : ℕ)
  deriving DecidableEq, Repr

/-- The values of the unique constraints. -/
inductive Mark where
  | organizationName (name : String)
  | username (username : String)
  | serviceAccountName (organization : ℕ) (name : String)
  | serviceAccountUser (user : ℕ)
  | tokenName (serviceAccount : ℕ) (name : String)
  | tokenAuth (digest : String)
  deriving DecidableEq, Repr

def Row.key : Row → Key
  | organization row => .organization row.id
  | user row => .user row.id
  | serviceAccount row => .serviceAccount row.id
  | authToken row => .authToken row.digest
  | serviceAccountToken row => .serviceAccountToken row.id
  | remediation id _ => .remediation id

def Row.references : Row → List (Key × OnDelete)
  | organization _ => []
  | user _ => []
  | serviceAccount row => [(.organization row.organization, .cascade), (.user row.user, .cascade)]
  | authToken row => [(.user row.user, .cascade)]
  | serviceAccountToken row =>
      [(.serviceAccount row.serviceAccount, .cascade), (.authToken row.authToken, .cascade)]
  | remediation _ account => [(.serviceAccount account, .protect)]

def Row.marks : Row → List Mark
  | organization row => [.organizationName row.name]
  | user row => [.username row.username]
  | serviceAccount row =>
      [.serviceAccountName row.organization row.name, .serviceAccountUser row.user]
  | authToken _ => []
  | serviceAccountToken row => [.tokenName row.serviceAccount row.name, .tokenAuth row.authToken]
  | remediation _ _ => []

/-- An integer column holds the value. -/
def fitsInteger : Option ℤ → Bool
  | none => true
  | some count => -maxInteger ≤ count + 1 && count ≤ maxInteger

/-- The columns hold the values: `max_length`, and the range of integers. -/
def Row.fits : Row → Bool
  | organization row => row.name.length ≤ 50
  | user row => row.username.length ≤ 150
  | serviceAccount row =>
      row.name.length ≤ 50 && row.webhookSecret.length ≤ 64 && fitsInteger row.maxInFlight &&
        fitsInteger row.rateLimitCount && (row.rateLimitPeriod.getD "").length ≤ 10
  | authToken _ => true
  | serviceAccountToken row => row.name.length ≤ 50
  | remediation _ _ => true

/-- The check constraints: no count is negative, and `limits_set_unless_unlimited`. -/
def Row.checks : Row → Bool
  | serviceAccount row =>
      0 ≤ row.maxInFlight.getD 0 && 0 ≤ row.rateLimitCount.getD 0 && row.toLimits.areSet
  | _ => true

/-- The tables. -/
def schema : Schema Row Key Mark where
  key := Row.key
  references := Row.references
  marks := Row.marks
  fits := Row.fits
  checks := Row.checks

/-- The tables, with rows that meet the constraints. -/
abbrev Store := Database schema

@[simp] theorem schema_key (row : Row) : schema.key row = row.key := rfl

@[simp] theorem schema_references (row : Row) : schema.references row = row.references := rfl

@[simp] theorem schema_marks (row : Row) : schema.marks row = row.marks := rfl

/-! ## Reading -/

/-- Why a request to the accounts fails. -/
inductive AccountExn where
  /-- `ValidationError`. -/
  | validation
  /-- The database refuses a statement. -/
  | refused (why : Refused)
  /-- `ServiceAccountNameTakenError`. -/
  | serviceAccountNameTaken
  /-- `TokenNameTakenError`. -/
  | tokenNameTaken
  /-- A related row is gone, or the page's object is (a 404). -/
  | doesNotExist
  /-- `save(update_fields=…)` affected no row. -/
  | notUpdated
  /-- `IncompleteLimitsError`. -/
  | incompleteLimits
  deriving DecidableEq, Repr

namespace ServiceAccount

/-- `in_flight_cap`. -/
def inFlightCap (account : ServiceAccount) : Except AccountExn (Option ℤ) :=
  if account.unlimited then .ok none
  else
    match account.maxInFlight with
    | none => .error .incompleteLimits
    | some cap => .ok (some cap)

/-- `rate_limit`. -/
def rateLimit (account : ServiceAccount) : Except AccountExn (Option String) :=
  if account.unlimited then .ok none
  else
    match account.rateLimitCount, account.rateLimitPeriod with
    | some count, some period => .ok (some (toString count ++ "/" ++ period))
    | _, _ => .error .incompleteLimits

/-- The account, as the views read its submission limit. -/
def limited (account : ServiceAccount) : DicePipeline.ServiceAccount where
  id := account.id
  unlimited := account.unlimited
  rateLimitCount := account.rateLimitCount.map Int.toNat
  rateLimitPeriod := account.rateLimitPeriod.bind fun value =>
    [RateLimitPeriod.second, .minute, .hour, .day].find? fun period => periodValue period = value

end ServiceAccount

namespace Row

/-- The row, if it is one of a service account. -/
def serviceAccount? : Row → Option ServiceAccount
  | serviceAccount row => some row
  | _ => none

/-- The row, if it is one of a login. -/
def user? : Row → Option User
  | user row => some row
  | _ => none

/-- The row, if it is one of a knox token. -/
def authToken? : Row → Option AuthToken
  | authToken row => some row
  | _ => none

/-- The row, if it is one of a named token. -/
def serviceAccountToken? : Row → Option ServiceAccountToken
  | serviceAccountToken row => some row
  | _ => none

end Row

/-- `ServiceAccount.for_user`. -/
def ServiceAccount.forUser (db : Store) (user : ℕ) : Option ServiceAccount :=
  (db.rows.filterMap Row.serviceAccount?).find? fun account => account.user = user

/-- **What is relied on of knox.**  `authenticate` is its answer, at some moment, to a token of
whose text it is given the hash: the login of a stored token, if it accepts the two.  It
does not accept a token that has expired by then (`TOKEN_TTL`), nor a login that is not
active.  The columns in which it sees that are not modelled: nothing is assumed of
`accepts`, so that what is shown holds whatever has expired and whoever is active. -/
structure Knox (accepts : AuthToken → User → Bool) (authenticate : Store → String → Option User) :
    Prop where
  answers : ∀ db digest user, authenticate db digest = some user ↔
    ∃ token, Row.authToken token ∈ db.rows ∧ token.digest = digest ∧ Row.user user ∈ db.rows ∧
      user.id = token.user ∧ accepts token user = true

variable {db : Store}

theorem mem_filterMap_serviceAccount? {rows : List Row} {account : ServiceAccount} :
    account ∈ rows.filterMap Row.serviceAccount? ↔ Row.serviceAccount account ∈ rows := by
  rw [List.mem_filterMap]
  constructor
  · rintro ⟨row, inRows, isAccount⟩
    cases row with
    | serviceAccount found =>
      obtain rfl := Option.some.inj isAccount
      exact inRows
    | _ => cases isAccount
  · intro inRows
    exact ⟨_, inRows, rfl⟩

theorem forUser_eq_none_iff {user : ℕ} : ServiceAccount.forUser db user = none ↔
    ∀ account, Row.serviceAccount account ∈ db.rows → account.user ≠ user := by
  unfold ServiceAccount.forUser
  rw [List.find?_eq_none]
  constructor
  · intro none account inRows same
    exact none account (mem_filterMap_serviceAccount?.mpr inRows) (decide_eq_true same)
  · intro none account found same
    exact none account (mem_filterMap_serviceAccount?.mp found) (of_decide_eq_true same)

/-- A login has one account. -/
theorem eq_of_user {a b : ServiceAccount} (isA : Row.serviceAccount a ∈ db.rows)
    (isB : Row.serviceAccount b ∈ db.rows) (same : a.user = b.user) : a = b := by
  refine Row.serviceAccount.inj (db.eq_of_mark (.serviceAccountUser a.user) isA isB ?_ ?_)
  · simp [Row.marks]
  · simp [Row.marks, same]

theorem forUser_eq_some_iff {user : ℕ} {account : ServiceAccount} :
    ServiceAccount.forUser db user = some account ↔
      Row.serviceAccount account ∈ db.rows ∧ account.user = user := by
  constructor
  · intro found
    exact ⟨mem_filterMap_serviceAccount?.mp (List.mem_of_find?_eq_some found),
      by simpa using List.find?_some found⟩
  · rintro ⟨inRows, rfl⟩
    cases found : ServiceAccount.forUser db account.user with
    | none => exact absurd rfl (forUser_eq_none_iff.mp found account inRows)
    | some other =>
      have isOther := mem_filterMap_serviceAccount?.mp (List.mem_of_find?_eq_some found)
      have same : other.user = account.user := by simpa using List.find?_some found
      rw [eq_of_user isOther inRows same]

/-- A reference leads to a row. -/
theorem exists_token_user {token : AuthToken} (inRows : Row.authToken token ∈ db.rows) :
    ∃ user, Row.user user ∈ db.rows ∧ user.id = token.user := by
  obtain ⟨target, isTarget, same⟩ :=
    db.references _ inRows (.user token.user, .cascade) (by simp [Row.references])
  cases target with
  | user user => exact ⟨user, isTarget, Key.user.inj same⟩
  | _ => cases same

theorem exists_named_account {named : ServiceAccountToken}
    (inRows : Row.serviceAccountToken named ∈ db.rows) :
    ∃ account, Row.serviceAccount account ∈ db.rows ∧ account.id = named.serviceAccount := by
  obtain ⟨target, isTarget, same⟩ := db.references _ inRows
    (.serviceAccount named.serviceAccount, .cascade) (by simp [Row.references])
  cases target with
  | serviceAccount account => exact ⟨account, isTarget, Key.serviceAccount.inj same⟩
  | _ => cases same

theorem exists_named_token {named : ServiceAccountToken}
    (inRows : Row.serviceAccountToken named ∈ db.rows) :
    ∃ token, Row.authToken token ∈ db.rows ∧ token.digest = named.authToken := by
  obtain ⟨target, isTarget, same⟩ := db.references _ inRows
    (.authToken named.authToken, .cascade) (by simp [Row.references])
  cases target with
  | authToken token => exact ⟨token, isTarget, Key.authToken.inj same⟩
  | _ => cases same

namespace Knox

variable {accepts : AuthToken → User → Bool} {authenticate : Store → String → Option User}

/-- A stored token authenticates the login it was made for, if the two are accepted. -/
theorem eq_of_mem (knox : Knox accepts authenticate) {token : AuthToken} {user : User}
    (isToken : Row.authToken token ∈ db.rows) (isUser : Row.user user ∈ db.rows)
    (login : user.id = token.user) :
    authenticate db token.digest = if accepts token user then some user else none := by
  cases answer : authenticate db token.digest with
  | none =>
    have refused : ¬ accepts token user = true := by
      intro accepted
      have found := (knox.answers db token.digest user).mpr
        ⟨token, isToken, rfl, isUser, login, accepted⟩
      rw [answer] at found
      cases found
    rw [if_neg refused]
  | some other =>
    obtain ⟨found, isFound, sameDigest, isOther, otherLogin, accepted⟩ :=
      (knox.answers db token.digest other).mp answer
    obtain rfl := Row.authToken.inj
      (db.eq_of_key isFound isToken (congrArg Key.authToken sameDigest))
    obtain rfl := Row.user.inj
      (db.eq_of_key isOther isUser (congrArg Key.user (otherLogin.trans login.symm)))
    rw [if_pos accepted]

/-- A token that is not there authenticates nobody. -/
theorem eq_none (knox : Knox accepts authenticate) {digest : String}
    (absent : ∀ token, Row.authToken token ∈ db.rows → token.digest ≠ digest) :
    authenticate db digest = none := by
  cases answer : authenticate db digest with
  | none => rfl
  | some user =>
    obtain ⟨token, isToken, same, -⟩ := (knox.answers db digest user).mp answer
    exact absurd same (absent token isToken)

end Knox

end DicePipeline.Accounts
