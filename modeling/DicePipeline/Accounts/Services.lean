import DicePipeline.Accounts.Models
import DicePipeline.Relational.Transaction

/-!
# Service accounts and their credentials (`accounts/services.py`, `accounts/admin.py`)

`ServiceAccountService` sets an account up, issues and revokes its tokens,
deletes it, and replaces its webhook secret.  The admin pages call it, save the
fields that were edited on an account's page, and delete organizations.  Each is
a transaction: it takes effect as a whole, or not at all.

What a page has loaded may be out of date when it saves, so the actions that save
a loaded row (`edit`, `regenerateWebhookSecret`) take any such row.  The id of an
account and its login never change, so `issueToken` looks them up as it starts.
`Drawn` is what sequences, `uuid4` and `secrets` hand out, and `hashToken` is
knox's hash.  The admin's own check of a form before it is saved only refuses
more, and is left out.  So are the keyword check of `create`, which the type of
its limits makes, the refusal to make credentials for a saved account, which the
Add page never asks for, and the texts of the pages.
-/

namespace DicePipeline.Accounts

open Relational

/-- A transaction on the tables. -/
abbrev Tx (α : Type) := Transaction Store AccountExn α

/-- A statement that the database may refuse. -/
def statement (execute : Store → Except Refused Store) : Tx Unit := fun db =>
  match execute db with
  | .ok db' => .ok ((), db')
  | .error why => .error (.refused why)

def insert (row : Row) : Tx Unit := statement (·.insert row)

def delete (key : Key) : Tx Unit := statement (·.delete key)

/-- The row at a key, read through `read`. -/
def fetch {α : Type} (key : Key) (read : Row → Option α) : Tx α := fun db =>
  match (db.row? key).bind read with
  | some row => .ok (row, db)
  | none => .error .doesNotExist

/-- What is drawn for a new account and its first token, or for a token. -/
structure Drawn where
  user : ℕ
  username : String
  account : ℕ
  webhookSecret : String
  named : ℕ
  token : String
  deriving DecidableEq, Repr

/-! ## Saving some columns -/

/-- The columns of an account. -/
inductive Column where
  | organization
  | name
  | user
  | webhookSecret
  | unlimited
  | maxInFlight
  | rateLimitCount
  | rateLimitPeriod
  deriving DecidableEq, Repr

/-- `_meta.fields`, less the primary key. -/
def Column.all : List Column :=
  [.organization, .name, .user, .webhookSecret, .unlimited, .maxInFlight, .rateLimitCount,
    .rateLimitPeriod]

/-- What a column holds. -/
inductive Content where
  | reference (id : ℕ)
  | text (text : String)
  | flag (value : Bool)
  | count (value : Option ℤ)
  | choice (value : Option String)
  deriving DecidableEq, Repr

namespace ServiceAccount

/-- The content of a column. -/
def get (account : ServiceAccount) : Column → Content
  | .organization => .reference account.organization
  | .name => .text account.name
  | .user => .reference account.user
  | .webhookSecret => .text account.webhookSecret
  | .unlimited => .flag account.unlimited
  | .maxInFlight => .count account.maxInFlight
  | .rateLimitCount => .count account.rateLimitCount
  | .rateLimitPeriod => .choice account.rateLimitPeriod

/-- The row with one column of `account`. -/
def copy (account row : ServiceAccount) : Column → ServiceAccount
  | .organization => { row with organization := account.organization }
  | .name => { row with name := account.name }
  | .user => { row with user := account.user }
  | .webhookSecret => { row with webhookSecret := account.webhookSecret }
  | .unlimited => { row with unlimited := account.unlimited }
  | .maxInFlight => { row with maxInFlight := account.maxInFlight }
  | .rateLimitCount => { row with rateLimitCount := account.rateLimitCount }
  | .rateLimitPeriod => { row with rateLimitPeriod := account.rateLimitPeriod }

/-- The row with some columns of `account`. -/
def copyAll (account row : ServiceAccount) (columns : List Column) : ServiceAccount :=
  columns.foldl account.copy row

@[simp] theorem id_copy (account row : ServiceAccount) (column : Column) :
    (account.copy row column).id = row.id := by
  cases column <;> rfl

theorem get_copy (account row : ServiceAccount) (column other : Column) :
    (account.copy row column).get other =
      if other = column then account.get other else row.get other := by
  cases column <;> cases other <;> rfl

@[simp] theorem id_copyAll (account row : ServiceAccount) (columns : List Column) :
    (account.copyAll row columns).id = row.id := by
  unfold copyAll
  induction columns generalizing row with
  | nil => rfl
  | cons column rest ih => rw [List.foldl_cons, ih, id_copy]

theorem get_copyAll (account row : ServiceAccount) (columns : List Column) (column : Column) :
    (account.copyAll row columns).get column =
      if column ∈ columns then account.get column else row.get column := by
  unfold copyAll
  induction columns generalizing row with
  | nil => rfl
  | cons first rest ih =>
    rw [List.foldl_cons, ih, get_copy]
    by_cases later : column ∈ rest
    · rw [if_pos later, if_pos (List.mem_cons_of_mem _ later)]
    · rw [if_neg later]
      by_cases own : column = first
      · rw [if_pos own, if_pos (List.mem_cons.mpr (.inl own))]
      · rw [if_neg own, if_neg]
        rintro member
        rcases List.mem_cons.mp member with same | inRest
        · exact own same
        · exact later inRest

/-- `save(update_fields=…)`. -/
def save (account : ServiceAccount) (updateFields : List Column) : Tx Unit := fun db =>
  if account.toLimits.validate then
    if updateFields = [] then .ok ((), db)
    else
      match (db.row? (.serviceAccount account.id)).bind Row.serviceAccount? with
      | none => .error .notUpdated
      | some row => statement (·.update (.serviceAccount (account.copyAll row updateFields))) db
  else .error .validation

end ServiceAccount

section Service

variable (hashToken : String → String) (settings : LimitSettings)

namespace ServiceAccountService

/-- `issue_token`. -/
def issueToken (account : ServiceAccount) (tokenName : String) (drawn : Drawn) : Tx String :=
  tryCatch
    (do
      let user ← fetch (.user account.user) Row.user?
      insert (.authToken { digest := hashToken drawn.token, user := user.id })
      insert (.serviceAccountToken
        { id := drawn.named, serviceAccount := account.id, name := tokenName
          authToken := hashToken drawn.token })
      return drawn.token)
    fun
      | .refused .integrity => throw .tokenNameTaken
      | error => throw error

/-- Whether the organization has an account of that name. -/
def nameIsTaken (db : Store) (organization : ℕ) (name : String) : Bool :=
  db.rows.any fun row =>
    match row with
    | .serviceAccount account => account.organization == organization && account.name == name
    | _ => false

/-- The account that `create` sets up. -/
def newAccount (organization : ℕ) (serviceName : String) (limits : Limits) (drawn : Drawn) :
    ServiceAccount :=
  { limits with
    id := drawn.account
    organization := organization
    name := serviceName
    user := drawn.user
    webhookSecret := drawn.webhookSecret }

/-- The insert of the account in `create`, with the answer to a clash. -/
def insertAccount (account : ServiceAccount) : Tx Unit :=
  tryCatch
    (do
      if account.toLimits.validate then insert (.serviceAccount account)
      else throw .validation)
    fun
      | .refused .integrity => do
          let db ← get
          if nameIsTaken db account.organization account.name then throw .serviceAccountNameTaken
          else throw (.refused .integrity)
      | error => throw error

/-- `create`. -/
def create (organization : ℕ) (serviceName tokenName : String) (limits : LimitKeywords)
    (drawn : Drawn) : Tx (ServiceAccount × String) := do
  let limits := limits.withDefaults settings
  if limits.validate then
    insert (.user { id := drawn.user, username := drawn.username })
    let account := newAccount organization serviceName limits drawn
    insertAccount account
    let token ← issueToken hashToken account tokenName drawn
    return (account, token)
  else throw .validation

/-- `revoke_tokens`. -/
def revokeTokens (tokens : List ServiceAccountToken) : Tx Unit :=
  forM tokens fun token => do
    let authToken ← fetch (.authToken token.authToken) Row.authToken?
    delete (.authToken authToken.digest)

/-- `revoke_token`. -/
def revokeToken (token : ServiceAccountToken) : Tx Unit := revokeTokens [token]

/-- `delete`. -/
def deleteAccount (account : ServiceAccount) : Tx Unit := do
  let user ← fetch (.user account.user) Row.user?
  delete (.user user.id)

/-- `regenerate_webhook_secret`. -/
def regenerateWebhookSecret (account : ServiceAccount) (secret : String) : Tx String := do
  ({ account with webhookSecret := secret } : ServiceAccount).save [.webhookSecret]
  return secret

end ServiceAccountService

/-! ## The admin pages -/

/-- What a person fills in on the page of an account. -/
structure Posted extends Limits where
  organization : ℕ
  name : String
  deriving DecidableEq, Repr

namespace ServiceAccountAdmin

/-- `get_readonly_fields`. -/
def getReadonlyFields : Option ServiceAccount → List Column
  | some _ => [.user, .webhookSecret]
  | none => []

/-- The fields of the form of an account's page. -/
def formFields (account : ServiceAccount) : List Column :=
  Column.all.filter fun column => column ∉ getReadonlyFields (some account)

/-- The account as the form leaves it. -/
def posted (loaded : ServiceAccount) (form : Posted) : ServiceAccount :=
  { loaded with
    toLimits := form.toLimits
    organization := form.organization
    name := form.name }

/-- `changed_data`. -/
def changedData (loaded : ServiceAccount) (form : Posted) : List Column :=
  (formFields loaded).filter fun column => (posted loaded form).get column ≠ loaded.get column

/-- `save_model` of an edit. -/
def saveModel (loaded : ServiceAccount) (form : Posted) : Tx Unit :=
  (posted loaded form).save (changedData loaded form)

/-- `_create_with_login`, of `save_model` on the Add page. -/
def createWithLogin (form : Posted) (tokenName : String) (drawn : Drawn) :
    Tx (ServiceAccount × String) :=
  ServiceAccountService.create hashToken settings form.organization form.name tokenName
    { unlimited := some form.unlimited, maxInFlight := some form.maxInFlight
      rateLimitCount := some form.rateLimitCount, rateLimitPeriod := some form.rateLimitPeriod }
    drawn

/-- `issue_token_view`, of the account with this id. -/
def issueTokenView (id : ℕ) (tokenName : String) (drawn : Drawn) : Tx String := do
  let account ← fetch (.serviceAccount id) Row.serviceAccount?
  ServiceAccountService.issueToken hashToken account tokenName drawn

/-- `delete_model`, of the account with this id. -/
def deleteModel (id : ℕ) : Tx Unit := do
  let account ← fetch (.serviceAccount id) Row.serviceAccount?
  ServiceAccountService.deleteAccount account

end ServiceAccountAdmin

namespace ServiceAccountTokenAdmin

/-- `delete_model`, of the named token with this id. -/
def deleteModel (id : ℕ) : Tx Unit := do
  let token ← fetch (.serviceAccountToken id) Row.serviceAccountToken?
  ServiceAccountService.revokeToken token

/-- `delete_queryset`, of the named tokens that were ticked. -/
def deleteQueryset (ids : List ℕ) : Tx Unit := do
  let db ← get
  ServiceAccountService.revokeTokens
    ((db.rows.filterMap Row.serviceAccountToken?).filter fun token => token.id ∈ ids)

end ServiceAccountTokenAdmin

/-! ## What happens to the tables -/

/-- One request, or one job of the surroundings. -/
inductive Action where
  | addOrganization (row : Organization)
  | renameOrganization (row : Organization)
  /-- `OrganizationAdmin` deletes as Django does. -/
  | deleteOrganization (id : ℕ)
  /-- A login that is not an account's, such as a person's. -/
  | addUser (row : User)
  /-- Django's own page for logins. -/
  | changeUser (row : User)
  | deleteUser (id : ℕ)
  | add (form : Posted) (tokenName : String) (drawn : Drawn)
  | edit (loaded : ServiceAccount) (form : Posted)
  | deleteAccount (id : ℕ)
  | regenerateWebhookSecret (loaded : ServiceAccount) (secret : String)
  | issueToken (id : ℕ) (tokenName : String) (drawn : Drawn)
  | revokeToken (id : ℕ)
  | revokeTokens (ids : List ℕ)
  /-- knox deletes a token, which it does when it finds it expired. -/
  | expire (digest : String)
  /-- A document of an account, and its removal by `RemediationAdmin`. -/
  | submit (id serviceAccount : ℕ)
  | removeDocument (id : ℕ)
  deriving DecidableEq, Repr

/-- What an action runs. -/
def perform : Action → Tx Unit
  | .addOrganization row => insert (.organization row)
  | .renameOrganization row => statement (·.update (.organization row))
  | .deleteOrganization id => delete (.organization id)
  | .addUser row => insert (.user row)
  | .changeUser row => statement (·.update (.user row))
  | .deleteUser id => delete (.user id)
  | .add form tokenName drawn => do
      let _ ← ServiceAccountAdmin.createWithLogin hashToken settings form tokenName drawn
  | .edit loaded form => ServiceAccountAdmin.saveModel loaded form
  | .deleteAccount id => ServiceAccountAdmin.deleteModel id
  | .regenerateWebhookSecret loaded secret => do
      let _ ← ServiceAccountService.regenerateWebhookSecret loaded secret
  | .issueToken id tokenName drawn => do
      let _ ← ServiceAccountAdmin.issueTokenView hashToken id tokenName drawn
  | .revokeToken id => ServiceAccountTokenAdmin.deleteModel id
  | .revokeTokens ids => ServiceAccountTokenAdmin.deleteQueryset ids
  | .expire digest => delete (.authToken digest)
  | .submit id serviceAccount => insert (.remediation id serviceAccount)
  | .removeDocument id => delete (.remediation id)

/-- The tables after some actions, from none. -/
def history (actions : List Action) : Store :=
  run (perform hashToken settings) (Database.empty schema) actions

/-- What comes before an action, the action, and what comes after. -/
theorem history_append_cons (before later : List Action) (action : Action) :
    history hashToken settings (before ++ action :: later) =
      run (perform hashToken settings)
        (commit (perform hashToken settings) (history hashToken settings before) action) later :=
  run_append before (action :: later)

end Service

end DicePipeline.Accounts
