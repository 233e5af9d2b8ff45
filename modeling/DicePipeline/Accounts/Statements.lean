import DicePipeline.Accounts.Services

/-!
# What each action does to the accounts' tables

`Done db db' action` is what an action that succeeds has done, one constructor for
each kind of action, and `done_of_perform` says that it has.  Later modules go
through these cases and unfold no transaction.

The `falls_…` lemmas say what a delete takes along, table by table.
-/

namespace DicePipeline.Accounts

open Relational

variable {db db' : Store} {key : Key}

/-! ## What a delete takes along -/

theorem falls_user_iff {id : ℕ} : Database.Falls db key (.user id) ↔ key = .user id := by
  constructor
  · intro falls
    generalize isKey : Key.user id = found at falls
    cases falls with
    | self => rfl
    | @cascade row target inRows refers targetFalls =>
      cases row with
      | user row => cases refers
      | _ => cases isKey
  · rintro rfl
    exact .self

theorem falls_organization_iff {id : ℕ} :
    Database.Falls db key (.organization id) ↔ key = .organization id := by
  constructor
  · intro falls
    generalize isKey : Key.organization id = found at falls
    cases falls with
    | self => rfl
    | @cascade row target inRows refers targetFalls =>
      cases row with
      | organization row => cases refers
      | _ => cases isKey
  · rintro rfl
    exact .self

theorem falls_authToken_iff {token : AuthToken} (inRows : Row.authToken token ∈ db.rows) :
    Database.Falls db key (.authToken token.digest) ↔
      key = .authToken token.digest ∨ key = .user token.user := by
  have split := @Database.falls_iff _ _ _ schema db _ key inRows
  rw [schema_key] at split
  refine split.trans ⟨?_, ?_⟩
  · rintro (same | ⟨target, refers, falls⟩)
    · exact .inl same.symm
    · obtain ⟨rfl, -⟩ := Prod.mk.inj (List.mem_singleton.mp refers)
      exact .inr (falls_user_iff.mp falls)
  · rintro (rfl | rfl)
    · exact .inl rfl
    · exact .inr ⟨.user token.user, List.mem_singleton_self _, .self⟩

theorem falls_serviceAccount_iff {account : ServiceAccount}
    (inRows : Row.serviceAccount account ∈ db.rows) :
    Database.Falls db key (.serviceAccount account.id) ↔ key = .serviceAccount account.id ∨
      key = .organization account.organization ∨ key = .user account.user := by
  have split := @Database.falls_iff _ _ _ schema db _ key inRows
  rw [schema_key] at split
  refine split.trans ⟨?_, ?_⟩
  · rintro (same | ⟨target, refers, falls⟩)
    · exact .inl same.symm
    · rcases List.mem_cons.mp refers with isFirst | isSecond
      · obtain ⟨rfl, -⟩ := Prod.mk.inj isFirst
        exact .inr (.inl (falls_organization_iff.mp falls))
      · obtain ⟨rfl, -⟩ := Prod.mk.inj (List.mem_singleton.mp isSecond)
        exact .inr (.inr (falls_user_iff.mp falls))
  · rintro (rfl | rfl | rfl)
    · exact .inl rfl
    · exact .inr ⟨.organization account.organization, List.mem_cons_self, .self⟩
    · exact .inr ⟨.user account.user, List.mem_cons_of_mem _ (List.mem_singleton_self _), .self⟩

theorem falls_named_iff {named : ServiceAccountToken}
    (inRows : Row.serviceAccountToken named ∈ db.rows) :
    Database.Falls db key (.serviceAccountToken named.id) ↔ key = .serviceAccountToken named.id ∨
      Database.Falls db key (.serviceAccount named.serviceAccount) ∨
      Database.Falls db key (.authToken named.authToken) := by
  have split := @Database.falls_iff _ _ _ schema db _ key inRows
  rw [schema_key] at split
  refine split.trans ⟨?_, ?_⟩
  · rintro (same | ⟨target, refers, falls⟩)
    · exact .inl same.symm
    · rcases List.mem_cons.mp refers with isFirst | isSecond
      · obtain ⟨rfl, -⟩ := Prod.mk.inj isFirst
        exact .inr (.inl falls)
      · obtain ⟨rfl, -⟩ := Prod.mk.inj (List.mem_singleton.mp isSecond)
        exact .inr (.inr falls)
  · rintro (rfl | falls | falls)
    · exact .inl rfl
    · exact .inr ⟨_, List.mem_cons_self, falls⟩
    · exact .inr ⟨_, List.mem_cons_of_mem _ (List.mem_singleton_self _), falls⟩

/-! ## Single statements -/

theorem of_statement {execute : Store → Except Refused Store} {done : Unit}
    (ok : (statement execute).run db = .ok (done, db')) : execute db = .ok db' := by
  change statement execute db = .ok (done, db') at ok
  unfold statement at ok
  cases executed : execute db with
  | ok found =>
    rw [executed] at ok
    cases ok
    rfl
  | error why =>
    rw [executed] at ok
    cases ok

theorem of_insert {row : Row} {done : Unit} (ok : (insert row).run db = .ok (done, db')) :
    db'.rows = row :: db.rows ∧ db.Admits row := by
  obtain ⟨rows, -, admits⟩ := Database.insert_eq_ok (of_statement ok)
  exact ⟨rows, admits⟩

theorem of_fetch {α : Type} {read : Row → Option α} {found : α}
    (ok : (fetch key read).run db = .ok (found, db')) :
    db' = db ∧ ∃ row ∈ db.rows, row.key = key ∧ read row = some found := by
  change fetch key read db = .ok (found, db') at ok
  unfold fetch at ok
  cases isRow : (db.row? key).bind read with
  | none =>
    rw [isRow] at ok
    cases ok
  | some result =>
    rw [isRow] at ok
    cases ok
    obtain ⟨row, isFound, reads⟩ := Option.bind_eq_some_iff.mp isRow
    obtain ⟨inRows, same⟩ := Database.row?_eq_some_iff.mp isFound
    exact ⟨rfl, row, inRows, same, reads⟩

theorem of_fetch_user {id : ℕ} {user : User}
    (ok : (fetch (.user id) Row.user?).run db = .ok (user, db')) :
    db' = db ∧ Row.user user ∈ db.rows ∧ user.id = id := by
  obtain ⟨same, row, inRows, isKey, reads⟩ := of_fetch ok
  cases row with
  | user row =>
    obtain rfl := Option.some.inj reads
    exact ⟨same, inRows, Key.user.inj isKey⟩
  | _ => cases reads

theorem of_fetch_serviceAccount {id : ℕ} {account : ServiceAccount}
    (ok : (fetch (.serviceAccount id) Row.serviceAccount?).run db = .ok (account, db')) :
    db' = db ∧ Row.serviceAccount account ∈ db.rows ∧ account.id = id := by
  obtain ⟨same, row, inRows, isKey, reads⟩ := of_fetch ok
  cases row with
  | serviceAccount row =>
    obtain rfl := Option.some.inj reads
    exact ⟨same, inRows, Key.serviceAccount.inj isKey⟩
  | _ => cases reads

/-! ## The service -/

/-- No row is at the key. -/
def Fresh (db : Store) (key : Key) : Prop := ∀ row ∈ db.rows, row.key ≠ key

variable {hashToken : String → String} {settings : LimitSettings}

/-- The rows that `issue_token` adds. -/
def tokenRows (hashToken : String → String) (account user : ℕ) (tokenName : String)
    (drawn : Drawn) : List Row :=
  [.serviceAccountToken ⟨drawn.named, account, tokenName, hashToken drawn.token⟩,
    .authToken ⟨hashToken drawn.token, user⟩]

theorem of_issueToken {account : ServiceAccount} {tokenName token : String} {drawn : Drawn}
    (ok : (ServiceAccountService.issueToken hashToken account tokenName drawn).run db =
      .ok (token, db')) :
    db'.rows = tokenRows hashToken account.id account.user tokenName drawn ++ db.rows ∧
      Fresh db (.authToken (hashToken drawn.token)) := by
  unfold ServiceAccountService.issueToken at ok
  rcases Transaction.of_tryCatch_ok ok with inner | ⟨error, -, raised⟩
  · obtain ⟨user, db₁, fetched, inserts⟩ := Transaction.of_bind_ok inner
    obtain ⟨rfl, isUser, sameUser⟩ := of_fetch_user fetched
    obtain ⟨_, db₂, insertedToken, last⟩ := Transaction.of_bind_ok inserts
    obtain ⟨_, db₃, insertedName, returned⟩ := Transaction.of_bind_ok last
    obtain ⟨-, rfl⟩ := Transaction.of_pure_ok returned
    obtain ⟨tokenRow, admits⟩ := of_insert insertedToken
    obtain ⟨nameRow, -⟩ := of_insert insertedName
    refine ⟨?_, admits.2.1⟩
    rw [nameRow, tokenRow, sameUser]
    rfl
  · cases error with
    | refused why => cases why <;> cases raised
    | _ => cases raised

theorem of_insertAccount {account : ServiceAccount} {done : Unit}
    (ok : (ServiceAccountService.insertAccount account).run db = .ok (done, db')) :
    db'.rows = .serviceAccount account :: db.rows ∧ db.Admits (.serviceAccount account) := by
  unfold ServiceAccountService.insertAccount at ok
  rcases Transaction.of_tryCatch_ok ok with inner | ⟨error, -, raised⟩
  · split at inner
    · exact of_insert inner
    · cases inner
  · cases error with
    | refused why =>
      cases why with
      | integrity =>
        obtain ⟨found, db₁, -, raised⟩ := Transaction.of_bind_ok raised
        split at raised <;> cases raised
      | _ => cases raised
    | _ => cases raised

/-- The rows that `create` adds. -/
def createdRows (hashToken : String → String) (account : ServiceAccount) (tokenName : String)
    (drawn : Drawn) : List Row :=
  tokenRows hashToken account.id account.user tokenName drawn ++
    [.serviceAccount account, .user ⟨drawn.user, drawn.username⟩]

theorem of_create {organization : ℕ} {serviceName tokenName : String} {given : LimitKeywords}
    {drawn : Drawn} {result : ServiceAccount × String}
    (ok : (ServiceAccountService.create hashToken settings organization serviceName tokenName given
      drawn).run db = .ok (result, db')) :
    (given.withDefaults settings).validate = true ∧
      db'.rows = createdRows hashToken (ServiceAccountService.newAccount organization serviceName
        (given.withDefaults settings) drawn) tokenName drawn ++ db.rows ∧
      Fresh db (.user drawn.user) ∧ Fresh db (.serviceAccount drawn.account) ∧
      Fresh db (.authToken (hashToken drawn.token)) := by
  unfold ServiceAccountService.create at ok
  dsimp only at ok
  split at ok
  · rename_i valid
    obtain ⟨_, db₁, insertedUser, afterUser⟩ := Transaction.of_bind_ok ok
    obtain ⟨_, db₂, insertedAccount, afterAccount⟩ := Transaction.of_bind_ok afterUser
    obtain ⟨token, db₃, issued, returned⟩ := Transaction.of_bind_ok afterAccount
    obtain ⟨-, rfl⟩ := Transaction.of_pure_ok returned
    obtain ⟨userRow, userAdmits⟩ := of_insert insertedUser
    obtain ⟨accountRow, accountAdmits⟩ := of_insertAccount insertedAccount
    obtain ⟨tokenRow, tokenFresh⟩ := of_issueToken issued
    refine ⟨valid, ?_, userAdmits.2.1, ?_, ?_⟩
    · rw [tokenRow, accountRow, userRow]
      unfold createdRows
      rw [List.append_assoc]
      rfl
    · intro row inRows
      refine accountAdmits.2.1 row ?_
      rw [userRow]
      exact List.mem_cons_of_mem _ inRows
    · intro row inRows
      refine tokenFresh row ?_
      rw [accountRow, userRow]
      exact List.mem_cons_of_mem _ (List.mem_cons_of_mem _ inRows)
  · cases ok

/-- The row is a token of this hash, or its name. -/
def Row.Wears (digest : String) : Row → Prop
  | .authToken token => token.digest = digest
  | .serviceAccountToken named => named.authToken = digest
  | _ => False

/-- Deleting a token deletes its name too, and nothing else. -/
theorem falls_digest_iff {digest : String} {row : Row} (inRows : row ∈ db.rows) :
    Database.Falls db (.authToken digest) row.key ↔ row.Wears digest := by
  cases row with
  | authToken token =>
    refine (falls_authToken_iff inRows).trans ⟨?_, ?_⟩
    · rintro (same | same)
      · exact (Key.authToken.inj same).symm
      · cases same
    · rintro rfl
      exact .inl rfl
  | serviceAccountToken named =>
    obtain ⟨account, isAccount, sameAccount⟩ := exists_named_account inRows
    obtain ⟨token, isToken, sameToken⟩ := exists_named_token inRows
    refine (falls_named_iff inRows).trans ⟨?_, ?_⟩
    · rintro (same | falls | falls)
      · cases same
      · rw [← sameAccount, falls_serviceAccount_iff isAccount] at falls
        rcases falls with same | same | same <;> cases same
      · rw [← sameToken, falls_authToken_iff isToken] at falls
        rcases falls with same | same
        · exact sameToken.symm.trans (Key.authToken.inj same).symm
        · cases same
    · rintro rfl
      exact .inr (.inr .self)
  | user row =>
    refine ⟨fun falls => ?_, False.elim⟩
    cases falls_user_iff.mp falls
  | organization row =>
    refine ⟨fun falls => ?_, False.elim⟩
    cases falls_organization_iff.mp falls
  | serviceAccount account =>
    refine ⟨fun falls => ?_, False.elim⟩
    rcases (falls_serviceAccount_iff inRows).mp falls with same | same | same <;> cases same
  | remediation id account =>
    refine ⟨fun falls => ?_, False.elim⟩
    rcases (Database.falls_iff inRows).mp falls with same | ⟨target, refers, -⟩
    · cases same
    · cases (Prod.mk.inj (List.mem_singleton.mp refers)).2

theorem of_revokeTokens {tokens : List ServiceAccountToken} {done : Unit}
    (ok : (ServiceAccountService.revokeTokens tokens).run db = .ok (done, db')) (row : Row) :
    row ∈ db'.rows ↔ row ∈ db.rows ∧ ∀ token ∈ tokens, ¬ row.Wears token.authToken := by
  unfold ServiceAccountService.revokeTokens at ok
  induction tokens generalizing db with
  | nil =>
    obtain ⟨-, rfl⟩ := Transaction.of_pure_ok ok
    exact ⟨fun inRows => ⟨inRows, fun _ member => absurd member List.not_mem_nil⟩, And.left⟩
  | cons token rest ih =>
    rw [List.forM_cons] at ok
    obtain ⟨_, db₁, first, others⟩ := Transaction.of_bind_ok ok
    obtain ⟨authToken, db₂, fetched, deleted⟩ := Transaction.of_bind_ok first
    obtain ⟨rfl, found, inRows, isKey, reads⟩ := of_fetch fetched
    have same : authToken.digest = token.authToken := by
      cases found with
      | authToken found =>
        obtain rfl := Option.some.inj reads
        exact Key.authToken.inj isKey
      | _ => cases reads
    have removed := @Database.mem_of_delete _ _ _ schema _ _ row _ _ (of_statement deleted)
    rw [schema_key, same] at removed
    rw [ih others, removed]
    constructor
    · rintro ⟨⟨wasIn, stays⟩, none⟩
      refine ⟨wasIn, fun other member => ?_⟩
      rcases List.mem_cons.mp member with rfl | later
      · exact fun wears => stays ((falls_digest_iff wasIn).mpr wears)
      · exact none other later
    · rintro ⟨wasIn, none⟩
      refine ⟨⟨wasIn, fun falls => ?_⟩, fun other later => none other (List.mem_cons_of_mem _ later)⟩
      exact none token List.mem_cons_self ((falls_digest_iff wasIn).mp falls)

theorem of_save {account : ServiceAccount} {columns : List Column} {done : Unit}
    (ok : (account.save columns).run db = .ok (done, db')) :
    account.toLimits.validate = true ∧ ((columns = [] ∧ db' = db) ∨
      ∃ row, Row.serviceAccount row ∈ db.rows ∧ row.id = account.id ∧
        db'.rows = Database.replaced schema (.serviceAccount (account.copyAll row columns))
          db.rows) := by
  have whole : (account.save columns).run db = account.save columns db := rfl
  rw [whole] at ok
  unfold ServiceAccount.save at ok
  split at ok
  · refine ⟨‹_›, ?_⟩
    split at ok
    · cases ok
      exact .inl ⟨‹_›, rfl⟩
    · split at ok
      · cases ok
      · rename_i row isRow
        obtain ⟨found, isFound, reads⟩ := Option.bind_eq_some_iff.mp isRow
        obtain ⟨inRows, same⟩ := Database.row?_eq_some_iff.mp isFound
        cases found with
        | serviceAccount found =>
          obtain rfl := Option.some.inj reads
          exact .inr ⟨found, inRows, Key.serviceAccount.inj same,
            Database.update_eq_ok (of_statement ok)⟩
        | _ => cases reads
  · cases ok

/-! ## Every action -/

/-- Some columns of the row at this account's id are as in `account`. -/
def Saved (db db' : Store) (account : ServiceAccount) (columns : List Column) : Prop :=
  ∃ row, Row.serviceAccount row ∈ db.rows ∧ row.id = account.id ∧
    db'.rows = Database.replaced schema (.serviceAccount (account.copyAll row columns)) db.rows

/-- The account that the Add page sets up. -/
def addedAccount (form : Posted) (drawn : Drawn) : ServiceAccount :=
  ServiceAccountService.newAccount form.organization form.name form.toLimits drawn

/-- What an action that succeeds has done. -/
inductive Done (hashToken : String → String) (db db' : Store) : Action → Prop
  | addOrganization {row : Organization} : db'.rows = .organization row :: db.rows →
      Done hashToken db db' (.addOrganization row)
  | renameOrganization {row : Organization} :
      db'.rows = Database.replaced schema (.organization row) db.rows →
      Done hashToken db db' (.renameOrganization row)
  | deleteOrganization {id : ℕ} : db.delete (.organization id) = .ok db' →
      Done hashToken db db' (.deleteOrganization id)
  | addUser {row : User} : db'.rows = .user row :: db.rows → Fresh db (.user row.id) →
      Done hashToken db db' (.addUser row)
  | changeUser {row : User} : db'.rows = Database.replaced schema (.user row) db.rows →
      Done hashToken db db' (.changeUser row)
  | deleteUser {id : ℕ} : db.delete (.user id) = .ok db' → Done hashToken db db' (.deleteUser id)
  | add {form : Posted} {tokenName : String} {drawn : Drawn} : form.toLimits.validate = true →
      db'.rows = createdRows hashToken (addedAccount form drawn) tokenName drawn ++ db.rows →
      Fresh db (.user drawn.user) → Fresh db (.serviceAccount drawn.account) →
      Fresh db (.authToken (hashToken drawn.token)) →
      Done hashToken db db' (.add form tokenName drawn)
  | edit {loaded : ServiceAccount} {form : Posted} : form.toLimits.validate = true →
      Saved db db' (ServiceAccountAdmin.posted loaded form)
        (ServiceAccountAdmin.changedData loaded form) → Done hashToken db db' (.edit loaded form)
  | editNothing {loaded : ServiceAccount} {form : Posted} :
      ServiceAccountAdmin.changedData loaded form = [] → db' = db →
      Done hashToken db db' (.edit loaded form)
  | deleteAccount {id : ℕ} {account : ServiceAccount} : Row.serviceAccount account ∈ db.rows →
      account.id = id → db.delete (.user account.user) = .ok db' →
      Done hashToken db db' (.deleteAccount id)
  | regenerateWebhookSecret {loaded : ServiceAccount} {secret : String} :
      Saved db db' { loaded with webhookSecret := secret } [.webhookSecret] →
      Done hashToken db db' (.regenerateWebhookSecret loaded secret)
  | issueToken {account : ServiceAccount} {tokenName : String} {drawn : Drawn} :
      Row.serviceAccount account ∈ db.rows →
      db'.rows = tokenRows hashToken account.id account.user tokenName drawn ++ db.rows →
      Fresh db (.authToken (hashToken drawn.token)) →
      Done hashToken db db' (.issueToken account.id tokenName drawn)
  | revokeToken {id : ℕ} {named : ServiceAccountToken} : Row.serviceAccountToken named ∈ db.rows →
      named.id = id → (∀ row, row ∈ db'.rows ↔ row ∈ db.rows ∧ ¬ row.Wears named.authToken) →
      Done hashToken db db' (.revokeToken id)
  | revokeTokens {ids : List ℕ} :
      (∀ row, row ∈ db'.rows ↔ row ∈ db.rows ∧ ∀ named, Row.serviceAccountToken named ∈ db.rows →
        named.id ∈ ids → ¬ row.Wears named.authToken) → Done hashToken db db' (.revokeTokens ids)
  | expire {digest : String} :
      (∀ row, row ∈ db'.rows ↔ row ∈ db.rows ∧ ¬ row.Wears digest) →
      Done hashToken db db' (.expire digest)
  | submit {id account : ℕ} : db'.rows = .remediation id account :: db.rows →
      Done hashToken db db' (.submit id account)
  | removeDocument {id : ℕ} : db.delete (.remediation id) = .ok db' →
      Done hashToken db db' (.removeDocument id)

theorem mem_filterMap_serviceAccountToken? {rows : List Row} {named : ServiceAccountToken} :
    named ∈ rows.filterMap Row.serviceAccountToken? ↔ Row.serviceAccountToken named ∈ rows := by
  rw [List.mem_filterMap]
  constructor
  · rintro ⟨row, inRows, isNamed⟩
    cases row with
    | serviceAccountToken found =>
      obtain rfl := Option.some.inj isNamed
      exact inRows
    | _ => cases isNamed
  · intro inRows
    exact ⟨_, inRows, rfl⟩

/-- An action that succeeds has done what it is for. -/
theorem done_of_perform {action : Action} {done : Unit}
    (ok : (perform hashToken settings action).run db = .ok (done, db')) :
    Done hashToken db db' action := by
  cases action with
  | addOrganization row => exact .addOrganization (of_insert ok).1
  | renameOrganization row => exact .renameOrganization (Database.update_eq_ok (of_statement ok))
  | deleteOrganization id => exact .deleteOrganization (of_statement ok)
  | addUser row => exact .addUser (of_insert ok).1 (of_insert ok).2.2.1
  | changeUser row => exact .changeUser (Database.update_eq_ok (of_statement ok))
  | deleteUser id => exact .deleteUser (of_statement ok)
  -- An action of several statements is taken apart at each bind, and each of its reads or
  -- writes has one inversion lemma.
  | add form tokenName drawn =>
    obtain ⟨result, db₁, created, returned⟩ := Transaction.of_bind_ok ok
    obtain ⟨-, rfl⟩ := Transaction.of_pure_ok returned
    obtain ⟨valid, rows, newUser, newAccount, newToken⟩ := of_create created
    exact .add valid rows newUser newAccount newToken
  | edit loaded form =>
    obtain ⟨valid, ⟨none, rfl⟩ | saved⟩ := of_save ok
    · exact .editNothing none rfl
    · exact .edit valid saved
  | deleteAccount id =>
    obtain ⟨account, db₁, fetched, ofAccount⟩ := Transaction.of_bind_ok ok
    obtain ⟨rfl, inRows, sameId⟩ := of_fetch_serviceAccount fetched
    obtain ⟨user, db₂, fetchedUser, deleted⟩ := Transaction.of_bind_ok ofAccount
    obtain ⟨rfl, -, sameUser⟩ := of_fetch_user fetchedUser
    exact .deleteAccount inRows sameId (sameUser ▸ of_statement deleted)
  | regenerateWebhookSecret loaded secret =>
    obtain ⟨_, db₁, regenerated, returned⟩ := Transaction.of_bind_ok ok
    obtain ⟨-, rfl⟩ := Transaction.of_pure_ok returned
    obtain ⟨_, db₂, saved, last⟩ := Transaction.of_bind_ok regenerated
    obtain ⟨-, rfl⟩ := Transaction.of_pure_ok last
    obtain ⟨-, ⟨none, -⟩ | isSaved⟩ := of_save saved
    · cases none
    · exact .regenerateWebhookSecret isSaved
  | issueToken id tokenName drawn =>
    obtain ⟨_, db₁, viewed, returned⟩ := Transaction.of_bind_ok ok
    obtain ⟨-, rfl⟩ := Transaction.of_pure_ok returned
    obtain ⟨account, db₂, fetched, issued⟩ := Transaction.of_bind_ok viewed
    obtain ⟨rfl, inRows, sameId⟩ := of_fetch_serviceAccount fetched
    obtain ⟨rows, newToken⟩ := of_issueToken issued
    exact sameId ▸ .issueToken inRows rows newToken
  -- Only the row of a token has the key that is fetched.
  | revokeToken id =>
    obtain ⟨named, db₁, fetched, revoked⟩ := Transaction.of_bind_ok ok
    obtain ⟨rfl, row, inRows, isKey, reads⟩ := of_fetch fetched
    cases row with
    | serviceAccountToken row =>
      obtain rfl := Option.some.inj reads
      refine .revokeToken inRows (Key.serviceAccountToken.inj isKey) fun row => ?_
      rw [of_revokeTokens revoked row]
      simp
    | _ => cases reads
  | revokeTokens ids =>
    obtain ⟨found, db₁, isState, revoked⟩ := Transaction.of_bind_ok ok
    cases isState
    refine .revokeTokens fun row => ?_
    rw [of_revokeTokens revoked row]
    simp only [List.mem_filter, mem_filterMap_serviceAccountToken?, decide_eq_true_eq, and_imp]
  | expire digest =>
    refine .expire fun row => ?_
    rw [Database.mem_of_delete (of_statement ok)]
    refine and_congr_right fun inRows => not_congr ?_
    exact falls_digest_iff inRows
  | submit id account => exact .submit (of_insert ok).1
  | removeDocument id => exact .removeDocument (of_statement ok)

end DicePipeline.Accounts
