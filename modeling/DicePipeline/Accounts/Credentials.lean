import DicePipeline.Accounts.Statements

/-!
# Who a token belongs to

What every action keeps: the token that an account lists authenticates that
account's login (`Wired`), and a token is listed, or its login has no account
(`Traced`).  Both are read off `Change`, which sorts the actions by what they do to
the accounts, the tokens and their names.

* `tokens_are_listed`: in every run, a token is listed by the one account whose
  login it authenticates, or its login has no account; the latter only if an
  organization was deleted.
* `stopped_for_good`: a revoked token, and every token of a deleted account,
  authenticates nobody from then on, and every other token works as before.
* `deleted_organization_leaves_logins`: deleting an organization is refused if
  one of its accounts has a document.  If it is not, the tokens of its accounts go
  on authenticating, but are listed nowhere, and their logins have no account.

### What is load-bearing

What Knox makes of a token that is stored is a parameter (`Knox`): it answers with the
login of the token, or with nobody once the token has expired or while the login is
not active.  So `tokens_are_listed` says of a listed token whom it authenticates if
anybody, and `deleted_organization_leaves_logins` that the deletion makes no
difference to that.

A hash that is drawn again would bring a token back; `stopped_for_good` excludes that,
and nothing else that may be done afterwards.
-/

namespace DicePipeline.Accounts

open Relational

variable {hashToken : String → String} {settings : LimitSettings} {dissolves : Prop}
variable {db db' : Store} {action : Action} {digest : String} {token : AuthToken}
variable {named : ServiceAccountToken} {account : ServiceAccount}

/-! ## Kinds of changes -/

/-- The row is an account, a token or the name of one. -/
def Row.isCredential : Row → Bool
  | .serviceAccount _ => true
  | .authToken _ => true
  | .serviceAccountToken _ => true
  | _ => false

/-- What becomes of the accounts, the tokens and their names. -/
inductive Change (hashToken : String → String) (dissolves : Prop) (db db' : Store) : Prop
  | quiet : (∀ row : Row, row.isCredential = true → (row ∈ db'.rows ↔ row ∈ db.rows)) →
      Change hashToken dissolves db db'
  | saved {account : ServiceAccount} {columns : List Column} : .user ∉ columns →
      Saved db db' account columns → Change hashToken dissolves db db'
  | issued {account : ServiceAccount} {tokenName : String} {drawn : Drawn} :
      Row.serviceAccount account ∈ db.rows →
      db'.rows = tokenRows hashToken account.id account.user tokenName drawn ++ db.rows →
      Fresh db (.authToken (hashToken drawn.token)) → Change hashToken dissolves db db'
  | added {account : ServiceAccount} {tokenName : String} {drawn : Drawn} :
      db'.rows = createdRows hashToken account tokenName drawn ++ db.rows →
      Fresh db (.user account.user) → Fresh db (.serviceAccount account.id) →
      Fresh db (.authToken (hashToken drawn.token)) → Change hashToken dissolves db db'
  | revoked (gone : String → Prop) :
      (∀ row, row ∈ db'.rows ↔ row ∈ db.rows ∧ ∀ digest, gone digest → ¬ row.Wears digest) →
      Change hashToken dissolves db db'
  | closed {user : ℕ} : db.delete (.user user) = .ok db' → Change hashToken dissolves db db'
  | dissolved {id : ℕ} : dissolves → db.delete (.organization id) = .ok db' →
      Change hashToken dissolves db db'

/-- A row of another table is new. -/
theorem Change.of_cons {row : Row} (rows : db'.rows = row :: db.rows)
    (other : row.isCredential = false) : Change hashToken dissolves db db' := by
  refine .quiet fun any isCredential => ?_
  rw [rows, List.mem_cons]
  refine or_iff_right ?_
  rintro rfl
  rw [other] at isCredential
  cases isCredential

/-- A document falls alone. -/
theorem falls_document_iff {id : ℕ} {key : Key} :
    Database.Falls db (.remediation id) key ↔ key = .remediation id := by
  constructor
  · intro falls
    induction falls with
    | self => rfl
    | @cascade row target inRows refers _ ih =>
      subst ih
      cases row <;> simp [Row.references] at refers
  · rintro rfl
    exact .self

theorem user_not_mem_changedData (loaded : ServiceAccount) (form : Posted) :
    .user ∉ ServiceAccountAdmin.changedData loaded form := by
  intro member
  have onForm := List.mem_of_mem_filter member
  simp [ServiceAccountAdmin.formFields, ServiceAccountAdmin.getReadonlyFields] at onForm

/-- Every action makes one of these changes. -/
theorem Done.change (done : Done hashToken db db' action) :
    Change hashToken (∃ id, action = .deleteOrganization id) db db' := by
  cases done with
  | addOrganization rows => exact .of_cons rows rfl
  -- A write of a row that is no credential is quiet.
  | @renameOrganization organization rows =>
    refine .quiet fun row isCredential => ?_
    rw [rows, Database.mem_replaced]
    cases row with
    | organization _ => cases isCredential
    | _ => simp [Row.key]
  | @changeUser user rows =>
    refine .quiet fun row isCredential => ?_
    rw [rows, Database.mem_replaced]
    cases row with
    | user _ => cases isCredential
    | _ => simp [Row.key]
  | deleteOrganization deleted => exact .dissolved ⟨_, rfl⟩ deleted
  | addUser rows _ => exact .of_cons rows rfl
  | deleteUser deleted => exact .closed deleted
  | add _ rows newUser newAccount newToken => exact .added rows newUser newAccount newToken
  | edit _ saved => exact .saved (user_not_mem_changedData _ _) saved
  | editNothing _ same =>
    subst same
    exact .quiet fun _ _ => Iff.rfl
  | deleteAccount _ _ deleted => exact .closed deleted
  | regenerateWebhookSecret saved => exact .saved (by decide) saved
  | issueToken inRows rows newToken => exact .issued inRows rows newToken
  -- Tokens go by the digest: the one that is named, those that are ticked, the one that expired.
  | @revokeToken id named inRows _ rows =>
    refine .revoked (fun digest => digest = named.authToken) fun row => ?_
    rw [rows row]
    simp
  | @revokeTokens ids rows =>
    refine .revoked (fun digest => ∃ named, Row.serviceAccountToken named ∈ db.rows ∧
      named.id ∈ ids ∧ named.authToken = digest) fun row => ?_
    rw [rows row]
    refine and_congr_right fun _ => ⟨?_, ?_⟩
    · rintro none digest ⟨named, inRows, ticked, rfl⟩
      exact none named inRows ticked
    · intro none named inRows ticked
      exact none _ ⟨named, inRows, ticked, rfl⟩
  | @expire digest rows =>
    refine .revoked (fun other => other = digest) fun row => ?_
    rw [rows row]
    simp
  | submit rows => exact .of_cons rows rfl
  -- A document has no credentials under it.
  | removeDocument deleted =>
    refine .quiet fun row isCredential => ?_
    rw [Database.mem_of_delete deleted]
    refine and_iff_left ?_
    rw [falls_document_iff]
    intro same
    cases row <;> cases isCredential <;> cases same

/-! ## One change -/

/-- The rows that no save touches. -/
theorem Saved.mem_iff {columns : List Column} (saved : Saved db db' account columns) {row : Row}
    (other : row.serviceAccount? = none) : row ∈ db'.rows ↔ row ∈ db.rows := by
  obtain ⟨old, -, -, rows⟩ := saved
  rw [rows, Database.mem_replaced]
  cases row with
  | serviceAccount _ => cases other
  | _ => simp [Row.key]

/-- An account after a save, column by column: the columns that were named are as they
were saved, and all others as they were. -/
theorem Saved.account_cases {columns : List Column} {found : ServiceAccount}
    (saved : Saved db db' account columns) (inRows : Row.serviceAccount found ∈ db'.rows) :
    ∃ old, Row.serviceAccount old ∈ db.rows ∧ old.id = found.id ∧ ∀ column,
      found.get column =
        if found.id = account.id ∧ column ∈ columns then account.get column
        else old.get column := by
  obtain ⟨row, isRow, sameId, rows⟩ := saved
  rw [rows, Database.mem_replaced] at inRows
  rcases inRows with ⟨old, different⟩ | ⟨same, -⟩
  · refine ⟨found, old, rfl, fun _ => (if_neg ?_).symm⟩
    rintro ⟨isAccount, -⟩
    refine different (congrArg Key.serviceAccount ?_)
    rw [ServiceAccount.id_copyAll, sameId, isAccount]
  · obtain rfl := Row.serviceAccount.inj same
    refine ⟨row, isRow, (ServiceAccount.id_copyAll _ _ _).symm, fun column => ?_⟩
    rw [ServiceAccount.get_copyAll, ServiceAccount.id_copyAll]
    simp only [sameId, true_and]

/-- No save moves an account to another login. -/
theorem Saved.user_eq {columns : List Column} {found : ServiceAccount}
    (saved : Saved db db' account columns) (notUser : .user ∉ columns)
    (inRows : Row.serviceAccount found ∈ db'.rows) :
    ∃ old, Row.serviceAccount old ∈ db.rows ∧ old.id = found.id ∧ old.user = found.user := by
  obtain ⟨old, isOld, sameId, columnwise⟩ := saved.account_cases inRows
  refine ⟨old, isOld, sameId, ?_⟩
  have same := columnwise .user
  rw [if_neg fun both => notUser both.2] at same
  exact (Content.reference.inj same).symm

theorem mem_tokenRows {row : Row} {id user : ℕ} {tokenName : String} {drawn : Drawn} :
    row ∈ tokenRows hashToken id user tokenName drawn ↔
      row = .serviceAccountToken ⟨drawn.named, id, tokenName, hashToken drawn.token⟩ ∨
        row = .authToken ⟨hashToken drawn.token, user⟩ := by
  simp [tokenRows]

theorem mem_createdRows {row : Row} {tokenName : String} {drawn : Drawn} :
    row ∈ createdRows hashToken account tokenName drawn ↔
      row ∈ tokenRows hashToken account.id account.user tokenName drawn ∨
        row = .serviceAccount account ∨ row = .user ⟨drawn.user, drawn.username⟩ := by
  simp [createdRows]

/-! ## A listed token is the account's -/

/-- The token that an account lists authenticates its login. -/
def Wired (db : Store) : Prop :=
  ∀ named token account, Row.serviceAccountToken named ∈ db.rows → Row.authToken token ∈ db.rows →
    Row.serviceAccount account ∈ db.rows → account.id = named.serviceAccount →
    token.digest = named.authToken → token.user = account.user

theorem Wired.mono (wired : Wired db)
    (fewer : ∀ row : Row, row.isCredential = true → row ∈ db'.rows → row ∈ db.rows) : Wired db' :=
  fun named token account isNamed isToken isAccount =>
    wired named token account (fewer _ rfl isNamed) (fewer _ rfl isToken) (fewer _ rfl isAccount)

/-- A new token with its name, beside rows where its hash is new. -/
theorem new_or_old {id user : ℕ} {tokenName : String} {drawn : Drawn}
    (newToken : Fresh db (.authToken (hashToken drawn.token)))
    (isNamed : Row.serviceAccountToken named ∈ tokenRows hashToken id user tokenName drawn ∨
      Row.serviceAccountToken named ∈ db.rows)
    (isToken : Row.authToken token ∈ tokenRows hashToken id user tokenName drawn ∨
      Row.authToken token ∈ db.rows)
    (sameDigest : token.digest = named.authToken) :
    (named.serviceAccount = id ∧ token.user = user) ∨
      (Row.serviceAccountToken named ∈ db.rows ∧ Row.authToken token ∈ db.rows) := by
  rw [mem_tokenRows] at isNamed isToken
  rcases isNamed with (same | same) | oldNamed
  · obtain rfl := Row.serviceAccountToken.inj same
    rcases isToken with (same | same) | oldToken
    · cases same
    · obtain rfl := Row.authToken.inj same
      exact .inl ⟨rfl, rfl⟩
    · exact absurd (congrArg Key.authToken sameDigest) (newToken _ oldToken)
  · cases same
  · rcases isToken with (same | same) | oldToken
    · cases same
    · obtain rfl := Row.authToken.inj same
      obtain ⟨old, isOld, oldDigest⟩ := exists_named_token oldNamed
      exact absurd (congrArg Key.authToken (oldDigest.trans sameDigest.symm)) (newToken _ isOld)
    · exact .inr ⟨oldNamed, oldToken⟩

/-- Every change keeps the tokens with their accounts. -/
theorem Change.wired (change : Change hashToken dissolves db db') (wired : Wired db) : Wired db' := by
  cases change with
  | quiet same => exact wired.mono fun row isCredential => (same row isCredential).mp
  | saved notUser saved =>
    intro named token account isNamed isToken isAccount sameId sameDigest
    obtain ⟨old, isOld, oldId, oldUser⟩ := saved.user_eq notUser isAccount
    rw [← oldUser]
    exact wired named token old ((saved.mem_iff rfl).mp isNamed) ((saved.mem_iff rfl).mp isToken)
      isOld (oldId.trans sameId) sameDigest
  | @issued loaded tokenName drawn isLoaded rows newToken =>
    intro named token account isNamed isToken isAccount sameId sameDigest
    rw [rows, List.mem_append] at isNamed isToken isAccount
    have oldAccount : Row.serviceAccount account ∈ db.rows := by
      refine isAccount.resolve_left fun new => ?_
      rcases mem_tokenRows.mp new with same | same <;> cases same
    rcases new_or_old newToken isNamed isToken sameDigest with ⟨toLoaded, toUser⟩ | ⟨old, oldToken⟩
    · have isSame := db.eq_of_key isLoaded oldAccount
        (congrArg Key.serviceAccount (toLoaded.symm.trans sameId.symm))
      rw [toUser, Row.serviceAccount.inj isSame]
    · exact wired named token account old oldToken oldAccount sameId sameDigest
  | @added created tokenName drawn rows newUser newAccount newToken =>
    intro named token account isNamed isToken isAccount sameId sameDigest
    rw [rows, List.mem_append, mem_createdRows] at isNamed isToken isAccount
    have whichNamed : Row.serviceAccountToken named ∈
        tokenRows hashToken created.id created.user tokenName drawn ∨
          Row.serviceAccountToken named ∈ db.rows := by
      simpa using isNamed
    have whichToken : Row.authToken token ∈
        tokenRows hashToken created.id created.user tokenName drawn ∨
          Row.authToken token ∈ db.rows := by
      simpa using isToken
    have whichAccount : account = created ∨ Row.serviceAccount account ∈ db.rows := by
      simpa [mem_tokenRows] using isAccount
    rcases new_or_old newToken whichNamed whichToken sameDigest with ⟨toNew, toUser⟩ | ⟨old, oldToken⟩
    · rcases whichAccount with rfl | oldAccount
      · exact toUser
      · exact absurd (congrArg Key.serviceAccount (sameId.trans toNew)) (newAccount _ oldAccount)
    · rcases whichAccount with rfl | oldAccount
      · obtain ⟨other, isOther, otherId⟩ := exists_named_account old
        exact absurd (congrArg Key.serviceAccount (otherId.trans sameId.symm)) (newAccount _ isOther)
      · exact wired named token account old oldToken oldAccount sameId sameDigest
  | revoked gone rows => exact wired.mono fun row _ inRows => ((rows row).mp inRows).1
  | closed deleted => exact wired.mono fun row _ inRows => ((Database.mem_of_delete deleted).mp inRows).1
  | dissolved _ deleted =>
    exact wired.mono fun row _ inRows => ((Database.mem_of_delete deleted).mp inRows).1

/-! ## A token is listed, or its login has no account -/

/-- Some account lists the token. -/
def Listed (db : Store) (digest : String) : Prop :=
  ∃ named, Row.serviceAccountToken named ∈ db.rows ∧ named.authToken = digest

/-- The login has no account. -/
def Unmanned (db : Store) (user : ℕ) : Prop :=
  ∀ account, Row.serviceAccount account ∈ db.rows → account.user ≠ user

/-- A token that was there is still listed, unless its account goes with its organization. -/
theorem Change.listed (change : Change hashToken dissolves db db') (wired : Wired db)
    (before : Row.authToken token ∈ db.rows) (after : Row.authToken token ∈ db'.rows)
    (listed : Listed db token.digest) :
    Listed db' token.digest ∨ (dissolves ∧ Unmanned db' token.user) := by
  obtain ⟨named, isNamed, sameDigest⟩ := listed
  cases change with
  | quiet same => exact .inl ⟨named, (same _ rfl).mpr isNamed, sameDigest⟩
  | saved _ saved => exact .inl ⟨named, (saved.mem_iff rfl).mpr isNamed, sameDigest⟩
  | issued _ rows _ => exact .inl ⟨named, rows ▸ List.mem_append_right _ isNamed, sameDigest⟩
  | added rows _ _ _ => exact .inl ⟨named, rows ▸ List.mem_append_right _ isNamed, sameDigest⟩
  | revoked gone rows =>
    refine .inl ⟨named, (rows _).mpr ⟨isNamed, fun digest isGone wears => ?_⟩, sameDigest⟩
    exact ((rows _).mp after).2 digest isGone (sameDigest.symm.trans wears)
  | @closed user deleted =>
    obtain ⟨-, stays⟩ := (Database.mem_of_delete deleted).mp after
    refine .inl ⟨named, (Database.mem_of_delete deleted).mpr ⟨isNamed, fun falls => ?_⟩, sameDigest⟩
    obtain ⟨account, isAccount, sameId⟩ := exists_named_account isNamed
    have login := wired named token account isNamed before isAccount sameId sameDigest.symm
    -- The name falls with its token or its account, both of which are of the token's login.
    have tokenFalls : user = token.user → Database.Falls db (.user user) (.authToken token.digest) := by
      rintro rfl
      exact (falls_authToken_iff before).mpr (.inr rfl)
    rcases (falls_named_iff isNamed).mp falls with same | accountFalls | falls
    · cases same
    · rw [← sameId, falls_serviceAccount_iff isAccount] at accountFalls
      rcases accountFalls with same | same | same
      · cases same
      · cases same
      · exact stays (tokenFalls ((Key.user.inj same).trans login.symm))
    · rw [sameDigest] at falls
      exact stays falls
  | @dissolved id may deleted =>
    by_cases falls : Database.Falls db (.organization id) (.serviceAccountToken named.id)
    · refine .inr ⟨may, fun found isFound sameUser => ?_⟩
      obtain ⟨wasIn, accountStays⟩ := (Database.mem_of_delete deleted).mp isFound
      obtain ⟨account, isAccount, sameId⟩ := exists_named_account isNamed
      have login := wired named token account isNamed before isAccount sameId sameDigest.symm
      obtain rfl := eq_of_user isAccount wasIn (login.symm.trans sameUser.symm)
      rcases (falls_named_iff isNamed).mp falls with same | accountFalls | tokenFalls
      · cases same
      · rw [← sameId] at accountFalls
        exact accountStays accountFalls
      · rw [sameDigest, falls_authToken_iff before] at tokenFalls
        rcases tokenFalls with same | same <;> cases same
    · exact .inl ⟨named, (Database.mem_of_delete deleted).mpr ⟨isNamed, falls⟩, sameDigest⟩

/-- A new token is listed. -/
theorem Change.token_cases (change : Change hashToken dissolves db db')
    (after : Row.authToken token ∈ db'.rows) :
    Row.authToken token ∈ db.rows ∨ Listed db' token.digest := by
  cases change with
  | quiet same => exact .inl ((same _ rfl).mp after)
  | saved _ saved => exact .inl ((saved.mem_iff rfl).mp after)
  | @issued account tokenName drawn _ rows _ =>
    rcases List.mem_append.mp (rows ▸ after) with new | old
    · rcases mem_tokenRows.mp new with same | same
      · cases same
      · obtain rfl := Row.authToken.inj same
        refine .inr ⟨⟨drawn.named, account.id, tokenName, hashToken drawn.token⟩, ?_, rfl⟩
        exact rows ▸ List.mem_append_left _ (mem_tokenRows.mpr (.inl rfl))
    · exact .inl old
  | @added account tokenName drawn rows _ _ _ =>
    rcases List.mem_append.mp (rows ▸ after) with new | old
    · have isNew : token = ⟨hashToken drawn.token, account.user⟩ := by
        simpa [mem_createdRows, mem_tokenRows] using new
      refine .inr ⟨⟨drawn.named, account.id, tokenName, hashToken drawn.token⟩, ?_, isNew ▸ rfl⟩
      exact rows ▸ List.mem_append_left _ (mem_createdRows.mpr (.inl (mem_tokenRows.mpr (.inl rfl))))
    · exact .inl old
  | revoked gone rows => exact .inl ((rows _).mp after).1
  | closed deleted => exact .inl ((Database.mem_of_delete deleted).mp after).1
  | dissolved _ deleted => exact .inl ((Database.mem_of_delete deleted).mp after).1

/-- A login without an account is given none. -/
theorem Change.unmanned {user : User} (change : Change hashToken dissolves db db')
    (isUser : Row.user user ∈ db.rows) (none : Unmanned db user.id) : Unmanned db' user.id := by
  intro account after
  cases change with
  | quiet same => exact none account ((same _ rfl).mp after)
  | saved notUser saved =>
    obtain ⟨old, isOld, -, sameUser⟩ := saved.user_eq notUser after
    rw [← sameUser]
    exact none old isOld
  | issued _ rows _ =>
    rcases List.mem_append.mp (rows ▸ after) with new | old
    · rcases mem_tokenRows.mp new with same | same <;> cases same
    · exact none account old
  | @added created tokenName drawn rows newUser _ _ =>
    rcases List.mem_append.mp (rows ▸ after) with new | old
    · have isNew : account = created := by
        simpa [mem_createdRows, mem_tokenRows] using new
      subst isNew
      intro same
      exact newUser _ isUser (congrArg Key.user same.symm)
    · exact none account old
  | revoked gone rows => exact none account ((rows _).mp after).1
  | closed deleted => exact none account ((Database.mem_of_delete deleted).mp after).1
  | dissolved _ deleted => exact none account ((Database.mem_of_delete deleted).mp after).1

/-- Tokens with their accounts, listed or of a login without one. -/
structure Traced (db : Store) : Prop where
  wired : Wired db
  token : ∀ token, Row.authToken token ∈ db.rows →
    Listed db token.digest ∨ Unmanned db token.user

theorem Change.traced (change : Change hashToken dissolves db db') (traced : Traced db) :
    Traced db' where
  wired := change.wired traced.wired
  token := by
    intro token after
    rcases change.token_cases after with before | listed
    · rcases traced.token token before with listed | none
      · exact (change.listed traced.wired before after listed).imp_right And.right
      · obtain ⟨user, isUser, same⟩ := exists_token_user before
        exact .inr (same ▸ change.unmanned isUser (same ▸ none))
    · exact .inl listed

theorem traced_empty : Traced (Database.empty schema) where
  wired := fun _ _ _ inRows => absurd inRows List.not_mem_nil
  token := fun _ inRows => absurd inRows List.not_mem_nil

/-- Every token is listed, if no organization is deleted. -/
theorem listed_history (hashToken : String → String) (settings : LimitSettings)
    {actions : List Action}
    (kept : ∀ id, .deleteOrganization id ∉ actions) :
    Wired (history hashToken settings actions) ∧
      ∀ token, Row.authToken token ∈ (history hashToken settings actions).rows →
        Listed (history hashToken settings actions) token.digest := by
  refine run_induction_of_mem (P := fun db : Store => Wired db ∧
    ∀ token, Row.authToken token ∈ db.rows → Listed db token.digest)
    ⟨traced_empty.wired, fun _ inRows => absurd inRows List.not_mem_nil⟩ ?_
  intro action member db db' _ before done
  obtain ⟨wired, listed⟩ := before
  have change := (done_of_perform done).change
  refine ⟨change.wired wired, fun token after => ?_⟩
  rcases change.token_cases after with before | listed'
  · refine (change.listed wired before after (listed token before)).resolve_right ?_
    rintro ⟨⟨id, rfl⟩, -⟩
    exact kept id member
  · exact listed'

theorem traced_history (hashToken : String → String) (settings : LimitSettings)
    (actions : List Action) : Traced (history hashToken settings actions) :=
  run_induction traced_empty fun _ _ _ _ traced done => (done_of_perform done).change.traced traced

/-- The token is listed once, by the account whose login it authenticates. -/
def ListedOnce (db : Store) (token : AuthToken) : Prop :=
  ∃ account named, ServiceAccount.forUser db token.user = some account ∧
    Row.serviceAccountToken named ∈ db.rows ∧ named.serviceAccount = account.id ∧
    ∀ other, Row.serviceAccountToken other ∈ db.rows →
      (other.authToken = token.digest ↔ other = named)

theorem Listed.once (wired : Wired db) (isToken : Row.authToken token ∈ db.rows)
    (listed : Listed db token.digest) : ListedOnce db token := by
  obtain ⟨named, isNamed, sameDigest⟩ := listed
  obtain ⟨account, isAccount, sameId⟩ := exists_named_account isNamed
  have login := wired named token account isNamed isToken isAccount sameId sameDigest.symm
  refine ⟨account, named, forUser_eq_some_iff.mpr ⟨isAccount, login.symm⟩, isNamed, sameId.symm, ?_⟩
  intro other isOther
  constructor
  · intro otherDigest
    refine Row.serviceAccountToken.inj
      (db.eq_of_mark (.tokenAuth token.digest) isOther isNamed ?_ ?_)
    · simp [Row.marks, otherDigest]
    · simp [Row.marks, sameDigest]
  · rintro rfl
    exact sameDigest

/-- **Tokens and accounts.**  What an account lists authenticates that account and no
other, or nobody while it is not accepted.  A token is listed once, by the account of its
login, or else its login has no account; the latter only after an organization was
deleted. -/
theorem tokens_are_listed (accepts : AuthToken → User → Bool)
    (authenticate : Store → String → Option User) (knox : Knox accepts authenticate)
    (hashToken : String → String) (settings : LimitSettings) (actions : List Action) :
    (∀ named, Row.serviceAccountToken named ∈ (history hashToken settings actions).rows →
      ∃ token user account, token.digest = named.authToken ∧
        authenticate (history hashToken settings actions) named.authToken =
          (if accepts token user then some user else none) ∧
        ServiceAccount.forUser (history hashToken settings actions) user.id = some account ∧
        account.id = named.serviceAccount) ∧
    ∀ token, Row.authToken token ∈ (history hashToken settings actions).rows →
      ListedOnce (history hashToken settings actions) token ∨
        (ServiceAccount.forUser (history hashToken settings actions) token.user = none ∧
          ∃ id, .deleteOrganization id ∈ actions) := by
  have traced := traced_history hashToken settings actions
  constructor
  · intro named isNamed
    obtain ⟨account, isAccount, sameId⟩ := exists_named_account isNamed
    obtain ⟨token, isToken, sameDigest⟩ := exists_named_token isNamed
    obtain ⟨user, isUser, sameUser⟩ := exists_token_user isToken
    have login := traced.wired named token account isNamed isToken isAccount sameId sameDigest
    refine ⟨token, user, account, sameDigest, ?_, ?_, sameId⟩
    · exact sameDigest ▸ knox.eq_of_mem isToken isUser sameUser
    · exact forUser_eq_some_iff.mpr ⟨isAccount, login.symm.trans sameUser.symm⟩
  · intro token isToken
    by_cases deletes : ∃ id, .deleteOrganization id ∈ actions
    · rcases traced.token token isToken with listed | none
      · exact .inl (listed.once traced.wired isToken)
      · exact .inr ⟨forUser_eq_none_iff.mpr none, deletes⟩
    · obtain ⟨wired, listed⟩ := listed_history hashToken settings
        fun id member => deletes ⟨id, member⟩
      exact .inl ((listed token isToken).once wired isToken)

/-- An account of one organization. -/
def oneForm : Posted where
  organization := 1
  name := "wordpress-prod"
  unlimited := false
  maxInFlight := some 5
  rateLimitCount := some 100
  rateLimitPeriod := some "day"

/-- What is drawn for the account and its first token. -/
def firstDraw : Drawn where
  user := 7
  username := "service-7"
  account := 10
  webhookSecret := "secret"
  named := 20
  token := "t1"

/-- The account is set up and gets a second token. -/
def twoTokens : List Action :=
  [.addOrganization ⟨1, "Acme"⟩, .add oneForm "first" firstDraw,
    .issueToken 10 "second" { firstDraw with named := 21, token := "t2" }]

theorem rows_twoTokens : (history id ⟨5, 100⟩ twoTokens).rows =
    [.serviceAccountToken ⟨21, 10, "second", "t2"⟩, .authToken ⟨"t2", 7⟩,
      .serviceAccountToken ⟨20, 10, "first", "t1"⟩, .authToken ⟨"t1", 7⟩,
      .serviceAccount (addedAccount oneForm firstDraw), .user ⟨7, "service-7"⟩,
      .organization ⟨1, "Acme"⟩] := by
  decide +kernel

/-- An answer of knox: it looks the hash up, and the login of the token. -/
def lookUp (accepts : AuthToken → User → Bool) (db : Store) (digest : String) : Option User :=
  ((db.row? (.authToken digest)).bind Row.authToken?).bind fun token =>
    ((db.row? (.user token.user)).bind Row.user?).filter (accepts token)

theorem knox_lookUp (accepts : AuthToken → User → Bool) : Knox accepts (lookUp accepts) where
  answers := by
    intro db digest user
    have isToken : ∀ token : AuthToken,
        (db.row? (.authToken digest)).bind Row.authToken? = some token ↔
          Row.authToken token ∈ db.rows ∧ token.digest = digest := by
      intro token
      rw [Option.bind_eq_some_iff]
      constructor
      · rintro ⟨row, found, reads⟩
        obtain ⟨inRows, same⟩ := Database.row?_eq_some_iff.mp found
        cases row with
        | authToken row =>
          obtain rfl := Option.some.inj reads
          exact ⟨inRows, Key.authToken.inj same⟩
        | _ => cases reads
      · rintro ⟨inRows, rfl⟩
        exact ⟨_, Database.row?_eq_some_iff.mpr ⟨inRows, rfl⟩, rfl⟩
    have isUser : ∀ id, (db.row? (.user id)).bind Row.user? = some user ↔
        Row.user user ∈ db.rows ∧ user.id = id := by
      intro id
      rw [Option.bind_eq_some_iff]
      constructor
      · rintro ⟨row, found, reads⟩
        obtain ⟨inRows, same⟩ := Database.row?_eq_some_iff.mp found
        cases row with
        | user row =>
          obtain rfl := Option.some.inj reads
          exact ⟨inRows, Key.user.inj same⟩
        | _ => cases reads
      · rintro ⟨inRows, rfl⟩
        exact ⟨_, Database.row?_eq_some_iff.mpr ⟨inRows, rfl⟩, rfl⟩
    unfold lookUp
    simp only [Option.bind_eq_some_iff, Option.filter_eq_some_iff, isToken, isUser, and_assoc]

/-- The second token has expired, and all else is accepted. -/
def onTime (token : AuthToken) (_ : User) : Bool := token.digest ≠ "t2"

/-- Each of the two tokens is listed by the account, which the first one authenticates. -/
theorem tokens_are_listed_two_tokens :
    (∃ user account, lookUp onTime (history id ⟨5, 100⟩ twoTokens) "t1" = some user ∧
      ServiceAccount.forUser (history id ⟨5, 100⟩ twoTokens) user.id = some account ∧
      account.id = 10) ∧
    ListedOnce (history id ⟨5, 100⟩ twoTokens) ⟨"t2", 7⟩ := by
  obtain ⟨named, tokens⟩ :=
    tokens_are_listed onTime _ (knox_lookUp onTime) id ⟨5, 100⟩ twoTokens
  constructor
  · obtain ⟨token, user, account, same, answer, isAccount, sameId⟩ :=
      named ⟨20, 10, "first", "t1"⟩ (by rw [rows_twoTokens]; decide)
    have accepted : onTime token user = true := by
      unfold onTime
      rw [same]
      decide
    rw [if_pos accepted] at answer
    exact ⟨user, account, answer, isAccount, sameId⟩
  · refine (tokens ⟨"t2", 7⟩ (by rw [rows_twoTokens]; decide)).resolve_right ?_
    rintro ⟨-, id, deletes⟩
    simp [twoTokens] at deletes

/-! ## A stopped token -/

/-- The token text that an action draws. -/
def Action.draws : Action → Option String
  | .add _ _ drawn => some drawn.token
  | .issueToken _ _ drawn => some drawn.token
  | _ => none

/-- A token was there, or is drawn by the action. -/
theorem Done.token_cases (done : Done hashToken db db' action)
    (after : Row.authToken token ∈ db'.rows) : Row.authToken token ∈ db.rows ∨
      ∃ text, action.draws = some text ∧ hashToken text = token.digest := by
  cases done with
  | @add form tokenName drawn _ rows _ _ _ =>
    rcases List.mem_append.mp (rows ▸ after) with new | old
    · have isNew : token = ⟨hashToken drawn.token, (addedAccount form drawn).user⟩ := by
        simpa [mem_createdRows, mem_tokenRows] using new
      exact .inr ⟨drawn.token, rfl, isNew ▸ rfl⟩
    · exact .inl old
  | @issueToken account tokenName drawn _ rows _ =>
    rcases List.mem_append.mp (rows ▸ after) with new | old
    · have isNew : token = ⟨hashToken drawn.token, account.user⟩ := by
        simpa [mem_tokenRows] using new
      exact .inr ⟨drawn.token, rfl, isNew ▸ rfl⟩
    · exact .inl old
  | addOrganization rows => exact .inl (by simpa [rows] using after)
  | renameOrganization rows =>
    rw [rows, Database.mem_replaced] at after
    exact .inl (by simpa [Row.key] using after)
  | changeUser rows =>
    rw [rows, Database.mem_replaced] at after
    exact .inl (by simpa [Row.key] using after)
  | addUser rows _ => exact .inl (by simpa [rows] using after)
  | submit rows => exact .inl (by simpa [rows] using after)
  | edit _ saved => exact .inl ((saved.mem_iff rfl).mp after)
  | regenerateWebhookSecret saved => exact .inl ((saved.mem_iff rfl).mp after)
  | editNothing _ same => exact .inl (same ▸ after)
  | deleteOrganization deleted => exact .inl ((Database.mem_of_delete deleted).mp after).1
  | deleteUser deleted => exact .inl ((Database.mem_of_delete deleted).mp after).1
  | deleteAccount _ _ deleted => exact .inl ((Database.mem_of_delete deleted).mp after).1
  | removeDocument deleted => exact .inl ((Database.mem_of_delete deleted).mp after).1
  | revokeToken _ _ rows => exact .inl ((rows _).mp after).1
  | revokeTokens rows => exact .inl ((rows _).mp after).1
  | expire rows => exact .inl ((rows _).mp after).1

/-- The action stops the token. -/
def Stops (db : Store) (digest : String) : Action → Prop
  | .revokeToken id => ∃ named, Row.serviceAccountToken named ∈ db.rows ∧ named.id = id ∧
      named.authToken = digest
  | .revokeTokens ids => ∃ named, Row.serviceAccountToken named ∈ db.rows ∧ named.id ∈ ids ∧
      named.authToken = digest
  | .deleteAccount id => ∃ account token, Row.serviceAccount account ∈ db.rows ∧ account.id = id ∧
      Row.authToken token ∈ db.rows ∧ token.user = account.user ∧ token.digest = digest
  | _ => False

/-- It is for stopping tokens. -/
def Action.isStop : Action → Bool
  | .revokeToken _ => true
  | .revokeTokens _ => true
  | .deleteAccount _ => true
  | _ => false

/-- What is left after tokens were stopped: all the others. -/
theorem Done.mem_of_stop (done : Done hashToken db db' action) (isStop : action.isStop = true) :
    Row.authToken token ∈ db'.rows ↔
      Row.authToken token ∈ db.rows ∧ ¬ Stops db token.digest action := by
  cases done with
  | @revokeToken id named isNamed sameId rows =>
    rw [rows]
    refine and_congr_right fun isToken => not_congr ⟨?_, ?_⟩
    · intro same
      exact ⟨named, isNamed, sameId, same.symm⟩
    · rintro ⟨other, isOther, otherId, same⟩
      have isSame := db.eq_of_key isOther isNamed
        (congrArg Key.serviceAccountToken (otherId.trans sameId.symm))
      rw [← Row.serviceAccountToken.inj isSame]
      exact same.symm
  | @revokeTokens ids rows =>
    rw [rows]
    refine and_congr_right fun isToken => ⟨?_, ?_⟩
    · rintro none ⟨named, isNamed, ticked, same⟩
      exact none named isNamed ticked same.symm
    · intro none named isNamed ticked same
      exact none ⟨named, isNamed, ticked, same.symm⟩
  | @deleteAccount id account isAccount sameId deleted =>
    rw [Database.mem_of_delete deleted]
    refine and_congr_right fun isToken => not_congr ?_
    rw [schema_key, Row.key, falls_authToken_iff isToken]
    constructor
    · rintro (same | same)
      · cases same
      · exact ⟨account, token, isAccount, sameId, isToken, (Key.user.inj same).symm, rfl⟩
    · rintro ⟨other, found, isOther, otherId, isFound, login, same⟩
      have isSame := db.eq_of_key isFound isToken (congrArg Key.authToken same)
      have sameAccount := db.eq_of_key isOther isAccount
        (congrArg Key.serviceAccount (otherId.trans sameId.symm))
      rw [← Row.authToken.inj isSame, login, Row.serviceAccount.inj sameAccount]
      exact .inr rfl
  | _ => cases isStop

/-- No later action draws the hash. -/
def Undrawn (hashToken : String → String) (digest : String) (actions : List Action) : Prop :=
  ∀ action ∈ actions, ∀ text, action.draws = some text → hashToken text ≠ digest

/-- A token that is gone stays away. -/
theorem absent_run {actions : List Action} (undrawn : Undrawn hashToken digest actions)
    (absent : ∀ token, Row.authToken token ∈ db.rows → token.digest ≠ digest) :
    ∀ token, Row.authToken token ∈ (run (perform hashToken settings) db actions).rows →
      token.digest ≠ digest := by
  refine run_induction_of_mem
    (P := fun db : Store => ∀ token, Row.authToken token ∈ db.rows → token.digest ≠ digest)
    absent ?_
  intro action member db db' _ absent done token after
  rcases (done_of_perform done).token_cases after with before | ⟨text, draws, isHash⟩
  · exact absent token before
  · rw [← isHash]
    exact undrawn action member text draws

/-- Stopping a token adds nothing. -/
theorem Done.mem_of_mem_stop (done : Done hashToken db db' action) (isStop : action.isStop = true)
    {row : Row} (after : row ∈ db'.rows) : row ∈ db.rows := by
  cases done with
  | revokeToken _ _ rows => exact ((rows row).mp after).1
  | revokeTokens rows => exact ((rows row).mp after).1
  | deleteAccount _ _ deleted => exact ((Database.mem_of_delete deleted).mp after).1
  | _ => cases isStop

/-- A stop leaves the other tokens, and whom they authenticate. -/
theorem Done.authenticate_of_stop {accepts : AuthToken → User → Bool}
    {authenticate : Store → String → Option User} (knox : Knox accepts authenticate)
    (done : Done hashToken db db' action) (isStop : action.isStop = true)
    (other : ¬ Stops db digest action) : authenticate db' digest = authenticate db digest := by
  ext user
  rw [knox.answers, knox.answers]
  constructor
  · rintro ⟨token, isToken, same, isUser, accepted⟩
    exact ⟨token, done.mem_of_mem_stop isStop isToken, same, done.mem_of_mem_stop isStop isUser,
      accepted⟩
  · rintro ⟨token, isToken, rfl, isUser, login, accepted⟩
    have stays := (done.mem_of_stop isStop).mpr ⟨isToken, other⟩
    -- The token still has its login.
    obtain ⟨found, isFound, sameId⟩ := exists_token_user stays
    obtain rfl := Row.user.inj (db.eq_of_key (done.mem_of_mem_stop isStop isFound) isUser
      (congrArg Key.user (sameId.trans login.symm)))
    exact ⟨token, stays, rfl, isFound, login, accepted⟩

theorem exists_of_isOk {result : Except AccountExn (Unit × Store)} (isOk : result.isOk = true) :
    ∃ db', result = .ok ((), db') := by
  cases result with
  | ok pair => exact ⟨pair.2, rfl⟩
  | error _ => cases isOk

/-- **A token that is stopped.**  Once its revocation or the deletion of its account has
succeeded, it authenticates nobody, whatever is done afterwards, as long as its
hash is not drawn again.  Every other token authenticates whom it did. -/
theorem stopped_for_good (accepts : AuthToken → User → Bool)
    (authenticate : Store → String → Option User) (knox : Knox accepts authenticate)
    (hashToken : String → String) (settings : LimitSettings)
    (before later : List Action) (action : Action) (digest : String)
    (isStop : action.isStop = true)
    (succeeds : ((perform hashToken settings action).run
      (history hashToken settings before)).isOk = true) :
    (Stops (history hashToken settings before) digest action → Undrawn hashToken digest later →
      authenticate (history hashToken settings (before ++ action :: later)) digest = none) ∧
    (¬ Stops (history hashToken settings before) digest action →
      authenticate (history hashToken settings (before ++ [action])) digest =
        authenticate (history hashToken settings before) digest) := by
  obtain ⟨db', succeeded⟩ := exists_of_isOk succeeds
  have done := done_of_perform succeeded
  constructor
  · intro stops undrawn
    rw [history_append_cons, commit_of_ok succeeded]
    refine knox.eq_none (absent_run undrawn fun token isToken same => ?_)
    exact ((done.mem_of_stop isStop).mp isToken).2 (same ▸ stops)
  · intro other
    rw [history_append_cons, commit_of_ok succeeded]
    exact done.authenticate_of_stop knox isStop other

/-- The first token is revoked, and the second works as before. -/
theorem stopped_for_good_revoked :
    lookUp onTime (history id ⟨5, 100⟩ (twoTokens ++ [.revokeToken 20, .deleteUser 3])) "t1" =
        none ∧
      lookUp onTime (history id ⟨5, 100⟩ (twoTokens ++ [.revokeToken 20])) "t2" =
        lookUp onTime (history id ⟨5, 100⟩ twoTokens) "t2" := by
  have succeeds : ((perform id ⟨5, 100⟩ (.revokeToken 20)).run
      (history id ⟨5, 100⟩ twoTokens)).isOk = true := by decide +kernel
  refine ⟨(stopped_for_good onTime _ (knox_lookUp onTime) id ⟨5, 100⟩ twoTokens [.deleteUser 3] (.revokeToken 20) "t1" rfl
    succeeds).1 ?_ ?_, (stopped_for_good onTime _ (knox_lookUp onTime) id ⟨5, 100⟩ twoTokens [] (.revokeToken 20) "t2" rfl
    succeeds).2 ?_⟩
  · exact ⟨⟨20, 10, "first", "t1"⟩, by rw [rows_twoTokens]; decide, rfl, rfl⟩
  · intro action member text draws
    obtain rfl := List.mem_singleton.mp member
    cases draws
  · rintro ⟨named, isNamed, sameId, sameToken⟩
    rw [rows_twoTokens] at isNamed
    have isFirst : named = ⟨20, 10, "first", "t1"⟩ := by
      simp at isNamed
      rcases isNamed with rfl | rfl
      · exact absurd sameId (by decide)
      · rfl
    exact absurd (isFirst ▸ sameToken) (by decide)

/-! ## Tokens without an account -/

/-- The token authenticates a login without an account, and is listed nowhere. -/
structure Orphaned (db : Store) (token : AuthToken) : Prop where
  works : Row.authToken token ∈ db.rows
  unmanned : Unmanned db token.user
  unlisted : ¬ Listed db token.digest

/-- A name is new only with its token. -/
theorem Done.unlisted (done : Done hashToken db db' action) (isToken : Row.authToken token ∈ db.rows)
    (unlisted : ¬ Listed db token.digest) : ¬ Listed db' token.digest := by
  rintro ⟨named, after, same⟩
  refine unlisted ⟨named, ?_, same⟩
  cases done with
  | @add form tokenName drawn _ rows _ _ newToken =>
    rcases List.mem_append.mp (rows ▸ after) with new | old
    · have isNew : named = ⟨drawn.named, (addedAccount form drawn).id, tokenName,
          hashToken drawn.token⟩ := by
        simpa [mem_createdRows, mem_tokenRows] using new
      subst isNew
      exact absurd (congrArg Key.authToken same.symm) (newToken _ isToken)
    · exact old
  | @issueToken account tokenName drawn _ rows newToken =>
    rcases List.mem_append.mp (rows ▸ after) with new | old
    · have isNew : named = ⟨drawn.named, account.id, tokenName, hashToken drawn.token⟩ := by
        simpa [mem_tokenRows] using new
      subst isNew
      exact absurd (congrArg Key.authToken same.symm) (newToken _ isToken)
    · exact old
  | addOrganization rows => simpa [rows] using after
  | renameOrganization rows =>
    rw [rows, Database.mem_replaced] at after
    simpa [Row.key] using after
  | changeUser rows =>
    rw [rows, Database.mem_replaced] at after
    simpa [Row.key] using after
  | addUser rows _ => simpa [rows] using after
  | submit rows => simpa [rows] using after
  | edit _ saved => exact (saved.mem_iff rfl).mp after
  | regenerateWebhookSecret saved => exact (saved.mem_iff rfl).mp after
  | editNothing _ same => exact same ▸ after
  | deleteOrganization deleted => exact ((Database.mem_of_delete deleted).mp after).1
  | deleteUser deleted => exact ((Database.mem_of_delete deleted).mp after).1
  | deleteAccount _ _ deleted => exact ((Database.mem_of_delete deleted).mp after).1
  | removeDocument deleted => exact ((Database.mem_of_delete deleted).mp after).1
  | revokeToken _ _ rows => exact ((rows _).mp after).1
  | revokeTokens rows => exact ((rows _).mp after).1
  | expire rows => exact ((rows _).mp after).1

/-- Nothing but its expiry and the deletion of its login stops such a token. -/
theorem Done.orphaned (done : Done hashToken db db' action) (orphaned : Orphaned db token)
    (keepsUser : action ≠ .deleteUser token.user) (keepsToken : action ≠ .expire token.digest) :
    Orphaned db' token where
  unmanned := by
    obtain ⟨user, isUser, same⟩ := exists_token_user orphaned.works
    exact same ▸ done.change.unmanned isUser (same ▸ orphaned.unmanned)
  unlisted := done.unlisted orphaned.works orphaned.unlisted
  works := by
    have isToken := orphaned.works
    cases done with
    | add _ rows _ _ _ => exact rows ▸ List.mem_append_right _ isToken
    | issueToken _ rows _ => exact rows ▸ List.mem_append_right _ isToken
    | addOrganization rows => exact rows ▸ List.mem_cons_of_mem _ isToken
    | addUser rows _ => exact rows ▸ List.mem_cons_of_mem _ isToken
    | submit rows => exact rows ▸ List.mem_cons_of_mem _ isToken
    | renameOrganization rows =>
      rw [rows, Database.mem_replaced]
      exact .inl ⟨isToken, Key.noConfusion⟩
    | changeUser rows =>
      rw [rows, Database.mem_replaced]
      exact .inl ⟨isToken, Key.noConfusion⟩
    | edit _ saved => exact (saved.mem_iff rfl).mpr isToken
    | regenerateWebhookSecret saved => exact (saved.mem_iff rfl).mpr isToken
    | editNothing _ same => exact same ▸ isToken
    | deleteOrganization deleted =>
      refine (Database.mem_of_delete deleted).mpr ⟨isToken, fun falls => ?_⟩
      rcases (falls_authToken_iff isToken).mp falls with same | same <;> cases same
    | removeDocument deleted =>
      exact (Database.mem_of_delete deleted).mpr ⟨isToken, fun falls =>
        Key.noConfusion (falls_document_iff.mp falls)⟩
    | deleteUser deleted =>
      refine (Database.mem_of_delete deleted).mpr ⟨isToken, fun falls => ?_⟩
      rcases (falls_authToken_iff isToken).mp falls with same | same
      · cases same
      · exact keepsUser (congrArg Action.deleteUser (Key.user.inj same))
    | @deleteAccount id account isAccount _ deleted =>
      refine (Database.mem_of_delete deleted).mpr ⟨isToken, fun falls => ?_⟩
      rcases (falls_authToken_iff isToken).mp falls with same | same
      · cases same
      · exact orphaned.unmanned account isAccount (Key.user.inj same)
    | @revokeToken id named isNamed _ rows =>
      refine (rows _).mpr ⟨isToken, fun wears => ?_⟩
      exact orphaned.unlisted ⟨named, isNamed, wears.symm⟩
    | revokeTokens rows =>
      refine (rows _).mpr ⟨isToken, fun named isNamed _ wears => ?_⟩
      exact orphaned.unlisted ⟨named, isNamed, wears.symm⟩
    | expire rows =>
      refine (rows _).mpr ⟨isToken, fun wears => ?_⟩
      exact keepsToken (congrArg Action.expire wears.symm)

/-- One of the organization's accounts has a document. -/
def HasDocuments (db : Store) (organization : ℕ) : Prop :=
  ∃ id account, Row.remediation id account.id ∈ db.rows ∧ Row.serviceAccount account ∈ db.rows ∧
    account.organization = organization

/-- Deleting an organization goes through if and only if it has no documents. -/
theorem deleteOrganization_iff (db : Store) (id : ℕ) :
    (∃ db', db.delete (.organization id) = .ok db') ↔ ¬ HasDocuments db id := by
  constructor
  · rintro ⟨db', deleted⟩ ⟨document, account, isDocument, isAccount, rfl⟩
    refine Database.not_protects_of_delete (.serviceAccount account.id) deleted isDocument
      (List.mem_singleton_self _) ?_
    exact (falls_serviceAccount_iff isAccount).mpr (.inr (.inl rfl))
  · intro none
    refine Database.delete_of_not_protects ?_
    rintro row inRows ⟨⟨target, onDelete⟩, refers, isProtect, falls⟩
    obtain rfl : onDelete = .protect := isProtect
    cases row with
    | remediation document account =>
      obtain ⟨rfl, -⟩ := Prod.mk.inj (List.mem_singleton.mp refers)
      obtain ⟨found, isFound, same⟩ := db.references _ inRows (.serviceAccount account, .protect)
        (List.mem_singleton_self _)
      cases found with
      | serviceAccount found =>
        obtain rfl : found.id = account := Key.serviceAccount.inj same
        rcases (falls_serviceAccount_iff isFound).mp falls with same | same | same
        · cases same
        · exact none ⟨document, found, inRows, isFound, (Key.organization.inj same).symm⟩
        · cases same
      | _ => cases same
    | _ => simp [Row.references] at refers

/-- What the deletion of an organization leaves of its tokens. -/
theorem orphaned_of_dissolved {id : ℕ} (traced : Traced db)
    (deleted : db.delete (.organization id) = .ok db')
    (isAccount : Row.serviceAccount account ∈ db.rows) (inOrganization : account.organization = id)
    (isToken : Row.authToken token ∈ db.rows) (login : token.user = account.user) :
    Orphaned db' token where
  works := by
    refine (Database.mem_of_delete deleted).mpr ⟨isToken, fun falls => ?_⟩
    rcases (falls_authToken_iff isToken).mp falls with same | same <;> cases same
  unmanned := by
    intro other after sameUser
    obtain ⟨isOther, stays⟩ := (Database.mem_of_delete deleted).mp after
    obtain rfl := eq_of_user isOther isAccount (sameUser.trans login)
    exact stays ((falls_serviceAccount_iff isOther).mpr (.inr (.inl (inOrganization ▸ rfl))))
  unlisted := by
    rintro ⟨named, after, sameDigest⟩
    obtain ⟨isNamed, stays⟩ := (Database.mem_of_delete deleted).mp after
    obtain ⟨other, isOther, otherId⟩ := exists_named_account isNamed
    have otherLogin := traced.wired named token other isNamed isToken isOther otherId sameDigest.symm
    obtain rfl := eq_of_user isOther isAccount (otherLogin.symm.trans login)
    refine stays ((falls_named_iff isNamed).mpr (.inr (.inl ?_)))
    rw [← otherId]
    exact (falls_serviceAccount_iff isOther).mpr (.inr (.inl (inOrganization ▸ rfl)))

/-- **The tokens of a deleted organization.**  An organization with a document is not
deleted.  If one without is, each token of its accounts goes on authenticating its login
whenever it is accepted, and the login has no account any more, and no page lists the
token.  That stays so until the login is deleted or the token removed. -/
theorem deleted_organization_leaves_logins (accepts : AuthToken → User → Bool)
    (authenticate : Store → String → Option User) (knox : Knox accepts authenticate)
    (hashToken : String → String) (settings : LimitSettings)
    (before later : List Action) (account : ServiceAccount) (token : AuthToken)
    (isAccount : Row.serviceAccount account ∈ (history hashToken settings before).rows)
    (isToken : Row.authToken token ∈ (history hashToken settings before).rows)
    (login : token.user = account.user)
    (keeps : ∀ action ∈ later, action ≠ .deleteUser token.user ∧ action ≠ .expire token.digest) :
    (HasDocuments (history hashToken settings before) account.organization →
      history hashToken settings (before ++ [.deleteOrganization account.organization]) =
        history hashToken settings before) ∧
    (¬ HasDocuments (history hashToken settings before) account.organization →
      ∃ user, authenticate (history hashToken settings
          (before ++ .deleteOrganization account.organization :: later)) token.digest =
            (if accepts token user then some user else none) ∧
        user.id = account.user ∧
        ServiceAccount.forUser (history hashToken settings
          (before ++ .deleteOrganization account.organization :: later)) user.id = none ∧
        ¬ Listed (history hashToken settings
          (before ++ .deleteOrganization account.organization :: later)) token.digest) := by
  constructor
  · intro documents
    rw [history_append_cons]
    -- A deletion that the documents protect against fails and is rolled back.
    rcases commit_cases (perform hashToken settings) (history hashToken settings before)
      (.deleteOrganization account.organization) with same | ⟨_, done⟩
    · exact same
    · exact absurd documents ((deleteOrganization_iff _ _).mp ⟨_, of_statement done⟩)
  · intro none
    obtain ⟨db', deleted⟩ := (deleteOrganization_iff _ _).mpr none
    have succeeded : (perform hashToken settings (.deleteOrganization account.organization)).run
        (history hashToken settings before) = .ok ((), db') := by
      show (match Database.delete _ _ with
        | .ok db' => Except.ok ((), db')
        | .error why => .error (.refused why) : Except AccountExn (Unit × Store)) = _
      rw [deleted]
    rw [history_append_cons, commit_of_ok succeeded]
    -- What the deletion leaves behind is an invariant of all later actions but the two.
    have orphaned : Orphaned (run (perform hashToken settings) db' later) token := by
      refine run_induction_of_mem (P := fun db : Store => Orphaned db token)
        (orphaned_of_dissolved (traced_history _ _ before) deleted isAccount rfl isToken login) ?_
      intro action member db db' _ orphaned done
      exact (done_of_perform done).orphaned orphaned (keeps action member).1 (keeps action member).2
    obtain ⟨user, isUser, sameUser⟩ := exists_token_user orphaned.works
    exact ⟨user, knox.eq_of_mem orphaned.works isUser sameUser, sameUser.trans login,
      sameUser ▸ forUser_eq_none_iff.mpr orphaned.unmanned, orphaned.unlisted⟩

/-- The organization of the two tokens is deleted.  No page of its accounts stops the first of
them, and it is accepted. -/
theorem deleted_organization_leaves_logins_two_tokens :
    ∃ user, lookUp onTime (history id ⟨5, 100⟩ (twoTokens ++
        [.deleteOrganization 1, .revokeTokens [20, 21], .deleteAccount 10])) "t1" = some user ∧
      user.id = 7 ∧
      ServiceAccount.forUser (history id ⟨5, 100⟩ (twoTokens ++
        [.deleteOrganization 1, .revokeTokens [20, 21], .deleteAccount 10])) user.id = none ∧
      ¬ Listed (history id ⟨5, 100⟩ (twoTokens ++
        [.deleteOrganization 1, .revokeTokens [20, 21], .deleteAccount 10])) "t1" := by
  refine (deleted_organization_leaves_logins onTime _ (knox_lookUp onTime) id ⟨5, 100⟩ twoTokens
    [.revokeTokens [20, 21], .deleteAccount 10] (addedAccount oneForm firstDraw) ⟨"t1", 7⟩
    ?_ ?_ rfl ?_).2 ?_
  · rw [rows_twoTokens]
    decide
  · rw [rows_twoTokens]
    decide
  · decide
  · rintro ⟨document, account, isDocument, -, -⟩
    rw [rows_twoTokens] at isDocument
    simp at isDocument

end DicePipeline.Accounts
