import DicePipeline.Accounts.Credentials

/-!
# The columns of an account

A save names the columns it writes, so two saves of one account that overlap lose
nothing of each other: every column is as the last save that named it left it
(`last_save_stays`).  The page of an account does not name the webhook secret, so
only `regenerate_webhook_secret` replaces one.

`limits_stay_readable` is about the limit columns.  A save checks the row it has
loaded, not the row it writes to, and the check of the database does not look at
the words of the period.  Together they leave no account whose limits raise.
-/

namespace DicePipeline.Accounts

open Relational

variable {hashToken : String → String} {settings : LimitSettings}
variable {db db' : Store} {action : Action} {account : ServiceAccount} {column : Column}

/-- The action is for saving this content in a column of the account. -/
def Names (id : ℕ) (column : Column) (content : Content) : Action → Prop
  | .add form _ drawn => drawn.account = id ∧ (addedAccount form drawn).get column = content
  | .edit loaded form => loaded.id = id ∧ column ∈ ServiceAccountAdmin.changedData loaded form ∧
      (ServiceAccountAdmin.posted loaded form).get column = content
  | .regenerateWebhookSecret loaded secret =>
      loaded.id = id ∧ column = .webhookSecret ∧ .text secret = content
  | _ => False

/-- The rows of accounts that were there stay as they are. -/
theorem column_of_subset (after : Row.serviceAccount account ∈ db'.rows)
    (fewer : Row.serviceAccount account ∈ db'.rows → Row.serviceAccount account ∈ db.rows)
    (other : ∀ content, ¬ Names account.id column content action) :
    Names account.id column (account.get column) action ∨
      (∀ content, ¬ Names account.id column content action) ∧
        ∃ old, Row.serviceAccount old ∈ db.rows ∧ old.id = account.id ∧
          account.get column = old.get column :=
  .inr ⟨other, account, fewer after, rfl, rfl⟩

/-- A column is as the action saved it, or as it was. -/
theorem Done.column_cases (done : Done hashToken db db' action)
    (after : Row.serviceAccount account ∈ db'.rows) (column : Column) :
    Names account.id column (account.get column) action ∨
      (∀ content, ¬ Names account.id column content action) ∧
        ∃ old, Row.serviceAccount old ∈ db.rows ∧ old.id = account.id ∧
          account.get column = old.get column := by
  cases done with
  | @add form tokenName drawn _ rows _ newAccount _ =>
    rcases List.mem_append.mp (rows ▸ after) with new | old
    · have isNew : account = addedAccount form drawn := by
        simpa [mem_createdRows, mem_tokenRows] using new
      subst isNew
      exact .inl ⟨rfl, rfl⟩
    · refine .inr ⟨?_, account, old, rfl, rfl⟩
      rintro content ⟨same, -⟩
      exact newAccount _ old (congrArg Key.serviceAccount same.symm)
  -- Of the writes, only these two name columns: the page of an account those that were
  -- changed on it, the action of the secret that one.
  | @edit loaded form _ saved =>
    obtain ⟨old, isOld, sameId, columnwise⟩ := saved.account_cases after
    by_cases named : account.id = loaded.id ∧
        column ∈ ServiceAccountAdmin.changedData loaded form
    · exact .inl ⟨named.1.symm, named.2, ((columnwise column).trans (if_pos named)).symm⟩
    · refine .inr ⟨?_, old, isOld, sameId, (columnwise column).trans (if_neg named)⟩
      rintro content ⟨isLoaded, changed, -⟩
      exact named ⟨isLoaded.symm, changed⟩
  | @regenerateWebhookSecret loaded secret saved =>
    obtain ⟨old, isOld, sameId, columnwise⟩ := saved.account_cases after
    by_cases named : account.id = loaded.id ∧ column ∈ [Column.webhookSecret]
    · have isSecret := List.mem_singleton.mp named.2
      refine .inl ⟨named.1.symm, isSecret, ?_⟩
      rw [columnwise column, if_pos named, isSecret]
      rfl
    · refine .inr ⟨?_, old, isOld, sameId, (columnwise column).trans (if_neg named)⟩
      rintro content ⟨isLoaded, isSecret, -⟩
      exact named ⟨isLoaded.symm, List.mem_singleton.mpr isSecret⟩
  -- Every other action adds rows, deletes rows or writes rows of other kinds, so an account
  -- that is there afterwards was there before with the same columns.
  | @editNothing loaded form nothing same =>
    refine column_of_subset after (fun inRows => same ▸ inRows) ?_
    rintro content ⟨-, changed, -⟩
    rw [nothing] at changed
    cases changed
  | issueToken _ rows _ =>
    refine column_of_subset after (fun inRows => ?_) fun _ => id
    rcases List.mem_append.mp (rows ▸ inRows) with new | old
    · rcases mem_tokenRows.mp new with same | same <;> cases same
    · exact old
  | addOrganization rows =>
    exact column_of_subset after (fun inRows => by simpa [rows] using inRows) fun _ => id
  | renameOrganization rows =>
    refine column_of_subset after (fun inRows => ?_) fun _ => id
    rw [rows, Database.mem_replaced] at inRows
    simpa [Row.key] using inRows
  | addUser rows _ =>
    exact column_of_subset after (fun inRows => by simpa [rows] using inRows) fun _ => id
  | changeUser rows =>
    refine column_of_subset after (fun inRows => ?_) fun _ => id
    rw [rows, Database.mem_replaced] at inRows
    simpa [Row.key] using inRows
  | submit rows =>
    exact column_of_subset after (fun inRows => by simpa [rows] using inRows) fun _ => id
  | deleteOrganization deleted =>
    exact column_of_subset after (fun inRows => ((Database.mem_of_delete deleted).mp inRows).1)
      fun _ => id
  | deleteUser deleted =>
    exact column_of_subset after (fun inRows => ((Database.mem_of_delete deleted).mp inRows).1)
      fun _ => id
  | deleteAccount _ _ deleted =>
    exact column_of_subset after (fun inRows => ((Database.mem_of_delete deleted).mp inRows).1)
      fun _ => id
  | removeDocument deleted =>
    exact column_of_subset after (fun inRows => ((Database.mem_of_delete deleted).mp inRows).1)
      fun _ => id
  | revokeToken _ _ rows =>
    exact column_of_subset after (fun inRows => ((rows _).mp inRows).1) fun _ => id
  | revokeTokens rows =>
    exact column_of_subset after (fun inRows => ((rows _).mp inRows).1) fun _ => id
  | expire rows =>
    exact column_of_subset after (fun inRows => ((rows _).mp inRows).1) fun _ => id

/-- The page of an account has no field for its secret. -/
theorem webhookSecret_not_mem_changedData (loaded : ServiceAccount) (form : Posted) :
    .webhookSecret ∉ ServiceAccountAdmin.changedData loaded form := by
  intro member
  have onForm := List.mem_of_mem_filter member
  simp [ServiceAccountAdmin.formFields, ServiceAccountAdmin.getReadonlyFields] at onForm

/-! ## The last save -/

/-- The action succeeds, and saves this content in a column of the account. -/
def Saves (hashToken : String → String) (settings : LimitSettings) (db : Store) (id : ℕ)
    (column : Column) (content : Content) (action : Action) : Prop :=
  ((perform hashToken settings action).run db).isOk = true ∧ Names id column content action

/-- After an action, a column is as it saved it, or as it was. -/
theorem column_commit (after : Row.serviceAccount account ∈
    (commit (perform hashToken settings) db action).rows) (column : Column) :
    Saves hashToken settings db account.id column (account.get column) action ∨
      (∀ content, ¬ Saves hashToken settings db account.id column content action) ∧
        ∃ old, Row.serviceAccount old ∈ db.rows ∧ old.id = account.id ∧
          account.get column = old.get column := by
  cases succeeded : (perform hashToken settings action).run db with
  | error why =>
    refine .inr ⟨?_, account, ?_, rfl, rfl⟩
    · rintro content ⟨isOk, -⟩
      rw [succeeded] at isOk
      cases isOk
    · unfold commit at after
      rw [succeeded] at after
      exact after
  | ok pair =>
    rw [commit_of_ok succeeded] at after
    have isOk : ((perform hashToken settings action).run db).isOk = true := by
      rw [succeeded]
      rfl
    rcases (done_of_perform succeeded).column_cases after column with names | ⟨none, old⟩
    · exact .inl ⟨isOk, names⟩
    · exact .inr ⟨fun content saves => none content saves.2, old⟩

/-- **No save is lost.**  In every run, each column of an account is as the last save
left it that succeeded and named the column.  For the webhook secret, that is never
the account's page, however old the row that the page had loaded. -/
theorem last_save_stays (hashToken : String → String) (settings : LimitSettings)
    (actions : List Action) (account : ServiceAccount)
    (inRows : Row.serviceAccount account ∈ (history hashToken settings actions).rows)
    (column : Column) :
    ∃ before action later, actions = before ++ action :: later ∧
      Saves hashToken settings (history hashToken settings before) account.id column
        (account.get column) action ∧
      (column = .webhookSecret → ∀ loaded form, action ≠ .edit loaded form) ∧
      ∀ middle other rest, later = middle ++ other :: rest → ∀ content,
        ¬ Saves hashToken settings (history hashToken settings (before ++ action :: middle))
          account.id column content other := by
  induction actions using List.reverseRecOn generalizing account with
  | nil => exact absurd inRows List.not_mem_nil
  | append_singleton actions last ih =>
    rw [history_append_cons] at inRows
    rcases column_commit inRows column with saves | ⟨none, old, isOld, sameId, sameContent⟩
    · refine ⟨actions, last, [], rfl, saves, ?_, ?_⟩
      · rintro rfl loaded form rfl
        exact webhookSecret_not_mem_changedData loaded form saves.2.2.1
      · intro middle other rest isSplit
        exact absurd isSplit.symm (by simp)
    · obtain ⟨before, action, later, rfl, saves, isSecret, isLast⟩ := ih old isOld
      rw [sameId, ← sameContent] at saves
      refine ⟨before, action, later ++ [last], by simp, saves, isSecret, ?_⟩
      intro middle other rest isSplit content
      rcases List.eq_nil_or_concat rest with rfl | ⟨rest', final, rfl⟩
      · -- The last action of the run names another column.
        obtain ⟨rfl, isOther⟩ := List.append_inj' isSplit rfl
        obtain rfl : last = other := by simpa using isOther
        exact none content
      · rw [List.concat_eq_append, ← List.cons_append, ← List.append_assoc] at isSplit
        obtain ⟨isLater, -⟩ := List.append_inj' isSplit rfl
        rw [← sameId]
        exact isLast middle other rest' isLater content

/-- A page that was loaded before the secret was replaced is saved after it. -/
theorem last_save_stays_stale_page :
    ∃ before action later, twoTokens ++
        [.regenerateWebhookSecret (addedAccount oneForm firstDraw) "new",
          .edit (addedAccount oneForm firstDraw) { oneForm with maxInFlight := some 7 }] =
          before ++ action :: later ∧
      Saves id ⟨5, 100⟩ (history id ⟨5, 100⟩ before) 10 .webhookSecret (.text "new") action := by
  obtain ⟨before, action, later, isSplit, saves, -, -⟩ := last_save_stays id ⟨5, 100⟩
    (twoTokens ++ [.regenerateWebhookSecret (addedAccount oneForm firstDraw) "new",
      .edit (addedAccount oneForm firstDraw) { oneForm with maxInFlight := some 7 }])
    { addedAccount oneForm firstDraw with maxInFlight := some 7, webhookSecret := "new" }
    (by decide +kernel) .webhookSecret
  exact ⟨before, action, later, isSplit, saves⟩

/-! ## Limits -/

/-- The period is one of the choices, or empty. -/
def Worded (db : Store) : Prop :=
  ∀ account, Row.serviceAccount account ∈ db.rows → cleanPeriod account.rateLimitPeriod = true

theorem cleanPeriod_of_validate {limits : Limits} (valid : limits.validate = true) :
    cleanPeriod limits.rateLimitPeriod = true := by
  unfold Limits.validate at valid
  simp only [Bool.and_eq_true] at valid
  exact valid.1.2

/-- What is saved in the period was checked. -/
theorem Done.worded (done : Done hashToken db db' action) (worded : Worded db) : Worded db' := by
  intro account after
  rcases done.column_cases after .rateLimitPeriod with names | ⟨-, old, isOld, -, same⟩
  · cases done with
    | add valid _ _ _ _ =>
      rw [← Content.choice.inj names.2]
      exact cleanPeriod_of_validate valid
    | edit valid _ =>
      rw [← Content.choice.inj names.2.2]
      exact cleanPeriod_of_validate valid
    | editNothing nothing _ =>
      have changed := names.2.1
      rw [nothing] at changed
      cases changed
    | regenerateWebhookSecret _ => cases names.2.1
    | _ => exact names.elim
  · rw [Content.choice.inj same]
    exact worded old isOld

theorem worded_history (hashToken : String → String) (settings : LimitSettings)
    (actions : List Action) : Worded (history hashToken settings actions) :=
  run_induction (P := Worded) (fun _ inRows => absurd inRows List.not_mem_nil)
    fun _ _ _ _ worded done => (done_of_perform done).worded worded

/-- The limits that the views and the account list read. -/
structure Readable (account : ServiceAccount) (cap count : ℤ) (period : String) : Prop where
  cap_nonneg : 0 ≤ cap
  cap_le : cap ≤ maxInteger
  count_nonneg : 0 ≤ count
  count_le : count ≤ maxInteger
  inFlightCap : account.inFlightCap = .ok (some cap)
  rateLimit : account.rateLimit = .ok (some (toString count ++ "/" ++ period))
  /-- The period is a choice, and the views count over it; or it is empty. -/
  period : period = "" ∨ ∃ choice, periodValue choice = period ∧
    limitFor account.limited = .ok (some
      { account := account.id, numRequests := count.toNat, duration := choice.duration })

theorem exists_choice {period : String} (clean : cleanPeriod (some period) = true) :
    period = "" ∨ ∃ choice, periodValue choice = period ∧
      ([RateLimitPeriod.second, .minute, .hour, .day].find? fun any => periodValue any = period) =
        some choice := by
  rw [cleanPeriod, Bool.or_eq_true, beq_iff_eq, List.contains_iff_mem] at clean
  refine clean.imp_right fun member => ?_
  obtain ⟨choice, -, rfl⟩ := List.mem_map.mp member
  refine ⟨choice, rfl, ?_⟩
  cases choice <;> decide

/-- **Limits can be read.**  In every run, an account without limits reads as such, and
every other account has limits in range. -/
theorem limits_stay_readable (hashToken : String → String) (settings : LimitSettings)
    (actions : List Action) :
    ∀ account, Row.serviceAccount account ∈ (history hashToken settings actions).rows →
      (account.unlimited = true ∧ account.inFlightCap = .ok none ∧ account.rateLimit = .ok none ∧
        limitFor account.limited = .ok none) ∨
      ∃ cap count period, Readable account cap count period := by
  intro account inRows
  have fits := (history hashToken settings actions).fits _ inRows
  have checks := (history hashToken settings actions).checks _ inRows
  have clean := worded_history hashToken settings actions account inRows
  obtain ⟨⟨unlimited, maxInFlight, rateLimitCount, rateLimitPeriod⟩, id, organization, name, user,
    secret⟩ := account
  cases unlimited with
  | true => exact .inl ⟨rfl, rfl, rfl, rfl⟩
  | false =>
    refine .inr ?_
    simp only [schema, Row.checks, Limits.areSet, Bool.false_or, Bool.and_eq_true,
      decide_eq_true_eq] at checks
    simp only [schema, Row.fits, Bool.and_eq_true, decide_eq_true_eq] at fits
    obtain ⟨⟨capNonneg, countNonneg⟩, ⟨hasCap, hasCount⟩, hasPeriod⟩ := checks
    obtain ⟨cap, rfl⟩ := Option.isSome_iff_exists.mp hasCap
    obtain ⟨count, rfl⟩ := Option.isSome_iff_exists.mp hasCount
    obtain ⟨period, rfl⟩ := Option.isSome_iff_exists.mp hasPeriod
    simp only [fitsInteger, Bool.and_eq_true, decide_eq_true_eq] at fits
    obtain ⟨⟨⟨-, -, capFits⟩, -, countFits⟩, -⟩ := fits
    refine ⟨cap, count, period, capNonneg, capFits, countNonneg, countFits, rfl, rfl, ?_⟩
    refine (exists_choice clean).imp_right ?_
    rintro ⟨choice, isPeriod, found⟩
    refine ⟨choice, isPeriod, ?_⟩
    unfold limitFor ServiceAccount.limited DicePipeline.ServiceAccount.rateLimit
    simp only [Bool.false_eq_true, if_false, Option.map_some, Option.bind_some, found]
    rfl

/-- The limits of the account with two tokens can be read. -/
theorem limits_stay_readable_two_tokens :
    ∃ cap count period, Readable (addedAccount oneForm firstDraw) cap count period := by
  rcases limits_stay_readable id ⟨5, 100⟩ twoTokens (addedAccount oneForm firstDraw)
    (by rw [rows_twoTokens]; decide) with ⟨unlimited, -⟩ | readable
  · exact absurd unlimited (by decide)
  · exact readable

end DicePipeline.Accounts
