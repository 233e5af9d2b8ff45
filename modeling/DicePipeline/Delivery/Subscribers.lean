import DicePipeline.Delivery.Statements
import DicePipeline.Submission.Current
import DicePipeline.Tenancy.Directories
import DicePipeline.Tenancy.Subscriptions

/-!
# Who is told what

A notification is put together from a callback, its attempt and the verdicts on it, and
a poll from the newest attempt at a document and its verdicts.  Each is read by
statements of its own, and what they read is written by submits and runs that go on
meanwhile.

`Gathered` is what a task or a view has read.  What it has read stays true
(`Gathered.Fits`), because callbacks, verdicts and the columns that identify an attempt
are never rewritten.  So a delivery goes where an account of the attempt has asked for
it (`deliveries_to_subscribers`), and no two descriptions of one attempt, in a webhook or
in a poll, contradict each other (`descriptions_agree`).
-/

namespace DicePipeline

open Interaction Program

/-- What a task or a view has read. -/
structure Gathered where
  callback : Option (RemediationCallback × String)
  row : Option Remediation
  results : Option (List VerificationResultData)

namespace Gathered

/-- Nothing yet. -/
def nothing : Gathered := ⟨none, none, none⟩

/-- Moves on by one answer. -/
def after (x : Gathered) : (op : ServiceOp) → Except ServiceExn op.Ans → Gathered
  | .getCallback _, .ok read => ⟨some (Prod.fst read, Prod.snd (Prod.snd read)),
      some (Prod.fst (Prod.snd read)), none⟩
  | .latestForDocument _ _, .ok found => ⟨none, found, none⟩
  | .verificationResults _, .ok results => { x with results := some results }
  | _, _ => x

/-- The verdicts that are read are those on the attempt that has been read, a notification
describes that attempt to that callback, and a file that is opened is its output. -/
def Permits (webhooks : WebhookSettings) (role : ServiceRole) (x : Gathered) : ServiceOp → Prop
  | .verificationResults id => ∃ row, x.row = some row ∧ row.id = id
  | .notify task callbackUrl secret payload => ∃ callback row results,
      x.callback = some (callback, secret) ∧ x.row = some row ∧ x.results = some results ∧
        task.callback = callback.id ∧ callbackUrl = callback.callbackUrl ∧
          payload = .of webhooks row results
  | .storageOpen uri => ∃ account contentHash row, role = .download account contentHash ∧
      x.row = some row ∧ row.isFor account.id contentHash = true ∧
        uri = row.finalOutputUri ∧ uri ≠ .blank
  | _ => True

/-- What a reply describes has been read, and is the document that was asked for. -/
def Replies (webhooks : WebhookSettings) (x : Gathered) : ServiceRole → Except ServiceExn Reply → Prop
  | .status account contentHash, .ok (.status data) => ∃ row results,
      x.row = some row ∧ x.results = some results ∧
        row.isFor account.id contentHash = true ∧ data = RemediationSerializer.data webhooks row results
  | .status _ _, .ok (.file _ _) => False
  | .download account contentHash, .ok (.file _ _) => ∃ row,
      x.row = some row ∧ row.isFor account.id contentHash = true
  | .download _ _, .ok (.status _) => False
  | .notify _, .ok (.status _) => False
  | .notify _, .ok (.file _ _) => False
  | _, _ => True

end Gathered

section Programs

variable {webhooks : WebhookSettings} {role : ServiceRole} {x : Gathered}

/-- Programs that tell what they have read. -/
abbrev Gathers (webhooks : WebhookSettings) (role : ServiceRole) (p : ServicePy Reply)
    (x : Gathered) : Prop :=
  p.Tracks Gathered.after ServiceOp.answered (Gathered.Permits webhooks role)
    (fun y result => y.Replies webhooks role result) x

private theorem retryLater_gathers (task : Notification) (error : NotifyError) :
    Gathers webhooks (.notify task) (retryLater webhooks task error) x := by
  unfold retryLater
  split
  · trivial
  · split
    · refine ⟨trivial, fun answer _ => ?_⟩
      cases answer with
      | error exc => trivial
      | ok now =>
          refine ⟨trivial, fun answer _ => ?_⟩
          cases answer <;> trivial
    · refine ⟨trivial, fun answer _ => ?_⟩
      cases answer <;> trivial

/-- **A notification tells its callback of its attempt.** -/
private theorem sendWebhookNotification_gathers (task : Notification) :
    Gathers webhooks (.notify task) (sendWebhookNotification webhooks task) .nothing := by
  refine ⟨trivial, fun answer promised => ?_⟩
  cases answer with
  | error exc => trivial
  | ok read =>
      obtain ⟨isTask, -⟩ := promised
      refine ⟨⟨read.2.1, rfl, rfl⟩, fun answer _ => ?_⟩
      cases answer with
      | error exc => trivial
      | ok results =>
          refine ⟨⟨read.1, read.2.1, results, rfl, rfl, rfl, isTask.symm, rfl, rfl⟩, ?_⟩
          intro answer promised
          cases answer with
          | ok _ => trivial
          | error exc =>
              obtain ⟨error, rfl⟩ := promised
              cases error with
              | webhookDelivery message => exact retryLater_gathers task _
              | raised error => trivial

private theorem status_gathers (account : ServiceAccount) (contentHash : String) :
    Gathers webhooks (.status account contentHash)
      (DocumentStatusView.get webhooks account contentHash) .nothing := by
  unfold DocumentStatusView.get
  split
  · trivial
  · refine ⟨trivial, fun answer promised => ?_⟩
    cases answer with
    | error exc => trivial
    | ok found =>
        cases found with
        | none => trivial
        | some row =>
            refine ⟨⟨row, rfl, rfl⟩, fun answer _ => ?_⟩
            cases answer with
            | error exc => trivial
            | ok results => exact ⟨row, results, rfl, rfl, promised row rfl, rfl⟩

private theorem download_gathers (account : ServiceAccount) (contentHash : String) :
    Gathers webhooks (.download account contentHash)
      (DocumentDownloadView.get account contentHash) .nothing := by
  unfold DocumentDownloadView.get
  split
  · trivial
  · refine ⟨trivial, fun answer promised => ?_⟩
    cases answer with
    | error exc => trivial
    | ok found =>
        cases found with
        | none => trivial
        | some row =>
            refine Tracks.ite (fun output => ?_) fun _ => trivial
            refine ⟨⟨account, contentHash, row, rfl, rfl, promised row rfl, rfl,
              of_decide_eq_true output⟩, fun answer _ => ?_⟩
            cases answer with
            | error exc => trivial
            | ok bytes => exact ⟨row, rfl, promised row rfl⟩

theorem role_gathers (webhooks : WebhookSettings) (role : ServiceRole) :
    Gathers webhooks role (role.program webhooks) .nothing := by
  cases role with
  | notify task => exact sendWebhookNotification_gathers task
  | status account contentHash => exact status_gathers account contentHash
  | download account contentHash => exact download_gathers account contentHash

end Programs

/-! ## What lasts -/

/-- The columns of an attempt that no statement rewrites. -/
def Remediation.identity (row : Remediation) : ℕ × ℕ × Uri × String × String × String × ℕ :=
  (row.id, row.serviceAccount, row.sourcePdfUri, row.contentHash, row.originalFilename,
    row.pipelineVersion, row.createdAt)

theorem Remediation.isFor_of_identity {row row' : Remediation}
    (same : row'.identity = row.identity) (account : ℕ) (contentHash : String) :
    row'.isFor account contentHash = row.isFor account contentHash := by
  simp only [identity, Prod.mk.injEq] at same
  simp only [isFor, same]

/-- The attempt is in the table, whatever has been written on it since. -/
def Store.Keeps (s : Store) (row : Remediation) : Prop :=
  ∃ now, s.row row.id = some now ∧ now.identity = row.identity

/-- The verdicts are in the table. -/
def Store.Judges (s : Store) (id : ℕ) (results : List VerificationResultData) : Prop :=
  ∀ data ∈ results, ∃ result, s.results id data.step = some result ∧
    data = VerificationResultSerializer.data data.step result

/-- What the pipeline never takes back. -/
structure Lasts (c c' : Cluster) : Prop where
  callbacks : c.store.callbacks ⊆ c'.store.callbacks
  started : ∀ i role, .started i role ∈ c.history → .started i role ∈ c'.history
  rows : ∀ row, c.store.Keeps row → c'.store.Keeps row
  results : ∀ id results, c.store.Judges id results → c'.store.Judges id results

theorem Effect.keeps {i : ℕ} {op : Op} {s t : Store} (effect : Effect i s op t) {row : Remediation}
    (kept : s.Keeps row) : t.Keeps row := by
  obtain ⟨now, found, same⟩ := kept
  rcases effect.row found with ⟨fields, -, later⟩ | ⟨enqueued, later⟩
  · exact ⟨_, later, same⟩
  · exact ⟨_, later, same⟩

theorem Effect.judges {i : ℕ} {op : Op} {s t : Store} (effect : Effect i s op t) {id : ℕ}
    {results : List VerificationResultData} (judged : s.Judges id results) : t.Judges id results := by
  have kept : ∀ step result, s.results id step = some result → t.results id step = some result := by
    intro step result stored
    cases effect with
    | @judged other step' result' missing =>
        by_cases same : id = other
        · subst same
          have different : step ≠ step' := by
            rintro rfl
            rw [missing] at stored
            cases stored
          simpa [different] using stored
        · simpa [same] using stored
    | _ => exact stored
  intro data member
  obtain ⟨result, stored, isData⟩ := judged data member
  exact ⟨result, kept _ _ stored, isData⟩

/-- **One choice of the pipeline takes nothing back.** -/
theorem next_lasts {settings : Settings} {acceptsUrl : String → Bool} {c c' : Cluster}
    {choice : Choice} (moved : (system settings acceptsUrl).next c choice = some c') :
    Lasts c c' := by
  cases choice with
  | spawn role =>
      obtain ⟨body, -, rfl⟩ := Machine.next_spawn_eq moved
      refine ⟨?_, fun i role started => ?_, ?_, ?_⟩
      · rw [Config.place_store]
        exact List.Subset.refl _
      · exact Config.mem_place_history _ _ _ _ (List.mem_cons_of_mem _ started)
      · rw [Config.place_store]
        exact fun row kept => kept
      · rw [Config.place_store]
        exact fun id results judged => judged
  | step i world =>
      obtain ⟨thread, answer, t, -, executed, rfl⟩ := step_eq moved
      have effect := execute_effect executed
      refine ⟨?_, fun i role started => mem_stepped_history started, ?_, ?_⟩
      · rw [stepped_store]
        rcases effect.callbacks_or with same | ⟨new, same⟩
        · rw [same]
          exact List.Subset.refl _
        · rw [same]
          exact List.subset_append_left _ _
      · rw [stepped_store]
        exact fun row kept => effect.keeps kept
      · rw [stepped_store]
        exact fun id results judged => effect.judges judged
  | kill i =>
      obtain ⟨victim, -, rfl⟩ := Machine.next_kill_eq moved
      have effect : Effect i c.store .rollback (c.store.endTransaction i false) := .rolledBack
      exact ⟨List.Subset.refl _, fun i role started => List.mem_cons_of_mem _ started,
        fun row kept => effect.keeps kept, fun id results judged => effect.judges judged⟩
  | env elapsed =>
      obtain rfl := Machine.next_env_eq moved
      exact ⟨List.Subset.refl _, fun _ _ started => started, fun _ kept => kept,
        fun _ _ judged => judged⟩

/-- The callback was asked for by the account of the attempt, at the document of the attempt,
and the secret is one of that account's. -/
structure Subscribes (settings : Settings) (acceptsUrl : String → Bool) (s : ServiceStore)
    (callback : RemediationCallback) (secret : String) (row : Remediation) : Prop where
  registered : callback ∈ s.cluster.store.callbacks
  own : callback.remediation = row.id
  secret : secret ∈ s.secrets row.serviceAccount
  asked : ∃ i account upload, .started i (.request account upload) ∈ s.cluster.history ∧
    callback.callbackUrl = upload.callbackUrl ∧ callback.callbackUrl ≠ "" ∧
      acceptsUrl callback.callbackUrl = true ∧
        row.isFor account.id (upload.contentHash settings) = true

/-- What a task or a view has read is so. -/
structure Gathered.Fits (settings : Settings) (acceptsUrl : String → Bool) (s : ServiceStore)
    (x : Gathered) : Prop where
  row : ∀ row, x.row = some row → s.cluster.store.Keeps row ∧ row.OwnsIfSet row.finalOutputUri
  results : ∀ results, x.results = some results →
    ∃ row, x.row = some row ∧ s.cluster.store.Judges row.id results
  callback : ∀ callback secret, x.callback = some (callback, secret) →
    ∃ row, x.row = some row ∧ Subscribes settings acceptsUrl s callback secret row

/-- **The delivery went to a callback and described its attempt.**  What it says is the payload
of a row and of verdicts.  The row is that of the attempt the callback is registered on, as
a statement has read it: the columns that identify an attempt are those in the table
(`Store.Keeps`), and its status, error and output may have been written since.  Each verdict
is one in the table, on that attempt (`Store.Judges`). -/
def Delivery.Describes (settings : Settings) (acceptsUrl : String → Bool)
    (webhooks : WebhookSettings) (s : ServiceStore) (delivery : Delivery) : Prop :=
  ∃ callback secret row results, Subscribes settings acceptsUrl s callback secret row ∧
    s.cluster.store.Keeps row ∧ s.cluster.store.Judges row.id results ∧
      delivery.task.callback = callback.id ∧ delivery.callbackUrl = callback.callbackUrl ∧
        delivery.payload = .of webhooks row results ∧
          delivery.signature = "sha256=" ++ webhooks.hmac secret delivery.payload

/-- Every delivery did, and every account has a secret. -/
structure Warranted (settings : Settings) (acceptsUrl : String → Bool) (webhooks : WebhookSettings)
    (s : ServiceStore) : Prop where
  secrets : ∀ account, s.secrets account ≠ []
  deliveries : ∀ delivery ∈ s.deliveries, delivery.Describes settings acceptsUrl webhooks s

section Steps

variable {settings : Settings} {acceptsUrl : String → Bool} {webhooks : WebhookSettings}
variable {i : ℕ} {op : ServiceOp} {s t : ServiceStore} {x : Gathered}
variable {answer : Except ServiceExn op.Ans} {role : ServiceRole}

/-- What was true before is true after, where the pipeline and the secrets only go on. -/
theorem Subscribes.later {callback : RemediationCallback} {secret : String} {row : Remediation}
    (subscribes : Subscribes settings acceptsUrl s callback secret row)
    (lasts : Lasts s.cluster t.cluster) (secrets : ∀ account, s.secrets account ⊆ t.secrets account) :
    Subscribes settings acceptsUrl t callback secret row where
  registered := lasts.callbacks subscribes.registered
  own := subscribes.own
  secret := secrets _ subscribes.secret
  asked := by
    obtain ⟨i, account, upload, started, asked⟩ := subscribes.asked
    exact ⟨i, account, upload, lasts.started i _ started, asked⟩

theorem Gathered.Fits.later (fits : x.Fits settings acceptsUrl s)
    (lasts : Lasts s.cluster t.cluster) (secrets : ∀ account, s.secrets account ⊆ t.secrets account) :
    x.Fits settings acceptsUrl t where
  row := fun row isRow => ⟨lasts.rows row (fits.row row isRow).1, (fits.row row isRow).2⟩
  results := by
    intro results isResults
    obtain ⟨row, isRow, judged⟩ := fits.results results isResults
    exact ⟨row, isRow, lasts.results _ _ judged⟩
  callback := by
    intro callback secret isCallback
    obtain ⟨row, isRow, subscribes⟩ := fits.callback callback secret isCallback
    exact ⟨row, isRow, subscribes.later lasts secrets⟩

theorem Delivery.Describes.later {delivery : Delivery}
    (describes : delivery.Describes settings acceptsUrl webhooks s)
    (lasts : Lasts s.cluster t.cluster) (secrets : ∀ account, s.secrets account ⊆ t.secrets account) :
    delivery.Describes settings acceptsUrl webhooks t := by
  obtain ⟨callback, secret, row, results, subscribes, kept, judged, rest⟩ := describes
  exact ⟨callback, secret, row, results, subscribes.later lasts secrets, lasts.rows row kept,
    lasts.results _ _ judged, rest⟩

theorem Lasts.refl (c : Cluster) : Lasts c c :=
  ⟨List.Subset.refl _, fun _ _ started => started, fun _ kept => kept, fun _ _ judged => judged⟩

/-- An operation leaves the pipeline and the secrets alone. -/
theorem ServiceEffect.lasts (effect : ServiceEffect webhooks i s op answer t) :
    Lasts s.cluster t.cluster ∧ ∀ account, s.secrets account ⊆ t.secrets account := by
  rw [effect.cluster.1, effect.cluster.2]
  exact ⟨.refl _, fun _ => List.Subset.refl _⟩

/-- A move of the environment only adds to them. -/
theorem ServiceStore.move_lasts (settings : Settings) (acceptsUrl : String → Bool)
    (move : ServiceMove) (s : ServiceStore) :
    Lasts s.cluster (s.move settings acceptsUrl move).cluster ∧
      (∀ account, s.secrets account ⊆ (s.move settings acceptsUrl move).secrets account) ∧
        (s.move settings acceptsUrl move).deliveries = s.deliveries := by
  rcases ServiceStore.move_cases settings acceptsUrl move s with
    ⟨choice, after, moved, same⟩ | ⟨account, secret, same⟩ | same
  · rw [same]
    exact ⟨next_lasts moved, fun _ => List.Subset.refl _, rfl⟩
  · rw [same]
    refine ⟨.refl _, fun other => ?_, rfl⟩
    by_cases mine : other = account
    · subst mine
      simp only [Function.update_self]
      exact List.subset_cons_self _ _
    · simp only [Function.update_of_ne mine]
      exact List.Subset.refl _
  · rw [same]
    exact ⟨.refl _, fun _ => List.Subset.refl _, rfl⟩

/-- A row of the table is kept. -/
theorem Store.keeps_of_row {s : Store} {id : ℕ} {row : Remediation} (found : s.row id = some row) :
    s.Keeps row := ⟨row, by rw [Store.row_id found]; exact found, rfl⟩

/-- What the query lists is in the table. -/
theorem Store.judges_verificationResults (s : Store) (id : ℕ) :
    s.Judges id (s.verificationResults id) := by
  intro data member
  obtain ⟨step, -, isData⟩ := List.mem_filterMap.mp member
  obtain ⟨result, stored, rfl⟩ := Option.map_eq_some_iff.mp isData
  exact ⟨result, stored, rfl⟩

/-- What a row of the tables is when it is read. -/
structure Sound (settings : Settings) (acceptsUrl : String → Bool) (c : Cluster) : Prop where
  filed : Filed c.store
  asked : ∀ callback ∈ c.store.callbacks, Asked settings acceptsUrl c callback

private theorem Sound.row (sound : Sound settings acceptsUrl s.cluster) {id : ℕ} {row : Remediation}
    (found : s.cluster.store.row id = some row) :
    s.cluster.store.Keeps row ∧ row.OwnsIfSet row.finalOutputUri :=
  ⟨Store.keeps_of_row found,
    sound.filed.final row (Store.mem_rows_of_mem (Store.row_mem found))⟩

/-- **What is answered is so.** -/
theorem Gathered.Fits.after (fits : x.Fits settings acceptsUrl s)
    (sound : Sound settings acceptsUrl s.cluster) (secrets : ∀ account, s.secrets account ≠ [])
    {surroundings : Surroundings}
    (executed : (service settings acceptsUrl webhooks).exec surroundings i op s = some (answer, t))
    (permitted : x.Permits webhooks role op) : (x.after op answer).Fits settings acceptsUrl t := by
  have effect := ServiceStore.execute_effect executed
  -- What was gathered before still fits: nothing in the store is taken back.
  have kept := fits.later effect.lasts.1 effect.lasts.2
  have pair := Option.some.inj executed
  cases answer with
  | error exc => cases op <;> exact kept
  | ok value =>
      unfold ServiceStore.execute at pair
      split at pair
      · exact absurd (congrArg Prod.fst pair) (by simp)
      cases op with
      -- The callback is fetched together with the row of its attempt and its account's secrets.
      | getCallback id =>
          simp only [ServiceStore.perform] at pair
          split at pair
          · exact absurd (congrArg Prod.fst pair) (by simp)
          split at pair
          · exact absurd (congrArg Prod.fst pair) (by simp)
          rename_i callback found _ row stored
          obtain ⟨same, rfl⟩ := Prod.mk.inj pair
          obtain rfl := Except.ok.inj same
          have member := List.mem_of_find?_eq_some found
          refine ⟨?_, fun _ impossible => (by cases impossible), ?_⟩
          · rintro _ ⟨⟩
            exact sound.row stored
          · rintro _ _ ⟨⟩
            -- A callback that is stored was asked for by the account of its attempt.
            obtain ⟨j, account, upload, started, isUrl, given, accepted, mine⟩ :=
              sound.asked callback member
            refine ⟨row, rfl, member, (Store.row_id stored).symm, ?_, j, account, upload, started,
              isUrl, given, accepted, ?_⟩
            · cases listed : s.secrets row.serviceAccount with
              | nil => exact absurd listed (secrets _)
              | cons newest older => exact List.mem_cons_self
            · exact mine row (Store.mem_rows_of_mem (Store.row_mem stored)) (Store.row_id stored)
      | latestForDocument account contentHash =>
          obtain ⟨same, rfl⟩ := Prod.mk.inj pair
          obtain rfl := Except.ok.inj same
          refine ⟨?_, fun _ impossible => (by cases impossible), fun _ _ impossible => (by cases impossible)⟩
          intro row found
          have member := (Store.latest_mem found).1
          exact sound.row (Store.row_of_mem sound.filed.keyed member)
      -- The verdicts are asked for of the row that was gathered, and are stored for it.
      | verificationResults id =>
          obtain ⟨same, rfl⟩ := Prod.mk.inj pair
          obtain rfl := Except.ok.inj same
          obtain ⟨row, isRow, rfl⟩ := permitted
          refine ⟨fits.row, ?_, fits.callback⟩
          rintro _ ⟨⟩
          exact ⟨row, isRow, Store.judges_verificationResults _ _⟩
      | _ => exact kept

/-- **What is sent is so.** -/
theorem Warranted.effect (told : Warranted settings acceptsUrl webhooks s) (fits : x.Fits settings acceptsUrl s)
    (effect : ServiceEffect webhooks i s op answer t) (permitted : x.Permits webhooks role op) :
    Warranted settings acceptsUrl webhooks t where
  secrets := by
    rw [effect.cluster.2]
    exact told.secrets
  deliveries := by
    obtain ⟨lasts, secrets⟩ := effect.lasts
    have kept : ∀ delivery ∈ s.deliveries, delivery.Describes settings acceptsUrl webhooks t :=
      fun delivery member => (told.deliveries delivery member).later lasts secrets
    cases effect with
    | @notified task callbackUrl secret payload delivery surroundings isDelivery =>
        refine List.forall_mem_cons.mpr ⟨?_, kept⟩
        obtain ⟨callback, row, results, isCallback, isRow, isResults, isTask, isUrl, isPayload⟩ :=
          permitted
        obtain ⟨row', isRow', subscribes⟩ := fits.callback callback secret isCallback
        obtain rfl := Option.some.inj (isRow.symm.trans isRow')
        obtain ⟨row', isRow', judged⟩ := fits.results results isResults
        obtain rfl := Option.some.inj (isRow.symm.trans isRow')
        refine ⟨callback, secret, row, results, subscribes.later lasts secrets, (fits.row row isRow).1,
          judged, ?_, ?_, ?_, ?_⟩
        · rw [isDelivery]; exact isTask
        · rw [isDelivery]; exact isUrl
        · rw [isDelivery]; exact isPayload
        · rw [isDelivery]; rfl
    | _ => exact kept

end Steps

/-! ## The runs -/

section Runs

variable {settings : Settings} {acceptsUrl : String → Bool} {webhooks : WebhookSettings}
variable {ok : ServiceCluster → ServiceChoice → Prop} {retryFloor : Option String}
variable {secret : ℕ → String} {c : ServiceCluster}

/-- What thread `i` has read. -/
def gathered (c : ServiceCluster) (i : ℕ) : Gathered :=
  Machine.observed (S := ServiceQuery) Gathered.after .nothing i c.history

private theorem gathered_tracked
    (reached : (service settings acceptsUrl webhooks).Reach ok (launched retryFloor secret) c) :
    Machine.Monitored (S := ServiceQuery) Gathered.after .nothing
      (fun role x body => body.Tracks Gathered.after ServiceOp.answered
        (Gathered.Permits webhooks role) (fun y result => y.Replies webhooks role result) x) c := by
  refine reached.tracked (S := ServiceQuery) Gathered.after .nothing ServiceOp.answered
    (fun role x op => Gathered.Permits webhooks role x op)
    (fun role x result => Gathered.Replies webhooks x role result) ?_ ?_
  · intro role s body started
    rw [(service_start_eq started).1]
    exact role_gathers webhooks role
  · exact fun _ _ _ _ _ _ executed => ServiceStore.execute_answered executed

theorem sound_reached
    (reached : (service settings acceptsUrl webhooks).Reach ok (launched retryFloor secret) c) :
    Sound settings acceptsUrl c.store.cluster :=
  ⟨filed_reached (cluster_reached reached), asked_reached (cluster_reached reached)⟩

/-- **Whatever has been read and sent is so.** -/
theorem told_reached
    (reached : (service settings acceptsUrl webhooks).Reach ok (launched retryFloor secret) c) :
    Warranted settings acceptsUrl webhooks c.store ∧
      ∀ i, (gathered c i).Fits settings acceptsUrl c.store := by
  refine reached.accompanied (S := ServiceQuery) Gathered.after .nothing
    (Warranted settings acceptsUrl webhooks) (fun s x => x.Fits settings acceptsUrl s) ?_ ?_ ?_ ?_ ?_ ?_
  · exact ⟨fun account => List.cons_ne_nil _ _, fun delivery impossible => by cases impossible⟩
  · exact ⟨fun _ impossible => (by cases impossible), fun _ impossible => (by cases impossible),
      fun _ _ impossible => (by cases impossible)⟩
  · intro c i world thread answer t before live _ executed told fits
    have permitted := ((gathered_tracked before).live i thread live).1
    exact ⟨told.effect fits (ServiceStore.execute_effect executed) permitted,
      fits.after (sound_reached before) told.secrets executed permitted⟩
  · intro c i world thread answer t x _ _ _ executed _ fits
    have lasts := (ServiceStore.execute_effect executed).lasts
    exact fits.later lasts.1 lasts.2
  · exact fun i s told => ⟨told, fun x fits => fits⟩
  · intro move s told
    obtain ⟨lasts, secrets, deliveries⟩ := ServiceStore.move_lasts settings acceptsUrl move s
    change Warranted settings acceptsUrl webhooks (s.move settings acceptsUrl move) ∧ _
    refine ⟨⟨fun account none => ?_, ?_⟩, fun x fits => fits.later lasts secrets⟩
    · refine told.secrets account (List.eq_nil_iff_forall_not_mem.mpr fun one member => ?_)
      have still := secrets account member
      rw [none] at still
      cases still
    · rw [deliveries]
      exact fun delivery member => (told.deliveries delivery member).later lasts secrets

/-- Two accounts submit the same file, one of them with a callback, and both attempts are run. -/
def bothRun : List ServiceChoice :=
  meanwhile ([.spawn (.request .noLimits .notifying)] ++ steps 0 10 ++
    [.spawn (.request { ServiceAccount.noLimits with id := 2 } .oneByte)] ++ steps 1 9 ++
    [.spawn (.run 0)] ++ steps 2 15)

/-- The subscriber is told, the first account polls, and is about to download. -/
def toldAndPolled : List ServiceChoice :=
  bothRun ++ [.spawn (.notify ⟨1, 1⟩)] ++ List.replicate 3 (.step 0 (.answering none)) ++
  [.spawn (.status .noLimits (Settings.stepsOff.sha256 []))] ++
  List.replicate 2 (.step 1 (.answering none)) ++
  [.spawn (.download .noLimits (Settings.stepsOff.sha256 []))] ++ [.step 2 (.answering none)]

/-- The event is a poll that was answered about that attempt. -/
def polled (id : ℕ) : Event ServiceQuery ServiceExn Reply ServiceRole → Bool
  | .returned _ (.status _ _) (.ok (.status data)) => data.id = id
  | _ => false

/-- A notification and a poll have described one attempt, and its file is about to be opened. -/
def describedTwice (c : ServiceCluster) : Bool :=
  c.store.deliveries.any (fun delivery => c.history.any (polled delivery.payload.remediationId)) &&
    (c.threads 2).any fun thread => match thread.op with
      | .storageOpen _ => true
      | _ => false

private theorem toldAndPolled_replay :
    ((service .stepsOff (fun _ => true) .default).replay (fun _ _ => true)
      (launched none fun _ => "s") toldAndPolled).any describedTwice = true := by
  decide +kernel

private theorem exists_toldAndPolled : ∃ c : ServiceCluster,
    (service .stepsOff (fun _ => true) .default).Reach (fun _ _ => True) (launched none fun _ => "s") c ∧
      describedTwice c = true := by
  obtain ⟨c, reached, checked⟩ := Machine.exists_reach_of_replay _ _ _ _ _ toldAndPolled_replay
  exact ⟨c, reached.mono fun _ _ _ => trivial, checked⟩

/-- **Deliveries go to subscribers only.**  In every run of the service, however submits,
runs of the pipeline, deliveries and changes of secrets overlap, a notification goes to
a URL that the account of an attempt has submitted with its document, under a secret of
that account, and what it says is put together from that attempt and from verdicts on it,
and from nothing else. -/
theorem deliveries_to_subscribers (settings : Settings) (acceptsUrl : String → Bool)
    (webhooks : WebhookSettings) (retryFloor : Option String) (secret : ℕ → String)
    (c : ServiceCluster)
    (reached : (service settings acceptsUrl webhooks).Reach (fun _ _ => True)
      (launched retryFloor secret) c) :
    ∀ delivery ∈ c.store.deliveries, delivery.Describes settings acceptsUrl webhooks c.store :=
  (told_reached reached).1.deliveries

/-- An instance: the subscriber of one of two accounts that submitted the same file. -/
theorem deliveries_to_subscribers_told : ∃ c : ServiceCluster, describedTwice c = true ∧
    ∀ delivery ∈ c.store.deliveries,
      delivery.Describes .stepsOff (fun _ => true) .default c.store := by
  obtain ⟨c, reached, checked⟩ := exists_toldAndPolled
  exact ⟨c, checked, deliveries_to_subscribers .stepsOff _ .default none _ c reached⟩

/-! ## Two descriptions of one attempt -/

/-- What a webhook and a poll both say of an attempt. -/
structure Description where
  id : ℕ
  documentId : String
  pipelineVersion : String
  verificationResults : List VerificationResultData
  downloadUrl : Option String

/-- What a notification says. -/
def Payload.description (payload : Payload) : Description where
  id := payload.remediationId
  documentId := payload.documentId
  pipelineVersion := payload.pipelineVersion
  verificationResults := payload.verificationResults
  downloadUrl := payload.downloadUrl

/-- What a poll is answered. -/
def RemediationData.description (data : RemediationData) : Description where
  id := data.id
  documentId := data.documentId
  pipelineVersion := data.pipelineVersion
  verificationResults := data.verificationResults
  downloadUrl := data.downloadUrl

/-- The descriptions that have been given. -/
def Given (c : ServiceCluster) (description : Description) : Prop :=
  (∃ delivery ∈ c.store.deliveries, description = delivery.payload.description) ∨
    ∃ i account contentHash data,
      .returned i (.status account contentHash) (.ok (.status data)) ∈ c.history ∧
        description = data.description

/-- They do not contradict each other. -/
structure Agree (left right : Description) : Prop where
  documentId : left.documentId = right.documentId
  pipelineVersion : left.pipelineVersion = right.pipelineVersion
  verdicts : ∀ verdict ∈ left.verificationResults, ∀ verdict' ∈ right.verificationResults,
    verdict.step = verdict'.step → verdict = verdict'
  downloadUrl : ∀ url ∈ left.downloadUrl, ∀ url' ∈ right.downloadUrl, url = url'

/-- A description is one of an attempt in the table. -/
private theorem given_kept
    (reached : (service settings acceptsUrl webhooks).Reach ok (launched retryFloor secret) c)
    {description : Description} (given : Given c description) :
    ∃ row results, c.store.cluster.store.Keeps row ∧ c.store.cluster.store.Judges row.id results ∧
      description = (Payload.of webhooks row results).description := by
  obtain ⟨told, fits⟩ := told_reached reached
  rcases given with ⟨delivery, member, rfl⟩ | ⟨i, account, contentHash, data, member, rfl⟩
  · obtain ⟨_, _, row, results, -, kept, judged, -, -, isPayload, -⟩ := told.deliveries delivery member
    exact ⟨row, results, kept, judged, by rw [isPayload]⟩
  · obtain ⟨row, results, isRow, isResults, -, rfl⟩ := (gathered_tracked reached).returned i _ _ member
    obtain ⟨row', isRow', judged⟩ := (fits i).results results isResults
    obtain rfl := Option.some.inj (isRow.symm.trans isRow')
    exact ⟨row, results, ((fits i).row row isRow).1, judged, rfl⟩

/-- **A webhook and a poll never contradict each other.**  Whenever two descriptions of one
attempt were given, to whomever, they name the same document and pipeline version and
one download, and where both have a verdict of a step, it is the same verdict. -/
theorem descriptions_agree (settings : Settings) (acceptsUrl : String → Bool)
    (webhooks : WebhookSettings) (retryFloor : Option String) (secret : ℕ → String)
    (c : ServiceCluster)
    (reached : (service settings acceptsUrl webhooks).Reach (fun _ _ => True)
      (launched retryFloor secret) c)
    (left right : Description) (givenLeft : Given c left) (givenRight : Given c right)
    (same : left.id = right.id) : Agree left right := by
  obtain ⟨row, results, ⟨now, found, isRow⟩, judged, rfl⟩ := given_kept reached givenLeft
  obtain ⟨row', results', ⟨now', found', isRow'⟩, judged', rfl⟩ := given_kept reached givenRight
  have sameId : row.id = row'.id := same
  rw [sameId] at found
  obtain rfl := Option.some.inj (found.symm.trans found')
  have identity := isRow.symm.trans isRow'
  simp only [Remediation.identity, Prod.mk.injEq] at identity
  obtain ⟨-, -, -, sameHash, -, sameVersion, -⟩ := identity
  refine ⟨sameHash, sameVersion, ?_, ?_⟩
  · intro verdict member verdict' member' sameStep
    obtain ⟨result, stored, isVerdict⟩ := judged verdict member
    obtain ⟨result', stored', isVerdict'⟩ := judged' verdict' member'
    rw [sameId, sameStep] at stored
    obtain rfl := Option.some.inj (stored.symm.trans stored')
    rw [isVerdict, isVerdict', sameStep]
  · intro url isUrl url' isUrl'
    simp only [Payload.of, Payload.description, Option.mem_def, Option.ite_none_right_eq_some,
      Option.some.injEq] at isUrl isUrl'
    rw [← isUrl.2, ← isUrl'.2, buildDownloadUrl, buildDownloadUrl, sameHash]

private theorem describedTwice_iff {c : ServiceCluster} (checked : describedTwice c = true) :
    ∃ left right, Given c left ∧ Given c right ∧ left.id = right.id := by
  obtain ⟨told, -⟩ := Bool.and_eq_true_iff.mp checked
  obtain ⟨delivery, member, told⟩ := List.any_eq_true.mp told
  obtain ⟨event, happened, isPoll⟩ := List.any_eq_true.mp told
  cases event with
  | returned i role result =>
      cases role with
      | status account contentHash =>
          cases result with
          | ok reply =>
              cases reply with
              | status data =>
                  exact ⟨_, _, .inl ⟨delivery, member, rfl⟩,
                    .inr ⟨i, account, contentHash, data, happened, rfl⟩,
                    (of_decide_eq_true isPoll).symm⟩
              | _ => cases isPoll
          | error exc => cases isPoll
      | _ => cases isPoll
  | _ => cases isPoll

/-- An instance: what the subscriber was told and what the poll was answered. -/
theorem descriptions_agree_told : ∃ c left right, Given c left ∧ Given c right ∧
    left.id = right.id ∧ Agree left right := by
  obtain ⟨c, reached, checked⟩ := exists_toldAndPolled
  obtain ⟨left, right, givenLeft, givenRight, same⟩ := describedTwice_iff checked
  exact ⟨c, left, right, givenLeft, givenRight, same,
    descriptions_agree .stepsOff _ .default none _ c reached left right givenLeft givenRight same⟩

/-! ## Whose files are opened -/

/-- A poll was answered about an attempt of the caller's at the document it asked for. -/
def PolledOwn (s : Store) (account : ServiceAccount) (contentHash : String) (data : RemediationData) :
    Prop :=
  data.documentId = contentHash ∧
    ∃ row, s.row data.id = some row ∧ row.isFor account.id contentHash = true

/-- The file lies in the directory of the caller's document, and no attempt at another
document records it. -/
def OpensOwn (s : Store) (account : ServiceAccount) (contentHash : String) (uri : Uri) : Prop :=
  (∃ rest, uri.text =
      "remediations/" ++ toString account.id ++ "/" ++ contentHash ++ "/" ++ rest) ∧
    ∀ row ∈ s.rows, row.isFor account.id contentHash = false → ∀ other, s.Lists row other →
      other.text ≠ uri.text

/-- What the views do is about the caller's own documents. -/
structure ViewsOwn (c : ServiceCluster) : Prop where
  polls : ∀ i account contentHash data,
    .returned i (.status account contentHash) (.ok (.status data)) ∈ c.history →
      PolledOwn c.store.cluster.store account contentHash data
  downloads : ∀ i thread account contentHash uri, c.threads i = some thread →
    thread.role = .download account contentHash → thread.op = .storageOpen uri →
      OpensOwn c.store.cluster.store account contentHash uri

private theorem blank_ne_directory (row : Remediation) (rest : String) :
    Uri.blank.text ≠ row.directory ++ rest := by
  intro same
  have lengths := congrArg String.length same
  have slash : ("/" : String).length = 1 := rfl
  have blank : Uri.blank.text.length = 0 := rfl
  rw [blank, Remediation.directory_text, String.length_append, String.length_append, slash] at lengths
  omega

/-- A file of one document is not recorded for another. -/
private theorem opensOwn {s : Store} (filed : Filed s)
    (hex : ∀ row ∈ s.rows, '/' ∉ row.contentHash.toList) {row : Remediation} (kept : s.Keeps row)
    {account : ServiceAccount} {contentHash : String} (isFor : row.isFor account.id contentHash = true)
    {uri : Uri} (owns : row.Owns uri) : OpensOwn s account contentHash uri := by
  obtain ⟨rest, isText⟩ := owns.text
  obtain ⟨sameAccount, sameHash⟩ := isFor_iff.mp isFor
  obtain ⟨now, found, same⟩ := kept
  refine ⟨⟨rest, by rw [isText, Remediation.directory_text, sameAccount, sameHash]⟩, ?_⟩
  intro row' member' different other lists sameText
  rw [isText] at sameText
  rcases filed.lists member' lists with rfl | owns'
  · exact blank_ne_directory _ _ sameText
  · obtain ⟨rest', isText'⟩ := owns'.text
    rw [isText'] at sameText
    have mine : '/' ∉ row.contentHash.toList := by
      have stored := hex now (Store.mem_rows_of_mem (Store.row_mem found))
      simp only [Remediation.identity, Prod.mk.injEq] at same
      rwa [same.2.2.2.1] at stored
    have document := Remediation.directory_inj (hex row' member') mine sameText
    simp only [Remediation.document, Prod.mk.injEq] at document
    have isFor' := isFor_iff.mpr ⟨document.1.trans sameAccount, document.2.trans sameHash⟩
    rw [different] at isFor'
    cases isFor'

/-- **The views stay with the caller's documents.**  In every run of the service, a poll is
answered about an attempt of the caller's, and a download opens a file in the
directory of the caller's document that no other account's attempt records. -/
theorem views_stay_with_their_caller (settings : Settings) (acceptsUrl : String → Bool)
    (webhooks : WebhookSettings) (retryFloor : Option String) (secret : ℕ → String)
    (c : ServiceCluster)
    (reached : (service settings acceptsUrl webhooks).Reach (fun _ _ => True)
      (launched retryFloor secret) c)
    (hex : ∀ bytes, '/' ∉ (settings.sha256 bytes).toList) : ViewsOwn c where
  polls := by
    intro i account contentHash data member
    obtain ⟨row, results, isRow, -, isFor, rfl⟩ := (gathered_tracked reached).returned i _ _ member
    obtain ⟨now, found, same⟩ := (((told_reached reached).2 i).row row isRow).1
    exact ⟨(isFor_iff.mp isFor).2, now, found,
      (Remediation.isFor_of_identity same _ _).trans isFor⟩
  downloads := by
    intro i thread account contentHash uri live isRole isOpen
    have permitted := ((gathered_tracked reached).live i thread live).1
    rw [isOpen, isRole] at permitted
    obtain ⟨account', contentHash', row, same, isRow, isFor, rfl, set⟩ := permitted
    obtain ⟨rfl, rfl⟩ := ServiceRole.download.inj same
    obtain ⟨kept, owns⟩ := ((told_reached reached).2 i).row row isRow
    refine opensOwn (sound_reached reached).filed ?_ kept isFor (owns.resolve_left set)
    intro row member
    obtain ⟨bytes, isHash⟩ := digest_reached (cluster_reached reached) row member
    rw [isHash]
    exact hex bytes

/-- An instance: the poll that was answered, and the download that is about to open its file. -/
theorem views_stay_with_their_caller_told : ∃ c : ServiceCluster, describedTwice c = true ∧
    ViewsOwn c := by
  obtain ⟨c, reached, checked⟩ := exists_toldAndPolled
  have noSlash : ∀ bytes, '/' ∉ (Settings.stepsOff.sha256 bytes).toList := by
    intro bytes
    change '/' ∉
      "4bf5122f344554c53bde2ebb8cd2b7e3d1600ad631c385a5d7cce23c7785459a".toList
    decide
  exact ⟨c, checked, views_stay_with_their_caller .stepsOff _ .default none _ c reached noSlash⟩

end Runs

end DicePipeline
