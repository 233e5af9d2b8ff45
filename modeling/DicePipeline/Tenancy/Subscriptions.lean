import DicePipeline.Interaction.Traces
import DicePipeline.Runs.Phases
import DicePipeline.Submission.Rows

/-!
# Who asked for a callback

`register_callback` is handed an instance, and trusts it: nothing in the statement
says whose attempt it is.  The instance comes from a query of the same request, in
another statement and, if the attempt is new, in another transaction.

`Shown` are the attempts a request has been shown.  Every one of them is at the
document of the request (`post_shows`), and a primary key means the same document
for ever (`Shown.Known`).  So behind every callback there is a submit of its URL, by
the account of the attempt, of the document of the attempt (`asked_reached`).
-/

namespace DicePipeline

open Interaction Program RemediationService

/-- The attempts a thread has been shown. -/
abbrev Shown := List Remediation

/-- Moves on by one answer. -/
def Shown.after (x : Shown) : (op : Op) → Except Exn op.Ans → Shown
  | .latestForDocument _ _, .ok (some row) => row :: x
  | .insertRemediation _, .ok row => row :: x
  | _, _ => x

/-- What a submit may register: its own URL, if the serializer accepts it, on an attempt at
its document that it has been shown. -/
def Shown.Permits (settings : Settings) (acceptsUrl : String → Bool) : Role → Shown → Op → Prop
  | .request account upload, x, .getOrCreateCallback row callbackUrl =>
      row ∈ x ∧ row.isFor account.id (upload.contentHash settings) = true ∧
        callbackUrl = upload.callbackUrl ∧ callbackUrl ≠ "" ∧ acceptsUrl callbackUrl = true
  | .run _, _, .getOrCreateCallback _ _ => False
  | _, _, _ => True

/-- An operation that registers no callback. -/
def RegistersNothing : Op → Prop
  | .getOrCreateCallback _ _ => False
  | _ => True

section Programs

variable {settings : Settings} {acceptsUrl : String → Bool} {account : ServiceAccount}
variable {upload : Upload} {role : Role} {x : Shown} {α : Type}

/-- Programs that register only what they may. -/
abbrev Shows (settings : Settings) (acceptsUrl : String → Bool) (role : Role)
    (Q : Shown → Except Exn α → Prop) (p : Py α) (x : Shown) : Prop :=
  p.Tracks Shown.after answered (Shown.Permits settings acceptsUrl role) Q x

private theorem permits_of_registersNothing {op : Op} (registers : RegistersNothing op)
    (x : Shown) : x.Permits settings acceptsUrl role op := by
  cases role <;> cases op <;> first | exact registers.elim | trivial

private theorem shows_of_registersNothing {p : Py α} (only : p.Only answered RegistersNothing) :
    Shows settings acceptsUrl role (fun _ _ => True) p x :=
  Only.tracks (I := fun _ => True) only trivial fun y _ _ registers =>
    ⟨permits_of_registersNothing registers y, fun _ _ => trivial⟩

private theorem issue_registersNothing {op : Op} (registers : RegistersNothing op) :
    (issue op).Only answered RegistersNothing := (only_perform _).mpr registers

/-- The attempt is one the thread has been shown, at the document of the request. -/
def Shown.Has (settings : Settings) (account : ServiceAccount) (upload : Upload) (row : Remediation)
    (x : Shown) : Prop :=
  row ∈ x ∧ row.isFor account.id (upload.contentHash settings) = true

/-- An attempt that is returned has been shown. -/
def Shown.Gives (settings : Settings) (account : ServiceAccount) (upload : Upload) (x : Shown)
    (r : Except Exn (Remediation × Bool)) : Prop :=
  ∀ made, r = .ok made → x.Has settings account upload made.1

private theorem gives_error (exc : Exn) : x.Gives settings account upload (.error exc) :=
  fun _ impossible => by cases impossible

private theorem gives_ok {row : Remediation} (has : x.Has settings account upload row)
    (created : Bool) : x.Gives settings account upload (.ok (row, created)) := by
  rintro _ ⟨⟩
  exact has

/-- What the thread has been shown survives an operation that shows nothing. -/
private theorem config_shows {row : Remediation} {force : Bool}
    (has : x.Has settings account upload row) :
    Shows settings acceptsUrl role (fun y _ => y.Has settings account upload row)
      (shouldRetry settings row force) x := by
  rw [shouldRetry]
  refine Tracks.ite (fun _ => has) fun _ => Tracks.ite (fun _ => has) fun _ => ?_
  refine ⟨permits_of_registersNothing (by trivial) x, fun answer _ => ?_⟩
  cases answer with
  | error exc => exact has
  | ok config => exact has

/-- `_reusable_attempt`. -/
private theorem reusable_shows :
    Shows settings acceptsUrl role
      (fun y r => ∀ row, r = .ok (some row) → y.Has settings account upload row)
      (reusableAttempt settings account.id (upload.contentHash settings) upload.force) x := by
  refine ⟨permits_of_registersNothing (by trivial) x, fun answer promised => ?_⟩
  cases answer with
  | error exc => exact fun _ impossible => by cases impossible
  | ok existing =>
      cases existing with
      | none => exact fun _ impossible => by cases impossible
      | some existing =>
          have has : Shown.Has settings account upload existing (existing :: x) :=
            ⟨List.mem_cons_self, promised existing rfl⟩
          have same : ∀ row, Except.ok (ε := Exn) (some existing) = .ok (some row) →
              Shown.Has settings account upload row (existing :: x) := by
            rintro _ ⟨⟩
            exact has
          change Shows settings acceptsUrl role _
            (ite (existing.status.isUnfinished = true) _ _ : Py (Option Remediation)) _
          refine Tracks.ite (fun _ => same) fun _ => ?_
          refine Tracks.bind (config_shows has) ?_ ?_
          · intro retry y holds
            cases retry with
            | true => exact fun _ impossible => by cases impossible
            | false =>
                rintro _ ⟨⟩
                exact holds
          · exact fun exc y _ _ impossible => by cases impossible

/-- `_create_or_reuse_unfinished`, after the original has been stored. -/
private theorem makeAttempt_shows :
    Shows settings acceptsUrl role (Shown.Gives settings account upload)
      (makeAttempt settings account.id upload) x := by
  refine Tracks.bind (M := fun _ _ => True) (shows_of_registersNothing ?_) ?_ fun exc y _ =>
    gives_error exc
  · refine Only.bind (issue_registersNothing trivial) fun stored => ?_
    cases stored with
    | true => trivial
    | false => exact Only.bind (issue_registersNothing trivial) fun _ => trivial
  · intro originalPath y _
    refine Tracks.attempt_bind (M := fun z r => ∀ row, r = .ok row →
      z.Has settings account upload row) ?_ ?_
    · refine ⟨permits_of_registersNothing (by trivial) y, fun answer _ => ?_⟩
      cases answer with
      | error exc => exact fun _ impossible => by cases impossible
      | ok createdAt =>
          refine ⟨permits_of_registersNothing (by trivial) y, fun answer promised => ?_⟩
          cases answer with
          | error exc => exact fun _ impossible => by cases impossible
          | ok row =>
              rintro _ ⟨⟩
              obtain ⟨id, rfl⟩ := promised
              exact ⟨List.mem_cons_self, by simp [NewRemediation.toRow, Remediation.isFor]⟩
    · intro made z shown
      cases made with
      | ok row => exact gives_ok (shown row rfl) true
      | error exc =>
          cases exc with
          | integrityError constraint =>
              refine ⟨permits_of_registersNothing (by trivial) z, fun answer promised => ?_⟩
              cases answer with
              | error exc => exact gives_error exc
              | ok current =>
                  cases current with
                  | none => exact gives_error _
                  | some current =>
                      change Shows settings acceptsUrl role _
                        (ite (current.status.isUnfinished = true) _ _ : Py (Remediation × Bool)) _
                      refine Tracks.ite (fun _ => ?_) fun _ => gives_error _
                      exact gives_ok ⟨List.mem_cons_self, promised current rfl⟩ false
          | _ => exact gives_error _

private theorem decide_shows (limit : Option SubmissionLimit) :
    Shows settings acceptsUrl role (Shown.Gives settings account upload)
      (RemediationService.decide settings account.id upload (some (checkLimit limit))) x := by
  refine Tracks.bind reusable_shows ?_ fun exc y _ => gives_error exc
  intro reusable y shown
  cases reusable with
  | some row => exact gives_ok (shown row rfl) false
  | none =>
      refine Tracks.bind (M := fun _ _ => True) (shows_of_registersNothing ?_) ?_ fun exc z _ =>
        gives_error exc
      · exact checkLimit_only (fun _ _ => trivial) (fun _ _ _ => trivial) trivial
      · intro _ z _
        refine Tracks.bind reusable_shows ?_ fun exc z' _ => gives_error exc
        intro reusable z' shown
        cases reusable with
        | some row => exact gives_ok (shown row rfl) false
        | none => exact makeAttempt_shows

/-- **A submit registers its URL on an attempt at its own document.** -/
theorem post_shows (settings : Settings) (acceptsUrl : String → Bool) (account : ServiceAccount)
    (upload : Upload) :
    Shows settings acceptsUrl (.request account upload) (fun _ _ => True)
      (CreateRemediationView.post settings acceptsUrl account upload) [] := by
  unfold CreateRemediationView.post
  cases limitFor account with
  | error exc => trivial
  | ok limit =>
      simp only [CreateRemediationView.submit]
      cases isValid : RemediationUploadSerializer.isValid acceptsUrl upload with
      | error exc => trivial
      | ok _ =>
          refine Tracks.bind (M := Shown.Gives settings account upload) ?_ ?_ fun _ _ _ => trivial
          · refine Tracks.attempt_bind (decide_shows limit) fun outcome y shown => ?_
            cases outcome with
            | ok made =>
                refine ⟨permits_of_registersNothing (by trivial) y, fun answer _ => ?_⟩
                cases answer with
                | error exc => exact gives_error exc
                | ok _ => exact shown
            | error exc =>
                refine ⟨permits_of_registersNothing (by trivial) y, fun answer _ => ?_⟩
                cases answer with
                | error exc' => exact gives_error exc'
                | ok _ => exact gives_error exc
          · intro made y shown
            have has := shown made rfl
            refine Tracks.bind (M := fun _ _ => True) ?_ ?_ fun _ _ _ => trivial
            · rw [CreateRemediationView.subscribe]
              refine Tracks.ite (fun _ => trivial) fun given => ?_
              have accepted : acceptsUrl upload.callbackUrl = true := by
                by_contra refused
                simp only [RemediationUploadSerializer.isValid] at isValid
                split_ifs at isValid
                simp_all
              refine ⟨⟨has.1, has.2, rfl, given, accepted⟩, fun answer _ => ?_⟩
              cases answer with
              | error exc => trivial
              | ok registered =>
                  refine shows_of_registersNothing ?_
                  exact Only.ite (issue_registersNothing trivial) trivial
            · intro _ z _
              refine shows_of_registersNothing (Only.bind ?_ fun _ => trivial)
              exact queue_only trivial (fun _ _ _ => trivial) (fun _ => trivial)
                (fun _ => trivial) _ _

/-- A run of the task registers nothing. -/
theorem run_shows (settings : Settings) (acceptsUrl : String → Bool) (id : ℕ) :
    Shows settings acceptsUrl (.run id) (fun _ _ => True) (processRemediation settings id) [] := by
  refine shows_of_registersNothing ((processRemediation_only settings id).mono fun op ofRun => ?_)
  cases op <;> first | exact ofRun.elim | trivial

end Programs

/-! ## What is in the tables -/

/-- Primary keys are unique, and a callback's attempt has one that is in use. -/
structure Referring (s : Store) : Prop where
  keyed : WellKeyed s.rows s.nextId
  used : ∀ callback ∈ s.callbacks, callback.remediation < s.nextId

/-- A primary key in use means the document of the attempt that was shown. -/
def Shown.Known (s : Store) (x : Shown) : Prop :=
  ∀ row ∈ x, row.id < s.nextId ∧
    ∀ other ∈ s.rows, other.id = row.id →
      ∀ account contentHash, other.isFor account contentHash = row.isFor account contentHash

section Steps

variable {settings : Settings} {world : World} {i : ℕ} {op : Op} {s t : Store} {x : Shown}
variable {answer : Except Exn op.Ans}

/-- A callback that is registered goes behind the others. -/
theorem Effect.callbacks_or (effect : Effect i s op t) :
    t.callbacks = s.callbacks ∨ ∃ new, t.callbacks = s.callbacks ++ [new] := by
  cases effect with
  | subscribed => exact .inr ⟨_, rfl⟩
  | _ => exact .inl rfl

/-- An attempt of the next state is one of this state at the same document, or new. -/
theorem Effect.same_document (effect : Effect i s op t) {row : Remediation} (member : row ∈ t.rows) :
    (∃ old ∈ s.rows, old.id = row.id ∧
      ∀ account contentHash, old.isFor account contentHash = row.isFor account contentHash) ∨
      row.id = s.nextId := by
  have same : ∀ row ∈ s.rows, ∃ old ∈ s.rows, old.id = row.id ∧
      ∀ account contentHash, old.isFor account contentHash = row.isFor account contentHash :=
    fun row member => ⟨row, member, rfl, fun _ _ => rfl⟩
  have ended : ∀ keep, row ∈ (s.endTransaction i keep).rows → row ∈ s.rows :=
    fun keep member => (s.endTransaction_rows i keep).subset member
  cases effect with
  | saved found guarded =>
      rcases Store.mem_updateRow_rows member with old | ⟨old, oldMember, -, rfl⟩
      · exact .inl (same row old)
      · exact .inl ⟨old, Store.mem_rows_of_mem oldMember, rfl, fun _ _ => rfl⟩
  | claimed found unfinished unclaimed =>
      rcases Store.mem_updateRow_rows member with old | ⟨old, oldMember, -, rfl⟩
      · exact .inl (same row old)
      · exact .inl ⟨old, Store.mem_rows_of_mem oldMember, rfl, fun _ _ => rfl⟩
  | @inserted new noClash noWait =>
      rw [Store.insert_rows] at member
      rcases List.mem_append.mp member with old | last
      · exact .inl (same row old)
      · obtain rfl := List.mem_singleton.mp last
        exact .inr rfl
  | committed => exact .inl (same row (ended true member))
  | abandoned => exact .inl (same row (ended false member))
  | rolledBack => exact .inl (same row (ended false member))
  | _ => exact .inl (same row member)

theorem Shown.Known.effect (known : x.Known s) (effect : Effect i s op t) : x.Known t := by
  intro row member
  obtain ⟨used, same⟩ := known row member
  refine ⟨used.trans_le effect.nextId_le, fun other otherMember sameId account contentHash => ?_⟩
  rcases effect.same_document otherMember with ⟨old, oldMember, oldId, sameDocument⟩ | isNew
  · rw [← sameDocument]
    exact same old oldMember (oldId.trans sameId) account contentHash
  · rw [← sameId, isNew] at used
    exact absurd used (lt_irrefl _)

/-- A row of the tables is known. -/
private theorem known_cons (keyed : WellKeyed s.rows s.nextId) (known : x.Known s)
    {row : Remediation} (member : row ∈ s.rows) : Shown.Known s (row :: x) := by
  intro shown isShown
  rcases List.mem_cons.mp isShown with rfl | before
  · refine ⟨keyed.fresh _ member, fun other otherMember sameId account contentHash => ?_⟩
    rw [keyed.eq_of_id otherMember member sameId]
  · exact known shown before

/-- **What is shown is known.** -/
theorem Shown.Known.after (known : x.Known s) (referring : Referring s)
    (executed : execute settings world i op s = some (answer, t)) : (x.after op answer).Known t := by
  have effect := execute_effect executed
  have kept := known.effect effect
  have keyed := effect.wellKeyed referring.keyed
  cases answer with
  | error exc => cases op <;> exact kept
  | ok value =>
      have performed := execute_ok executed
      cases op with
      | latestForDocument account contentHash =>
          simp only [perform] at performed
          obtain ⟨same, rfl⟩ := Prod.mk.inj (Option.some.inj performed)
          obtain rfl := Except.ok.inj same
          cases found : s.latest account contentHash with
          | none => exact kept
          | some row =>
              exact known_cons keyed kept (Store.mem_rows_of_mem (Store.latest_mem found).1)
      | insertRemediation new =>
          simp only [perform] at performed
          split at performed
          · cases performed
          · split at performed
            · cases performed
            · split at performed
              · cases performed
              · obtain ⟨same, rfl⟩ := Prod.mk.inj (Option.some.inj performed)
                obtain rfl := Except.ok.inj same
                refine known_cons keyed kept ?_
                rw [Store.insert_rows]
                exact List.mem_append_right _ List.mem_cons_self
      | _ => exact kept

theorem Referring.effect (referring : Referring s) (effect : Effect i s op t)
    (registered : ∀ row callbackUrl, op = .getOrCreateCallback row callbackUrl → row.id < s.nextId) :
    Referring t where
  keyed := effect.wellKeyed referring.keyed
  used := by
    intro callback member
    have old : callback ∈ s.callbacks → callback.remediation < t.nextId :=
      fun member => (referring.used callback member).trans_le effect.nextId_le
    cases effect with
    | @subscribed row callbackUrl =>
        rcases List.mem_append.mp member with before | last
        · exact old before
        · obtain rfl := List.mem_singleton.mp last
          exact (registered row callbackUrl rfl).trans (Nat.lt_succ_self _)
    | _ => exact old member

end Steps

/-! ## The runs -/

/-- A submit has asked for the callback: a submit of its URL, by an account and of a document
that are those of the attempt. -/
def Asked (settings : Settings) (acceptsUrl : String → Bool) (c : Cluster)
    (callback : RemediationCallback) : Prop :=
  ∃ i account upload, .started i (.request account upload) ∈ c.history ∧
    callback.callbackUrl = upload.callbackUrl ∧ callback.callbackUrl ≠ "" ∧
      acceptsUrl callback.callbackUrl = true ∧
        ∀ row ∈ c.store.rows, row.id = callback.remediation →
          row.isFor account.id (upload.contentHash settings) = true

section Runs

variable {settings : Settings} {acceptsUrl : String → Bool} {retryFloor : Option String}
variable {ok : Cluster → Choice → Prop} {c : Cluster}

private theorem registration_permitted
    (reached : (system settings acceptsUrl).Reach ok (deployed retryFloor) c) {i : ℕ}
    {thread : Thread Query Exn (Option Response) Role} (live : c.threads i = some thread) :
    (Machine.observed (S := Query) Shown.after [] i c.history).Permits settings acceptsUrl
      thread.role thread.op := by
  have followed := reached.tracked (S := Query) Shown.after [] answered
    (fun role x op => Shown.Permits settings acceptsUrl role x op) (fun _ _ _ => True) ?_ ?_
  · exact (followed.live i thread live).1
  · intro role s body started
    rw [start_eq started]
    cases role with
    | request account upload =>
        exact Tracks.bind (post_shows settings acceptsUrl account upload) (fun _ _ _ => trivial)
          fun _ _ _ => trivial
    | run id =>
        exact Tracks.bind (run_shows settings acceptsUrl id) (fun _ _ _ => trivial)
          fun _ _ _ => trivial
  · exact fun _ _ _ _ _ _ executed => execute_answered executed

/-- A registration is a submit's, on an attempt it has been shown. -/
private theorem registration_eq {role : Role} {x : Shown} {row : Remediation} {callbackUrl : String}
    (permitted : x.Permits settings acceptsUrl role (.getOrCreateCallback row callbackUrl)) :
    ∃ account upload, role = .request account upload ∧ row ∈ x ∧
      row.isFor account.id (upload.contentHash settings) = true ∧
        callbackUrl = upload.callbackUrl ∧ callbackUrl ≠ "" ∧ acceptsUrl callbackUrl = true := by
  cases role with
  | request account upload => exact ⟨account, upload, rfl, permitted⟩
  | run id => exact permitted.elim

/-- **Shown attempts stay known.** -/
private theorem known_reached
    (reached : (system settings acceptsUrl).Reach ok (deployed retryFloor) c) :
    Referring c.store ∧
      ∀ i, (Machine.observed (S := Query) Shown.after [] i c.history).Known c.store := by
  refine reached.accompanied (S := Query) Shown.after [] Referring (fun s x => Shown.Known s x)
    ?_ ?_ ?_ ?_ ?_ ?_
  · exact ⟨⟨List.nodup_nil, by simp [Store.rows, Store.empty]⟩, by simp [Store.empty]⟩
  · exact fun row impossible => by cases impossible
  · intro c i world thread answer t before live _ executed referring known
    refine ⟨referring.effect (execute_effect executed) ?_, known.after referring executed⟩
    intro row callbackUrl isRegistration
    have permitted := registration_permitted before live
    rw [isRegistration] at permitted
    obtain ⟨account, upload, -, shown, -⟩ := registration_eq permitted
    exact (known row shown).1
  · intro c i world thread answer t x _ _ _ executed _ known
    exact known.effect (execute_effect executed)
  · intro i s referring
    have effect : Effect i s .rollback (s.endTransaction i false) := .rolledBack
    exact ⟨referring.effect effect fun _ _ impossible => (by cases impossible),
      fun x known => known.effect effect⟩
  · exact fun elapsed s referring => ⟨⟨referring.keyed, referring.used⟩, fun x known => known⟩

/-- What was asked for stays asked for. -/
private theorem Asked.later {c' : Cluster} {callback : RemediationCallback}
    (asked : Asked settings acceptsUrl c callback)
    (history : ∀ i role, .started i role ∈ c.history → .started i role ∈ c'.history)
    (used : callback.remediation < c.store.nextId)
    (rows : ∀ row ∈ c'.store.rows, (∃ old ∈ c.store.rows, old.id = row.id ∧
      ∀ account contentHash, old.isFor account contentHash = row.isFor account contentHash) ∨
        row.id = c.store.nextId) : Asked settings acceptsUrl c' callback := by
  obtain ⟨i, account, upload, started, isUrl, given, accepted, mine⟩ := asked
  refine ⟨i, account, upload, history i _ started, isUrl, given, accepted, ?_⟩
  intro row member own
  rcases rows row member with ⟨old, oldMember, sameId, sameDocument⟩ | isNew
  · rw [← sameDocument]
    exact mine old oldMember (sameId.trans own)
  · rw [← own, isNew] at used
    exact absurd used (lt_irrefl _)

/-- **Every callback was asked for**, by the account of its attempt. -/
theorem asked_reached
    (reached : (system settings acceptsUrl).Reach ok (deployed retryFloor) c) :
    ∀ callback ∈ c.store.callbacks, Asked settings acceptsUrl c callback := by
  have same : ∀ (s : Store) row, row ∈ s.rows → (∃ old ∈ s.rows, old.id = row.id ∧
      ∀ account contentHash, old.isFor account contentHash = row.isFor account contentHash) ∨
        row.id = s.nextId :=
    fun s row member => .inl ⟨row, member, rfl, fun _ _ => rfl⟩
  induction reached with
  | refl => exact fun callback impossible => by cases impossible
  | @next c c' choice before _ moved ih =>
      obtain ⟨referring, known⟩ := known_reached before
      cases choice with
      | spawn role =>
          obtain ⟨body, -, rfl⟩ := Machine.next_spawn_eq moved
          intro callback member
          rw [Config.place_store] at member
          refine (ih callback member).later (fun i role started => ?_) (referring.used callback member)
            fun row member => ?_
          · exact Config.mem_place_history _ _ _ _ (List.mem_cons_of_mem _ started)
          · rw [Config.place_store] at member
            exact same _ row member
      | step i world =>
          obtain ⟨thread, answer, t, live, executed, rfl⟩ := step_eq moved
          have effect := execute_effect executed
          intro callback member
          rw [stepped_store] at member
          -- An old callback stays asked for: histories only grow, and rows keep their document.
          have kept : callback ∈ c.store.callbacks →
              Asked settings acceptsUrl (stepped c i thread answer t) callback := by
            intro member
            refine (ih callback member).later (fun i role started => mem_stepped_history started)
              (referring.used callback member) fun row member => ?_
            rw [stepped_store] at member
            exact effect.same_document member
          obtain ⟨role, op, next⟩ := thread
          have permitted := registration_permitted before live
          cases effect with
          -- A new one was registered by a submit, for the attempt that it had been shown; account
          -- and document of this attempt are the submit's own.
          | @subscribed row callbackUrl =>
              rcases List.mem_append.mp member with old | last
              · exact kept old
              · obtain rfl := List.mem_singleton.mp last
                obtain ⟨account, upload, rfl, shown, isFor, isUrl, given, accepted⟩ :=
                  registration_eq permitted
                refine ⟨i, account, upload, mem_stepped_history (before.started i _ live), isUrl,
                  given, accepted, ?_⟩
                intro other otherMember own
                rw [stepped_store] at otherMember
                rw [(known i row shown).2 other otherMember own]
                exact isFor
          | _ => exact kept member
      | kill i =>
          obtain ⟨victim, -, rfl⟩ := Machine.next_kill_eq moved
          intro callback member
          refine (ih callback member).later (fun i role started => List.mem_cons_of_mem _ started)
            (referring.used callback member) fun row member => ?_
          exact same _ row ((c.store.endTransaction_rows i false).subset member)
      | env elapsed =>
          obtain rfl := Machine.next_env_eq moved
          exact fun callback member => (ih callback member).later (fun _ _ started => started)
            (referring.used callback member) (same _)

end Runs

end DicePipeline
