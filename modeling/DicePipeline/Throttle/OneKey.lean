import DicePipeline.Throttle.Logins
import DicePipeline.Throttle.Rounds

/-!
# Logins of one counter key

A hit among other keys' calls can lose all its rounds if it is slow enough: rows are
removed whatever their key, by whoever has just made one.  Among logins of its own
key it cannot, however slow they are, and this module shows it without a word about
the clock.

### What is load-bearing

The row of the key is never removed.  Only the login that has made a row removes old
ones, as of an hour before its own hit, and by then the row it has made ends a window
after that hit or later.  So the row stays once it is there, and it does not end
earlier from then on (`Kept`).  That is all a login relies on, and all it guarantees:

* a first round is lost only if somebody made the row meanwhile, so it is there;
* a second round is lost only if somebody renewed it, so it ends after the hit;
* the third round finds it live.
-/

namespace DicePipeline.Throttle

open Interaction ThrottleCounterService

/-! ## What the others can do -/

/-- What logins under `key` do to its row: it stays, and does not end earlier. -/
def Kept (key : String) (s t : Counters) : Prop :=
  ∀ row, s.rows key = some row →
    ∃ row', t.rows key = some row' ∧ row.windowEndsAt ≤ row'.windowEndsAt

theorem Kept.refl (key : String) (s : Counters) : Kept key s s :=
  fun row found => ⟨row, found, Nat.le_refl _⟩

theorem Kept.trans {key : String} {s t u : Counters} (first : Kept key s t)
    (second : Kept key t u) : Kept key s u := by
  intro row found
  obtain ⟨row', found', later⟩ := first row found
  obtain ⟨row'', found'', later'⟩ := second row' found'
  exact ⟨row'', found'', later.trans later'⟩

/-- A row of the key that ends no earlier than the old one. -/
theorem Kept.set {key : String} {s : Counters} {new : ThrottleCounter}
    (notEarlier : ∀ row, s.rows key = some row → row.windowEndsAt ≤ new.windowEndsAt) :
    Kept key s (s.set key new) :=
  fun row found => ⟨new, Counters.set_rows_self _ _ _, notEarlier row found⟩

/-- One login of the key among the others. -/
def oneKey (key : String) : Environment Sql Failure Counters where
  step statement s answer t := ∃ verdict, Statement.run verdict statement s = (answer, t)
  rely := Kept key
  guarantee := Kept key
  rely_refl := Kept.refl key
  rely_trans := Kept.trans

theorem oneKey_overTable (key : String) : OverTable (oneKey key) where
  runs _ _ _ _ step := step
  keeps := Kept.refl key

/-- The row is there, and ends at `least` or later. -/
def EndsFrom (key : String) (least : ℕ) (s : Counters) : Prop :=
  ∃ row, s.rows key = some row ∧ least ≤ row.windowEndsAt

theorem EndsFrom.stable (key : String) (least : ℕ) : (oneKey key).Stable (EndsFrom key least) := by
  rintro s t ⟨row, found, ends⟩ kept
  obtain ⟨row', found', later⟩ := kept row found
  exact ⟨row', found', ends.trans later⟩

/-! ## The rounds of a hit -/

section Rounds

variable (key : String) (now endsAt : ℕ)

/-- What a hit knows of its row after so many lost rounds. -/
def LostHere : ℕ → Counters → Prop
  | 0, _ => True
  | 1, s => EndsFrom key 0 s
  | 2, s => EndsFrom key (now + 1) s
  | _, _ => False

/-- What it knows once its second statement matched nothing either. -/
def MissedHere : ℕ → Counters → Prop
  | 0, _ => True
  | 1, s => EndsFrom key (now + 1) s
  | _, _ => False

variable {key now endsAt} {lost : ℕ}

theorem LostHere.stable : ∀ lost, (oneKey key).Stable (LostHere key now lost)
  | 0 => Environment.Stable.const True
  | 1 => EndsFrom.stable key 0
  | 2 => EndsFrom.stable key (now + 1)
  | _ + 3 => Environment.Stable.const False

theorem MissedHere.stable : ∀ lost, (oneKey key).Stable (MissedHere key now lost)
  | 0 => Environment.Stable.const True
  | 1 => EndsFrom.stable key (now + 1)
  | _ + 2 => Environment.Stable.const False

/-- A lost round after the first has a row. -/
theorem LostHere.found : ∀ {lost : ℕ} {s : Counters}, LostHere key now (lost + 1) s →
    ∃ row, s.rows key = some row
  | 0, _, ⟨row, found, _⟩ => ⟨row, found⟩
  | 1, _, ⟨row, found, _⟩ => ⟨row, found⟩
  | _ + 2, _, impossible => impossible.elim

/-- The row is there when `create` clashes. -/
theorem MissedHere.knows {row : ThrottleCounter} : ∀ {lost : ℕ} {s : Counters},
    MissedHere key now lost s → s.rows key = some row → LostHere key now (lost + 1) s
  | 0, _, _, found => ⟨row, found, Nat.zero_le _⟩
  | 1, _, known, _ => known
  | _ + 2, _, impossible, _ => impossible.elim

private theorem updateLive_here : Program.Triple (oneKey key) (LostHere key now lost)
    (ask (.updateLive key now)) fun result s =>
      ∃ matched : ℕ, result = .ok matched ∧ (matched = 0 → LostHere key now lost s ∧ lost < 2) := by
  refine Program.Triple.perform (LostHere.stable lost) ?_
  rintro s answer t known ⟨verdict, ran⟩
  cases found : s.rows key with
  | none =>
      simp only [Statement.run, found, Prod.mk.injEq] at ran
      obtain ⟨rfl, rfl⟩ := ran
      refine ⟨.refl key s, 0, rfl, fun _ => ⟨known, ?_⟩⟩
      rcases lost with _ | lost
      · exact Nat.zero_lt_two
      · obtain ⟨row, there⟩ := known.found
        cases found.symm.trans there
  | some row =>
      by_cases live : now < row.windowEndsAt
      · simp only [Statement.run, found, live, if_true, Prod.mk.injEq] at ran
        obtain ⟨rfl, rfl⟩ := ran
        refine ⟨Kept.set fun old before => ?_, 1, rfl, fun impossible => by cases impossible⟩
        rw [Option.some.inj (before.symm.trans found)]
      · simp only [Statement.run, found, live, if_false, Prod.mk.injEq] at ran
        obtain ⟨rfl, rfl⟩ := ran
        refine ⟨.refl key s, 0, rfl, fun _ => ⟨known, ?_⟩⟩
        rcases lost with _ | _ | _ | lost
        · omega
        · omega
        · obtain ⟨row', there, ends⟩ := known
          rw [Option.some.inj (found.symm.trans there)] at live
          omega
        · exact known.elim

private theorem updateExpired_here (forward : now ≤ endsAt) :
    Program.Triple (oneKey key) (fun s => LostHere key now lost s ∧ lost < 2)
      (ask (.updateExpired key now endsAt)) fun result s =>
        ∃ matched : ℕ, result = .ok matched ∧ (matched = 0 → MissedHere key now lost s) := by
  refine Program.Triple.perform ((LostHere.stable lost).and (Environment.Stable.const _)) ?_
  rintro s answer t ⟨known, early⟩ ⟨verdict, ran⟩
  cases found : s.rows key with
  | none =>
      simp only [Statement.run, found, Prod.mk.injEq] at ran
      obtain ⟨rfl, rfl⟩ := ran
      refine ⟨.refl key s, 0, rfl, fun _ => ?_⟩
      rcases lost with _ | lost
      · trivial
      · obtain ⟨row, there⟩ := known.found
        cases found.symm.trans there
  | some row =>
      by_cases ended : row.windowEndsAt ≤ now
      · simp only [Statement.run, found, ended, if_true, Prod.mk.injEq] at ran
        obtain ⟨rfl, rfl⟩ := ran
        refine ⟨Kept.set fun old before => ?_, 1, rfl, fun impossible => by cases impossible⟩
        rw [Option.some.inj (before.symm.trans found)]
        exact ended.trans forward
      · simp only [Statement.run, found, ended, if_false, Prod.mk.injEq] at ran
        obtain ⟨rfl, rfl⟩ := ran
        refine ⟨.refl key s, 0, rfl, fun _ => ?_⟩
        rcases lost with _ | _ | lost
        · trivial
        · exact ⟨row, found, Nat.lt_of_not_le ended⟩
        · omega

private theorem create_here : Program.Triple (oneKey key) (MissedHere key now lost)
    (ask (.create key endsAt)) fun result s => (result = .ok () → EndsFrom key endsAt s) ∧
      ∀ exc, result = .error exc → exc = .integrityError ∧ LostHere key now (lost + 1) s := by
  refine Program.Triple.perform (MissedHere.stable lost) ?_
  rintro s answer t known ⟨verdict, ran⟩
  cases found : s.rows key with
  | none =>
      simp only [Statement.run, found, Prod.mk.injEq] at ran
      obtain ⟨rfl, rfl⟩ := ran
      refine ⟨Kept.set fun old before => ?_, fun _ => ?_, fun _ impossible => by cases impossible⟩
      · cases found.symm.trans before
      · exact ⟨_, Counters.set_rows_self _ _ _, Nat.le_refl _⟩
  | some row =>
      simp only [Statement.run, found, Prod.mk.injEq] at ran
      obtain ⟨rfl, rfl⟩ := ran
      refine ⟨.refl key s, fun impossible => (by cases impossible), fun exc same => ?_⟩
      obtain rfl := Except.error.inj same
      exact ⟨rfl, MissedHere.knows known found⟩

/-- The row that was made ends too late to be removed. -/
private theorem remove_here (forward : now ≤ endsAt) :
    Program.Triple (oneKey key) (EndsFrom key endsAt) (removeOldRows now) fun result _ =>
      result = .ok () := by
  refine Program.Triple.perform (EndsFrom.stable key endsAt) ?_
  rintro s answer t ⟨row, found, ends⟩ ⟨verdict, ran⟩
  obtain ⟨rfl, rfl⟩ := Prod.mk.inj ran
  refine ⟨fun old before => ⟨old, ?_, Nat.le_refl _⟩, rfl⟩
  obtain rfl := Option.some.inj (found.symm.trans before)
  refine Option.filter_eq_some_iff.mpr ⟨found, ?_⟩
  have stays : ¬ row.windowEndsAt < now - expiredRowGrace := by omega
  simpa using stays

/-- What a hit learns among logins of its key. -/
theorem oneKey_rounds (forward : now ≤ endsAt) :
    Rounds (oneKey key) key now endsAt (LostHere key now) (MissedHere key now)
      (EndsFrom key endsAt) where
  updateLive _ := updateLive_here
  updateExpired _ := updateExpired_here forward
  create _ := create_here
  remove := remove_here forward
  three _ _ impossible := impossible.elim

end Rounds

/-! ## Nobody gives up -/

/-- The result is not the `RuntimeError` of a hit. -/
def NeverGivesUp {α : Type} (result : Except Failure α) : Prop :=
  ∀ key, result ≠ .error (.runtimeError key)

/-- **A login does not give up** among logins of its key. -/
theorem authenticate_counts (rates : ThrottleScope → Rate) (request : ApiRequest) :
    Program.Triple (oneKey (buildCounterKey .failedAuth request)) (fun _ => True)
      (LockoutTokenAuthentication.authenticate rates request)
      fun result _ => NeverGivesUp result := by
  have table := oneKey_overTable (buildCounterKey .failedAuth request)
  refine Program.Triple.bind (M := fun result _ => NeverGivesUp result) ?_ (fun passed => ?_)
    fun exc s never key same => never key (congrArg Except.error (Except.error.inj same))
  · refine Program.Triple.bind (table.read _) (fun reading => ?_) ?_
    · split
      · exact Program.Triple.done fun s _ key impossible => by cases impossible
      · exact Program.Triple.done fun s _ key impossible => by cases impossible
    · rintro exc s ⟨reading, impossible⟩
      cases impossible
  · refine Program.Triple.handle (M := fun result _ => ∀ exc, result = .error exc →
      exc = .authenticationFailed) ?_ (fun user s _ key impossible => by cases impossible) ?_
    · refine Program.Triple.perform (fun _ _ known _ => known) ?_
      rintro s answer t - ⟨verdict, ran⟩
      have promised := Statement.run_answers verdict
        (.checkToken (buildCounterKey .failedAuth request)) s
      have same : (Statement.run verdict
          (.checkToken (buildCounterKey .failedAuth request)) s).2 = s :=
        Statement.run_of_readOnly rfl verdict s
      rw [ran] at promised same
      obtain rfl : t = s := same
      refine ⟨.refl _ t, fun exc isError => ?_⟩
      subst isError
      exact promised
    · intro exc
      refine Program.Triple.pre (P := fun _ => exc = .authenticationFailed) ?_
        fun s known => known exc rfl
      rintro s rfl
      refine Program.Triple.bind (P := fun _ => True) (M := fun result _ =>
        ∃ value, result = .ok value) ?_
        (fun _ => Program.Triple.done fun s _ key impossible => by cases impossible) ?_ s trivial
      · refine Program.Triple.bind (hit_reads table (fun now => oneKey_rounds
          (Nat.le_add_right now _)) fun _ => trivial) (fun reading => ?_) ?_
        · exact Program.Triple.done fun s _ => ⟨(), rfl⟩
        · rintro exc s ⟨reading, impossible⟩
          cases impossible
      · rintro exc s ⟨value, impossible⟩
        cases impossible

/-- **Logins under `key` alone, at most `C` in flight.**  They are not killed; a
killed one would have tried a token without counting it. -/
def LoginsOf (key : String) (C : ℕ) (c : Limits) : Label LimitCall TokenCheck ℕ → Prop
  | .spawn call => call.loginKey = some key ∧ (inFlight key c).card < C
  | .kill i => i ∉ inFlight key c
  | _ => True

theorem LoginsOf.atMost {key : String} {C : ℕ} {c : Limits}
    {label : Label LimitCall TokenCheck ℕ} (admitted : LoginsOf key C c label) :
    AtMost key C c label := by
  cases label with
  | spawn call => exact fun _ => admitted.2
  | kill i => exact admitted
  | step i verdict => trivial
  | env elapsed => trivial

/-- Every login works among the others. -/
private theorem logins_sound (rates : ThrottleScope → Rate) (key : String) (C : ℕ) :
    (counters (LimitCall.code rates)).Sound (LoginsOf key C)
      ⟨fun _ _ => oneKey key, fun _ _ result _ => NeverGivesUp result⟩ fun _ => True where
  spawn c call body _ admitted started := by
    obtain rfl := Option.some.inj started
    obtain ⟨its, -⟩ := admitted
    cases call with
    | allowRequest request => cases its
    | authenticate request =>
        obtain rfl := Option.some.inj its
        refine Program.Triple.bind (authenticate_counts rates request)
          (fun user => Program.Triple.done fun s _ key impossible => by cases impossible)
          (fun exc s never key same => never key (congrArg Except.error (Except.error.inj same)))
          _ trivial
  covers c i verdict thread answer store _ live _ executed :=
    ⟨verdict, Option.some.inj executed⟩
  compatible c i j mover other store _ _ _ _ promised := promised
  crash c i j other _ _ _ _ := Kept.refl key c.store
  env c elapsed j other _ _ _ := fun row found => ⟨row, found, Nat.le_refl _⟩
  keep _ _ _ _ _ _ _ _ := trivial

/-- **Among logins of one key nobody gives up.** -/
theorem gaveUp_eq_false {rates : ThrottleScope → Rate} {key : String} {C : ℕ} {c : Limits}
    (reached : (counters (LimitCall.code rates)).Reach (LoginsOf key C) (.initial .empty) c)
    (i : ℕ) : gaveUp i c.history = false := by
  have never : ∀ i call result, .returned i call result ∈ c.history → NeverGivesUp result :=
    reached.returned (logins_sound rates key C) trivial fun _ _ _ _ never => never
  rw [gaveUp, List.any_eq_false]
  intro event member isGiveUp
  cases event with
  | returned j call result =>
      cases result with
      | ok answer => cases isGiveUp
      | error exc =>
          cases exc with
          | runtimeError key => exact never j call _ member key rfl
          | _ => cases isGiveUp
  | _ => cases isGiveUp

end DicePipeline.Throttle
