import DicePipeline.Throttle.Rounds

/-!
# Every hit is counted exactly once

`hit` gives up after `MAX_HIT_ATTEMPTS` lost rounds (`Throttle.Rounds`).  This module
shows that with timely hits it never does, and that then every hit is counted once.

What the others can do to a row is bounded by `Later`: a row that stays never
ends earlier than before, a new row does not end in the past, and a row is only
removed once it has been ended for the grace period.  Against a hit's own fixed
time `now` this leaves two lost rounds at most:

* a first round is lost only if somebody made or renewed the row meanwhile, so
  afterwards the row ends at `now` or later and outlives the hit;
* a second round is lost only if the row ended exactly at `now` and somebody
  renewed it, so afterwards it ends after `now`;
* the third round finds it live.
-/

namespace DicePipeline.Throttle

open Interaction ThrottleCounterService

/-! ## What the others can do -/

/-- What time and the statements of timely hits can do to the table. -/
structure Later (s t : Counters) : Prop where
  clock : s.clock ≤ t.clock
  /-- A row that is there at both moments does not end earlier at the second. -/
  renewed : ∀ key row row', s.rows key = some row → t.rows key = some row' →
    row.windowEndsAt ≤ row'.windowEndsAt
  /-- A row that was not there was made to end after that moment. -/
  created : ∀ key row', s.rows key = none → t.rows key = some row' →
    s.clock ≤ row'.windowEndsAt
  /-- A row that is gone had been over for the grace period. -/
  removed : ∀ key row, s.rows key = some row → t.rows key = none →
    row.windowEndsAt + expiredRowGrace < t.clock

theorem Later.refl (s : Counters) : Later s s where
  clock := Nat.le_refl _
  renewed key row row' before after := by
    rw [Option.some.inj (before.symm.trans after)]
  created key row' before after := by
    rw [before] at after
    cases after
  removed key row before after := by
    rw [before] at after
    cases after

theorem Later.trans {s t u : Counters} (first : Later s t) (second : Later t u) : Later s u where
  clock := first.clock.trans second.clock
  renewed key row row'' before after := by
    cases between : t.rows key with
    | some row' =>
        exact (first.renewed key row row' before between).trans
          (second.renewed key row' row'' between after)
    | none =>
        have gone := first.removed key row before between
        have made := second.created key row'' between after
        omega
  created key row'' before after := by
    cases between : t.rows key with
    | some row' =>
        exact (first.created key row' before between).trans
          (second.renewed key row' row'' between after)
    | none => exact first.clock.trans (second.created key row'' between after)
  removed key row before after := by
    cases between : t.rows key with
    | some row' =>
        have kept := first.renewed key row row' before between
        have gone := second.removed key row' between after
        omega
    | none => exact (first.removed key row before between).trans_le second.clock

/-- The statements of a hit that finishes within its window length and within
the grace period: a window is started before it ends, and the row is updated
within the grace period of the hit's own time. -/
def Statement.InTime (clock : ℕ) : Statement → Prop
  | .updateLive _ now => clock ≤ now + expiredRowGrace
  | .updateExpired _ now endsAt => clock ≤ endsAt ∧ clock ≤ now + expiredRowGrace
  | .create _ endsAt => clock ≤ endsAt
  | _ => True

instance (clock : ℕ) (statement : Statement) : Decidable (statement.InTime clock) := by
  cases statement <;> unfold Statement.InTime <;> infer_instance

/-- The time a statement carries has been read off the clock. -/
def Statement.Dated (clock : ℕ) : Statement → Prop
  | .updateLive _ now => now ≤ clock
  | .updateExpired _ now endsAt => now ≤ clock ∧ now ≤ endsAt
  | .deleteEndedBefore moment => moment ≤ clock - expiredRowGrace
  | _ => True

/-- **One statement.** -/
theorem Effect.later {s t : Counters} {statement : Statement} {counted : Option (String × Bool)}
    (effect : Effect s statement counted t) (dated : statement.Dated s.clock)
    (inTime : statement.InTime s.clock) : Later s t := by
  -- Setting a row that ends no earlier than the old one, or than now if there was none.
  have set : ∀ key (new : ThrottleCounter),
      (∀ row, s.rows key = some row → row.windowEndsAt ≤ new.windowEndsAt) →
      (s.rows key = none → s.clock ≤ new.windowEndsAt) → Later s (s.set key new) := by
    intro key new notEarlier notPast
    refine ⟨Nat.le_refl _, ?_, ?_, ?_⟩
    · intro other row row' before after
      by_cases same : other = key
      · subst same
        rw [Counters.set_rows_self, Option.some.injEq] at after
        exact after ▸ notEarlier row before
      · rw [Counters.set_rows_of_ne _ _ same, before, Option.some.injEq] at after
        rw [after]
    · intro other row' before after
      by_cases same : other = key
      · subst same
        rw [Counters.set_rows_self, Option.some.injEq] at after
        exact after ▸ notPast before
      · rw [Counters.set_rows_of_ne _ _ same, before] at after
        cases after
    · intro other row before after
      by_cases same : other = key
      · subst same
        rw [Counters.set_rows_self] at after
        cases after
      · rw [Counters.set_rows_of_ne _ _ same, before] at after
        cases after
  cases effect with
  | @added key now row found live =>
      refine set key _ (fun old before => ?_) (fun vacant => ?_)
      · rw [Option.some.inj (before.symm.trans found)]
      · rw [vacant] at found
        cases found
  | @renewed key now endsAt row found ended =>
      refine set key _ (fun old before => ?_) (fun vacant => ?_)
      · rw [Option.some.inj (before.symm.trans found)]
        exact ended.trans dated.2
      · exact inTime.1
  | @created key endsAt vacant =>
      refine set key _ (fun old before => ?_) (fun _ => inTime)
      rw [vacant] at before
      cases before
  | @removed moment =>
      refine ⟨Nat.le_refl _, ?_, ?_, ?_⟩
      · intro key row row' before after
        have old := (Option.filter_eq_some_iff.mp after).1
        rw [Option.some.inj (before.symm.trans old)]
      · intro key row' before after
        have old := (Option.filter_eq_some_iff.mp after).1
        rw [before] at old
        cases old
      · intro key row before after
        have dated : moment ≤ s.clock - expiredRowGrace := dated
        have past : row.windowEndsAt < moment := by
          by_contra stays
          simp [before, stays] at after
        show row.windowEndsAt + expiredRowGrace < s.clock
        omega
  | unchanged => exact .refl s

/-! ## A hit among timely hits -/

/-- One call among the others: its own statements are in time, and everyone
keeps `Later`. -/
def steady : Environment Sql Failure Counters where
  step statement s answer t :=
    Statement.InTime s.clock statement ∧ ∃ verdict, Statement.run verdict statement s = (answer, t)
  rely := Later
  guarantee := Later
  rely_refl := Later.refl
  rely_trans := Later.trans

/-- A statement that carries a time read off the clock keeps `Later`. -/
theorem steady_guarantee (statement : Statement) {s t : Counters}
    {answer : Except Failure statement.Ans} (dated : statement.Dated s.clock)
    (step : steady.step statement s answer t) : Later s t := by
  obtain ⟨inTime, verdict, ran⟩ := step
  have effect := Statement.run_effect verdict statement s
  rw [ran] at effect
  exact effect.later dated inTime

/-- What a hit that fixed its time at `now` knows of its row: it ends at `least`
or later, and if it is gone, then either that was to be expected (`missing`) or
the hit is already past the grace period. -/
structure RowSince (key : String) (now : ℕ) (missing : Prop) (least : ℕ) (s : Counters) :
    Prop where
  started : now ≤ s.clock
  absent : s.rows key = none → missing ∨ now + expiredRowGrace < s.clock
  present : ∀ row, s.rows key = some row → least ≤ row.windowEndsAt

/-- Others cannot falsify it, as long as a row that may be missing may also be
remade to end at once. -/
theorem RowSince.stable {key : String} {now least : ℕ} {missing : Prop} (after : now ≤ least)
    (remade : least ≤ now ∨ ¬ missing ∧ least ≤ now + expiredRowGrace) :
    steady.Stable (RowSince key now missing least) := by
  intro s t known later
  refine ⟨known.started.trans later.clock, ?_, ?_⟩
  · intro gone
    cases before : s.rows key with
    | none => exact (known.absent before).imp id fun past => past.trans_le later.clock
    | some row =>
        have past := later.removed key row before gone
        have ends := known.present row before
        exact .inr (by omega)
  · intro row' found
    cases before : s.rows key with
    | some row => exact (known.present row before).trans (later.renewed key row row' before found)
    | none =>
        have made := later.created key row' before found
        have start := known.started
        rcases known.absent before with expected | past
        · rcases remade with atOnce | ⟨notExpected, -⟩
          · omega
          · exact absurd expected notExpected
        · omega

/-- What a hit knows of its row after so many lost rounds. -/
def Lost (key : String) (now : ℕ) : ℕ → Counters → Prop
  | 0, s => now ≤ s.clock
  | 1, s => RowSince key now False now s
  | 2, s => RowSince key now False (now + 1) s
  | _, _ => False

theorem Lost.started {key : String} {now : ℕ} : ∀ {lost : ℕ} {s : Counters},
    Lost key now lost s → now ≤ s.clock
  | 0, _, known => known
  | 1, _, known => RowSince.started known
  | 2, _, known => RowSince.started known
  | _ + 3, _, impossible => impossible.elim

theorem Lost.stable (key : String) (now : ℕ) : ∀ lost, steady.Stable (Lost key now lost)
  | 0 => fun _ _ known later => Nat.le_trans known later.clock
  | 1 => RowSince.stable (Nat.le_refl _) (.inl (Nat.le_refl _))
  | 2 => RowSince.stable (Nat.le_succ _)
      (.inr ⟨not_false, by simp [expiredRowGrace, seconds]⟩)
  | _ + 3 => fun _ _ impossible _ => impossible.elim

/-- What a hit knows once its second statement matched nothing either. -/
def Missed (key : String) (now : ℕ) : ℕ → Counters → Prop
  | 0, s => RowSince key now True now s
  | 1, s => RowSince key now False (now + 1) s
  | _, _ => False

theorem Missed.started {key : String} {now : ℕ} : ∀ {lost : ℕ} {s : Counters},
    Missed key now lost s → now ≤ s.clock
  | 0, _, known => RowSince.started known
  | 1, _, known => RowSince.started known
  | _ + 2, _, impossible => impossible.elim

theorem Missed.stable (key : String) (now : ℕ) : ∀ lost, steady.Stable (Missed key now lost)
  | 0 => RowSince.stable (Nat.le_refl _) (.inl (Nat.le_refl _))
  | 1 => Lost.stable key now 2
  | _ + 2 => fun _ _ impossible _ => impossible.elim

/-- The row is there when `create` clashes, so the next round knows more. -/
theorem Missed.lost {key : String} {now : ℕ} {row : ThrottleCounter} : ∀ {lost : ℕ}
    {s : Counters}, Missed key now lost s → s.rows key = some row → Lost key now (lost + 1) s
  | 0, _, known, found => ⟨known.started, fun gone => (by rw [gone] at found; cases found),
      known.present⟩
  | 1, _, known, _ => known
  | _ + 2, _, impossible, _ => impossible.elim

/-- `live.update` misses only in the first two rounds. -/
private theorem updateLive_spec (key : String) (now lost : ℕ) :
    Program.Triple steady (Lost key now lost) (ask (.updateLive key now)) fun result s =>
      ∃ matched : ℕ, result = .ok matched ∧ (matched = 0 → Lost key now lost s ∧ lost < 2) := by
  refine Program.Triple.perform (Lost.stable key now lost) ?_
  rintro s answer t known step
  refine ⟨steady_guarantee (.updateLive key now) known.started step, ?_⟩
  obtain ⟨inTime, verdict, ran⟩ := step
  have inTime : s.clock ≤ now + expiredRowGrace := inTime
  cases found : s.rows key with
  | none =>
      simp only [Statement.run, found, Prod.mk.injEq] at ran
      obtain ⟨rfl, rfl⟩ := ran
      refine ⟨0, rfl, fun _ => ⟨known, ?_⟩⟩
      rcases lost with _ | _ | _ | lost
      · omega
      · omega
      · have := (RowSince.absent known found).resolve_left id
        omega
      · exact known.elim
  | some row =>
      by_cases live : now < row.windowEndsAt
      · simp only [Statement.run, found, live, if_true, Prod.mk.injEq] at ran
        obtain ⟨rfl, -⟩ := ran
        exact ⟨1, rfl, fun impossible => by cases impossible⟩
      · simp only [Statement.run, found, live, if_false, Prod.mk.injEq] at ran
        obtain ⟨rfl, rfl⟩ := ran
        refine ⟨0, rfl, fun _ => ⟨known, ?_⟩⟩
        rcases lost with _ | _ | _ | lost
        · omega
        · omega
        · exact absurd (RowSince.present known row found) live
        · exact known.elim

/-- `expired.update` misses a row that is not there yet, or that ends after `now`. -/
private theorem updateExpired_spec (key : String) (now endsAt lost : ℕ) (forward : now ≤ endsAt) :
    Program.Triple steady (fun s => Lost key now lost s ∧ lost < 2)
      (ask (.updateExpired key now endsAt)) fun result s =>
      ∃ matched : ℕ, result = .ok matched ∧ (matched = 0 → Missed key now lost s) := by
  refine Program.Triple.perform
    ((Lost.stable key now lost).and (Environment.Stable.const _)) ?_
  rintro s answer t ⟨known, early⟩ step
  refine ⟨steady_guarantee (.updateExpired key now endsAt) ⟨known.started, forward⟩ step, ?_⟩
  obtain ⟨⟨-, inTime⟩, verdict, ran⟩ := step
  have inTime : s.clock ≤ now + expiredRowGrace := inTime
  cases found : s.rows key with
  | none =>
      simp only [Statement.run, found, Prod.mk.injEq] at ran
      obtain ⟨rfl, rfl⟩ := ran
      refine ⟨0, rfl, fun _ => ?_⟩
      rcases lost with _ | _ | lost
      · refine ⟨known, fun _ => .inl trivial, fun row present => ?_⟩
        rw [found] at present
        cases present
      · have := (RowSince.absent known found).resolve_left id
        omega
      · omega
  | some row =>
      by_cases ended : row.windowEndsAt ≤ now
      · simp only [Statement.run, found, ended, if_true, Prod.mk.injEq] at ran
        obtain ⟨rfl, -⟩ := ran
        exact ⟨1, rfl, fun impossible => by cases impossible⟩
      · simp only [Statement.run, found, ended, if_false, Prod.mk.injEq] at ran
        obtain ⟨rfl, rfl⟩ := ran
        refine ⟨0, rfl, fun _ => ?_⟩
        have present : ∀ row', s.rows key = some row' → now < row'.windowEndsAt := by
          intro row' found'
          rw [← Option.some.inj (found.symm.trans found')]
          omega
        have there : s.rows key ≠ none := by simp [found]
        rcases lost with _ | _ | lost
        · exact ⟨known, fun gone => absurd gone there, fun row' h => (present row' h).le⟩
        · exact ⟨known.started, fun gone => absurd gone there, present⟩
        · omega

/-- `create` clashes with a row that is there. -/
private theorem create_spec (key : String) (now endsAt lost : ℕ) :
    Program.Triple steady (Missed key now lost) (ask (.create key endsAt)) fun result s =>
      (result = .ok () → now ≤ s.clock) ∧
        ∀ exc, result = .error exc → exc = .integrityError ∧ Lost key now (lost + 1) s := by
  refine Program.Triple.perform (Missed.stable key now lost) ?_
  rintro s answer t known step
  refine ⟨steady_guarantee (.create key endsAt) trivial step, ?_⟩
  obtain ⟨-, verdict, ran⟩ := step
  cases found : s.rows key with
  | none =>
      simp only [Statement.run, found, Prod.mk.injEq] at ran
      obtain ⟨rfl, rfl⟩ := ran
      exact ⟨fun _ => known.started, fun _ impossible => by cases impossible⟩
  | some row =>
      simp only [Statement.run, found, Prod.mk.injEq] at ran
      obtain ⟨rfl, rfl⟩ := ran
      refine ⟨fun impossible => (by cases impossible), fun exc same => ?_⟩
      obtain rfl := Except.error.inj same
      exact ⟨rfl, known.lost found⟩

/-- Old rows are removed as of a time read off the clock. -/
private theorem removeOldRows_spec (now : ℕ) :
    Program.Triple steady (fun s => now ≤ s.clock) (removeOldRows now) fun result _ =>
      result = .ok () := by
  refine Program.Triple.perform (fun s t past later => past.trans later.clock) ?_
  rintro s answer t past step
  have dated : now - expiredRowGrace ≤ s.clock - expiredRowGrace := Nat.sub_le_sub_right past _
  refine ⟨steady_guarantee (.deleteEndedBefore _) dated step, ?_⟩
  obtain ⟨-, verdict, ran⟩ := step
  exact (Prod.mk.inj ran).1.symm

/-- The table, with a clock that nobody turns back. -/
private theorem steady_overTable : OverTable steady where
  runs _ _ _ _ step := step.2
  keeps := Later.refl

/-- What a hit learns among timely hits. -/
private theorem steady_rounds (key : String) (now endsAt : ℕ) (forward : now ≤ endsAt) :
    Rounds steady key now endsAt (Lost key now) (Missed key now) fun s => now ≤ s.clock where
  updateLive := updateLive_spec key now
  updateExpired lost := updateExpired_spec key now endsAt lost forward
  create := create_spec key now endsAt
  remove := removeOldRows_spec now
  three _ _ impossible := impossible.elim

/-! ## Hits and reads side by side -/

/-- **Timely hits.**  Every hit finishes within its window length and within the
grace period, so none of its statements is issued later than that. -/
def Timely {κ α : Type} (c : Config Sql Failure α Counters κ) :
    Label κ TokenCheck ℕ → Prop
  | .step i _ => ∀ thread, c.threads i = some thread →
      Statement.InTime c.store.clock thread.op
  | _ => True

/-- Every call works among timely hits. -/
private theorem timely_sound : (counters ServiceCall.code).Sound Timely
    ⟨fun _ _ => steady, fun _ _ => Reads⟩ fun _ => True where
  spawn c call body _ _ started := by
    obtain rfl := Option.some.inj started
    cases call with
    | hit key windowSeconds =>
        exact hit_reads steady_overTable
          (fun now => steady_rounds key now _ (Nat.le_add_right now _))
          (fun _ => Nat.le_refl _) _ trivial
    | read key => exact steady_overTable.read key _ trivial
  covers c i verdict thread answer store _ live timely executed :=
    ⟨timely thread live, verdict, Option.some.inj executed⟩
  compatible c i j mover other store _ _ _ _ promised := promised
  crash c i j other _ _ _ _ := Later.refl _
  env c elapsed j other _ _ _ := by
    refine ⟨Nat.le_add_right _ _, ?_, ?_, ?_⟩
    · intro key row row' before after
      rw [Option.some.inj (before.symm.trans after)]
    · intro key row' before after
      cases before.symm.trans after
    · intro key row before after
      cases before.symm.trans after
  keep _ _ _ _ _ _ _ _ := trivial

/-- What a direct call does, on its own. -/
private theorem serviceCall_follows (call : ServiceCall) :
    Follows FirstCount (fun y result =>
      match call with
      | .hit key _ => HitEnds key none y result
      | .read _ => True) call.code Trace.unseen := by
  cases call with
  | hit key windowSeconds =>
      exact (hit_follows key windowSeconds (x := Trace.unseen) rfl).weaken fun y statement => HitMay.firstCount
  | read key =>
      refine (read_follows key (fun y idle answer _ => idle.counted) ?_).mono
        fun _ _ _ => trivial
      exact fun y now idle _ answer _ => idle.counted

/-- **Exact counting.**  For every interleaving of timely hits and reads on any
keys:

* no call fails, so the `RuntimeError` is out of reach;
* a hit that has returned is credited once, to a window of its key that has
  begun;
* nobody is credited twice, returned or not;
* a row's count is the number of calls credited to its key since its current
  window began. -/
theorem hits_counted_exactly {c : Config Sql Failure CounterReading Counters ServiceCall}
    (reached : (counters ServiceCall.code).Reach Timely (.initial .empty) c) :
    (∀ i call exc, .returned i call (.error exc) ∉ c.history) ∧
    (∀ i key windowSeconds result,
      .returned i (.hit key windowSeconds) result ∈ c.history →
        ∃ window, 0 < window ∧ window ≤ windows key c.history ∧
          (credits c.history).filter (fun credit => credit.thread = i) = [⟨i, key, window⟩]) ∧
    ((credits c.history).map Credit.thread).Nodup ∧
    (∀ key row, c.store.rows key = some row →
      row.count = (creditedTo key (windows key c.history) c.history).length) := by
  have noFailure : ∀ i call result, .returned i call result ∈ c.history →
      ∃ reading, result = .ok reading :=
    reached.returned timely_sound trivial fun _ _ _ _ reads => reads
  refine ⟨?_, ?_, credits_nodup serviceCall_follows reached, counts_exact reached⟩
  · intro i call exc member
    obtain ⟨reading, impossible⟩ := noFailure i call _ member
    cases impossible
  · intro i key windowSeconds result member
    obtain ⟨reading, rfl⟩ := noFailure i _ _ member
    have ended : HitEnds key none (traceOf i c.history) (.ok reading) :=
      (calls_follow serviceCall_follows reached).returned i _ _ member
    obtain ⟨credit, only, its⟩ : ∃ credit,
        (credits c.history).filter (fun credit => credit.thread = i) = [credit] ∧
          credit.key = key := by
      have counted := ended.1
      rw [traceOf_counted] at counted
      obtain ⟨credit, only, its⟩ := List.map_eq_singleton_iff.mp counted
      exact ⟨credit, only, its⟩
    have its' : credit ∈ (credits c.history).filter fun credit => credit.thread = i := by
      rw [only]
      exact List.mem_singleton_self _
    obtain ⟨inLog, itsThread⟩ := List.mem_filter.mp its'
    obtain ⟨begun, known⟩ := credit_begun reached inLog
    obtain ⟨thread, creditKey, window⟩ := credit
    obtain rfl : creditKey = key := its
    obtain rfl : thread = i := of_decide_eq_true itsThread
    exact ⟨window, begun, known, only⟩

/-- `Timely`, decided. -/
def isTimely {κ α : Type} (c : Config Sql Failure α Counters κ) :
    Label κ TokenCheck ℕ → Bool
  | .step i _ => (c.threads i).all fun thread =>
      decide (Statement.InTime c.store.clock thread.op)
  | _ => true

theorem isTimely_sound {κ α : Type} (c : Config Sql Failure α Counters κ)
    (label : Label κ TokenCheck ℕ) (timely : isTimely c label = true) : Timely c label := by
  cases label with
  | step i verdict =>
      intro thread live
      simpa [isTimely, live] using timely
  | spawn call => trivial
  | kill i => trivial
  | env elapsed => trivial

/-- Two hits of a new key arrive at once, one of them loses a round to the other,
and a third arrives as their window ends: two credits in the first window, one
in the second, which the row counts. -/
theorem hits_counted_exactly_renewed :
    ∃ c, (counters ServiceCall.code).Reach Timely (.initial .empty) c ∧
      credits c.history = [⟨2, "ip", 2⟩, ⟨1, "ip", 1⟩, ⟨0, "ip", 1⟩] ∧
      ∀ row, c.store.rows "ip" = some row → row.count = 1 := by
  have replayed := Machine.exists_reach_of_replay (counters ServiceCall.code) isTimely
    (.initial .empty)
    ([.spawn (.hit "ip" 60), .spawn (.hit "ip" 60)] ++
      ([0, 1, 0, 1, 0, 1, 0, 1, 0, 0, 0, 0, 1, 1, 1, 1].map fun i => .step i .noToken) ++
      [.env (seconds 60), .spawn (.hit "ip" 60)] ++
      (List.replicate 6 2).map fun i => .step i .noToken)
    (fun c => decide (windows "ip" c.history = 2 ∧
      credits c.history = [⟨2, "ip", 2⟩, ⟨1, "ip", 1⟩, ⟨0, "ip", 1⟩]))
    (by decide +kernel)
  obtain ⟨c, reached, checked⟩ := replayed
  obtain ⟨twoWindows, credited⟩ := of_decide_eq_true checked
  have reached := reached.mono isTimely_sound
  refine ⟨c, reached, credited, fun row found => ?_⟩
  rw [(hits_counted_exactly reached).2.2.2 "ip" row found, creditedTo, credited, twoWindows]
  rfl

end DicePipeline.Throttle
