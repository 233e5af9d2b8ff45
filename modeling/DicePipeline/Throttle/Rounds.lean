import DicePipeline.Throttle.Calls

/-!
# The rounds of a hit

`hit` tries three statements a round against a row that other calls create,
renew and delete between them, and gives up after `MAX_HIT_ATTEMPTS` lost
rounds.  What the others do to the row is a parameter here: an environment over
the table.  `Rounds` is what it takes for a hit to return among them, and
`Rounds.reads` is the induction over the rounds, done once.

### What is load-bearing

A round that is lost teaches a hit something about its row, and this is what
`Lost` and `Missed` carry from statement to statement.  The argument needs no
clock and no fairness: it is that nothing can be known after three lost rounds
(`three`), while `hit` has five.
-/

namespace DicePipeline.Throttle

open Interaction ThrottleCounterService

/-- A call that returns a reading. -/
def Reads (result : Except Failure CounterReading) (_ : Counters) : Prop :=
  ∃ reading, result = .ok reading

/-- An environment whose steps are statements against the table, and in which a
statement that changes nothing is always in order. -/
structure OverTable (E : Environment Sql Failure Counters) : Prop where
  runs : ∀ (statement : Statement) s answer t, E.step statement s answer t →
    ∃ verdict, statement.run verdict s = (answer, t)
  keeps : ∀ s, E.guarantee s s

variable {E : Environment Sql Failure Counters}

/-- A statement that changes nothing and cannot raise. -/
theorem OverTable.silent (table : OverTable E) (statement : Statement)
    (reads : statement.readOnly = true) (never : ∀ exc, ¬ statement.Answers (.error exc))
    {P : Counters → Prop} (stable : E.Stable P) :
    Program.Triple E P (ask statement) fun result _ => ∃ value, result = .ok value := by
  refine Program.Triple.perform stable ?_
  rintro s answer t - step
  obtain ⟨verdict, ran⟩ := table.runs statement s answer t step
  have promised := Statement.run_answers verdict statement s
  have same := Statement.run_of_readOnly reads verdict s
  rw [ran] at promised same
  obtain rfl : t = s := same
  refine ⟨table.keeps t, ?_⟩
  cases answer with
  | ok value => exact ⟨value, rfl⟩
  | error exc => exact absurd promised (never exc)

/-- `read` always returns a reading. -/
theorem OverTable.read (table : OverTable E) (key : String) :
    Program.Triple E (fun _ => True) (read key) Reads := by
  have anything : E.Stable fun _ => True := Environment.Stable.const True
  have clock := table.silent .timezoneNow rfl (fun _ h => h) anything
  refine Program.Triple.bind clock (fun now => ?_) ?_
  · refine Program.Triple.bind ((table.silent (.firstLive key now) rfl
      (fun _ h => h) anything).pre fun _ _ => trivial) (fun row => ?_) ?_
    · cases row with
      | none => exact Program.Triple.done fun s _ => ⟨_, rfl⟩
      | some row =>
          refine Program.Triple.bind (clock.pre fun _ _ => trivial)
            (fun later => Program.Triple.done fun s _ => ⟨_, rfl⟩) ?_
          rintro exc s ⟨value, impossible⟩
          cases impossible
    · rintro exc s ⟨value, impossible⟩
      cases impossible
  · rintro exc s ⟨value, impossible⟩
    cases impossible

/-- **What a hit learns from its rounds.**  `Lost n` is known of the table after `n`
lost rounds, `Missed n` when the second statement of the next one has matched
nothing either, and `Created` once the row has been made. -/
structure Rounds (E : Environment Sql Failure Counters) (key : String) (now endsAt : ℕ)
    (Lost Missed : ℕ → Counters → Prop) (Created : Counters → Prop) : Prop where
  /-- `live.update` misses in the first two rounds only. -/
  updateLive : ∀ lost, Program.Triple E (Lost lost) (ask (.updateLive key now)) fun result s =>
    ∃ matched : ℕ, result = .ok matched ∧ (matched = 0 → Lost lost s ∧ lost < 2)
  updateExpired : ∀ lost, Program.Triple E (fun s => Lost lost s ∧ lost < 2)
    (ask (.updateExpired key now endsAt)) fun result s =>
      ∃ matched : ℕ, result = .ok matched ∧ (matched = 0 → Missed lost s)
  /-- `create` clashes with a row that is there, so the next round knows more. -/
  create : ∀ lost, Program.Triple E (Missed lost) (ask (.create key endsAt)) fun result s =>
    (result = .ok () → Created s) ∧
      ∀ exc, result = .error exc → exc = .integrityError ∧ Lost (lost + 1) s
  /-- The one that has made the row removes old ones. -/
  remove : Program.Triple E Created (removeOldRows now) fun result _ => result = .ok ()
  three : ∀ lost s, ¬ Lost (lost + 3) s

variable {key : String} {now endsAt : ℕ} {Lost Missed : ℕ → Counters → Prop}
variable {Created : Counters → Prop}

/-- **A hit returns** if it has three rounds less the lost ones.  The induction is
on the rounds left; a round that is lost adds to what is known of the row. -/
theorem Rounds.reads (rounds : Rounds E key now endsAt Lost Missed Created)
    (table : OverTable E) : ∀ left lost, 3 ≤ left + lost →
      Program.Triple E (Lost lost) (hitRounds key now endsAt left) Reads := by
  have readBack : ∀ P : Counters → Prop, Program.Triple E P (read key) Reads :=
    fun P => (table.read key).pre fun _ _ => trivial
  intro left
  induction left with
  | zero =>
      intro lost enough s known
      obtain ⟨more, rfl⟩ : ∃ more, lost = more + 3 := ⟨lost - 3, by omega⟩
      exact absurd known (rounds.three more s)
  | succ left ih =>
      intro lost enough
      refine Program.Triple.bind (rounds.updateLive lost) (fun matched => ?_) ?_
      · by_cases hit : matched ≠ 0
        · rw [if_pos hit]
          exact readBack _
        · rw [if_neg hit]
          -- No row is live: it has ended, or there is none.
          refine Program.Triple.pre (P := fun s => Lost lost s ∧ lost < 2)
            (Program.Triple.bind (rounds.updateExpired lost) (fun renewed => ?_) ?_) ?_
          · by_cases won : renewed ≠ 0
            · rw [if_pos won]
              exact readBack _
            · rw [if_neg won]
              refine Program.Triple.pre (P := Missed lost)
                (Program.Triple.attempt_bind (rounds.create lost) fun result => ?_) ?_
              · cases result with
                | ok created =>
                    refine Program.Triple.bind
                      (rounds.remove.pre fun s known => known.1 rfl) (fun _ => readBack _) ?_
                    rintro exc s impossible
                    cases impossible
                | error exc =>
                    rintro s ⟨-, clash⟩
                    obtain ⟨rfl, known⟩ := clash exc rfl
                    exact ih (lost + 1) (by omega) s known
              · rintro s ⟨_, ⟨⟩, missed⟩
                exact missed (not_not.mp won)
          · rintro exc s ⟨value, impossible, -⟩
            cases impossible
          · rintro s ⟨_, ⟨⟩, missed⟩
            exact missed (not_not.mp hit)
      · rintro exc s ⟨value, impossible, -⟩
        cases impossible

/-- **`hit` never gives up** where its rounds teach it enough, whatever time it reads. -/
theorem hit_reads (table : OverTable E) {windowSeconds : ℕ}
    {Lost Missed : ℕ → ℕ → Counters → Prop} {Created : ℕ → Counters → Prop}
    (rounds : ∀ now, Rounds E key now (now + seconds windowSeconds) (Lost now) (Missed now)
      (Created now))
    (starts : ∀ s, Lost s.clock 0 s) :
    Program.Triple E (fun _ => True) (hit key windowSeconds) Reads := by
  refine Program.Triple.bind (M := fun result s => ∃ now : ℕ, result = .ok now ∧ Lost now 0 s)
    ?_ (fun now => ?_) ?_
  · refine Program.Triple.perform (Environment.Stable.const True) ?_
    rintro s answer t - step
    obtain ⟨verdict, ran⟩ := table.runs .timezoneNow s answer t step
    obtain ⟨rfl, rfl⟩ := Prod.mk.inj ran
    exact ⟨table.keeps s, s.clock, rfl, starts s⟩
  · refine ((rounds now).reads table maxHitAttempts 0 (by decide)).pre ?_
    rintro s ⟨_, ⟨⟩, known⟩
    exact known
  · rintro exc s ⟨value, impossible, -⟩
    cases impossible

end DicePipeline.Throttle
