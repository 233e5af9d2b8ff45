import Mathlib.Data.List.Sort
import DicePipeline.System
import DicePipeline.Interaction.Recovery

/-!
# Is `Retry-After` long enough?

A refused submit is told to wait until the oldest counted job stops counting.
Whether a submit is let in after that wait depends on more than the oldest job.
Room for one more appears when the `L`-th newest job stops counting, `L` being
the limit, and a job still counts at the very instant its period ends.

So the wait is long enough exactly if the `L`-th newest job stops counting
before the oldest one's end, rounded up to a whole number of seconds after the
refusal (`FreesInTime`).  It is not after the limit was lowered, and not where
the oldest job's period ends a whole number of seconds after the refusal.

`Timed` runs one call of `check` while other connections do as they like, short
of making a job for the account, and writes down the moments the call reads.
The refusal's moment is the one its wait is worked out from.
-/

namespace DicePipeline

open Interaction Program Environment

/-! ## The `k`-th newest of some moments -/

/-- The moments, newest first. -/
def newestFirst (times : List ℕ) : List ℕ := times.insertionSort (· ≥ ·)

/-- In a falling list, what is at a position bounds how many are not below it. -/
theorem countP_le_iff_of_falling {times : List ℕ} (falling : times.Pairwise (· ≥ ·)) {k moment : ℕ}
    (inside : k < times.length) :
    times.countP (moment ≤ ·) ≤ k ↔ times[k] < moment := by
  induction times generalizing k with
  | nil => exact absurd inside (Nat.not_lt_zero _)
  | cons newest rest ih =>
    rw [List.pairwise_cons] at falling
    by_cases early : moment ≤ newest
    · rw [List.countP_cons_of_pos (by simpa using early)]
      cases k with
      | zero =>
        show rest.countP (moment ≤ ·) + 1 ≤ 0 ↔ newest < moment
        omega
      | succ k =>
        have shorter : k < rest.length := Nat.lt_of_succ_lt_succ inside
        show rest.countP (moment ≤ ·) + 1 ≤ k + 1 ↔ rest[k] < moment
        rw [← ih falling.2 shorter]
        omega
    · -- Nothing after a moment that is too old is any younger.
      have none : (newest :: rest).countP (moment ≤ ·) = 0 := by
        rw [List.countP_eq_zero]
        intro time member
        rcases List.mem_cons.mp member with rfl | later
        · simpa using early
        · have := falling.1 time later
          simp only [decide_eq_true_eq]
          omega
      rw [none]
      refine ⟨fun _ => ?_, fun _ => Nat.zero_le _⟩
      have atMost : (newest :: rest)[k] ≤ newest := by
        rcases List.mem_cons.mp (List.getElem_mem inside) with same | later
        · exact same.le
        · exact falling.1 _ later
      omega

/-- How many moments are not before a given one, by the `k`-th newest. -/
theorem length_filter_le_iff {times : List ℕ} {k moment newest : ℕ}
    (ranked : (newestFirst times)[k]? = some newest) :
    (times.filter (moment ≤ ·)).length ≤ k ↔ newest < moment := by
  obtain ⟨inside, rfl⟩ := List.getElem?_eq_some_iff.mp ranked
  have falling : (newestFirst times).Pairwise (· ≥ ·) := List.pairwise_insertionSort _ times
  rw [← countP_le_iff_of_falling falling inside, ← List.countP_eq_length_filter]
  rw [newestFirst, (List.perm_insertionSort _ times).countP_eq]

/-! ## What a check reads -/

/-- When the account's committed jobs were made. -/
def Store.creationTimes (s : Store) (account : ℕ) : List ℕ :=
  (s.remediations.filter fun row => row.serviceAccount = account).map (·.createdAt)

theorem Store.creationTimes_congr {s t : Store} (same : t.remediations = s.remediations)
    (account : ℕ) : t.creationTimes account = s.creationTimes account := by
  unfold Store.creationTimes
  rw [same]

/-- What `recent_submissions` answers of jobs made at these moments. -/
def usageSince (times : List ℕ) (since : ℕ) : SubmissionUsage where
  count := (times.filter (since ≤ ·)).length
  oldest := (times.filter (since ≤ ·)).min?

theorem usageSince_creationTimes (s : Store) (account since : ℕ) :
    ({ count := (s.recent account since).length
       oldest := ((s.recent account since).map (·.createdAt)).min? } : SubmissionUsage) =
      usageSince (s.creationTimes account) since := by
  have same : (s.recent account since).map (·.createdAt) =
      (s.creationTimes account).filter (since ≤ ·) := by
    unfold Store.recent Store.creationTimes
    rw [List.filter_map, List.filter_filter]
    congr 1
    refine List.filter_congr fun row _ => ?_
    simp [Bool.and_comm]
  unfold usageSince
  rw [← same, List.length_map]

/-- The moment an operation read, if it read one. -/
def momentRead : (op : Op) → Except Exn op.Ans → List ℕ
  | .now, .ok moment => [moment]
  | _, _ => []

/-- One call of connection `i` while no job is made for the account and the
database answers, with the moments the call has read. -/
def Timed (settings : Settings) (i account : ℕ) : Environment Query Exn (Store × List ℕ) where
  step := fun op before answer after =>
    (∃ world : World, world.database = none ∧
      execute settings world i op before.1 = some (answer, after.1)) ∧
    after.2 = before.2 ++ momentRead op answer
  rely := fun before after =>
    after.1.creationTimes account = before.1.creationTimes account ∧
      before.1.clock ≤ after.1.clock ∧ after.2 = before.2
  guarantee := fun _ _ => True
  rely_refl := fun _ => ⟨rfl, Nat.le_refl _, rfl⟩
  rely_trans := fun first second =>
    ⟨second.1.trans first.1, first.2.1.trans second.2.1, second.2.2.trans first.2.2⟩

/-- When the account's jobs were made, that it is no earlier than `moment`, and
what has been read. -/
def Knows (account : ℕ) (times : List ℕ) (moment : ℕ) (log : List ℕ) (x : Store × List ℕ) : Prop :=
  x.1.creationTimes account = times ∧ moment ≤ x.1.clock ∧ x.2 = log

section Check

variable {settings : Settings} {i account : ℕ} {times log : List ℕ} {moment since : ℕ}

private theorem stable_knows :
    (Timed settings i account).Stable (Knows account times moment log) := by
  rintro x y ⟨known, late, read⟩ ⟨same, later, unread⟩
  exact ⟨same.trans known, late.trans later, unread.trans read⟩

private theorem timed_issue {op : Op} {P : Store × List ℕ → Prop}
    {Q : Except Exn op.Ans → Store × List ℕ → Prop} (stable : (Timed settings i account).Stable P)
    (step : ∀ s answer t world, P (s, log) → world.database = none →
      execute settings world i op s = some (answer, t) → Q answer (t, log ++ momentRead op answer))
    (read : ∀ x, P x → x.2 = log) :
    Triple (Timed settings i account) P (issue op) Q := by
  refine Triple.perform stable ?_
  rintro ⟨s, log'⟩ answer ⟨t, log''⟩ known ⟨⟨world, reached, executed⟩, rfl⟩
  obtain rfl : log' = log := read _ known
  exact ⟨trivial, step s answer t world known reached executed⟩

private theorem lock_timed :
    Triple (Timed settings i account) (Knows account times moment log)
      (issue (.lockAccount account))
      fun answer x => ∃ value, answer = .ok value ∧ Knows account times moment log x := by
  refine timed_issue stable_knows ?_ fun x known => known.2.2
  intro s answer t world known reached executed
  simp only [execute, World.failure, reached, Option.map_none, perform] at executed
  split at executed
  · cases executed
    exact ⟨(), rfl, known.1, known.2.1, List.append_nil _⟩
  · split at executed
    · cases executed
      exact ⟨(), rfl, known.1, known.2.1, List.append_nil _⟩
    · cases executed

private theorem now_timed :
    Triple (Timed settings i account) (Knows account times moment log) (issue .now)
      fun answer x => ∃ now : ℕ, answer = .ok now ∧ moment ≤ now ∧
        Knows account times now (log ++ [now]) x := by
  refine timed_issue stable_knows ?_ fun x known => known.2.2
  intro s answer t world known reached executed
  simp only [execute, World.failure, perform] at executed
  cases executed
  exact ⟨s.clock, rfl, known.2.1, known.1, Nat.le_refl _, rfl⟩

private theorem recent_timed :
    Triple (Timed settings i account) (Knows account times moment log)
      (issue (.recentSubmissions account since))
      fun answer x => ∃ usage, answer = .ok usage ∧ usage = usageSince times since ∧
        Knows account times moment log x := by
  refine timed_issue stable_knows ?_ fun x known => known.2.2
  intro s answer t world known reached executed
  simp only [execute, World.failure, reached, Option.map_none, perform] at executed
  cases executed
  refine ⟨_, rfl, ?_, known.1, known.2.1, List.append_nil _⟩
  rw [usageSince_creationTimes, known.1]

/-- How a check ends that starts no earlier than `moment`: with room for one
more, or with the wait worked out at the second moment it reads. -/
def Checked (l : SubmissionLimit) (times : List ℕ) (moment : ℕ) (r : Except Exn Unit)
    (x : Store × List ℕ) : Prop :=
  ∃ counted, moment ≤ counted ∧
    let usage := usageSince times (counted - seconds l.duration)
    (usage.count < l.numRequests ∧ r = .ok ()) ∨
    (l.numRequests ≤ usage.count ∧ ∃ oldest refused last, usage.oldest = some oldest ∧
      x.2 = [counted, refused, last] ∧
      r = .error (.throttled (secondsUntil (oldest + seconds l.duration) refused)))

private theorem oldest_of_count_pos {l : SubmissionLimit} (limited : 0 < l.numRequests)
    (full : l.numRequests ≤ (usageSince times since).count) :
    ∃ oldest, (usageSince times since).oldest = some oldest := by
  cases found : (usageSince times since).oldest with
  | some oldest => exact ⟨oldest, rfl⟩
  | none =>
    have empty : times.filter (since ≤ ·) = [] := List.min?_eq_none_iff.mp found
    have zero : (usageSince times since).count = 0 := congrArg List.length empty
    omega

private theorem stable_checked {l : SubmissionLimit} (r : Except Exn Unit) :
    (Timed settings i account).Stable (Checked l times moment r) := by
  rintro ⟨s, log⟩ ⟨t, log'⟩ checked ⟨-, -, unread⟩
  obtain rfl : log' = log := unread
  exact checked

theorem check_timed {l : SubmissionLimit} (limited : 0 < l.numRequests) :
    Triple (Timed settings i l.account) (Knows l.account times moment []) l.check
      (Checked l times moment) := by
  refine Triple.bind_ok (M := fun usage x => ∃ counted, moment ≤ counted ∧
    usage = usageSince times (counted - seconds l.duration) ∧
    Knows l.account times counted [counted] x) ?_ ?_
  · refine Triple.bind_ok lock_timed fun _ => ?_
    refine Triple.bind_ok now_timed fun counted => ?_
    intro x known
    refine recent_timed.post ?_ x known.2
    rintro _ y ⟨usage, rfl, same, after⟩
    exact ⟨usage, rfl, counted, known.1, same, after⟩
  · rintro usage x ⟨counted, late, rfl, known⟩
    split
    · rename_i fewer
      exact safe_done.mpr ⟨counted, late, .inl ⟨fewer, rfl⟩⟩
    · rename_i notFewer
      have full := Nat.le_of_not_lt notFewer
      obtain ⟨oldest, found⟩ := oldest_of_count_pos limited full
      have waiting : Triple (Timed settings i l.account)
          (Knows l.account times counted [counted])
          (l.secondsUntilOldestExpires (usageSince times (counted - seconds l.duration)).oldest)
          fun answer x => ∃ wait, answer = .ok wait ∧ ∃ refused,
            wait = secondsUntil (oldest + seconds l.duration) refused ∧
              Knows l.account times refused [counted, refused] x := by
        rw [found]
        refine Triple.bind_ok now_timed fun refused => Triple.done fun y read => ?_
        exact ⟨_, rfl, refused, rfl, read.2⟩
      refine Triple.bind_ok waiting (fun wait => ?_) x known
      rintro y ⟨refused, rfl, read⟩
      refine Triple.bind_ok now_timed (fun last => Triple.done fun z ended => ?_) y read
      exact ⟨counted, late, .inr ⟨full, oldest, refused, last, found, ended.2.2.2, rfl⟩⟩

private theorem returns_timed {op : Op} {answer : Except Exn op.Ans} {s t : Store}
    (executed : execute settings .uneventful i op s = some (answer, t)) :
    (Timed settings i account).Returns (issue op) (s, log) answer
      (t, log ++ momentRead op answer) :=
  Returns.perform ⟨⟨.uneventful, rfl, executed⟩, rfl⟩

/-- A full window is refused, in a moment that passes while nothing else happens. -/
theorem check_refuses {l : SubmissionLimit} {s : Store} {oldest : ℕ}
    (unlocked : s.locks l.account = none) (known : s.creationTimes l.account = times)
    (reached : s.clock = moment)
    (full : l.numRequests ≤ (usageSince times (moment - seconds l.duration)).count)
    (found : (usageSince times (moment - seconds l.duration)).oldest = some oldest) :
    ∃ t, (Timed settings i l.account).Returns l.check (s, [])
      (.error (.throttled (secondsUntil (oldest + seconds l.duration) moment)))
      (t, [moment, moment, moment]) := by
  subst known reached
  let t : Store := { s with locks := Function.update s.locks l.account (some i) }
  have locking : execute settings .uneventful i (.lockAccount l.account) s = some (.ok (), t) := by
    simp only [execute, World.failure, World.uneventful, Option.map_none, perform, unlocked, t]
  have counting : execute settings .uneventful i
      (.recentSubmissions l.account (s.clock - seconds l.duration)) t =
        some (.ok (usageSince (s.creationTimes l.account) (s.clock - seconds l.duration)), t) := by
    simp only [execute, World.failure, World.uneventful, Option.map_none, perform]
    rw [usageSince_creationTimes]
    rfl
  refine ⟨t, ?_⟩
  refine Returns.bind (usageSince (s.creationTimes l.account) (s.clock - seconds l.duration))
    (Returns.bind () (returns_timed locking)
      (Returns.bind s.clock (returns_timed rfl) (returns_timed counting))) ?_
  show (Timed settings i l.account).Returns (if _ then _ else _) _ _ _
  rw [if_neg (Nat.not_lt.mpr full), found]
  exact Returns.bind _ (Returns.bind s.clock (returns_timed rfl) Returns.done)
    (Returns.bind s.clock (returns_timed rfl) Returns.done)

end Check

/-! ## The wait -/

/-- The first moment at or after `moment` that is a whole number of seconds
after `start`. -/
def wholeSecondsAfter (start moment : ℕ) : ℕ :=
  start + seconds (secondsUntil moment start)

theorem wholeSecondsAfter_eq (start moment : ℕ) :
    wholeSecondsAfter start moment = start + seconds (secondsUntil moment start) := rfl

/-- **The condition.**  The job that makes room when it stops counting, the `L`-th newest one,
stops counting before the oldest counted job's period is over, rounded up to whole seconds
after the refusal.

The source names the wait until the oldest counted job stops counting.  With just `L` jobs that
is the one that makes room; with more, which a lowered limit leaves, it is an older one. -/
def FreesInTime (l : SubmissionLimit) (times : List ℕ) (counted refused : ℕ) : Prop :=
  ∃ oldest freeing,
    (times.filter (counted - seconds l.duration ≤ ·)).min? = some oldest ∧
    (newestFirst times)[l.numRequests - 1]? = some freeing ∧
    freeing + seconds l.duration <
      wholeSecondsAfter refused (oldest + seconds l.duration)

/-- Every check from a wait of `w` seconds on, with no job made since, lets a
submit in. -/
def Suffices (settings : Settings) (l : SubmissionLimit) (times : List ℕ) (refused w : ℕ) : Prop :=
  ∀ i s r t log, s.creationTimes l.account = times → refused + seconds w ≤ s.clock →
    (Timed settings i l.account).Returns l.check (s, []) r (t, log) → r = .ok ()

section Wait

variable {settings : Settings} {i : ℕ} {l : SubmissionLimit} {times : List ℕ}

/-- Room for one more, by the `L`-th newest job. -/
private theorem count_lt_iff (limited : 0 < l.numRequests) {freeing moment : ℕ}
    (ranked : (newestFirst times)[l.numRequests - 1]? = some freeing) :
    (usageSince times (moment - seconds l.duration)).count < l.numRequests ↔
      freeing + seconds l.duration < moment := by
  have below := @length_filter_le_iff _ _ (moment - seconds l.duration) _ ranked
  show (times.filter (moment - seconds l.duration ≤ ·)).length < l.numRequests ↔ _
  omega

private theorem exists_freeing {since : ℕ} (limited : 0 < l.numRequests)
    (full : l.numRequests ≤ (usageSince times since).count) :
    ∃ freeing, (newestFirst times)[l.numRequests - 1]? = some freeing := by
  have counted : (usageSince times since).count ≤ times.length := List.length_filter_le _ _
  have sorted : (newestFirst times).length = times.length := List.length_insertionSort _ _
  have inside : l.numRequests - 1 < (newestFirst times).length := by omega
  exact ⟨_, List.getElem?_eq_getElem inside⟩

/-- At a moment at which the window is full, a check may be refused. -/
private theorem exists_refusal (limited : 0 < l.numRequests) (s : Store) {moment : ℕ}
    (full : l.numRequests ≤
      (usageSince (s.creationTimes l.account) (moment - seconds l.duration)).count) :
    ∃ later t w log, later.creationTimes l.account = s.creationTimes l.account ∧
      later.clock = moment ∧
      (Timed settings i l.account).Returns l.check (later, []) (.error (.throttled w)) (t, log) := by
  obtain ⟨oldest, found⟩ := oldest_of_count_pos limited full
  let later : Store := { s with clock := moment, locks := fun _ => none }
  have same : later.creationTimes l.account = s.creationTimes l.account :=
    Store.creationTimes_congr rfl _
  obtain ⟨t, refuses⟩ := @check_refuses settings i _ _ _ later _ rfl same rfl full found
  exact ⟨later, t, _, _, same, rfl, refuses⟩

private theorem suffices_iff_freesInTime (limited : 0 < l.numRequests) {counted refused oldest : ℕ}
    (full : l.numRequests ≤ (usageSince times (counted - seconds l.duration)).count)
    (found : (usageSince times (counted - seconds l.duration)).oldest = some oldest)
    (stored : ∃ s : Store, s.creationTimes l.account = times) :
    Suffices settings l times refused (secondsUntil (oldest + seconds l.duration) refused) ↔
      FreesInTime l times counted refused := by
  obtain ⟨freeing, ranked⟩ := exists_freeing limited full
  have condition : FreesInTime l times counted refused ↔ freeing + seconds l.duration <
      wholeSecondsAfter refused (oldest + seconds l.duration) := by
    refine ⟨?_, fun early => ⟨oldest, freeing, found, ranked, early⟩⟩
    rintro ⟨oldest', freeing', found', ranked', early⟩
    obtain rfl : oldest = oldest' := Option.some.inj (found.symm.trans found')
    obtain rfl : freeing = freeing' := Option.some.inj (ranked.symm.trans ranked')
    exact early
  rw [condition]
  constructor
  · intro sufficient
    by_contra late
    obtain ⟨s, rfl⟩ := stored
    rw [← count_lt_iff limited ranked, Nat.not_lt] at late
    obtain ⟨later, t, w, log, same, reached, refuses⟩ := exists_refusal (i := 0) limited s late
    cases sufficient 0 later _ t _ same reached.ge refuses
  · intro early i s r t log known late returned
    obtain ⟨moment, later, ends⟩ :=
      Returns.safe returned (check_timed limited (s, []) ⟨known, late, rfl⟩) stable_checked
    rcases ends with ⟨-, passed⟩ | ⟨full', -⟩
    · exact passed
    · exact absurd ((count_lt_iff limited ranked).mpr (early.trans_le later)) (Nat.not_lt.mpr full')

/-- **When `Retry-After` is sufficient.**  A check that refused, whatever jobs the account had,
named a wait after which every check lets a submit in, no job being made for the account and
its limit staying, exactly if the `L`-th newest job stops counting before the oldest counted
one's end rounded up.

The check that is made later runs among any other threads, and reads the clock at its own
moment; that no job is made for the account meanwhile is what the header promises it under. -/
theorem retry_after_suffices_iff (limited : 0 < l.numRequests)
    {s t : Store} {w counted refused last : ℕ}
    (refusal : (Timed settings i l.account).Returns l.check (s, [])
      (.error (.throttled w)) (t, [counted, refused, last])) :
    Suffices settings l (s.creationTimes l.account) refused w ↔
      FreesInTime l (s.creationTimes l.account) counted refused := by
  obtain ⟨counted', -, ends⟩ :=
    Returns.safe refusal (check_timed limited (s, []) ⟨rfl, Nat.le_refl _, rfl⟩) stable_checked
  rcases ends with ⟨-, impossible⟩ | ⟨full, oldest, refused', last', found, log, raised⟩
  · cases impossible
  · obtain ⟨rfl, rfl, rfl⟩ : counted = counted' ∧ refused = refused' ∧ last = last' := by
      simpa using log
    obtain rfl : w = secondsUntil (oldest + seconds l.duration) refused :=
      Exn.throttled.inj (Except.error.inj raised)
    exact suffices_iff_freesInTime limited full found ⟨s, rfl⟩

/-- A store at half a second past its only job. -/
def halfASecondLater : Store :=
  { Store.empty none with
    clock := 500000
    remediations := [NewRemediation.toRow ⟨1, .blank, "", "", "", 0⟩ 0] }

/-- One job a second, and one job made half a second before the refusal: it
stops counting half a second before the wait is over. -/
theorem retry_after_suffices_one_job :
    ∃ t, (Timed .stepsOff 0 1).Returns (SubmissionLimit.check ⟨1, 1, 1⟩) (halfASecondLater, [])
        (.error (.throttled 1)) (t, [500000, 500000, 500000]) ∧
      Suffices .stepsOff ⟨1, 1, 1⟩ (halfASecondLater.creationTimes 1) 500000 1 := by
  obtain ⟨t, refusal⟩ := @check_refuses .stepsOff 0 [0] 500000 ⟨1, 1, 1⟩ halfASecondLater 0
    rfl (by decide) rfl (by decide) (by decide)
  exact ⟨t, refusal, (retry_after_suffices_iff (by decide) refusal).mpr
    ⟨0, 0, by decide, by decide, by decide⟩⟩

end Wait

/-! ## A limit lowered since -/

/-- An account without limits makes a job, and another one 50 minutes later
that replaces it.  500 seconds pass. -/
def twoJobs : List Choice :=
  [.spawn (.request .noLimits .oneByte)] ++ steps 0 9 ++ [.spawn (.run 0)] ++ steps 1 14 ++
  [.env 3000000000, .spawn (.request .noLimits (.oneByte true))] ++ steps 2 8 ++ [.env 500000000]

/-- When the two jobs were made, and that the account's row is unlocked. -/
def twoJobsMade (c : Cluster) : Bool :=
  c.store.creationTimes 1 = [0, 3000000000] && c.store.clock = 3500000000 &&
    c.store.locks 1 = none

/-- Limited to one job an hour from then on, the account is told to wait 100
seconds, which is when the first job stops counting.  The second one goes on
counting for 50 minutes. -/
theorem retry_after_falls_short :
    ¬ ∀ (settings : Settings) (acceptsUrl : String → Bool) (retryFloor : Option String)
      (c : Cluster), (system settings acceptsUrl).Reach (fun _ _ => True) (deployed retryFloor) c →
      ∀ (l : SubmissionLimit) (i : ℕ) (t : Store) (w counted refused last : ℕ),
        0 < l.numRequests →
        (Timed settings i l.account).Returns l.check (c.store, []) (.error (.throttled w))
          (t, [counted, refused, last]) →
        Suffices settings l (c.store.creationTimes l.account) refused w := by
  intro claim
  obtain ⟨c, reached, made⟩ := Machine.exists_reach_of_replay (system .stepsOff fun _ => true)
    (fun _ _ => true) (deployed none) twoJobs twoJobsMade (by decide +kernel)
  simp only [twoJobsMade, Bool.and_eq_true, decide_eq_true_eq] at made
  obtain ⟨⟨known, now⟩, unlocked⟩ := made
  have full : 1 ≤ (usageSince [0, 3000000000] (3500000000 - seconds 3600)).count := by decide
  have found : (usageSince [0, 3000000000] (3500000000 - seconds 3600)).oldest = some 0 := by decide
  obtain ⟨t, refusal⟩ := @check_refuses .stepsOff 9 _ _ ⟨1, 1, 3600⟩ c.store 0 unlocked known now
    full found
  have sufficient := claim _ _ _ c (reached.mono fun _ _ _ => trivial) ⟨1, 1, 3600⟩ 9 t _ _ _ _
    Nat.one_pos refusal
  rw [known] at sufficient
  obtain ⟨oldest, freeing, isOldest, isFreeing, early⟩ :=
    (@suffices_iff_freesInTime _ ⟨1, 1, 3600⟩ _ Nat.one_pos _ _ _ full found
      ⟨c.store, known⟩).mp sufficient
  obtain rfl : (0 : ℕ) = oldest := Option.some.inj (found.symm.trans isOldest)
  have second : (newestFirst [0, 3000000000])[0]? = some 3000000000 := by decide
  obtain rfl : (3000000000 : ℕ) = freeing := Option.some.inj (second.symm.trans isFreeing)
  simp [wholeSecondsAfter, secondsUntil, seconds] at early

end DicePipeline
