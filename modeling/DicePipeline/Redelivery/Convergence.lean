import DicePipeline.Attempt.Verdicts
import DicePipeline.Redelivery.Task

/-!
# Redelivery converges

However often a run is killed and the task delivered again, the run that ends
leaves the attempt as one uninterrupted run would have: `redelivery_converges`.

It does so unless a run is stopped between a verdict or a score and its mark.
`_mark_status` writes a row that a redelivered run may write again, but
`VerificationResult.objects.create` and `RemediationScore.objects.create` do
not: the run that repeats the step is refused by the unique constraint, and
ends the attempt in ERROR (`redelivery_does_not_converge`).

### What is load-bearing

The interrupted runs are not compared with the uninterrupted one directly, but each with
a plan: `Plan` computes from the settings and the answers of the adapters what each step
will record.  The invariant `Recorded` says that what is stored is a part of that, so it
does not matter how often a part is written again.

What the adapters answer is a function of what they are called with.  Where an adapter
answers a second call otherwise than the first one, no run could be expected to end as
another.
-/

namespace DicePipeline

open Interaction Program Environment

/-- **Two stores agree on an attempt**: on how it ended, on the file it serves, and
on every record of its steps. -/
structure SameAttempt (job : Job) (s t : Store) : Prop where
  row : ∃ row row', s.row job.id = some row ∧ t.row job.id = some row' ∧
    row'.status = row.status ∧ row'.error = row.error ∧
    row'.finalOutputUri = row.finalOutputUri ∧
    t.objects row'.finalOutputUri = s.objects row.finalOutputUri
  artifacts : ∀ step, t.artifacts job.id step = s.artifacts job.id step
  results : ∀ step, t.results job.id step = s.results job.id step
  scores : t.scores job.id = s.scores job.id

namespace Plan

variable {plan : Plan} {s t : Store}

/-- The file a finished attempt serves is the planned one. -/
theorem ending_content (recorded : plan.Recorded s) (stored : ∀ step, plan.Stored step s) :
    s.objects plan.ending.finalOutputUri =
      if plan.ending.finalOutputUri = plan.job.source then plan.content
      else (plan.progress Step.order).content := by
  split
  · rename_i isSource
    rw [isSource, recorded.original]
  · rename_i notSource
    rcases plan.ending_finalOutputUri with isSource | isLast
    · exact absurd isSource notSource
    · rw [isLast]
      exact content_found (List.append_nil _) recorded.original fun step _ => stored step

/-- What the plan determines, it determines once. -/
theorem Done.sameAttempt (first : plan.Done s) (second : plan.Done t) :
    SameAttempt plan.job s t := by
  obtain ⟨recorded, row, found, isFinished⟩ := first
  obtain ⟨recorded', row', found', isFinished'⟩ := second
  have planned : plan.RowPlanned s row := by
    obtain ⟨other, foundOther, planned⟩ := recorded.row
    obtain rfl := Option.some.inj (found.symm.trans foundOther)
    exact planned
  have planned' : plan.RowPlanned t row' := by
    obtain ⟨other, foundOther, planned⟩ := recorded'.row
    obtain rfl := Option.some.inj (found'.symm.trans foundOther)
    exact planned
  have ended := planned.finished isFinished
  have ended' := planned'.finished isFinished'
  refine ⟨⟨row, row', found, found', ?_, ?_, ?_, ?_⟩, fun step => ?_, fun step => ?_, ?_⟩
  · rw [ended.status, ended'.status]
  · rw [ended.error, ended'.error]
  · rw [ended.finalOutputUri, ended'.finalOutputUri]
  · rw [ended.finalOutputUri, ended'.finalOutputUri, ending_content recorded ended.stored,
      ending_content recorded' ended'.stored]
  · rw [(ended.stored step).artifact, (ended'.stored step).artifact]
  · rw [(ended.stored step).result, (ended'.stored step).result]
  · rw [(ended.stored .scoring).score rfl, (ended'.stored .scoring).score rfl]

end Plan

variable {settings : Settings} {adapters : Adapters} {job : Job} {s t : Store}

/-- The plan of a new attempt. -/
def Job.plan (settings : Settings) (adapters : Adapters) (job : Job) (origin : Store)
    (row : Remediation) : Plan where
  settings := settings
  adapters := adapters
  job := job
  content := origin.objects job.source
  error := row.error

/-- A new attempt may be started. -/
theorem Job.Fresh.restartable {origin : Store} (fresh : job.Fresh origin) :
    ∃ row, (job.plan settings adapters origin row).Restartable origin := by
  obtain ⟨row, found, describes, isQueued⟩ := fresh.described
  refine ⟨row, ⟨⟨row, found, describes, fun _ => rfl, fun isFinished => ?_⟩, rfl, ?_, ?_, ?_, ?_⟩,
    fun _ step _ => ⟨congrFun fresh.results step, fun _ => fresh.scores⟩⟩
  · rw [isQueued] at isFinished
    cases isFinished
  · intro step artifact stored
    exact absurd ((congrFun fresh.artifacts step).symm.trans stored) (by simp)
  · intro step result stored
    exact absurd ((congrFun fresh.results step).symm.trans stored) (by simp)
  · intro score stored
    exact absurd (fresh.scores.symm.trans stored) (by simp)
  · intro step uri completed
    exact absurd ((fresh.completed step).symm.trans completed) (by simp)

/-- A history whose stops all have their marks leads from a start to a start. -/
theorem Plan.restartable_of_deliveries (plan : Plan) {origin : Store} {stops : List Store}
    (fits : plan.job.source.fits = true) (initial : plan.Restartable origin)
    (deliveries : (Repeatable plan.settings plan.adapters plan.job).Deliveries
      (processRemediation plan.settings plan.job.id) origin stops s)
    (marked : ∀ stop ∈ stops, Unfinished plan.job stop → ∀ step, RowsMarked plan.job step stop) :
    plan.Restartable s := by
  refine (deliveries.promising fun _ t => plan.Recorded t).invariant plan.Restartable
    plan.Recorded (fun s holds => plan.process_spec fits s holds) (fun _ => plan.stable_done)
    plan.stable_restartable (fun s t recorded leftAlone => recorded.leftAlone leftAlone)
    (fun s t _ promised => promised) (fun s holds => holds.1)
    (fun stop member recorded => ⟨recorded, marked stop member⟩) initial

/-- A run that is started where it may be, and ends, leaves the attempt finished. -/
theorem Plan.done_of_returns (plan : Plan) {ended : Except Exn Unit}
    (fits : plan.job.source.fits = true) (start : plan.Restartable s)
    (returns : (Repeatable plan.settings plan.adapters plan.job).Returns
      (processRemediation plan.settings plan.job.id) s ended t) : plan.Done t := by
  have promised : plan.environment.Returns (processRemediation plan.settings plan.job.id) s ended t :=
    Reaches.promising returns fun _ t => plan.Recorded t
  exact promised.safe (plan.process_spec fits s start) fun _ => plan.stable_done

/-- **Redelivery converges.**  After any number of kills, none of them between a
verdict or a score and its mark, a run that ends leaves the attempt as one
uninterrupted run would have. -/
theorem redelivery_converges (settings : Settings) (adapters : Adapters) (job : Job)
    (origin : Store) (stops : List Store) (s t u : Store) (ended endedAlone : Except Exn Unit)
    (fresh : job.Fresh origin) (fits : job.source.fits = true)
    (deliveries : (Repeatable settings adapters job).Deliveries
      (processRemediation settings job.id) origin stops s)
    (marked : ∀ stop ∈ stops, Unfinished job stop → ∀ step, RowsMarked job step stop)
    (finishes : (Repeatable settings adapters job).Returns
      (processRemediation settings job.id) s ended t)
    (uninterrupted : (Repeatable settings adapters job).Returns
      (processRemediation settings job.id) origin endedAlone u) : SameAttempt job u t := by
  obtain ⟨row, initial⟩ : ∃ row, (job.plan settings adapters origin row).Restartable origin :=
    fresh.restartable
  have alone : (job.plan settings adapters origin row).Done u :=
    Plan.done_of_returns (job.plan settings adapters origin row) fits initial uninterrupted
  have restartable : (job.plan settings adapters origin row).Restartable s :=
    Plan.restartable_of_deliveries (job.plan settings adapters origin row) fits initial deliveries
      marked
  have redelivered : (job.plan settings adapters origin row).Done t :=
    Plan.done_of_returns (job.plan settings adapters origin row) fits restartable finishes
  exact alone.sameAttempt redelivered

/-! ## Two attempts -/

/-- The task of the example attempt in one world, for so many operations. -/
def Job.runFor (settings : Settings) (world : World) (n : ℕ) (s : Store) : Py Unit × Store :=
  Environment.runFor (execute settings world 0) n
    (processRemediation settings Job.example.id) s

/-- The store at which the task of the new attempt is killed, after so many operations. -/
def Job.killedAfter (settings : Settings) (world : World) (n : ℕ) : Store :=
  (Job.runFor settings world n (Job.example.deployed [1])).2

/-- The task of a new attempt, killed after so many operations and delivered again, and
beside it the same task uninterrupted. -/
theorem Job.exists_runs {world : World} (n : ℕ) (storage : world.storage = none)
    (database : world.database = none)
    (ends : (Job.runFor settings world 60 (Job.killedAfter settings world n)).1.isDone = true)
    (endsAlone : (Job.runFor settings world 60 (Job.example.deployed [1])).1.isDone = true) :
    ∃ ended endedAlone,
      (Repeatable settings world.adapter .example).Deliveries (processRemediation settings 0)
        (Job.example.deployed [1]) [Job.killedAfter settings world n]
        (Job.killedAfter settings world n) ∧
      (Repeatable settings world.adapter .example).Returns (processRemediation settings 0)
        (Job.killedAfter settings world n) ended
        (Job.runFor settings world 60 (Job.killedAfter settings world n)).2 ∧
      (Repeatable settings world.adapter .example).Returns (processRemediation settings 0)
        (Job.example.deployed [1]) endedAlone
        (Job.runFor settings world 60 (Job.example.deployed [1])).2 := by
  have sound : ∀ op s r t, execute settings world 0 op s = some (r, t) →
      (Repeatable settings world.adapter .example).step op s r t :=
    fun op s r t executed => ⟨world, 0, rfl, storage, database, executed⟩
  obtain ⟨ended, finishes⟩ := exists_returns_runFor sound 60 _ _ ends
  obtain ⟨endedAlone, uninterrupted⟩ := exists_returns_runFor sound 60 _ _ endsAlone
  exact ⟨ended, endedAlone, .stopped .start (reaches_runFor sound n _ _), finishes,
    uninterrupted⟩

/-- Killed after OCR has stored its output and before its mark, the task leaves what it
would have left. -/
theorem redelivery_converges_ocr :
    ∃ stop t u : Store, stop.objects (Job.example.output .ocr "a.pdf") = some [2, 1] ∧
      stop.completed 0 .ocr = none ∧ t.completed 0 .ocr ≠ none ∧ SameAttempt .example u t := by
  have checked : ((Job.runFor (.stepsOn [.ocr]) (.judging true [.ocr]) 60
        (Job.killedAfter (.stepsOn [.ocr]) (.judging true [.ocr]) 9)).1.isDone = true ∧
      (Job.runFor (.stepsOn [.ocr]) (.judging true [.ocr]) 60
        (Job.killedAfter (.stepsOn [.ocr]) (.judging true [.ocr]) 9)).2.completed 0 .ocr ≠ none ∧
      (Job.runFor (.stepsOn [.ocr]) (.judging true [.ocr]) 60
        (Job.example.deployed [1])).1.isDone = true) ∧
      (∀ step ∈ Step.order, RowsMarked .example step
        (Job.killedAfter (.stepsOn [.ocr]) (.judging true [.ocr]) 9)) ∧
      (Job.killedAfter (.stepsOn [.ocr]) (.judging true [.ocr]) 9).objects
        (Job.example.output .ocr "a.pdf") = some [2, 1] ∧
      (Job.killedAfter (.stepsOn [.ocr]) (.judging true [.ocr]) 9).completed 0 .ocr = none := by
    decide +kernel
  obtain ⟨⟨ends, completed, endsAlone⟩, marked, stored, incomplete⟩ := checked
  obtain ⟨ended, endedAlone, deliveries, finishes, uninterrupted⟩ :=
    Job.exists_runs 9 rfl rfl ends endsAlone
  have same := redelivery_converges _ _ _ _ _ _ _ _ _ _ (Job.example.deployed_fresh [1])
    (by decide +kernel) deliveries (fun stop member _ step => by
      rw [List.mem_singleton.mp member]
      exact marked step (by cases step <;> decide)) finishes uninterrupted
  exact ⟨_, _, _, stored, incomplete, completed, same⟩

/-- Killed after precheck has stored its verdict and before its mark, the task ends in
ERROR, where an uninterrupted run ends COMPLIANT. -/
theorem redelivery_does_not_converge :
    ∃ stop t u ended endedAlone, Job.example.Fresh (Job.example.deployed [1]) ∧
      (Repeatable (.stepsOn [.precheck]) (World.judging true []).adapter .example).Deliveries
        (processRemediation (.stepsOn [.precheck]) 0) (Job.example.deployed [1]) [stop] stop ∧
      (Repeatable (.stepsOn [.precheck]) (World.judging true []).adapter .example).Returns
        (processRemediation (.stepsOn [.precheck]) 0) stop ended t ∧
      (Repeatable (.stepsOn [.precheck]) (World.judging true []).adapter .example).Returns
        (processRemediation (.stepsOn [.precheck]) 0) (Job.example.deployed [1]) endedAlone u ∧
      (t.row 0).map (fun row => (row.status, row.error)) = some (.error,
        (Exn.integrityError "one_verification_result_per_step").message) ∧
      (u.row 0).map (fun row => (row.status, row.error)) = some (.compliant, "") ∧
      ¬SameAttempt .example u t := by
  have checked : ((Job.runFor (.stepsOn [.precheck]) (.judging true []) 60
        (Job.killedAfter (.stepsOn [.precheck]) (.judging true []) 7)).1.isDone = true ∧
      ((Job.runFor (.stepsOn [.precheck]) (.judging true []) 60
        (Job.killedAfter (.stepsOn [.precheck]) (.judging true []) 7)).2.row 0).map
          (fun row => (row.status, row.error)) = some (.error,
            (Exn.integrityError "one_verification_result_per_step").message)) ∧
      (Job.runFor (.stepsOn [.precheck]) (.judging true []) 60
        (Job.example.deployed [1])).1.isDone = true ∧
      ((Job.runFor (.stepsOn [.precheck]) (.judging true []) 60
        (Job.example.deployed [1])).2.row 0).map
          (fun row => (row.status, row.error)) = some (.compliant, "") := by decide +kernel
  obtain ⟨⟨ends, isError⟩, endsAlone, isCompliant⟩ := checked
  obtain ⟨ended, endedAlone, deliveries, finishes, uninterrupted⟩ :=
    Job.exists_runs 7 rfl rfl ends endsAlone
  refine ⟨_, _, _, ended, endedAlone, Job.example.deployed_fresh [1], deliveries, finishes,
    uninterrupted, isError, isCompliant, fun same => ?_⟩
  obtain ⟨row, row', found, found', status, -⟩ := same.row
  change Store.row _ 0 = some row at found
  change Store.row _ 0 = some row' at found'
  rw [found, Option.map_some] at isCompliant
  rw [found', Option.map_some] at isError
  rw [(Prod.mk.inj (Option.some.inj isError)).1,
    (Prod.mk.inj (Option.some.inj isCompliant)).1] at status
  cases status

end DicePipeline
