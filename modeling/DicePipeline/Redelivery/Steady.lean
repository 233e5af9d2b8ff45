import DicePipeline.Attempt.Runs
import DicePipeline.Redelivery.Records

/-!
# Runs of which only kills are left to chance

`Repeatable` is the environment of redelivery convergence: the adapters are
functions of what they are called with, the database and the storage answer,
one run of the attempt is active at a time, and between two operations the
others leave the attempt alone.  Where a run is killed is not its matter.

The rules here are those of `Attempt.Runs` for this environment.  What a run
promises is that the records stay planned, and a program that only calls
adapters ends as `Adapters.evaluate` says.
-/

namespace DicePipeline

open Interaction Program Environment

/-- The environment of the runs of one attempt, if nothing fails outside. -/
def Repeatable (settings : Settings) (adapters : Adapters) (job : Job) :
    Environment Query Exn Store where
  step := fun op s r t => ∃ (world : World) (i : ℕ), world.adapter = adapters ∧
    world.storage = none ∧ world.database = none ∧ execute settings world i op s = some (r, t)
  rely := LeftAlone job
  guarantee := fun _ _ => True
  rely_refl := LeftAlone.refl job
  rely_trans := LeftAlone.trans

/-- The same, with the promise that the records stay planned. -/
def Plan.environment (plan : Plan) : Environment Query Exn Store :=
  (Repeatable plan.settings plan.adapters plan.job).promising fun _ t => plan.Recorded t

/-- Where neither the storage nor the database fails, no operation does. -/
theorem World.failure_eq_none {world : World} (storage : world.storage = none)
    (database : world.database = none) (op : Op) : world.failure op = none := by
  cases op <;> simp [World.failure, storage, database]

namespace Plan

variable {plan : Plan} {P : Store → Prop} {step : Step} {before : List Step} {s t : Store}

/-! ## Stable assertions -/

theorem stable_past (before : List Step) : plan.environment.Stable (plan.Past before) :=
  fun _ _ past leftAlone => past.leftAlone leftAlone

theorem stable_content {uri : Uri} (owned : plan.job.Owns uri) (content : Option Bytes) :
    plan.environment.Stable fun s => s.objects uri = content :=
  fun _ _ holds leftAlone => (leftAlone.objects uri owned).trans holds

/-! ## Rules -/

/-- The rule of one operation. -/
theorem issue_spec {op : Op} {Q : Except Exn op.Ans → Store → Prop}
    (stable : plan.environment.Stable P)
    (outcome : ∀ s r t world i, P s → world.adapter = plan.adapters →
      perform plan.settings world i op s = some (r, t) → plan.Recorded t ∧ Q r t) :
    Triple plan.environment P (issue op) Q := by
  refine Triple.perform stable ?_
  rintro s r t holds ⟨world, i, adapters, storage, database, executed⟩
  refine outcome s r t world i holds adapters ?_
  rwa [execute, World.failure_eq_none storage database] at executed

/-- The rule of an operation that writes nothing. -/
theorem read_spec {op : Op} {φ : Except Exn op.Ans → Store → Prop} (reads : IsReading op)
    (stable : plan.environment.Stable P) (recorded : ∀ s, P s → plan.Recorded s)
    (answer : ∀ s world i r t, P s → world.adapter = plan.adapters →
      perform plan.settings world i op s = some (r, t) → φ r s) :
    Triple plan.environment P (issue op) fun r s => P s ∧ φ r s := by
  refine issue_spec stable fun s r t world i holds adapters performed => ?_
  have same := (perform_effect performed).reading reads
  subst same
  exact ⟨recorded t holds, holds, answer t world i r t holds adapters performed⟩

/-- Work that only calls adapters ends as the plan evaluates it. -/
theorem adapters_spec {α : Type} (stable : plan.environment.Stable P)
    (recorded : ∀ s, P s → plan.Recorded s) {p : Py α} (only : p.Only answered IsAdapterCall) :
    Triple plan.environment P p fun r s => P s ∧ r = plan.adapters.evaluate p := by
  induction p with
  | done result => exact Triple.done fun s holds => ⟨holds, rfl⟩
  | call op next ih =>
      obtain ⟨⟨call, rfl⟩, later⟩ := only
      intro s holds t leftAlone r u ⟨world, i, adapters, storage, database, executed⟩
      have holdsT := stable s t holds leftAlone
      have answer := execute_answered executed
      rw [execute, World.failure_eq_none storage database, perform, adapters] at executed
      obtain ⟨rfl, rfl⟩ := Prod.mk.inj (Option.some.inj executed)
      exact ⟨recorded t holdsT, ih _ (later _ answer) t holdsT⟩

/-- `local_input_copy` of an object with a known content. -/
theorem localInputCopy_spec (stable : plan.environment.Stable P)
    (recorded : ∀ s, P s → plan.Recorded s) {pdfUri : Uri} {content : Option Bytes}
    (found : ∀ s, P s → s.objects pdfUri = content) :
    Triple plan.environment P (ArtifactService.localInputCopy pdfUri)
      fun r s => P s ∧ r = readInput pdfUri content := by
  have opening : Triple plan.environment P (issue (.storageOpen pdfUri)) fun r s => P s ∧
      r = (readInput pdfUri content).map LocalFile.bytes := by
    refine read_spec trivial stable recorded fun s world i r t holds _ performed => ?_
    rw [perform, found s holds] at performed
    cases content with
    | some bytes => exact (Prod.mk.inj (Option.some.inj performed)).1.symm
    | none => exact (Prod.mk.inj (Option.some.inj performed)).1.symm
  refine Triple.bind opening (fun bytes => ?_) ?_
  · refine Triple.done ?_
    rintro s ⟨holds, read⟩
    refine ⟨holds, ?_⟩
    cases content with
    | some stored =>
        cases read
        rfl
    | none => cases read
  · rintro exc s ⟨holds, read⟩
    refine ⟨holds, ?_⟩
    cases content with
    | some stored => cases read
    | none =>
        cases read
        rfl

/-- A function whose connection holds is not tried again. -/
theorem retry_spec {α : Type} {func : Py α} {Q : Except Exn α → Store → Prop}
    (spec : Triple plan.environment P func Q)
    (connected : ∀ message s, ¬ Q (.error (.operationalError message)) s) :
    Triple plan.environment P (retryOnLostConnection func) Q := by
  refine Triple.handle spec (fun _ _ holds => holds) fun exc => ?_
  cases exc with
  | operationalError message => exact fun s holds => absurd holds (connected message s)
  | _ => exact Triple.done fun s holds => holds

end Plan

end DicePipeline
