import DicePipeline.Interaction.Recovery
import DicePipeline.Remediation.Footprints

/-!
# What is stored about one attempt

A run of `process_remediation` keeps nothing between two deliveries but what it
has stored: the attempt's row, its artifacts, verdicts and score, and the objects
of its own directory.  A redelivered run finds its way by one question, whether a
step is recorded COMPLETED, and by one value, the `pdf_uri` that step after step
hands on.  `Store.completed` and `Store.pdfUri` read both off the store.

`LeftAlone` is what everybody else may do to an attempt meanwhile: queue it again,
and nothing more.
-/

namespace DicePipeline

open Interaction

/-- The columns of an attempt that no run writes. -/
structure Job where
  id : ℕ
  serviceAccount : ℕ
  contentHash : String
  originalFilename : String
  deriving DecidableEq, Repr

namespace Job

/-- Where the uploaded original is. -/
def source (job : Job) : Uri :=
  .original job.serviceAccount job.contentHash job.originalFilename

/-- A name in the directory of a step of the attempt. -/
def output (job : Job) (step : Step) (name : String) : Uri :=
  .output job.serviceAccount job.contentHash job.id step name

/-- The attempt's row, whatever its status. -/
structure Describes (job : Job) (row : Remediation) : Prop where
  id : row.id = job.id
  serviceAccount : row.serviceAccount = job.serviceAccount
  contentHash : row.contentHash = job.contentHash
  originalFilename : row.originalFilename = job.originalFilename
  sourcePdfUri : row.sourcePdfUri = job.source

/-- The storage names that matter to the attempt. -/
def Owns (job : Job) (uri : Uri) : Prop :=
  uri = job.source ∨ ∃ step name, uri = job.output step name

variable {job : Job} {row : Remediation}

theorem Describes.apply (describes : job.Describes row) (fields : RemediationUpdate) :
    job.Describes (fields.apply row) :=
  ⟨describes.id, describes.serviceAccount, describes.contentHash, describes.originalFilename,
    describes.sourcePdfUri⟩

theorem Describes.requeued (describes : job.Describes row) (enqueued : Option ℕ) :
    job.Describes { row with lastEnqueuedAt := enqueued } :=
  ⟨describes.id, describes.serviceAccount, describes.contentHash, describes.originalFilename,
    describes.sourcePdfUri⟩

/-- Where `persist_output` puts the output of a step. -/
theorem Describes.destUri (describes : job.Describes row) (step : Step) (name : String) :
    ArtifactService.destUri row step name = job.output step name := by
  rw [ArtifactService.destUri, describes.serviceAccount, describes.contentHash, describes.id,
    output]

end Job

/-! ## The order of the steps -/

/-- The steps of `PIPELINE_STEPS`. -/
def Step.order : List Step :=
  [.precheck, .ocr, .fontRepair, .finalizeMetadata, .linkTag, .altText, .scoring, .postcheck]

/-- The steps before a step. -/
def Step.earlier (step : Step) : List Step := Step.order.takeWhile (· ≠ step)

/-- The two steps that judge a file. -/
def Step.isCheck (step : Step) : Bool := step = .precheck ∨ step = .postcheck

theorem Step.order_nodup : Step.order.Nodup := by decide

/-- What stands before a step in the pipeline is what is earlier. -/
theorem Step.earlier_eq {before after : List Step} {step : Step}
    (split : before ++ step :: after = Step.order) : before = step.earlier := by
  have unique : step ∉ before := by
    intro member
    have nodup := Step.order_nodup
    rw [← split, List.nodup_append] at nodup
    exact nodup.2.2 step member step List.mem_cons_self rfl
  have others : ∀ other ∈ before, decide (other ≠ step) = true := by
    intro other member
    exact decide_eq_true fun same => unique (same ▸ member)
  rw [Step.earlier, ← split, List.takeWhile_append_of_pos others, List.takeWhile_cons,
    if_neg (by simp), List.append_nil]

/-- No step is before itself. -/
theorem Step.not_mem_earlier (step : Step) : step ∉ step.earlier := by
  cases step <;> decide

/-! ## What a redelivered run reads -/

/-- The output an artifact hands on, if it is COMPLETED. -/
def RemediationArtifact.completedUri (artifact : RemediationArtifact) : Option Uri :=
  if artifact.status = .completed then some artifact.outputUri else none

namespace Store

/-- `completed_output_uri`. -/
def completed (s : Store) (id : ℕ) (step : Step) : Option Uri :=
  (s.artifacts id step).bind RemediationArtifact.completedUri

/-- The `pdf_uri` of a run that has gone through `steps`: a COMPLETED step hands on
its stored output, and any other step its input. -/
def pdfUri (s : Store) (id : ℕ) (steps : List Step) (start : Uri) : Uri :=
  steps.foldl (fun pdfUri step => (s.completed id step).getD pdfUri) start

/-- The `pdf_uri` a run hands to a step of the attempt. -/
def input (s : Store) (job : Job) (step : Step) : Uri := s.pdfUri job.id step.earlier job.source

theorem pdfUri_append (s : Store) (id : ℕ) (before after : List Step) (start : Uri) :
    s.pdfUri id (before ++ after) start = s.pdfUri id after (s.pdfUri id before start) :=
  List.foldl_append

@[simp] theorem pdfUri_singleton (s : Store) (id : ℕ) (step : Step) (start : Uri) :
    s.pdfUri id [step] start = (s.completed id step).getD start := rfl

@[simp] theorem pdfUri_cons (s : Store) (id : ℕ) (step : Step) (rest : List Step) (start : Uri) :
    s.pdfUri id (step :: rest) start = s.pdfUri id rest ((s.completed id step).getD start) := rfl

/-- Only the completed steps among them matter. -/
theorem pdfUri_congr {s t : Store} {id : ℕ} {steps : List Step}
    (same : ∀ step ∈ steps, t.completed id step = s.completed id step) (start : Uri) :
    t.pdfUri id steps start = s.pdfUri id steps start := by
  induction steps generalizing start with
  | nil => rfl
  | cons step rest ih =>
      rw [pdfUri_cons, pdfUri_cons, same step List.mem_cons_self]
      exact ih (fun other member => same other (List.mem_cons_of_mem _ member)) _

/-- The `pdf_uri` is where the run started, or what a completed step stored. -/
theorem pdfUri_cases (s : Store) (id : ℕ) (steps : List Step) (start : Uri) :
    s.pdfUri id steps start = start ∨
      ∃ step ∈ steps, s.completed id step = some (s.pdfUri id steps start) := by
  induction steps generalizing start with
  | nil => exact .inl rfl
  | cons step rest ih =>
      rw [pdfUri_cons]
      rcases ih ((s.completed id step).getD start) with kept | ⟨other, member, stored⟩
      · cases found : s.completed id step with
        | none =>
            rw [found, Option.getD_none] at kept
            rw [Option.getD_none]
            exact .inl kept
        | some uri =>
            rw [found, Option.getD_some] at kept
            refine .inr ⟨step, List.mem_cons_self, ?_⟩
            rw [found, Option.getD_some, kept]
      · exact .inr ⟨other, List.mem_cons_of_mem _ member, stored⟩

/-! ## What a run writes -/

/-- The artifact of one step is recorded. -/
def setArtifact (s : Store) (id : ℕ) (step : Step) (artifact : RemediationArtifact) : Store :=
  { s with
    artifacts := Function.update s.artifacts id
      (Function.update (s.artifacts id) step (some artifact)) }

/-- The verdict of one step is stored. -/
def setResult (s : Store) (id : ℕ) (step : Step) (result : VerificationResult) : Store :=
  { s with
    results := Function.update s.results id
      (Function.update (s.results id) step (some result)) }

/-- The score is stored. -/
def setScore (s : Store) (id : ℕ) (score : RemediationScore) : Store :=
  { s with scores := Function.update s.scores id (some score) }

/-- An object is written or deleted. -/
def setObject (s : Store) (uri : Uri) (content : Option Bytes) : Store :=
  { s with objects := Function.update s.objects uri content }

variable {s t : Store} {id : ℕ} {step other : Step}

@[simp] theorem completed_setArtifact (artifact : RemediationArtifact) :
    (s.setArtifact id step artifact).completed id step = artifact.completedUri := by
  simp [completed, setArtifact]

theorem completed_setArtifact_of_ne (artifact : RemediationArtifact) (different : other ≠ step) :
    (s.setArtifact id step artifact).completed id other = s.completed id other := by
  simp [completed, setArtifact, different]

@[simp] theorem setResult_results (result : VerificationResult) :
    (s.setResult id step result).results id step = some result := by
  simp [setResult]

theorem setResult_results_of_ne (result : VerificationResult) (different : other ≠ step) :
    (s.setResult id step result).results id other = s.results id other := by
  simp [setResult, different]

@[simp] theorem setObject_objects (uri : Uri) (content : Option Bytes) :
    (s.setObject uri content).objects uri = content :=
  Function.update_self _ _ _

theorem setObject_objects_of_ne {uri elsewhere : Uri} (content : Option Bytes)
    (different : elsewhere ≠ uri) :
    (s.setObject uri content).objects elsewhere = s.objects elsewhere :=
  Function.update_of_ne different _ _

/-- Recording a step does not change the input of it. -/
@[simp] theorem input_setArtifact (job : Job) (artifact : RemediationArtifact) :
    (s.setArtifact job.id step artifact).input job step = s.input job step :=
  pdfUri_congr (fun _ member => completed_setArtifact_of_ne _
    (ne_of_mem_of_not_mem member step.not_mem_earlier)) _

end Store

/-! ## What the others may do -/

/-- **Another thread leaves an attempt as it is**, except that a submit may queue
it again. -/
structure LeftAlone (job : Job) (s t : Store) : Prop where
  row : ∀ row, s.row job.id = some row →
    ∃ enqueued, t.row job.id = some { row with lastEnqueuedAt := enqueued }
  artifacts : t.artifacts job.id = s.artifacts job.id
  results : t.results job.id = s.results job.id
  scores : t.scores job.id = s.scores job.id
  objects : ∀ uri, job.Owns uri → t.objects uri = s.objects uri

namespace LeftAlone

variable {job : Job} {s t u : Store}

theorem refl (job : Job) (s : Store) : LeftAlone job s s :=
  ⟨fun row found => ⟨row.lastEnqueuedAt, found⟩, rfl, rfl, rfl, fun _ _ => rfl⟩

theorem trans (first : LeftAlone job s t) (second : LeftAlone job t u) : LeftAlone job s u where
  row row found := by
    obtain ⟨_, foundT⟩ := first.row row found
    obtain ⟨enqueued, foundU⟩ := second.row _ foundT
    exact ⟨enqueued, foundU⟩
  artifacts := second.artifacts.trans first.artifacts
  results := second.results.trans first.results
  scores := second.scores.trans first.scores
  objects uri owned := (second.objects uri owned).trans (first.objects uri owned)

theorem completed (leftAlone : LeftAlone job s t) (step : Step) :
    t.completed job.id step = s.completed job.id step := by
  rw [Store.completed, Store.completed, leftAlone.artifacts]

theorem pdfUri (leftAlone : LeftAlone job s t) (steps : List Step) (start : Uri) :
    t.pdfUri job.id steps start = s.pdfUri job.id steps start :=
  Store.pdfUri_congr (fun step _ => leftAlone.completed step) start

theorem input (leftAlone : LeftAlone job s t) (step : Step) : t.input job step = s.input job step :=
  leftAlone.pdfUri _ _

end LeftAlone

end DicePipeline
