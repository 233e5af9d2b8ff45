import DicePipeline.Attempt.Verdicts

/-!
# Where the stored outputs come from

A COMPLETED step is replayed from its stored output whatever it is handed, while a
FAILED one runs again.  Over several runs with different failures the artifacts of an
attempt need not form one chain: a transform that succeeds only after a later one did
is left out of everything behind it.

`lineage_of_verdict`: the outputs of COMPLETED transforms do form a chain which ends in
`final_output_uri`, for every history whose recorded steps meet `keepsLineage`.
`late_output_is_lost` is a history that does not.

### What is load-bearing

A transform that is recorded late is lost to whatever was COMPLETED after it in the
pipeline: a later transform and scoring hand on an output made without it, and a
compliant postcheck serves a file made without it.  `keepsLineage` names these three.
A compliant precheck is a fourth case, for it serves the file as it was uploaded, which
is the end of the chain only if no transform is COMPLETED.
-/

namespace DicePipeline

open Interaction Environment

variable {settings : Settings} {answers : Answers} {job : Job} {s t : Store} {step : Step}

/-- The stored output of the last COMPLETED transform among `steps`, or the original. -/
def Store.latestOutput (s : Store) (job : Job) (steps : List Step) : Uri :=
  s.pdfUri job.id (steps.filter Step.isTransform) job.source

/-- Every COMPLETED transform was made from the output of the last one before it. -/
def Lineage (settings : Settings) (answers : Answers) (job : Job) (s : Store) : Prop :=
  ∀ service ∈ transformServices settings, ∀ uri,
    s.completed job.id (TransformService.step service) = some uri →
      MadeFrom answers job service s (s.latestOutput job service.step.earlier) uri

/-- The outputs of the COMPLETED transforms form a chain, and the file served is the
end of it. -/
def ServesLineage (settings : Settings) (answers : Answers) (job : Job) (s : Store)
    (row : Remediation) : Prop :=
  Lineage settings answers job s ∧ row.finalOutputUri = s.latestOutput job Step.order

/-- **The condition on a recorded step.**  A transform is recorded COMPLETED only before
the later transforms, scoring, and a compliant postcheck are; and a compliant precheck
only before every transform. -/
def keepsLineage (job : Job) (s : Store) : Op → Bool
  | .upsertArtifact id step artifact =>
      id ≠ job.id || artifact.status ≠ .completed ||
        if step.isTransform then
          (Step.order.all fun other => !other.isTransform || !(step ∈ other.earlier) ||
            (s.completed id other).isNone) &&
          (s.completed id .scoring).isNone &&
          ((s.completed id .postcheck).isNone || (s.results id .postcheck).all (!·.isCompliant))
        else if step = .precheck then
          (s.results id .precheck).all (!·.isCompliant) ||
            Step.order.all fun other => !other.isTransform || (s.completed id other).isNone
        else true
  | _ => true

/-- What holds of an attempt whose recorded steps meet the condition. -/
structure Chained (settings : Settings) (answers : Answers) (job : Job) (s : Store) : Prop where
  lineage : ∀ service ∈ transformServices settings, ∀ uri,
    s.completed job.id (TransformService.step service) = some uri →
      MadeFrom answers job service s (s.input job service.step) uri
  scoring : ∀ uri, s.completed job.id .scoring = some uri → uri = s.input job .scoring
  postcheck : ∀ uri result, s.completed job.id .postcheck = some uri →
    s.results job.id .postcheck = some result → VerificationResult.isCompliant result = true →
      uri = s.input job .scoring
  precheck : ∀ uri result, s.completed job.id .precheck = some uri →
    s.results job.id .precheck = some result → VerificationResult.isCompliant result = true →
      ∀ other, Step.isTransform other = true → s.completed job.id other = none

/-! ## Inputs and latest outputs -/

/-- Precheck hands on the original. -/
theorem Consistent.after_precheck (consistent : Consistent settings answers job s) :
    (s.completed job.id .precheck).getD job.source = job.source := by
  cases found : s.completed job.id .precheck with
  | none => rfl
  | some uri => exact consistent.precheck uri found

/-- Up to scoring, the `pdf_uri` is the latest output of a transform. -/
theorem Consistent.input_eq (consistent : Consistent settings answers job s)
    (upToScoring : step.isTransform = true ∨ step = .scoring) :
    s.input job step = s.latestOutput job step.earlier := by
  have split : step.earlier = .precheck :: step.earlier.filter Step.isTransform := by
    cases step <;> first | decide | exact absurd upToScoring (by decide)
  rw [Store.input, Store.latestOutput]
  conv_lhs => rw [split]
  rw [Store.pdfUri_cons, consistent.after_precheck]

/-- If scoring handed on its input, postcheck is handed the same. -/
theorem Chained.input_postcheck (chained : Chained settings answers job s) :
    s.input job .postcheck = s.input job .scoring := by
  have split : Step.postcheck.earlier = Step.scoring.earlier ++ [.scoring] := rfl
  rw [Store.input, split, Store.pdfUri_append, Store.pdfUri_singleton]
  cases found : s.completed job.id .scoring with
  | none => rfl
  | some uri => exact chained.scoring uri found

/-! ## Recording a step -/

/-- A transform has one service. -/
theorem transform_unique {service other : TransformService}
    (member : service ∈ transformServices settings) (otherMember : other ∈ transformServices settings)
    (same : service.step = other.step) : service = other := by
  simp only [transformServices, List.mem_cons, List.not_mem_nil, or_false] at member otherMember
  rcases member with rfl | rfl | rfl | rfl | rfl <;>
    rcases otherMember with rfl | rfl | rfl | rfl | rfl <;> first | rfl | cases same

/-- An artifact that is not COMPLETED hands on no output. -/
theorem completedUri_of_status {artifact : RemediationArtifact} {uri : Uri}
    (completed : artifact.completedUri = some uri) : artifact.status = .completed := by
  rw [RemediationArtifact.completedUri] at completed
  split at completed
  · assumption
  · cases completed

namespace Chained

variable {artifact : RemediationArtifact}

/-- A step that hands on its input changes no chain. -/
theorem recorded_unchanged (chained : Chained settings answers job s)
    (incomplete : s.completed job.id step = none)
    (evidence : MayRecord settings answers job s step artifact)
    (unchanged : step.isTransform = false ∨ artifact.status ≠ .completed)
    (compliant : step = .precheck → ∀ uri result, artifact.completedUri = some uri →
      s.results job.id .precheck = some result → VerificationResult.isCompliant result = true →
        ∀ other, Step.isTransform other = true → s.completed job.id other = none) :
    Chained settings answers job (s.setArtifact job.id step artifact) := by
  have handsOn := evidence.hands_on unchanged
  have input : ∀ later,
      (s.setArtifact job.id step artifact).input job later = s.input job later :=
    fun later => Store.input_recorded incomplete fun _ => .inl handsOn
  have output : ∀ {uri}, artifact.completedUri = some uri → uri = s.input job step := by
    intro uri completed
    rw [completed] at handsOn
    exact handsOn
  -- Among the transforms, the same ones are COMPLETED.
  have transforms : ∀ other, Step.isTransform other = true →
      (s.setArtifact job.id step artifact).completed job.id other = s.completed job.id other := by
    intro other isTransform
    by_cases same : other = step
    · subst same
      rw [Store.completed_setArtifact, incomplete]
      cases found : artifact.completedUri with
      | none => rfl
      | some uri =>
          rcases unchanged with notTransform | notCompleted
          · cases notTransform.symm.trans isTransform
          · exact absurd (completedUri_of_status found) notCompleted
    · exact Store.completed_setArtifact_of_ne _ same
  constructor
  · intro service member uri completed
    rw [transforms _ (transform_isTransform member)] at completed
    rw [input]
    exact chained.lineage service member uri completed
  · intro uri completed
    rw [input]
    by_cases same : Step.scoring = step
    · subst same
      rw [Store.completed_setArtifact] at completed
      exact output completed
    · rw [Store.completed_setArtifact_of_ne _ same] at completed
      exact chained.scoring uri completed
  · intro uri result completed stored isCompliant
    rw [input]
    by_cases same : Step.postcheck = step
    · subst same
      rw [Store.completed_setArtifact] at completed
      rw [← chained.input_postcheck]
      exact output completed
    · rw [Store.completed_setArtifact_of_ne _ same] at completed
      exact chained.postcheck uri result completed stored isCompliant
  · intro uri result completed stored isCompliant other isTransform
    rw [transforms other isTransform]
    by_cases same : Step.precheck = step
    · subst same
      rw [Store.completed_setArtifact] at completed
      exact compliant rfl uri result completed stored isCompliant other isTransform
    · rw [Store.completed_setArtifact_of_ne _ same] at completed
      exact chained.precheck uri result completed stored isCompliant other isTransform

/-- A transform that completes becomes the end of the chain. -/
theorem recorded_transform (chained : Chained settings answers job s)
    (incomplete : s.completed job.id step = none) {service : TransformService}
    (member : service ∈ transformServices settings) (isStep : service.step = step) {output : Uri}
    (made : MadeFrom answers job service s (s.input job step) output) (goesOn : GoesOn job s)
    (isLast : ∀ other, Step.isTransform other = true → step ∈ other.earlier →
      s.completed job.id other = none)
    (scoring : s.completed job.id .scoring = none)
    (postcheck : ∀ uri result, s.completed job.id .postcheck = some uri →
      s.results job.id .postcheck = some result → VerificationResult.isCompliant result = false) :
    Chained settings answers job
      (s.setArtifact job.id step { status := .completed, outputUri := output }) := by
  have isTransform : step.isTransform = true := isStep ▸ transform_isTransform member
  have other_ne : ∀ {other}, Step.isTransform other = false → other ≠ step := by
    rintro _ notTransform rfl
    cases notTransform.symm.trans isTransform
  constructor
  · intro service' member' uri completed
    by_cases same : service'.step = step
    · obtain rfl := transform_unique member' member (same.trans isStep.symm)
      subst same
      rw [Store.completed_setArtifact] at completed
      cases completed
      rw [Store.input_setArtifact]
      exact made
    · rw [Store.completed_setArtifact_of_ne _ same] at completed
      -- A transform that is COMPLETED comes before this one.
      have isEarlier : step ∉ service'.step.earlier := by
        intro later
        rw [isLast _ (transform_isTransform member') later] at completed
        cases completed
      rw [Store.input_recorded incomplete fun later => absurd later isEarlier]
      exact chained.lineage service' member' uri completed
  · intro uri completed
    rw [Store.completed_setArtifact_of_ne _ (other_ne rfl), scoring] at completed
    cases completed
  · intro uri result completed stored isCompliant
    rw [Store.completed_setArtifact_of_ne _ (other_ne rfl)] at completed
    cases (postcheck uri result completed stored).symm.trans isCompliant
  · intro uri result completed stored isCompliant
    rw [Store.completed_setArtifact_of_ne _ (other_ne rfl)] at completed
    cases (goesOn uri result completed stored).symm.trans isCompliant

/-- **Where the condition holds, recording a step keeps the chain.** -/
theorem recorded (chained : Chained settings answers job s)
    (incomplete : s.completed job.id step = none)
    (evidence : MayRecord settings answers job s step artifact)
    (condition : keepsLineage job s (.upsertArtifact job.id step artifact) = true) :
    Chained settings answers job (s.setArtifact job.id step artifact) := by
  -- An artifact that is not completed adds nothing to the chain.
  by_cases isCompleted : artifact.status = .completed
  · simp only [keepsLineage, ne_eq, not_true_eq_false, decide_false, isCompleted, Bool.false_or]
      at condition
    cases isTransform : step.isTransform with
    | true =>
        rw [isTransform, if_pos rfl] at condition
        simp only [Bool.and_eq_true, Bool.or_eq_true, List.all_eq_true, Bool.not_eq_true',
          decide_eq_false_iff_not, Option.isNone_iff_eq_none] at condition
        -- A step that makes a file: by the condition nothing later had completed yet.
        obtain ⟨⟨isLast, scoring⟩, postcheck⟩ := condition
        cases evidence with
        | incomplete notCompleted =>
            rw [RemediationArtifact.completedUri, if_pos isCompleted] at notCompleted
            cases notCompleted
        | transformed _ member isStep made goesOn =>
            refine chained.recorded_transform incomplete member isStep made goesOn ?_ scoring ?_
            · intro other otherTransform later
              rcases isLast other (by cases other <;> decide) with (no | no) | none
              · cases no.symm.trans otherTransform
              · exact absurd later no
              · exact none
            · intro uri result completed stored
              rcases postcheck with none | all
              · cases none.symm.trans completed
              · rw [stored] at all
                simpa using all
        | judged _ isCheck _ _ => revert isTransform isCheck; cases step <;> simp [Step.isTransform, Step.isCheck]
        | scored _ isScoring =>
            subst isScoring
            cases isTransform
    | false =>
        -- A step that hands its input on: the end of the chain stays where it was.
        refine chained.recorded_unchanged incomplete evidence (.inl isTransform) ?_
        rintro rfl uri result _ stored isCompliant other otherTransform
        rw [isTransform, if_neg Bool.false_ne_true, if_pos rfl, stored] at condition
        simp only [Option.all_some, isCompliant, Bool.not_true, Bool.false_or, List.all_eq_true,
          Bool.or_eq_true, Bool.not_eq_true', Option.isNone_iff_eq_none] at condition
        rcases condition other (by cases other <;> decide) with no | none
        · cases no.symm.trans otherTransform
        · exact none
  · refine chained.recorded_unchanged incomplete evidence (.inr isCompleted) ?_
    intro _ uri result completed
    exact absurd (completedUri_of_status completed) isCompleted

theorem leftAlone (chained : Chained settings answers job s)
    (consistent : Consistent settings answers job s) (leftAlone : LeftAlone job s t) :
    Chained settings answers job t where
  lineage service member uri completed := by
    rw [leftAlone.completed] at completed
    rw [leftAlone.input]
    exact (chained.lineage service member uri completed).leftAlone leftAlone
      (consistent.pdfUri_rooted _).owns (consistent.rooted _ uri completed).owns
  scoring uri completed := by
    rw [leftAlone.completed] at completed
    rw [leftAlone.input]
    exact chained.scoring uri completed
  postcheck uri result completed stored := by
    rw [leftAlone.completed] at completed
    rw [leftAlone.results] at stored
    rw [leftAlone.input]
    exact chained.postcheck uri result completed stored
  precheck uri result completed stored isCompliant other isTransform := by
    rw [leftAlone.completed] at completed ⊢
    rw [leftAlone.results] at stored
    exact chained.precheck uri result completed stored isCompliant other isTransform

/-- A verdict is stored before its step is COMPLETED. -/
theorem judged (chained : Chained settings answers job s)
    (consistent : Consistent settings answers job s) {result : VerificationResult}
    (absent : s.results job.id step = none) :
    Chained settings answers job (s.setResult job.id step result) := by
  have stored_of_completed : ∀ {check uri other}, Step.isCheck check = true →
      s.completed job.id check = some uri →
      (s.setResult job.id step result).results job.id check = some other →
        s.results job.id check = some other := by
    intro check uri other isCheck completed stored
    rwa [Store.setResult_results_of_ne] at stored
    rintro rfl
    obtain ⟨_, isStored, -⟩ := consistent.checked _ uri isCheck completed
    cases absent.symm.trans isStored
  exact ⟨chained.lineage, chained.scoring,
    fun uri other completed stored => chained.postcheck uri other completed
      (stored_of_completed rfl completed stored),
    fun uri other completed stored => chained.precheck uri other completed
      (stored_of_completed rfl completed stored)⟩

/-- An object of a step that is not COMPLETED is no part of the chain. -/
theorem wrote (chained : Chained settings answers job s)
    (consistent : Consistent settings answers job s)
    (incomplete : s.completed job.id step = none) (name : String) (content : Option Bytes) :
    Chained settings answers job (s.setObject (job.output step name) content) := by
  refine ⟨fun service member uri completed => ?_, chained.scoring, chained.postcheck,
    chained.precheck⟩
  obtain ⟨bytes, file, read, stored, yields⟩ := chained.lineage service member uri completed
  refine ⟨bytes, file, ?_, ?_, yields⟩
  · exact (Store.setObject_objects_of_ne _
      ((consistent.pdfUri_rooted _).ne_output incomplete name)).trans read
  · exact (Store.setObject_objects_of_ne _
      ((consistent.rooted _ uri completed).ne_output incomplete name)).trans stored

theorem move (chained : Chained settings answers job s)
    (consistent : Consistent settings answers job s)
    (move : Move settings answers (fun s op => keepsLineage job s op = true) job s t) :
    Chained settings answers job t := by
  cases move with
  | idle leftAlone => exact chained.leftAlone consistent leftAlone
  | recorded _ condition incomplete evidence => exact chained.recorded incomplete evidence condition
  | judged _ absent _ => exact chained.judged consistent absent
  | scored _ =>
      exact ⟨chained.lineage, chained.scoring, chained.postcheck, chained.precheck⟩
  | wrote _ incomplete => exact chained.wrote consistent incomplete _ _
  | saved _ _ _ =>
      exact ⟨chained.lineage, chained.scoring, chained.postcheck, chained.precheck⟩

end Chained

/-! ## The verdict -/

/-- Without a COMPLETED transform the latest output is the original. -/
theorem Store.latestOutput_source
    (none : ∀ other, Step.isTransform other = true → s.completed job.id other = none)
    (steps : List Step) : s.latestOutput job steps = job.source := by
  rcases s.pdfUri_cases job.id (steps.filter Step.isTransform) job.source with
    isSource | ⟨other, member, completed⟩
  · exact isSource
  · rw [none other (List.mem_filter.mp member).2] at completed
    cases completed

/-- A save of a verdict serves the end of the chain. -/
theorem ServesLineage.of_save {row : Remediation} {fields : RemediationUpdate}
    (consistent : Consistent settings answers job s) (chained : Chained settings answers job s)
    (evidence : MaySave job s fields)
    (isVerdict : fields.status = .compliant ∨ fields.status = .noncompliant) :
    ServesLineage settings answers job (s.updateRow job.id fields.apply) (fields.apply row) := by
  have lineage : Lineage settings answers job s := by
    intro service member uri completed
    rw [← consistent.input_eq (.inl (transform_isTransform member))]
    exact chained.lineage service member uri completed
  have scoring : s.input job .scoring = s.latestOutput job Step.order :=
    consistent.input_eq (.inr rfl)
  refine ⟨lineage, ?_⟩
  change (fields.apply row).finalOutputUri = s.latestOutput job Step.order
  cases evidence with
  | began isStatus => rcases isVerdict with other | other <;> cases isStatus.symm.trans other
  | @compliant step uri result _ final isCheck completed stored isCompliant =>
      have isFinal : (fields.apply row).finalOutputUri = uri := by
        rw [RemediationUpdate.apply, final]
        rfl
      rw [isFinal]
      have checks : step = .precheck ∨ step = .postcheck := of_decide_eq_true isCheck
      rcases checks with rfl | rfl
      · rw [consistent.precheck uri completed, Store.latestOutput_source
          (chained.precheck uri result completed stored isCompliant)]
      · rw [chained.postcheck uri result completed stored isCompliant, scoring]
  | noncompliant _ final _ _ _ _ _ =>
      have isFinal : (fields.apply row).finalOutputUri = s.input job .postcheck := by
        rw [RemediationUpdate.apply, final]
        rfl
      rw [isFinal, chained.input_postcheck, scoring]
  | ended isStatus =>
      rcases isStatus with status | status <;> rcases isVerdict with other | other <;>
        cases status.symm.trans other

theorem ServesLineage.leftAlone {row : Remediation} (enqueued : Option ℕ)
    (consistent : Consistent settings answers job s)
    (serves : ServesLineage settings answers job s row) (leftAlone : LeftAlone job s t) :
    ServesLineage settings answers job t { row with lastEnqueuedAt := enqueued } := by
  have latest : ∀ steps, t.latestOutput job steps = s.latestOutput job steps :=
    fun steps => leftAlone.pdfUri _ _
  refine ⟨fun service member uri completed => ?_, serves.2.trans (latest _).symm⟩
  rw [leftAlone.completed] at completed
  rw [latest]
  refine (serves.1 service member uri completed).leftAlone leftAlone ?_
    (consistent.rooted _ uri completed).owns
  rw [← consistent.input_eq (.inl (transform_isTransform member))]
  exact (consistent.pdfUri_rooted _).owns

/-- **The outputs of an attempt with a verdict form one chain**, and the file served is the end
of it, in every history whose recorded steps meet `keepsLineage`.

The condition is what a redelivery can break: a step that failed before, and was passed over,
completes in a later run, and its output then lies beside the chain that the later steps have
been given already. -/
theorem lineage_of_verdict (settings : Settings) (answers : Answers) (job : Job)
    (origin : Store) (stops : List Store) (s : Store) (fresh : job.Fresh origin)
    (deliveries : (Worker settings answers (fun s op => keepsLineage job s op = true)
      job).Deliveries (processRemediation settings job.id) origin stops s)
    (row : Remediation) (found : s.row job.id = some row)
    (isVerdict : row.status = .compliant ∨ row.status = .noncompliant) :
    ServesLineage settings answers job s row := by
  have none : ∀ {step uri}, origin.completed job.id step ≠ some uri := by
    intro step uri completed
    rw [fresh.completed] at completed
    cases completed
  have initial : Chained settings answers job origin :=
    ⟨fun _ _ _ completed => absurd completed none, fun _ completed => absurd completed none,
      fun _ _ completed => absurd completed none, fun _ _ completed => absurd completed none⟩
  have kept := Deliveries.kept (fun s => Chained settings answers job s ∧
      Concluded job .compliant (ServesLineage settings answers job) s ∧
      Concluded job .noncompliant (ServesLineage settings answers job) s) deliveries fresh
      ⟨initial, fresh.concluded rfl _, fresh.concluded rfl _⟩ fun s t consistent holds move => by
    obtain ⟨chained, compliant, noncompliant⟩ := holds
    obtain ⟨stored, isStored, -⟩ := consistent.described
    refine ⟨chained.move consistent move, compliant.move rfl ⟨stored, isStored⟩ ?_ ?_ move,
      noncompliant.move rfl ⟨stored, isStored⟩ ?_ ?_ move⟩
    · exact fun enqueued leftAlone _ serves => serves.leftAlone enqueued consistent leftAlone
    · exact fun _ evidence isStatus => .of_save consistent chained evidence (.inl isStatus)
    · exact fun enqueued leftAlone _ serves => serves.leftAlone enqueued consistent leftAlone
    · exact fun _ evidence isStatus => .of_save consistent chained evidence (.inr isStatus)
  rcases isVerdict with isStatus | isStatus
  · exact kept.2.2.1 row found isStatus
  · exact kept.2.2.2 row found isStatus

/-- OCR fails in the first run and font repair does not; the run is killed before
postcheck, and the second one meets a file that OCR fails on again. -/
theorem lineage_of_verdict_resumed :
    ∃ s row, s.row 0 = some row ∧ row.status = .compliant ∧
      ServesLineage (.stepsOn [.ocr, .fontRepair, .postcheck])
        (.ofWorlds [.judging true [.fontRepair], .judging true [.fontRepair]]) .example s row := by
  obtain ⟨stops, deliveries⟩ := Job.exists_deliveries (.stepsOn [.ocr, .fontRepair, .postcheck])
    (fun s op => keepsLineage .example s op = true) (keepsLineage .example) (fun _ _ ok => ok)
    .example [(.judging true [.fontRepair], 14), (.judging true [.fontRepair], 40)]
    (Job.example.deployed [1])
  have status : ((Job.example.delivered (.stepsOn [.ocr, .fontRepair, .postcheck])
      (keepsLineage .example)
      [(.judging true [.fontRepair], 14), (.judging true [.fontRepair], 40)]
      (Job.example.deployed [1])).row 0).any (·.status = .compliant) = true := by decide +kernel
  obtain ⟨row, found, isStatus⟩ := (Option.any_eq_true _ _).mp status
  exact ⟨_, row, found, of_decide_eq_true isStatus, lineage_of_verdict _ _ _ _ _ _
    (Job.example.deployed_fresh [1]) deliveries row found (.inl (of_decide_eq_true isStatus))⟩

/-- OCR fails in the first run, which is killed once postcheck is COMPLETED with a
compliant verdict.  The second run repeats OCR, with success. -/
def ocrSucceedsAfterPostcheck : List (World × ℕ) :=
  [(.judging true [], 18), (.judging true [.ocr], 40)]

/-- Without the condition a COMPLETED step may be left out of the file served. -/
theorem late_output_is_lost :
    ¬ ∀ (settings : Settings) (answers : Answers) (job : Job) (origin : Store)
      (stops : List Store) (s : Store), job.Fresh origin →
      (Worker settings answers (fun _ _ => True) job).Deliveries
        (processRemediation settings job.id) origin stops s →
      ∀ row, s.row job.id = some row → row.status = .compliant ∨ row.status = .noncompliant →
        ServesLineage settings answers job s row := by
  intro claim
  obtain ⟨stops, deliveries⟩ := Job.exists_deliveries (.stepsOn [.ocr, .postcheck])
    (fun _ _ => True) (fun _ _ => true) (fun _ _ _ => trivial) .example ocrSucceedsAfterPostcheck
    (Job.example.deployed [1])
  have differs : ((Job.example.delivered (.stepsOn [.ocr, .postcheck]) (fun _ _ => true)
      ocrSucceedsAfterPostcheck (Job.example.deployed [1])).row 0).any (fun row =>
        row.status = .compliant && row.finalOutputUri = Job.example.source &&
          (Job.example.delivered (.stepsOn [.ocr, .postcheck]) (fun _ _ => true)
            ocrSucceedsAfterPostcheck (Job.example.deployed [1])).latestOutput .example
              Step.order = Job.example.output .ocr "a.pdf") = true := by decide +kernel
  obtain ⟨row, found, checked⟩ := (Option.any_eq_true _ _).mp differs
  simp only [Bool.and_eq_true, decide_eq_true_eq] at checked
  obtain ⟨⟨isStatus, isFinal⟩, isLatest⟩ := checked
  have serves := claim _ _ _ _ _ _ (Job.example.deployed_fresh [1]) deliveries row found
    (.inl isStatus)
  cases (isFinal.symm.trans serves.2).trans isLatest

end DicePipeline
