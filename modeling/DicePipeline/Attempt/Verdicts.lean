import DicePipeline.Attempt.Deliveries
import DicePipeline.System

/-!
# What a verdict vouches for

Two facts about the file an attempt serves once its status is final.

`compliant_is_verified`: COMPLIANT is never claimed of a file no check has passed.
Whichever way a run gets there (precheck, postcheck, or a verdict replayed from an
earlier run), the `final_output_uri` it writes is the output of the check, and
`Consistent` says what is stored under it.

`noncompliant_is_served`: a NONCOMPLIANT verdict belongs to the file served, as
long as `keepsVerdict` holds of every recorded step.  A replayed verdict is written
next to the `pdf_uri` of the current run.  If a transform that failed before
postcheck succeeds after it, in a later run, the two are different files
(`replayed_verdict_of_another_file`).

### What is load-bearing

`keepsVerdict` looks at one recorded step and at the store before it.  It lets a
transform succeed late if some step between it and postcheck is COMPLETED: that step
hands on its old output, so the late one does not reach the file that is served.  With
a compliant verdict nothing is asked, for then the output of the check itself is served.
-/

namespace DicePipeline

open Interaction Environment

variable {settings : Settings} {answers : Answers} {admitted : Store → Op → Prop} {job : Job}
variable {s t : Store} {step : Step}

/-! ## Which recorded step moves the input of a later one -/

/-- The steps that may change the file. -/
def Step.isTransform : Step → Bool
  | .ocr => true
  | .fontRepair => true
  | .finalizeMetadata => true
  | .linkTag => true
  | .altText => true
  | _ => false

/-- The steps between two steps. -/
def Step.between (step later : Step) : List Step :=
  (later.earlier.dropWhile (· ≠ step)).tail

theorem Step.earlier_split {later : Step} (isEarlier : step ∈ later.earlier) :
    later.earlier = step.earlier ++ step :: step.between later := by
  cases step <;> cases later <;> first | decide | exact absurd isEarlier (by decide)

theorem Step.not_mem_between (step later : Step) : step ∉ step.between later := by
  cases step <;> cases later <;> decide

theorem transform_isTransform {service : TransformService}
    (member : service ∈ transformServices settings) : service.step.isTransform = true := by
  simp only [transformServices, List.mem_cons, List.not_mem_nil, or_false] at member
  rcases member with rfl | rfl | rfl | rfl | rfl <;> rfl

/-- After a COMPLETED step it no longer matters what came before it. -/
theorem Store.pdfUri_of_completed {id : ℕ} {steps : List Step} {other : Step}
    (member : other ∈ steps) (completed : (s.completed id other).isSome = true) (first second : Uri) :
    s.pdfUri id steps first = s.pdfUri id steps second := by
  induction steps generalizing first second with
  | nil => cases member
  | cons step rest ih =>
      rw [pdfUri_cons, pdfUri_cons]
      rcases List.mem_cons.mp member with rfl | later
      · obtain ⟨uri, found⟩ := Option.isSome_iff_exists.mp completed
        rw [found]
        rfl
      · exact ih later _ _

/-- Recording a step leaves the input of a later one if it hands on its own input, or
if a step between the two is COMPLETED. -/
theorem Store.input_recorded {later : Step} {artifact : RemediationArtifact}
    (incomplete : s.completed job.id step = none)
    (kept : step ∈ later.earlier →
      artifact.completedUri.getD (s.input job step) = s.input job step ∨
        ∃ other ∈ step.between later, (s.completed job.id other).isSome = true) :
    (s.setArtifact job.id step artifact).input job later = s.input job later := by
  by_cases isEarlier : step ∈ later.earlier
  · have between : ∀ uri, (s.setArtifact job.id step artifact).pdfUri job.id
        (step.between later) uri = s.pdfUri job.id (step.between later) uri :=
      pdfUri_congr fun other member => completed_setArtifact_of_ne _
        (ne_of_mem_of_not_mem member (step.not_mem_between later))
    have start : (s.setArtifact job.id step artifact).pdfUri job.id step.earlier job.source =
        s.input job step := input_setArtifact job artifact
    rw [input, input, Step.earlier_split isEarlier, pdfUri_append, pdfUri_append, pdfUri_cons,
      pdfUri_cons, between, start, completed_setArtifact, incomplete, Option.getD_none]
    rcases kept isEarlier with same | ⟨other, member, completed⟩
    · rw [same]
      rfl
    · exact pdfUri_of_completed member completed _ _
  · exact pdfUri_congr (fun other member => completed_setArtifact_of_ne _
      (ne_of_mem_of_not_mem member isEarlier)) _

/-- Only a transform that completes hands on another file. -/
theorem MayRecord.hands_on {artifact : RemediationArtifact}
    (evidence : MayRecord settings answers job s step artifact)
    (unchanged : step.isTransform = false ∨ artifact.status ≠ .completed) :
    artifact.completedUri.getD (s.input job step) = s.input job step := by
  cases evidence with
  | incomplete notCompleted =>
      rw [notCompleted]
      rfl
  | transformed _ member isStep _ _ =>
      rw [← isStep, transform_isTransform member] at unchanged
      rcases unchanged with impossible | impossible
      · cases impossible
      · exact absurd rfl impossible
  | judged _ _ _ _ => rfl
  | scored _ _ => rfl

/-! ## COMPLIANT -/

/-- A COMPLETED check handed the file on after judging it compliant. -/
def VerifiedCompliant (answers : Answers) (job : Job) (s : Store) (row : Remediation) : Prop :=
  ∃ step artifact result, Step.isCheck step = true ∧
    s.artifacts job.id step = some artifact ∧ artifact.status = .completed ∧
    artifact.outputUri = row.finalOutputUri ∧
    s.results job.id step = some result ∧ result.isCompliant = true ∧
    s.objects row.finalOutputUri = some result.validated.bytes ∧ result.IsVerdict answers

/-- A COMPLETED step has its artifact. -/
theorem Store.artifact_of_completed {id : ℕ} {uri : Uri} (completed : s.completed id step = some uri) :
    ∃ artifact, s.artifacts id step = some artifact ∧ artifact.status = .completed ∧
      artifact.outputUri = uri := by
  obtain ⟨artifact, found, isCompleted⟩ := Option.bind_eq_some_iff.mp completed
  rw [RemediationArtifact.completedUri] at isCompleted
  split at isCompleted
  · exact ⟨artifact, found, ‹_›, Option.some.inj isCompleted⟩
  · cases isCompleted

theorem Store.completed_of_artifact {id : ℕ} {artifact : RemediationArtifact}
    (found : s.artifacts id step = some artifact) (isCompleted : artifact.status = .completed) :
    s.completed id step = some artifact.outputUri := by
  rw [completed, found, Option.bind_some, RemediationArtifact.completedUri, if_pos isCompleted]

theorem VerifiedCompliant.leftAlone {row : Remediation}
    (consistent : Consistent settings answers job s) (enqueued : Option ℕ)
    (verified : VerifiedCompliant answers job s row) (leftAlone : LeftAlone job s t) :
    VerifiedCompliant answers job t { row with lastEnqueuedAt := enqueued } := by
  obtain ⟨step, artifact, result, isCheck, found, isCompleted, isFinal, stored, compliant, bytes,
    isVerdict⟩ := verified
  have owned := (consistent.rooted step _ (Store.completed_of_artifact found isCompleted)).owns
  rw [isFinal] at owned
  refine ⟨step, artifact, result, isCheck, ?_, isCompleted, isFinal, ?_, compliant, ?_, isVerdict⟩
  · rw [leftAlone.artifacts, found]
  · rw [leftAlone.results, stored]
  · exact (leftAlone.objects _ owned).trans bytes

/-- A save of COMPLIANT is covered by a COMPLETED check. -/
theorem VerifiedCompliant.of_save {row : Remediation} {fields : RemediationUpdate}
    (consistent : Consistent settings answers job s) (evidence : MaySave job s fields)
    (isCompliant : fields.status = .compliant) :
    VerifiedCompliant answers job (s.updateRow job.id fields.apply) (fields.apply row) := by
  cases evidence with
  | began isStatus => cases isStatus.symm.trans isCompliant
  | @compliant step uri result _ final isCheck completed stored compliant =>
      obtain ⟨artifact, found, isCompleted, isOutput⟩ := Store.artifact_of_completed completed
      obtain ⟨result', stored', bytes⟩ := consistent.checked step uri isCheck completed
      obtain rfl := Option.some.inj (stored.symm.trans stored')
      have isFinal : (fields.apply row).finalOutputUri = uri := by
        rw [RemediationUpdate.apply, final]
        rfl
      refine ⟨step, artifact, result, isCheck, found, isCompleted, isOutput.trans isFinal.symm,
        stored, compliant, ?_, consistent.verdicts step result stored⟩
      rw [isFinal]
      exact bytes
  | noncompliant isStatus _ _ _ _ _ _ => cases isStatus.symm.trans isCompliant
  | ended isStatus => rcases isStatus with other | other <;> cases other.symm.trans isCompliant

/-- **COMPLIANT is never claimed for an unverified file.**  After any number of kills,
at any point, and redeliveries, with steps failing in any pattern, the final output of
a COMPLIANT attempt is the output of a COMPLETED check whose stored verdict is
compliant, and its bytes are the bytes that were validated. -/
theorem compliant_is_verified (settings : Settings) (answers : Answers) (job : Job)
    (origin : Store) (stops : List Store) (s : Store) (fresh : job.Fresh origin)
    (deliveries : (Worker settings answers (fun _ _ => True) job).Deliveries
      (processRemediation settings job.id) origin stops s)
    (row : Remediation) (found : s.row job.id = some row) (isCompliant : row.status = .compliant) :
    VerifiedCompliant answers job s row := by
  have kept := Deliveries.kept (Concluded job .compliant (VerifiedCompliant answers job))
      deliveries fresh (fresh.concluded rfl _) fun s t consistent concluded move => by
    obtain ⟨stored, isStored, -⟩ := consistent.described
    exact concluded.move rfl ⟨stored, isStored⟩
      (fun enqueued leftAlone _ verified => verified.leftAlone consistent enqueued leftAlone)
      (fun _ evidence isStatus => .of_save consistent evidence isStatus) move
  exact kept.2 row found isCompliant

/-! ## Attempts to replay schedules on -/

/-- The attempt of the schedules. -/
def Job.example : Job where
  id := 0
  serviceAccount := 1
  contentHash := "4bf5122f344554c53bde2ebb8cd2b7e3d1600ad631c385a5d7cce23c7785459a"
  originalFilename := "a.pdf"

/-- A deployment with some steps on. -/
def Settings.stepsOn (steps : List Step) : Settings :=
  { Settings.stepsOff with run := fun step => step ∈ steps }

/-- Every file is judged alike, and the steps that work put a byte before the file. -/
def World.judging (isCompliant : Bool) (working : List Step) : World where
  adapter
    | .validate _ => .ok ⟨isCompliant, [], "1.26.2"⟩
    | .extract file =>
        if .ocr ∈ working then .ok ⟨file.name, 2 :: file.bytes⟩ else .error "OCR failed"
    | .repairFonts file =>
        if .fontRepair ∈ working then .ok ⟨file.name, 3 :: file.bytes⟩
        else .error "font repair failed"
    | _ => .error "not called"

/-- With postcheck on, and a compliant file, the attempt ends COMPLIANT. -/
theorem compliant_is_verified_postcheck :
    ∃ s row, s.row 0 = some row ∧ row.status = .compliant ∧
      VerifiedCompliant (.ofWorlds [.judging true []]) .example s row := by
  obtain ⟨stops, deliveries⟩ := Job.exists_deliveries (.stepsOn [.postcheck]) (fun _ _ => True)
    (fun _ _ => true) (fun _ _ _ => trivial) .example
    [(.judging true [], 40)] (Job.example.deployed [1])
  have status : ((Job.example.delivered (.stepsOn [.postcheck]) (fun _ _ => true)
      [(.judging true [], 40)] (Job.example.deployed [1])).row 0).any (·.status = .compliant) =
        true := by decide +kernel
  obtain ⟨row, found, isCompliant⟩ := (Option.any_eq_true _ _).mp status
  exact ⟨_, row, found, of_decide_eq_true isCompliant, compliant_is_verified _ _ _ _ _ _
    (Job.example.deployed_fresh [1]) deliveries row found (of_decide_eq_true isCompliant)⟩

/-! ## NONCOMPLIANT -/

/-- The file served is the one the stored verdict of postcheck, and the summary in
`error`, are about. -/
def ServesVerdict (answers : Answers) (job : Job) (s : Store) (row : Remediation) : Prop :=
  ∃ artifact result failedRules, s.artifacts job.id .postcheck = some artifact ∧
    artifact.status = .completed ∧ artifact.outputUri = row.finalOutputUri ∧
    s.results job.id .postcheck = some result ∧ result.isCompliant = false ∧
    result.failedRules.mapM FailedRuleDict.toRule = some failedRules ∧
    row.error = "postcheck: " ++ formatFailureSummary failedRules ∧
    s.objects row.finalOutputUri = some result.validated.bytes ∧ result.IsVerdict answers

/-- **The condition on a recorded step.**  A transform is not recorded COMPLETED after
postcheck was, with a noncompliant verdict, unless a step between the two is COMPLETED
and hands on its old output. -/
def keepsVerdict (job : Job) (s : Store) : Op → Bool
  | .upsertArtifact id step artifact =>
      id ≠ job.id || !step.isTransform || artifact.status ≠ .completed ||
        (s.completed id .postcheck).isNone || (s.results id .postcheck).all (·.isCompliant) ||
        (step.between .postcheck).any fun other => (s.completed id other).isSome
  | _ => true

/-- A noncompliant verdict is about the file the run would serve. -/
def VerdictCurrent (job : Job) (s : Store) : Prop :=
  ∀ uri result, s.completed job.id .postcheck = some uri →
    s.results job.id .postcheck = some result → VerificationResult.isCompliant result = false →
      s.input job .postcheck = uri

/-- Where the condition holds, recording a step keeps the verdict current. -/
theorem VerdictCurrent.recorded {artifact : RemediationArtifact} (current : VerdictCurrent job s)
    (incomplete : s.completed job.id step = none)
    (evidence : MayRecord settings answers job s step artifact)
    (condition : keepsVerdict job s (.upsertArtifact job.id step artifact) = true) :
    VerdictCurrent job (s.setArtifact job.id step artifact) := by
  intro uri result completed stored noncompliant
  by_cases same : step = .postcheck
  · subst same
    rw [Store.completed_setArtifact] at completed
    rw [Store.input_setArtifact]
    have handsOn := evidence.hands_on (.inl rfl)
    rw [completed] at handsOn
    exact handsOn.symm
  · rw [Store.completed_setArtifact_of_ne _ (Ne.symm same)] at completed
    rw [Store.input_recorded incomplete fun _ => ?_]
    · exact current uri result completed stored noncompliant
    · have isStored : s.results job.id .postcheck = some result := stored
      simp only [keepsVerdict, completed, isStored, noncompliant, ne_eq, not_true_eq_false,
        decide_false, Bool.false_or, Option.isNone_some, Option.all_some, Bool.or_false,
        Bool.or_eq_true, Bool.not_eq_true', decide_eq_true_eq, List.any_eq_true] at condition
      rcases condition with unchanged | between
      · exact .inl (evidence.hands_on unchanged)
      · exact .inr between

theorem VerdictCurrent.move (consistent : Consistent settings answers job s)
    (current : VerdictCurrent job s)
    (move : Move settings answers (fun s op => keepsVerdict job s op = true) job s t) :
    VerdictCurrent job t := by
  cases move with
  | idle leftAlone =>
      intro uri result completed stored noncompliant
      rw [leftAlone.completed] at completed
      rw [leftAlone.results] at stored
      rw [leftAlone.input]
      exact current uri result completed stored noncompliant
  | recorded _ condition incomplete evidence => exact current.recorded incomplete evidence condition
  | @judged step result _ absent _ =>
      intro uri result' completed stored noncompliant
      have different : Step.postcheck ≠ step := by
        rintro rfl
        obtain ⟨_, isStored, -⟩ := consistent.checked _ uri rfl completed
        cases absent.symm.trans isStored
      rw [Store.setResult_results_of_ne _ different] at stored
      exact current uri result' completed stored noncompliant
  | scored _ => exact current
  | wrote _ _ => exact current
  | saved _ _ _ => exact current

theorem ServesVerdict.leftAlone {row : Remediation}
    (consistent : Consistent settings answers job s) (enqueued : Option ℕ)
    (serves : ServesVerdict answers job s row) (leftAlone : LeftAlone job s t) :
    ServesVerdict answers job t { row with lastEnqueuedAt := enqueued } := by
  obtain ⟨artifact, result, failedRules, found, isCompleted, isFinal, stored, noncompliant, rules,
    error, bytes, isVerdict⟩ := serves
  have owned :=
    (consistent.rooted .postcheck _ (Store.completed_of_artifact found isCompleted)).owns
  rw [isFinal] at owned
  refine ⟨artifact, result, failedRules, ?_, isCompleted, isFinal, ?_, noncompliant, rules, error,
    ?_, isVerdict⟩
  · rw [leftAlone.artifacts, found]
  · rw [leftAlone.results, stored]
  · exact (leftAlone.objects _ owned).trans bytes

/-- A save of NONCOMPLIANT serves the file of a current verdict. -/
theorem ServesVerdict.of_save {row : Remediation} {fields : RemediationUpdate}
    (consistent : Consistent settings answers job s) (current : VerdictCurrent job s)
    (evidence : MaySave job s fields) (isNoncompliant : fields.status = .noncompliant) :
    ServesVerdict answers job (s.updateRow job.id fields.apply) (fields.apply row) := by
  cases evidence with
  | began isStatus => cases isStatus.symm.trans isNoncompliant
  | compliant isStatus _ _ _ _ _ => cases isStatus.symm.trans isNoncompliant
  | @noncompliant uri result failedRules _ final error completed stored noncompliant rules =>
      obtain ⟨artifact, found, isCompleted, isOutput⟩ := Store.artifact_of_completed completed
      obtain ⟨result', stored', bytes⟩ := consistent.checked .postcheck uri rfl completed
      obtain rfl := Option.some.inj (stored.symm.trans stored')
      have isFinal : (fields.apply row).finalOutputUri = uri := by
        rw [RemediationUpdate.apply, final]
        exact current uri result completed stored noncompliant
      have isError : (fields.apply row).error = "postcheck: " ++ formatFailureSummary failedRules := by
        rw [RemediationUpdate.apply, error]
        rfl
      refine ⟨artifact, result, failedRules, found, isCompleted, isOutput.trans isFinal.symm, stored,
        noncompliant, rules, isError, ?_, consistent.verdicts .postcheck result stored⟩
      rw [isFinal]
      exact bytes
  | ended isStatus => rcases isStatus with other | other <;> cases other.symm.trans isNoncompliant

/-- **A NONCOMPLIANT verdict belongs to the file served**, in every history whose recorded steps
meet `keepsVerdict`.

A replayed postcheck hands on the stored verdict without looking at the file it is given.  So the
verdict is about the file served as long as that file is the one postcheck was recorded for. -/
theorem noncompliant_is_served (settings : Settings) (answers : Answers) (job : Job)
    (origin : Store) (stops : List Store) (s : Store) (fresh : job.Fresh origin)
    (deliveries : (Worker settings answers (fun s op => keepsVerdict job s op = true)
      job).Deliveries (processRemediation settings job.id) origin stops s)
    (row : Remediation) (found : s.row job.id = some row)
    (isNoncompliant : row.status = .noncompliant) : ServesVerdict answers job s row := by
  have initial : VerdictCurrent job origin := by
    intro uri result completed
    rw [fresh.completed] at completed
    cases completed
  have kept := Deliveries.kept (fun s => VerdictCurrent job s ∧
      Concluded job .noncompliant (ServesVerdict answers job) s) deliveries fresh
      ⟨initial, fresh.concluded rfl _⟩ fun s t consistent holds move => by
    obtain ⟨current, concluded⟩ := holds
    obtain ⟨stored, isStored, -⟩ := consistent.described
    refine ⟨current.move consistent move, concluded.move rfl ⟨stored, isStored⟩ ?_ ?_ move⟩
    · exact fun enqueued leftAlone _ serves => serves.leftAlone consistent enqueued leftAlone
    · exact fun _ evidence isStatus => .of_save consistent current evidence isStatus
  exact kept.2.2 row found isNoncompliant

/-- With postcheck on, and a file that is not compliant, the attempt ends NONCOMPLIANT. -/
theorem noncompliant_is_served_postcheck :
    ∃ s row, s.row 0 = some row ∧ row.status = .noncompliant ∧
      ServesVerdict (.ofWorlds [.judging false []]) .example s row := by
  obtain ⟨stops, deliveries⟩ := Job.exists_deliveries (.stepsOn [.postcheck])
    (fun s op => keepsVerdict .example s op = true) (keepsVerdict .example) (fun _ _ ok => ok) .example [(.judging false [], 40)]
    (Job.example.deployed [1])
  have status : ((Job.example.delivered (.stepsOn [.postcheck]) (keepsVerdict .example)
      [(.judging false [], 40)] (Job.example.deployed [1])).row 0).any
        (·.status = .noncompliant) = true := by decide +kernel
  obtain ⟨row, found, isStatus⟩ := (Option.any_eq_true _ _).mp status
  exact ⟨_, row, found, of_decide_eq_true isStatus, noncompliant_is_served _ _ _ _ _ _
    (Job.example.deployed_fresh [1]) deliveries row found (of_decide_eq_true isStatus)⟩

/-- OCR fails in the first run, which is killed once postcheck is COMPLETED.  The second
run repeats OCR, with success, and replays the verdict about the original. -/
def ocrSucceedsLater : List (World × ℕ) :=
  [(.judging false [], 18), (.judging false [.ocr], 40)]

/-- Without the condition, the file served need not be the one the verdict is about. -/
theorem replayed_verdict_of_another_file :
    ¬ ∀ (settings : Settings) (answers : Answers) (job : Job) (origin : Store)
      (stops : List Store) (s : Store), job.Fresh origin →
      (Worker settings answers (fun _ _ => True) job).Deliveries
        (processRemediation settings job.id) origin stops s →
      ∀ row, s.row job.id = some row → row.status = .noncompliant →
        s.completed job.id .postcheck = some row.finalOutputUri := by
  intro claim
  obtain ⟨stops, deliveries⟩ := Job.exists_deliveries (.stepsOn [.ocr, .postcheck])
    (fun _ _ => True) (fun _ _ => true) (fun _ _ _ => trivial) .example
    ocrSucceedsLater (Job.example.deployed [1])
  have differs : ((Job.example.delivered (.stepsOn [.ocr, .postcheck]) (fun _ _ => true)
      ocrSucceedsLater (Job.example.deployed [1])).row 0).any (fun row =>
        row.status = .noncompliant && row.finalOutputUri = Job.example.output .ocr "a.pdf" &&
          (Job.example.delivered (.stepsOn [.ocr, .postcheck]) (fun _ _ => true) ocrSucceedsLater
            (Job.example.deployed [1])).completed 0 .postcheck = some Job.example.source) =
        true := by decide +kernel
  obtain ⟨row, found, checked⟩ := (Option.any_eq_true _ _).mp differs
  simp only [Bool.and_eq_true, decide_eq_true_eq] at checked
  obtain ⟨⟨isStatus, isFinal⟩, isSource⟩ := checked
  have same := claim _ _ _ _ _ _ (Job.example.deployed_fresh [1]) deliveries row found isStatus
  rw [isFinal] at same
  cases same.symm.trans isSource

end DicePipeline
