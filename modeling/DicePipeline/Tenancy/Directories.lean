import DicePipeline.Runs.Phases
import DicePipeline.Submission.Originals

/-!
# Every file lies with its document

A storage name is made of an account, a content hash and more (ADR 0008).  A run
of the task hands names from step to step, records them on its artifacts and, at
the end, on the attempt; a redelivered run takes them back from the artifacts of
an earlier one, and any number of runs and submits overlap.

`Held` is what a thread holds: the attempt it has read, and the names it has been
given.  Whatever it writes it holds (`Held.Permits`), and the names it holds are
its attempt's (`Held.Fits`), because those in the tables are (`Filed`): neither
invariant stands without the other.  So no file of a document is ever recorded on
an attempt at another one (`files_stay_with_their_document`), and the texts of the
names of two documents differ (`Remediation.directory_inj`).
-/

namespace DicePipeline

open Interaction Program

/-- The account and the content hash in a storage name. -/
def Uri.document? : Uri → Option (ℕ × String)
  | .blank => none
  | .original account contentHash _ => some (account, contentHash)
  | .output account contentHash _ _ _ => some (account, contentHash)

/-- The document of an attempt. -/
def Remediation.document (row : Remediation) : ℕ × String := (row.serviceAccount, row.contentHash)

/-- The name is one of a file of the document. -/
def Remediation.Owns (row : Remediation) (uri : Uri) : Prop := uri.document? = some row.document

/-- The column is empty, or names a file of the document. -/
def Remediation.OwnsIfSet (row : Remediation) (uri : Uri) : Prop := uri = .blank ∨ row.Owns uri

/-- A step that has completed has recorded a file of the document, and another one such a
file or none. -/
def Remediation.Records (row : Remediation) (artifact : RemediationArtifact) : Prop :=
  (artifact.status ≠ .completed ∧ artifact.outputUri = .blank) ∨ row.Owns artifact.outputUri

/-- Another name in the same directory is one of the same document. -/
@[simp] theorem Uri.document?_withFilename (uri : Uri) (name : String) :
    (uri.withFilename name).document? = uri.document? := by
  cases uri <;> rfl

@[simp] theorem Uri.document?_destUri (row : Remediation) (step : Step) (name : String) :
    (ArtifactService.destUri row step name).document? = some row.document := rfl

@[simp] theorem RemediationUpdate.apply_document (fields : RemediationUpdate) (row : Remediation) :
    (fields.apply row).document = row.document := rfl

theorem Remediation.owns_congr {row row' : Remediation} {uri : Uri}
    (same : row'.document = row.document) : row'.Owns uri ↔ row.Owns uri := by
  unfold Remediation.Owns
  rw [same]

theorem Remediation.ownsIfSet_congr {row row' : Remediation} {uri : Uri}
    (same : row'.document = row.document) : row'.OwnsIfSet uri ↔ row.OwnsIfSet uri :=
  or_congr Iff.rfl (owns_congr same)

theorem Remediation.records_congr {row row' : Remediation} {artifact : RemediationArtifact}
    (same : row'.document = row.document) : row'.Records artifact ↔ row.Records artifact :=
  or_congr Iff.rfl (owns_congr same)

/-! ## What a thread holds -/

/-- The attempt a thread has read, and the storage names it has been given since. -/
structure Held where
  attempt : Option Remediation
  uris : List Uri

namespace Held

/-- A thread that has not been answered yet. -/
def nothing : Held := ⟨none, []⟩

/-- Moves on by one answer. -/
def after (x : Held) : (op : Op) → Except Exn op.Ans → Held
  | .getRemediation _, .ok row => ⟨some row, [Remediation.sourcePdfUri row]⟩
  | .completedOutputUri _ _, .ok (some uri) => { x with uris := uri :: x.uris }
  | .storageSave (.output _ _ _ _ _) _, .ok uri => { x with uris := uri :: x.uris }
  | _, _ => x

/-- What is written is written on the attempt that has been read, and names what is held
or what is about to be saved. -/
def Permits (x : Held) : Op → Prop
  | .saveRemediation id fields => ∃ row, x.attempt = some row ∧ row.id = id ∧
      (∀ uri, fields.finalOutputUri = some uri → uri ∈ x.uris) ∧
        (fields.status.isFinished = true → fields.finalOutputUri.isSome = true)
  | .upsertArtifact id _ artifact => ∃ row, x.attempt = some row ∧ row.id = id ∧
      ((artifact.status ≠ .completed ∧ artifact.outputUri = .blank) ∨ artifact.outputUri ∈ x.uris)
  | .completedOutputUri id _ => ∃ row, x.attempt = some row ∧ row.id = id
  | .storageSave (.output account contentHash id _ _) _ =>
      ∃ row, x.attempt = some row ∧ row.id = id ∧ row.document = (account, contentHash)
  | _ => True

/-- The thread has read this attempt, and holds this name besides that of the original. -/
structure Has (row : Remediation) (pdfUri : Uri) (x : Held) : Prop where
  attempt : x.attempt = some row
  source : row.sourcePdfUri ∈ x.uris
  input : pdfUri ∈ x.uris

/-- It does so still, and holds the name that was returned. -/
structure Hands (row : Remediation) (pdfUri : Uri) (x : Held) (result : Except Exn Uri) : Prop where
  has : x.Has row pdfUri
  output : ∀ uri, result = .ok uri → uri ∈ x.uris

/-- A name more is held. -/
theorem Has.more {row : Remediation} {pdfUri uri : Uri} {x : Held} (has : x.Has row pdfUri) :
    Has row pdfUri { x with uris := uri :: x.uris } where
  attempt := has.attempt
  source := List.mem_cons_of_mem _ has.source
  input := List.mem_cons_of_mem _ has.input

theorem Has.raises {row : Remediation} {pdfUri : Uri} {x : Held} (has : x.Has row pdfUri)
    (exc : Exn) : x.Hands row pdfUri (.error exc) where
  has := has
  output := fun _ impossible => by cases impossible

theorem Has.returns {row : Remediation} {pdfUri uri : Uri} {x : Held} (has : x.Has row pdfUri)
    (member : uri ∈ x.uris) : x.Hands row pdfUri (.ok uri) where
  has := has
  output := by
    rintro _ ⟨⟩
    exact member

end Held

/-- Programs that write only what they hold. -/
abbrev Holding {α : Type} (Q : Held → Except Exn α → Prop) (p : Py α) (x : Held) : Prop :=
  p.Tracks Held.after answered Held.Permits Q x

/-- The operations that need nothing held, and give nothing to hold. -/
def Nameless : Op → Prop
  | .getRemediation _ => False
  | .saveRemediation _ _ => False
  | .upsertArtifact _ _ _ => False
  | .completedOutputUri _ _ => False
  | .storageSave _ _ => False
  | _ => True

section Run

variable {settings : Settings} {row : Remediation} {pdfUri : Uri} {x : Held} {α : Type}

private theorem holding_of_nameless {I : Held → Prop} {p : Py α} (nameless : p.Only answered Nameless)
    (before : I x) : Holding (fun y _ => I y) p x := by
  refine Only.tracks nameless before ?_
  intro y op holds ofClass
  cases op <;> first | exact ⟨trivial, fun _ _ => holds⟩ | exact ofClass.elim

private theorem issue_nameless {op : Op} (nameless : Nameless op) :
    (issue op).Only answered Nameless := (only_perform _).mpr nameless

private theorem retry_holding {I : Held → Prop} {func : Py α}
    (tries : ∀ y, I y → Holding (fun z _ => I z) func y) (before : I x) :
    Holding (fun y _ => I y) (retryOnLostConnection func) x := by
  refine Tracks.attempt_bind (tries x before) fun result y holds => ?_
  cases result with
  | ok value => exact holds
  | error exc => cases exc <;> first | exact tries y holds | exact holds

/-- `_mark_status` of what is held. -/
private theorem markStatus_holding (has : x.Has row pdfUri) (step : Step)
    {artifact : RemediationArtifact}
    (held : (artifact.status ≠ .completed ∧ artifact.outputUri = .blank) ∨
      artifact.outputUri ∈ x.uris) :
    Holding (fun y _ => y.Has row pdfUri ∧ x.uris ⊆ y.uris)
      (ArtifactService.markStatus row step artifact) x := by
  refine retry_holding (fun y now => ?_) ⟨has, List.Subset.refl _⟩
  exact ⟨⟨row, now.1.attempt, rfl, held.imp_right fun member => now.2 member⟩, fun _ _ => now⟩

private theorem markFailed_holding (has : x.Has row pdfUri) (step : Step) (error : String) :
    Holding (fun y _ => y.Has row pdfUri) (ArtifactService.markFailed row step error) x :=
  (markStatus_holding has step (.inl ⟨by simp, rfl⟩)).mono fun _ _ now => now.1

private theorem localInputCopy_holding (has : x.Has row pdfUri) (uri : Uri) :
    Holding (fun y _ => y.Has row pdfUri) (ArtifactService.localInputCopy uri) x :=
  holding_of_nameless (Only.bind (issue_nameless trivial) fun _ => trivial) has

private theorem persistOutput_holding (has : x.Has row pdfUri) (output : LocalFile) (step : Step)
    (name : String) :
    Holding (Held.Hands row pdfUri)
      (ArtifactService.persistOutput output (ArtifactService.destUri row step name)) x := by
  have save : ∀ y : Held, y.Has row pdfUri → Holding (Held.Hands row pdfUri)
      (issue (.storageSave (ArtifactService.destUri row step name) output.bytes)) y := by
    intro y has
    refine ⟨⟨row, has.attempt, rfl, rfl⟩, fun answer _ => ?_⟩
    cases answer with
    | error exc => exact has.raises exc
    | ok dest => exact has.more.returns List.mem_cons_self
  refine Tracks.bind (holding_of_nameless (issue_nameless trivial) has) ?_ fun exc y has =>
    has.raises exc
  intro taken y has
  cases taken with
  | true =>
      exact Tracks.bind (holding_of_nameless (issue_nameless trivial) has)
        (fun _ z has => save z has) fun exc z has => has.raises exc
  | false => exact save y has

/-- What a step does after looking up whether it has completed. -/
private theorem run_holding (has : x.Has row pdfUri) {service : ArtifactService}
    (works : Holding (Held.Hands row pdfUri) (service._run row pdfUri) x)
    (resumes : ∀ outputUri y, y.Has row pdfUri → outputUri ∈ y.uris →
      Holding (Held.Hands row pdfUri) (service.resumeCompleted row outputUri) y) :
    Holding (Held.Hands row pdfUri) (service.run row pdfUri) x := by
  refine ⟨⟨row, has.attempt, rfl⟩, fun answer _ => ?_⟩
  cases answer with
  | error exc => exact has.raises exc
  | ok existing =>
      cases existing with
      | none => exact works
      | some outputUri => exact resumes outputUri _ has.more List.mem_cons_self

private theorem transformRun_holding (has : x.Has row pdfUri) {service : TransformService}
    (member : service ∈ transformServices settings) :
    Holding (Held.Hands row pdfUri) (service.toStep.run row pdfUri) x := by
  refine run_holding has ?_ fun outputUri y has member => has.returns member
  refine Tracks.attempt_bind (M := Held.Hands row pdfUri) ?_ ?_
  · refine Tracks.bind (localInputCopy_holding has _) ?_ fun exc y has => has.raises exc
    intro file y has
    refine Tracks.bind (holding_of_nameless ?_ has) ?_ fun exc y has => has.raises exc
    · refine (work_adapterOnly member row file).mono ?_
      rintro op ⟨call, rfl⟩
      trivial
    · exact fun output z has => persistOutput_holding has output _ _
  · intro outcome y hands
    cases outcome with
    | error exc =>
        exact Tracks.bind (markFailed_holding hands.has _ _) (fun _ z has => has.returns has.input)
          fun exc z has => has.raises exc
    | ok outputUri =>
        have made := hands.output outputUri rfl
        exact Tracks.bind (markStatus_holding hands.has _ (.inr made))
          (fun _ z now => now.1.returns (now.2 made)) fun exc z now => now.1.raises exc

private theorem scoringRun_holding (has : x.Has row pdfUri) :
    Holding (Held.Hands row pdfUri) (ScoringService.run row pdfUri) x := by
  refine run_holding has ?_ fun outputUri y has member => has.returns member
  refine Tracks.attempt_bind (M := fun y _ => y.Has row pdfUri) ?_ ?_
  · refine Tracks.bind (localInputCopy_holding has _) ?_ fun exc y has => has
    exact fun file y has => holding_of_nameless (issue_nameless trivial) has
  · intro outcome y has
    cases outcome with
    | error exc =>
        exact Tracks.bind (markFailed_holding has _ _) (fun _ z has => has.returns has.input)
          fun exc z has => has.raises exc
    | ok result =>
        refine Tracks.bind (holding_of_nameless (issue_nameless trivial) has) ?_ fun exc z has =>
          has.raises exc
        intro _ z has
        exact Tracks.bind (markStatus_holding has _ (.inr has.input))
          (fun _ z now => now.1.returns now.1.input) fun exc z now => now.1.raises exc

private theorem verificationRun_holding (has : x.Has row pdfUri) (service : VerificationService)
    (judges : ∀ isCompliant rules, (service.handleResult isCompliant rules).Only answered Nameless)
    (errs : ∀ error, (service.handleVerificationError error).Only answered Nameless) :
    Holding (Held.Hands row pdfUri) (service.toStep.run row pdfUri) x := by
  have decides : ∀ isCompliant rules (outputUri : Uri) (y : Held), y.Has row pdfUri →
      outputUri ∈ y.uris → Holding (Held.Hands row pdfUri)
        ((service.handleResult isCompliant rules).bind fun _ => .done (.ok outputUri)) y :=
    fun isCompliant rules outputUri y has member =>
      Tracks.bind (holding_of_nameless (I := fun z => z.Has row pdfUri ∧ outputUri ∈ z.uris)
        (judges isCompliant rules) ⟨has, member⟩) (fun _ z now => now.1.returns now.2)
        fun exc z now => now.1.raises exc
  refine run_holding has ?_ ?_
  · refine Tracks.attempt_bind (M := fun y _ => y.Has row pdfUri) ?_ ?_
    · refine Tracks.bind (localInputCopy_holding has _) ?_ fun exc y has => has
      exact fun file y has =>
        holding_of_nameless (Only.bind (issue_nameless trivial) fun _ => trivial) has
    · intro validated y has
      cases validated with
      | error exc =>
          refine Tracks.bind (markFailed_holding has _ _) ?_ fun exc z has => has.raises exc
          intro _ z has
          exact Tracks.bind (holding_of_nameless (errs _) has)
            (fun _ z has => has.returns has.input) fun exc z has => has.raises exc
      | ok judged =>
          refine Tracks.bind (holding_of_nameless (issue_nameless trivial) has) ?_ fun exc z has =>
            has.raises exc
          intro _ z has
          refine Tracks.bind (markStatus_holding has _ (.inr has.input)) ?_ fun exc z now =>
            now.1.raises exc
          exact fun _ z now => decides _ _ _ z now.1 now.1.input
  · intro outputUri y has member
    refine Tracks.bind (holding_of_nameless
      (I := fun z => z.Has row pdfUri ∧ outputUri ∈ z.uris) (issue_nameless trivial)
      ⟨has, member⟩) ?_ fun exc z now => now.1.raises exc
    intro previous z now
    split
    · exact now.1.raises _
    · exact decides _ _ _ z now.1 now.2

/-- **A step hands on a name it holds.** -/
theorem stepRun_holding (has : x.Has row pdfUri) {service : ArtifactService}
    (member : service ∈ pipelineSteps settings) :
    Holding (Held.Hands row pdfUri) (service.run row pdfUri) x := by
  simp only [pipelineSteps_eq, List.mem_append, List.mem_cons, List.mem_map, List.not_mem_nil,
    or_false] at member
  rcases member with (rfl | ⟨transform, isTransform, rfl⟩) | rfl | rfl
  · refine verificationRun_holding has PrecheckService (fun isCompliant _ => ?_) fun _ => trivial
    cases isCompliant <;> trivial
  · exact transformRun_holding has isTransform
  · exact scoringRun_holding has
  · refine verificationRun_holding has PostCheckService (fun isCompliant _ => ?_) fun _ => trivial
    cases isCompliant <;> trivial

private theorem runSteps_holding (has : x.Has row pdfUri) (services : List ArtifactService)
    (members : ∀ service ∈ services, service ∈ pipelineSteps settings) :
    Holding (fun y r => y.Has row row.sourcePdfUri ∧
        ∀ ended, r = .ok ended → Prod.snd ended ∈ y.uris)
      (runSteps settings row services pdfUri) x := by
  have ends : ∀ {y : Held} {uri : Uri} (result : Except Exn Unit), y.Has row uri →
      y.Has row row.sourcePdfUri ∧ ∀ ended, Except.ok (ε := Exn) (result, uri) = .ok ended →
        ended.2 ∈ y.uris := by
    rintro y uri result has
    refine ⟨⟨has.attempt, has.source, has.source⟩, ?_⟩
    rintro _ ⟨⟩
    exact has.input
  induction services generalizing pdfUri x with
  | nil => exact ends _ has
  | cons service rest ih =>
      have later : ∀ service ∈ rest, service ∈ pipelineSteps settings :=
        fun other member => members other (List.mem_cons_of_mem _ member)
      rw [runSteps]
      split
      · refine Tracks.attempt_bind (markStatus_holding has _ (.inl ⟨by simp, rfl⟩)) fun ended y now => ?_
        cases ended with
        | ok _ => exact ih now.1 later
        | error exc => exact ends _ now.1
      · refine Tracks.attempt_bind (stepRun_holding has (members _ List.mem_cons_self))
          fun ended y hands => ?_
        cases ended with
        | ok output =>
            exact ih ⟨hands.has.attempt, hands.has.source, hands.output output rfl⟩ later
        | error exc => exact ends _ hands.has

private theorem markFinished_holding (has : x.Has row pdfUri) (status : JobStatus)
    (error : Option String) :
    Holding (fun y _ => y.Has row pdfUri)
      (RemediationService.markFinished row status pdfUri error) x := by
  refine retry_holding (fun y has => ?_) has
  refine Tracks.bind (holding_of_nameless (issue_nameless trivial) has) ?_ fun _ _ has => has
  intro now z has
  refine ⟨⟨row, has.attempt, rfl, ?_, fun _ => rfl⟩, fun _ _ => has⟩
  rintro uri ⟨⟩
  exact has.input

private theorem conclude_holding (has : x.Has row row.sourcePdfUri) (ended : Except Exn Unit)
    (member : pdfUri ∈ x.uris) :
    Holding (fun _ _ => True) (conclude settings row (ended, pdfUri)) x := by
  have input : x.Has row pdfUri := ⟨has.attempt, has.source, member⟩
  have finish : ∀ {uri : Uri} (status : JobStatus) (error : Option String), x.Has row uri →
      Holding (fun _ _ => True) (RemediationService.markFinished row status uri error) x :=
    fun status error has => (markFinished_holding has status error).mono fun _ _ _ => trivial
  cases ended with
  | ok _ =>
      rw [conclude]
      split <;> exact finish _ _ input
  | error exc =>
      cases exc <;> first
        | exact finish _ _ has
        | exact finish _ _ input
        | exact Tracks.bind (finish _ _ input) (fun _ _ _ => trivial) fun _ _ _ => trivial

private theorem enqueueWebhooks_nameless (callbacks : List ℕ) :
    (enqueueWebhooks callbacks).Only answered Nameless := by
  induction callbacks with
  | nil => trivial
  | cons callback rest ih => exact Only.bind (issue_nameless trivial) fun _ => ih

/-- **A run of the task writes only names it holds.** -/
theorem processRemediation_holding (settings : Settings) (id : ℕ) (x : Held) :
    Holding (fun _ _ => True) (processRemediation settings id) x := by
  refine ⟨trivial, fun answer own => ?_⟩
  cases answer with
  | error exc => trivial
  | ok row =>
      have has : Held.Has row row.sourcePdfUri ⟨some row, [row.sourcePdfUri]⟩ :=
        ⟨rfl, List.mem_cons_self, List.mem_cons_self⟩
      refine Tracks.ite (fun _ => trivial) fun _ => ?_
      refine Tracks.bind (M := fun y _ => y.Has row row.sourcePdfUri) ?_ ?_ fun _ _ _ => trivial
      · refine Tracks.bind (holding_of_nameless (issue_nameless trivial) has) ?_ fun _ _ has => has
        intro now y has
        refine ⟨⟨row, has.attempt, rfl, ?_, fun impossible => by cases impossible⟩, fun _ _ => has⟩
        rintro uri ⟨⟩
      · intro _ y has
        refine Tracks.attempt_bind (M := fun _ _ => True) ?_ fun result z _ => ?_
        · refine Tracks.bind (runSteps_holding has _ fun _ member => member) ?_ fun _ _ _ => trivial
          rintro ⟨ended, pdfUri⟩ z ⟨has, member⟩
          exact conclude_holding has ended (member _ rfl)
        · refine (holding_of_nameless (I := fun _ => True) ?_ trivial)
          refine Only.bind ?_ fun _ => trivial
          exact Only.bind (issue_nameless trivial) fun ids => enqueueWebhooks_nameless ids

end Run

/-- **A submit writes no name but that of its original.** -/
theorem post_holding (settings : Settings) (acceptsUrl : String → Bool) (account : ServiceAccount)
    (upload : Upload) (x : Held) :
    Holding (fun _ _ => True) (CreateRemediationView.post settings acceptsUrl account upload) x := by
  refine Only.tracks (I := fun _ => True) (post_only settings acceptsUrl account upload) trivial ?_
  intro y op _ ofSubmit
  refine ⟨?_, fun _ _ => trivial⟩
  cases op with
  | storageSave uri bytes =>
      obtain ⟨rfl, -⟩ := ofSubmit
      trivial
  | saveRemediation _ _ => exact ofSubmit.elim
  | upsertArtifact _ _ _ => exact ofSubmit.elim
  | completedOutputUri _ _ => exact ofSubmit.elim
  | _ => trivial

/-! ## What is in the tables -/

/-- The tables name a document's files on its own attempts only. -/
structure Filed (s : Store) : Prop where
  keyed : WellKeyed s.rows s.nextId
  source : ∀ row ∈ s.rows, row.Owns row.sourcePdfUri
  final : ∀ row ∈ s.rows, row.OwnsIfSet row.finalOutputUri
  settled : ∀ row ∈ s.rows, row.status.isFinished = true → row.Owns row.finalOutputUri
  artifact : ∀ id step artifact, s.artifacts id step = some artifact →
    ∃ row, s.row id = some row ∧ row.Records artifact

/-- What a thread holds is its attempt's, and the attempt is stored. -/
structure Held.Fits (s : Store) (x : Held) : Prop where
  stored : ∀ row, x.attempt = some row → ∃ now, s.row row.id = some now ∧ now.document = row.document
  own : ∀ uri ∈ x.uris, ∃ row, x.attempt = some row ∧ row.Owns uri

section Steps

variable {settings : Settings} {world : World} {i : ℕ} {op : Op} {s t : Store} {x : Held}
variable {answer : Except Exn op.Ans}

/-- An attempt stays one at its document. -/
theorem Effect.row_document (effect : Effect i s op t) {a : ℕ} {row : Remediation}
    (found : s.row a = some row) : ∃ now, t.row a = some now ∧ now.document = row.document := by
  rcases effect.row found with ⟨fields, -, now⟩ | ⟨enqueued, now⟩
  · exact ⟨_, now, rfl⟩
  · exact ⟨_, now, rfl⟩

theorem Held.Fits.effect (fits : x.Fits s) (effect : Effect i s op t) : x.Fits t where
  stored := by
    intro row isAttempt
    obtain ⟨now, found, same⟩ := fits.stored row isAttempt
    obtain ⟨later, found', same'⟩ := effect.row_document found
    exact ⟨later, found', same'.trans same⟩
  own := fits.own

/-- What the rows of one state say of the rows of the next, if each of these is like an
old one or passes by itself. -/
private theorem Filed.of_rows (filed : Filed s) (effect : Effect i s op t)
    (rows : ∀ row ∈ t.rows, (∃ old ∈ s.rows, row.document = old.document ∧
        row.sourcePdfUri = old.sourcePdfUri ∧ row.finalOutputUri = old.finalOutputUri ∧
          row.status = old.status) ∨
      row.Owns row.sourcePdfUri ∧ row.OwnsIfSet row.finalOutputUri ∧
        (row.status.isFinished = true → row.Owns row.finalOutputUri))
    (artifacts : ∀ id step artifact, t.artifacts id step = some artifact →
      s.artifacts id step = some artifact ∨ ∃ row, s.row id = some row ∧ row.Records artifact) :
    Filed t where
  keyed := effect.wellKeyed filed.keyed
  source := by
    intro row member
    rcases rows row member with ⟨old, oldMember, sameDocument, sameSource, -, -⟩ | ⟨owned, -, -⟩
    · rw [sameSource]
      exact (Remediation.owns_congr sameDocument).mpr (filed.source old oldMember)
    · exact owned
  final := by
    intro row member
    rcases rows row member with ⟨old, oldMember, sameDocument, -, sameFinal, -⟩ | ⟨-, owned, -⟩
    · rw [sameFinal]
      exact (Remediation.ownsIfSet_congr sameDocument).mpr (filed.final old oldMember)
    · exact owned
  settled := by
    intro row member finished
    rcases rows row member with
      ⟨old, oldMember, sameDocument, -, sameFinal, sameStatus⟩ | ⟨-, -, owned⟩
    · rw [sameFinal]
      rw [sameStatus] at finished
      exact (Remediation.owns_congr sameDocument).mpr (filed.settled old oldMember finished)
    · exact owned finished
  artifact := by
    intro id step artifact isArtifact
    have known : ∃ row, s.row id = some row ∧ row.Records artifact := by
      rcases artifacts id step artifact isArtifact with old | known
      · exact filed.artifact id step artifact old
      · exact known
    obtain ⟨row, found, records⟩ := known
    obtain ⟨now, found', same⟩ := effect.row_document found
    exact ⟨now, found', (Remediation.records_congr same).mpr records⟩

/-- A save of what is held. -/
private theorem saved_rows (filed : Filed s) (fits : x.Fits s) {id : ℕ}
    {fields : RemediationUpdate} (permitted : x.Permits (.saveRemediation id fields))
    {row : Remediation} (member : row ∈ (s.updateRow id fields.apply).rows) :
    row ∈ s.rows ∨ row.Owns row.sourcePdfUri ∧ row.OwnsIfSet row.finalOutputUri ∧
      (row.status.isFinished = true → row.Owns row.finalOutputUri) := by
  rcases Store.mem_updateRow_rows member with old | ⟨old, oldMember, rfl, rfl⟩
  · exact .inl old
  obtain ⟨attempt, isAttempt, sameId, held, finishes⟩ := permitted
  obtain ⟨now, found, same⟩ := fits.stored attempt isAttempt
  rw [sameId, Store.row_of_mem filed.keyed oldMember] at found
  obtain rfl := Option.some.inj found
  have oldRow := Store.mem_rows_of_mem oldMember
  refine .inr ⟨filed.source old oldRow, ?_⟩
  cases isFinal : fields.finalOutputUri with
  | none =>
      have unchanged : (fields.apply old).finalOutputUri = old.finalOutputUri := by
        simp [RemediationUpdate.apply, isFinal]
      rw [unchanged]
      refine ⟨filed.final old oldRow, fun finished => ?_⟩
      rw [RemediationUpdate.apply_status] at finished
      have set := finishes finished
      rw [isFinal] at set
      cases set
  | some uri =>
      have written : (fields.apply old).finalOutputUri = uri := by
        simp [RemediationUpdate.apply, isFinal]
      obtain ⟨holder, isHolder, owns⟩ := fits.own uri (held uri isFinal)
      obtain rfl := Option.some.inj (isAttempt.symm.trans isHolder)
      have owned : (fields.apply old).Owns uri := (Remediation.owns_congr same).mpr owns
      rw [written]
      exact ⟨.inr owned, fun _ => owned⟩

/-- **What is written is filed.** -/
theorem Filed.effect (filed : Filed s) (fits : x.Fits s) (effect : Effect i s op t)
    (permitted : x.Permits op)
    (original : ∀ new, op = .insertRemediation new →
      ∃ filename, new.sourcePdfUri = .original new.serviceAccount new.contentHash filename) :
    Filed t := by
  -- A row that is as an old one in what is filed needs no new argument.
  have alike : ∀ row ∈ s.rows, (∃ old ∈ s.rows, row.document = old.document ∧
      row.sourcePdfUri = old.sourcePdfUri ∧ row.finalOutputUri = old.finalOutputUri ∧
        row.status = old.status) :=
    fun row member => ⟨row, member, rfl, rfl, rfl, rfl⟩
  have ended : ∀ keep, ∀ row ∈ (s.endTransaction i keep).rows, row ∈ s.rows :=
    fun keep row member => (s.endTransaction_rows i keep).subset member
  have carry := filed.of_rows effect
  cases effect with
  | saved found guarded =>
      refine carry (fun row member => ?_) fun _ _ _ => .inl
      exact (saved_rows filed fits permitted member).imp_left (alike row)
  | claimed found unfinished unclaimed =>
      refine carry (fun row member => .inl ?_) fun _ _ _ => .inl
      rcases Store.mem_updateRow_rows member with old | ⟨old, oldMember, -, rfl⟩
      · exact alike row old
      · exact ⟨old, Store.mem_rows_of_mem oldMember, rfl, rfl, rfl, rfl⟩
  | @inserted new noClash noWait =>
      refine carry (fun row member => ?_) fun _ _ _ => .inl
      rw [Store.insert_rows] at member
      rcases List.mem_append.mp member with old | last
      · exact .inl (alike row old)
      · obtain rfl := List.mem_singleton.mp last
        -- A new row has its original under its own document and no output yet.
        obtain ⟨filename, isOriginal⟩ := original new rfl
        exact .inr ⟨congrArg Uri.document? isOriginal, .inl rfl, fun finished => by cases finished⟩
  | committed => exact carry (fun row member => .inl (alike row (ended true row member))) fun _ _ _ => .inl
  | abandoned => exact carry (fun row member => .inl (alike row (ended false row member))) fun _ _ _ => .inl
  | rolledBack => exact carry (fun row member => .inl (alike row (ended false row member))) fun _ _ _ => .inl
  | @recorded id step artifact wide =>
      refine carry (fun row member => .inl (alike row member)) ?_
      intro id' step' artifact' isArtifact
      -- The artifact that is written is in the directory of the attempt it is recorded for.
      by_cases same : id' = id ∧ step' = step
      · obtain ⟨rfl, rfl⟩ := same
        obtain rfl : artifact = artifact' := by simpa using isArtifact
        obtain ⟨row, isAttempt, rfl, records⟩ := permitted
        obtain ⟨now, found, same⟩ := fits.stored row isAttempt
        refine .inr ⟨now, found, (Remediation.records_congr same).mpr (records.imp_right ?_)⟩
        intro held
        obtain ⟨holder, isHolder, owns⟩ := fits.own _ held
        obtain rfl := Option.some.inj (isAttempt.symm.trans isHolder)
        exact owns
      · refine .inl (Eq.trans ?_ isArtifact)
        by_cases sameId : id' = id
        · subst sameId
          have otherStep : step' ≠ step := fun sameStep => same ⟨rfl, sameStep⟩
          simp [otherStep]
        · simp [sameId]
  | _ => exact carry (fun row member => .inl (alike row member)) fun _ _ _ => .inl

/-- A row that was read is stored, and its original is its own. -/
private theorem fits_of_row {id : ℕ} {row : Remediation} (filed : Filed s)
    (found : s.row id = some row) : Held.Fits s ⟨some row, [row.sourcePdfUri]⟩ where
  stored := by
    rintro _ ⟨⟩
    rw [Store.row_id found]
    exact ⟨row, found, rfl⟩
  own := by
    intro uri member
    obtain rfl := List.mem_singleton.mp member
    exact ⟨row, rfl, filed.source row (Store.mem_rows_of_mem (Store.row_mem found))⟩

private theorem Held.Fits.more (fits : x.Fits s) {row : Remediation} {uri : Uri}
    (isAttempt : x.attempt = some row) (owns : row.Owns uri) :
    Held.Fits s { x with uris := uri :: x.uris } where
  stored := fits.stored
  own := List.forall_mem_cons.mpr ⟨⟨row, isAttempt, owns⟩, fits.own⟩

/-- **What is answered is the attempt's own.** -/
theorem Held.Fits.after (fits : x.Fits s) (filed : Filed s) (permitted : x.Permits op)
    (executed : execute settings world i op s = some (answer, t)) : (x.after op answer).Fits t := by
  have kept := fits.effect (execute_effect executed)
  have promised := execute_answered executed
  cases answer with
  | error exc =>
      cases op with
      | storageSave uri bytes => cases uri <;> exact kept
      | _ => exact kept
  | ok value =>
      have performed := execute_ok executed
      cases op with
      | getRemediation id =>
          simp only [perform] at performed
          split at performed
          · obtain ⟨same, rfl⟩ := Prod.mk.inj (Option.some.inj performed)
            obtain rfl := Except.ok.inj same
            exact fits_of_row filed ‹_›
          · cases performed
      | completedOutputUri id step =>
          cases value with
          | none => exact kept
          | some uri =>
              simp only [perform] at performed
              split at performed
              · rename_i artifact isArtifact
                split at performed
                · rename_i isCompleted
                  obtain ⟨same, rfl⟩ := Prod.mk.inj (Option.some.inj performed)
                  obtain rfl : artifact.outputUri = uri := Option.some.inj (Except.ok.inj same)
                  obtain ⟨row, isAttempt, rfl⟩ := permitted
                  obtain ⟨now, found, sameDocument⟩ := fits.stored row isAttempt
                  obtain ⟨stored, found', records⟩ := filed.artifact _ _ _ isArtifact
                  obtain rfl := Option.some.inj (found.symm.trans found')
                  refine fits.more isAttempt ((Remediation.owns_congr sameDocument).mp ?_)
                  exact records.resolve_left fun other => other.1 isCompleted
                · cases performed
              · cases performed
      | storageSave uri bytes =>
          cases uri with
          | output account contentHash id step name =>
              obtain ⟨row, isAttempt, -, isDocument⟩ := permitted
              refine kept.more isAttempt ?_
              have landed : value.document? = some (account, contentHash) := by
                rcases promised with rfl | ⟨other, rfl⟩ <;> rfl
              exact landed.trans (congrArg some isDocument.symm)
          | _ => exact kept
      | _ => exact kept

end Steps

/-! ## The runs -/

section Runs

variable {settings : Settings} {acceptsUrl : String → Bool} {retryFloor : Option String}
variable {ok : Cluster → Choice → Prop} {c : Cluster}

private theorem held_permitted
    (reached : (system settings acceptsUrl).Reach ok (deployed retryFloor) c) {i : ℕ}
    {thread : Thread Query Exn (Option Response) Role} (live : c.threads i = some thread) :
    (Machine.observed (S := Query) Held.after .nothing i c.history).Permits thread.op := by
  have followed := reached.tracked (S := Query) Held.after .nothing answered
    (fun _ => Held.Permits) (fun _ _ _ => True) ?_ ?_
  · exact (followed.live i thread live).1
  · intro role s body started
    rw [start_eq started]
    cases role with
    | request account upload =>
        exact Tracks.bind (post_holding settings acceptsUrl account upload _) (fun _ _ _ => trivial)
          fun _ _ _ => trivial
    | run id =>
        exact Tracks.bind (processRemediation_holding settings id _) (fun _ _ _ => trivial)
          fun _ _ _ => trivial
  · exact fun _ _ _ _ _ _ executed => execute_answered executed

/-- An attempt is made at an original of its document. -/
private theorem insert_original
    (reached : (system settings acceptsUrl).Reach ok (deployed retryFloor) c) {i : ℕ}
    {thread : Thread Query Exn (Option Response) Role} (live : c.threads i = some thread)
    (new : NewRemediation) (isInsert : thread.op = .insertRemediation new) :
    ∃ filename, new.sourcePdfUri = .original new.serviceAccount new.contentHash filename := by
  have followed := reached.tracked (S := Query) Ensured.after [] answered
    (fun _ => Ensured.Permits settings) (fun _ _ _ => True) ?_ ?_
  · have permitted := (followed.live i thread live).1
    rw [isInsert] at permitted
    exact permitted.2
  · intro role s body started
    rw [start_eq started]
    cases role with
    | request account upload =>
        exact Tracks.bind (post_ensures settings acceptsUrl account upload) (fun _ _ _ => trivial)
          fun _ _ _ => trivial
    | run id =>
        exact Tracks.bind (run_ensures settings id) (fun _ _ _ => trivial) fun _ _ _ => trivial
  · exact fun _ _ _ _ _ _ executed => execute_answered executed

/-- **The tables stay filed.** -/
theorem filed_reached
    (reached : (system settings acceptsUrl).Reach ok (deployed retryFloor) c) : Filed c.store := by
  refine (reached.accompanied (S := Query) Held.after .nothing Filed (fun s x => x.Fits s)
    ?_ ?_ ?_ ?_ ?_ ?_).1
  · exact ⟨⟨List.nodup_nil, by simp [Store.rows, Store.empty]⟩, by simp [Store.rows, Store.empty],
      by simp [Store.rows, Store.empty], by simp [Store.rows, Store.empty],
      by simp [Store.empty]⟩
  · exact ⟨by simp [Held.nothing], by simp [Held.nothing]⟩
  · intro c i world thread answer t before live _ executed filed fits
    have permitted := held_permitted before live
    exact ⟨filed.effect fits (execute_effect executed) permitted (insert_original before live),
      fits.after filed permitted executed⟩
  · intro c i world thread answer t x _ _ _ executed _ fits
    exact fits.effect (execute_effect executed)
  · intro i s filed
    have effect : Effect i s .rollback (s.endTransaction i false) := .rolledBack
    have nothing : Held.nothing.Fits s := ⟨by simp [Held.nothing], by simp [Held.nothing]⟩
    refine ⟨filed.effect nothing effect trivial ?_, fun x fits => fits.effect effect⟩
    rintro new ⟨⟩
  · exact fun elapsed s filed => ⟨⟨filed.keyed, filed.source, filed.final, filed.settled,
      filed.artifact⟩, fun x fits => ⟨fits.stored, fits.own⟩⟩

/-- An attempt's hash is the hash of some file. -/
theorem digest_reached
    (reached : (system settings acceptsUrl).Reach ok (deployed retryFloor) c) :
    ∀ row ∈ c.store.rows, ∃ bytes, row.contentHash = settings.sha256 bytes := by
  refine store_invariant (fun s => ∀ row ∈ s.rows, ∃ bytes, row.contentHash = settings.sha256 bytes)
    reached ?_ ?_ ?_ ?_
  · exact fun row member => absurd member (by simp [Store.rows, deployed, Config.initial, Store.empty])
  · intro c i thread world answer t before digests live _ executed row member
    rcases (execute_effect executed).document_rows member with
      ⟨old, oldMember, -, -, sameHash⟩ | ⟨new, isInsert, rfl⟩
    · obtain ⟨bytes, isHash⟩ := digests old oldMember
      exact ⟨bytes, sameHash.symm.trans isHash⟩
    · obtain ⟨role, op, next⟩ := thread
      obtain rfl : op = .insertRemediation new := isInsert
      have footprint := footprint before live
      cases role with
      | request account upload => exact ⟨upload.bytes, footprint.2⟩
      | run id => exact footprint.elim
  · exact fun i s digests row member => digests row ((s.endTransaction_rows i false).subset member)
  · exact fun _ _ digests => digests

end Runs

/-! ## The texts of the names -/

theorem Uri.original_text (account : ℕ) (contentHash name : String) :
    (Uri.original account contentHash name).text =
      "remediations/" ++ toString account ++ "/" ++ contentHash ++ "/" ++ name := by
  unfold Uri.text
  rfl

theorem Uri.output_text (account : ℕ) (contentHash : String) (id : ℕ) (step : Step)
    (name : String) :
    (Uri.output account contentHash id step name).text =
      "remediations/" ++ toString account ++ "/" ++ contentHash ++ "/" ++ toString id ++ "/" ++
        step.value ++ "/" ++ name := by
  unfold Uri.text
  rfl

/-- The directory of a document: `remediations/<service_account_id>/<content_hash>/`. -/
def Remediation.directory (row : Remediation) : String :=
  "remediations/" ++ toString row.serviceAccount ++ "/" ++ row.contentHash ++ "/"

theorem Remediation.directory_text (row : Remediation) : row.directory =
    "remediations/" ++ toString row.serviceAccount ++ "/" ++ row.contentHash ++ "/" := rfl

/-- The text of a name starts with the directory of its document. -/
theorem Remediation.Owns.text {row : Remediation} {uri : Uri} (owns : row.Owns uri) :
    ∃ rest, uri.text = row.directory ++ rest := by
  cases uri with
  | blank => cases owns
  | original account contentHash name =>
      have sameAccount : account = row.serviceAccount := congrArg Prod.fst (Option.some.inj owns)
      have sameHash : contentHash = row.contentHash := congrArg Prod.snd (Option.some.inj owns)
      exact ⟨name, by rw [Uri.original_text, directory_text, sameAccount, sameHash]⟩
  | output account contentHash id step name =>
      have sameAccount : account = row.serviceAccount := congrArg Prod.fst (Option.some.inj owns)
      have sameHash : contentHash = row.contentHash := congrArg Prod.snd (Option.some.inj owns)
      refine ⟨toString id ++ "/" ++ step.value ++ "/" ++ name, ?_⟩
      rw [Uri.output_text, directory_text, sameAccount, sameHash]
      simp only [String.append_assoc]

private theorem toList_toString (n : ℕ) : (toString n).toList = Nat.toDigits 10 n := by
  rw [Nat.toString_eq_repr, Nat.toList_repr]

private theorem slash_not_mem_toString (n : ℕ) : '/' ∉ (toString n).toList := by
  intro member
  rw [toList_toString] at member
  have digit : '/'.isDigit = true :=
    Nat.isDigit_of_mem_toDigits (by decide) (by decide) member
  exact absurd digit (by decide)

private theorem toString_inj {m n : ℕ} (same : (toString m).toList = (toString n).toList) :
    m = n := by
  rw [toList_toString, toList_toString] at same
  have values := congrArg (fun digits => Nat.ofDigitChars 10 digits 0) same
  simpa only [Nat.ofDigitChars_ten_toDigits] using values

/-- Two texts with a separator agree before and after the first one. -/
private theorem append_cons_inj {α : Type} [DecidableEq α] {a : α} {xs xs' ys ys' : List α}
    (free : a ∉ xs) (free' : a ∉ xs') (same : xs ++ a :: ys = xs' ++ a :: ys') :
    xs = xs' ∧ ys = ys' := by
  have first : ∀ zs : List α, ∀ rest, a ∉ zs → (zs ++ a :: rest).takeWhile (· != a) = zs := by
    intro zs rest free
    rw [List.takeWhile_append_of_pos (by rintro b member; simp; rintro rfl; exact free member)]
    simp
  have heads : xs = xs' := by
    rw [← first xs ys free, same, first xs' ys' free']
  subst heads
  exact ⟨rfl, (List.cons.inj (List.append_cancel_left same)).2⟩

/-- The characters of a text that starts with a directory, as its separators part them. -/
private theorem toList_directory_append (row : Remediation) (rest : String) :
    (row.directory ++ rest).toList = "remediations/".toList ++ ((toString row.serviceAccount).toList ++
      '/' :: (row.contentHash.toList ++ '/' :: rest.toList)) := by
  rw [Remediation.directory_text]
  simp only [String.toList_append, List.append_assoc]
  rfl

/-- **A directory can be read back from a text that starts with it.** -/
theorem Remediation.directory_inj {row row' : Remediation} {rest rest' : String}
    (hex : '/' ∉ row.contentHash.toList) (hex' : '/' ∉ row'.contentHash.toList)
    (same : row.directory ++ rest = row'.directory ++ rest') : row.document = row'.document := by
  have texts := congrArg String.toList same
  rw [toList_directory_append, toList_directory_append] at texts
  obtain ⟨sameAccount, texts⟩ := append_cons_inj (slash_not_mem_toString _)
    (slash_not_mem_toString _) (List.append_cancel_left texts)
  obtain ⟨sameHash, -⟩ := append_cons_inj hex hex' texts
  exact Prod.ext (toString_inj sameAccount) (String.toList_inj.mp sameHash)

/-- The files that are recorded for an attempt, on its row and on its artifacts. -/
def Store.Lists (s : Store) (row : Remediation) (uri : Uri) : Prop :=
  uri = row.sourcePdfUri ∨ uri = row.finalOutputUri ∨
    ∃ step artifact, s.artifacts row.id step = some artifact ∧ uri = artifact.outputUri

/-- What is recorded for an attempt is a file of its document, or nothing. -/
theorem Filed.lists {s : Store} (filed : Filed s) {row : Remediation} {uri : Uri}
    (member : row ∈ s.rows) (lists : s.Lists row uri) : row.OwnsIfSet uri := by
  rcases lists with rfl | rfl | ⟨step, artifact, isArtifact, rfl⟩
  · exact .inr (filed.source row member)
  · exact filed.final row member
  · obtain ⟨other, found, records⟩ := filed.artifact row.id step artifact isArtifact
    have sameRow : other = row := filed.keyed.eq_of_id
      (Store.mem_rows_of_mem (Store.row_mem found)) member (Store.row_id found)
    subst sameRow
    exact records.imp And.right id

/-- Every file that is recorded for an attempt lies in the directory of its document,
which no other document's files lie in, and an attempt that has finished and a step that
has completed have recorded one. -/
structure FilesApart (s : Store) : Prop where
  inside : ∀ row ∈ s.rows, ∀ uri, s.Lists row uri →
    uri = .blank ∨ ∃ rest, uri.text = row.directory ++ rest
  apart : ∀ row ∈ s.rows, ∀ row' ∈ s.rows, row.document ≠ row'.document →
    ∀ uri uri', s.Lists row uri → s.Lists row' uri' → uri ≠ .blank → uri' ≠ .blank →
      uri.text ≠ uri'.text
  finished : ∀ row ∈ s.rows, row.status.isFinished = true → row.finalOutputUri ≠ .blank
  completed : ∀ id step artifact, s.artifacts id step = some artifact →
    artifact.status = .completed → artifact.outputUri ≠ .blank

private theorem Remediation.Owns.ne_blank {row : Remediation} {uri : Uri} (owns : row.Owns uri) :
    uri ≠ .blank := by
  rintro rfl
  cases owns

theorem Filed.filesApart {s : Store} (filed : Filed s)
    (hex : ∀ row ∈ s.rows, '/' ∉ row.contentHash.toList) : FilesApart s where
  inside := fun row member uri lists =>
    (filed.lists member lists).imp_right Remediation.Owns.text
  apart := by
    intro row member row' member' different uri uri' lists lists' set set' same
    obtain ⟨rest, isText⟩ := ((filed.lists member lists).resolve_left set).text
    obtain ⟨rest', isText'⟩ := ((filed.lists member' lists').resolve_left set').text
    rw [isText, isText'] at same
    exact different (Remediation.directory_inj (hex row member) (hex row' member') same)
  finished := fun row member isFinished => (filed.settled row member isFinished).ne_blank
  completed := by
    intro id step artifact isArtifact isCompleted
    obtain ⟨row, -, records⟩ := filed.artifact id step artifact isArtifact
    exact (records.resolve_left fun other => other.1 isCompleted).ne_blank

/-- **The files of two documents never meet.**  In every run of the deployed system,
however submits and runs of the task overlap, die and are redelivered, no file of a
document is recorded for an attempt at another one. -/
theorem files_stay_with_their_document (settings : Settings) (acceptsUrl : String → Bool)
    (retryFloor : Option String) (c : Cluster)
    (reached : (system settings acceptsUrl).Reach (fun _ _ => True) (deployed retryFloor) c)
    (hex : ∀ bytes, '/' ∉ (settings.sha256 bytes).toList) : FilesApart c.store := by
  refine (filed_reached reached).filesApart fun row member => ?_
  obtain ⟨bytes, isHash⟩ := digest_reached reached row member
  rw [isHash]
  exact hex bytes

/-- Two accounts submit the same file, and the first attempt is run. -/
def sameFileTwice : List Choice :=
  [.spawn (.request .noLimits .oneByte)] ++ steps 0 9 ++
  [.spawn (.request { ServiceAccount.noLimits with id := 2 } .oneByte)] ++ steps 1 9 ++
  [.spawn (.run 0)] ++ steps 2 14

theorem files_stay_with_their_document_twice :
    ∃ c : Cluster, (c.store.row 0).any (·.status.isFinished) = true ∧ (c.store.row 1).isSome = true ∧
      FilesApart c.store := by
  obtain ⟨c, reached, checked⟩ := Machine.exists_reach_of_replay
    (system .stepsOff fun _ => true) (fun _ _ => true) (deployed none) sameFileTwice
    (fun c => (c.store.row 0).any (·.status.isFinished) && (c.store.row 1).isSome)
    (by decide +kernel)
  rw [Bool.and_eq_true] at checked
  have noSlash : ∀ bytes, '/' ∉ (Settings.stepsOff.sha256 bytes).toList := by
    intro bytes
    change '/' ∉
      "4bf5122f344554c53bde2ebb8cd2b7e3d1600ad631c385a5d7cce23c7785459a".toList
    decide
  refine ⟨c, checked.1, checked.2, ?_⟩
  exact files_stay_with_their_document .stepsOff (fun _ => true) none c
    (reached.mono fun _ _ _ => trivial) fun bytes => noSlash bytes

end DicePipeline
