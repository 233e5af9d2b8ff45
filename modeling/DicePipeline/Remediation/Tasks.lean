import DicePipeline.Remediation.RemediationService

/-!
# The worker's task (`remediation/tasks.py`)

`process_remediation` runs `PIPELINE_STEPS` in order, finishes the attempt
according to how the steps ended, and enqueues one webhook notification for
every callback registered on it.
-/

namespace DicePipeline

open Interaction

/-- The loop over `PIPELINE_STEPS`.  It returns how the `try` block ended and
the value of `pdf_uri` at that moment: the variable survives an exception, and
keeps the value it had before the step that raised. -/
def runSteps (settings : Settings) (remediation : Remediation) :
    List ArtifactService → Uri → Py (Except Exn Unit × Uri)
  | [], pdfUri => pure (.ok (), pdfUri)
  | stepService :: rest, pdfUri =>
      if ArtifactService.isDisabled settings stepService.step then do
        let ended ← (ArtifactService.recordSkip remediation stepService.step).attempt
        match ended with
        | .ok () => runSteps settings remediation rest pdfUri
        | .error exc => return (.error exc, pdfUri)
      else do
        let ended ← (stepService.run remediation pdfUri).attempt
        match ended with
        | .ok pdfUri => runSteps settings remediation rest pdfUri
        | .error exc => return (.error exc, pdfUri)

/-- The `except` and `else` clauses of `process_remediation`. -/
def conclude (settings : Settings) (remediation : Remediation) :
    Except Exn Unit × Uri → Py Unit
  | (.error .alreadyCompliant, _) =>
      RemediationService.markCompliant remediation remediation.sourcePdfUri
  | (.error (.notCompliant failedRules), pdfUri) =>
      RemediationService.markNoncompliant remediation
        ("postcheck: " ++ (Exn.notCompliant failedRules).message) pdfUri
  | (.error (.postCheckUnavailable message), pdfUri) =>
      RemediationService.markError remediation ("postcheck: " ++ message) pdfUri
  | (.error exc, pdfUri) => do
      RemediationService.markError remediation exc.message pdfUri
      Program.raise exc
  | (.ok (), pdfUri) =>
      if ArtifactService.isDisabled settings .postcheck then
        RemediationService.markSkipped remediation pdfUri
      else RemediationService.markCompliant remediation pdfUri

/-- One `send_webhook_notification.enqueue` for each callback. -/
def enqueueWebhooks : List ℕ → Py Unit
  | [] => pure ()
  | callback :: rest => do
      issue (.enqueueWebhook callback)
      enqueueWebhooks rest

/-- The `finally` clause. -/
def notifyCallbacks (remediation : Remediation) : Py Unit := do
  let callbackIds : List ℕ ← issue (.callbackIds remediation.id)
  enqueueWebhooks callbackIds

/-- The pipeline of one run: the `try` statement of `process_remediation`. -/
def runPipeline (settings : Settings) (remediation : Remediation) : Py Unit := do
  let ended ← runSteps settings remediation (pipelineSteps settings) remediation.sourcePdfUri
  conclude settings remediation ended

/-- `process_remediation`. -/
def processRemediation (settings : Settings) (remediationId : ℕ) : Py Unit := do
  let remediation ← RemediationService.get remediationId
  if remediation.status.isFinished then return ()
  else do
    RemediationService.markRunning remediation
    (runPipeline settings remediation).ensure (notifyCallbacks remediation)

end DicePipeline
