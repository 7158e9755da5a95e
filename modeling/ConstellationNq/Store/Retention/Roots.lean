import ConstellationNq.Store.Constraints

/-!
# Collections and the roots that hold them

The rows of one collection, and the relationships for which expiry keeps an
evaluation or a whole collection below the floors.
-/

set_option autoImplicit false

namespace ConstellationNq.Store.StoreState

variable (state : StoreState)

/-! ## The rows of a run -/

variable (runId : String)

def submissionsOf : List RawSubmission :=
  state.rawSubmissions.filter fun submission => submission.runId = runId

def reportsOf : List AdmittedReport :=
  state.admittedReports.filter fun report =>
    ∃ submission ∈ state.rawSubmissions,
      submission.submissionId = report.submissionId ∧ submission.runId = runId

def intakesOf : List ProviderIntakeAttempt :=
  state.providerIntakeAttempts.filter fun intake =>
    ∃ link ∈ state.localWatcherProviderIntakes, link.intakeId = intake.intakeId ∧ link.runId = runId

def statusesOf : List StatusEvent :=
  state.statusEvents.filter fun status => status.runId = some runId

def evaluationsOf : List EvaluationRun :=
  state.evaluationRuns.filter fun evaluation => evaluation.triggerRunId = some runId

@[simp] theorem mem_reportsOf {runId : String} {report : AdmittedReport} :
    report ∈ state.reportsOf runId ↔
      report ∈ state.admittedReports ∧ ∃ submission ∈ state.rawSubmissions,
        submission.submissionId = report.submissionId ∧ submission.runId = runId := by
  simp [reportsOf]

@[simp] theorem mem_intakesOf {runId : String} {intake : ProviderIntakeAttempt} :
    intake ∈ state.intakesOf runId ↔
      intake ∈ state.providerIntakeAttempts ∧ ∃ link ∈ state.localWatcherProviderIntakes,
        link.intakeId = intake.intakeId ∧ link.runId = runId := by
  simp [intakesOf]

@[simp] theorem mem_statusesOf {runId : String} {status : StatusEvent} :
    status ∈ state.statusesOf runId ↔ status ∈ state.statusEvents ∧ status.runId = some runId := by
  simp [statusesOf]

@[simp] theorem mem_evaluationsOf {runId : String} {evaluation : EvaluationRun} :
    evaluation ∈ state.evaluationsOf runId ↔
      evaluation ∈ state.evaluationRuns ∧ evaluation.triggerRunId = some runId := by
  simp [evaluationsOf]

/-- `non_anchor_run_condition`: the run is not kept only as a compact anchor. -/
def FullRun : Prop :=
  ∀ submission ∈ state.rawSubmissions, submission.runId = runId → submission.sourceExpired = false

instance (runId : String) : Decidable (state.FullRun runId) := by
  delta FullRun; infer_instance

/-! ## Notification custody and live finding events -/

def HasDeliveryIntent (outbox : NotificationOutbox) : Prop :=
  ∃ intent ∈ state.notificationDeliveryIntents, intent.notificationId = outbox.notificationId

instance (outbox : NotificationOutbox) : Decidable (state.HasDeliveryIntent outbox) := by
  delta HasDeliveryIntent; infer_instance

def CustodyTerminal (outbox : NotificationOutbox) : Prop :=
  (state.HasDeliveryIntent outbox ∧
    ∃ delivery ∈ state.notificationDeliveryEvents, delivery.notificationId = outbox.notificationId ∧
      delivery.outcome ∈ [DeliveryOutcome.accepted, .refused, .failed]) ∨
  (¬ state.HasDeliveryIntent outbox ∧
    ((∃ attempt ∈ state.notificationAttempts, attempt.notificationId = outbox.notificationId ∧
        attempt.outcome = .delivered) ∨
      outbox.maxAttempts ≤ (state.notificationAttempts.countP fun attempt =>
        attempt.notificationId = outbox.notificationId : Nat)))

instance (outbox : NotificationOutbox) : Decidable (state.CustodyTerminal outbox) := by
  delta CustodyTerminal; infer_instance

/-- The revision of the event that opened the finding's current episode. -/
def openingRevision (findingId : String) : Option Int :=
  ((state.findingEvents.filter fun event =>
    event.findingId = findingId ∧ event.eventKind ∈ [FindingEventKind.opened, .reopened]).map
      FindingEvent.eventRevision).max?

/-- The latest event of an unresolved finding and the opening event of its
current episode. -/
def UnresolvedFindingEvent (event : FindingEvent) : Prop :=
  ∃ current ∈ state.findingCurrent, current.findingId = event.findingId ∧
    ∃ head ∈ state.findingEvents, head.eventId = current.latestEventId ∧
      head.conditionState ≠ .explicitlyAbsent ∧
      (head.eventId = event.eventId ∨ some event.eventRevision = state.openingRevision event.findingId)

instance (event : FindingEvent) : Decidable (state.UnresolvedFindingEvent event) := by
  delta UnresolvedFindingEvent; infer_instance

variable (evaluationId : String)

/-- The evaluation survives only as a compact decision record. -/
def CompactEvaluation : Prop :=
  ∃ evaluation ∈ state.evaluationRuns, evaluation.evaluationId = evaluationId ∧ evaluation.sourceExpired

instance (evaluationId : String) : Decidable (state.CompactEvaluation evaluationId) := by
  delta CompactEvaluation; infer_instance

/-- An event in custody, unless its closure was compacted before custody began. -/
def CustodyFindingEvent (event : FindingEvent) : Prop :=
  (∃ outbox ∈ state.notificationOutbox, outbox.findingEventId = some event.eventId ∧
    ¬ state.CustodyTerminal outbox) ∧ ¬ state.CompactEvaluation event.evaluationId

instance (event : FindingEvent) : Decidable (state.CustodyFindingEvent event) := by
  delta CustodyFindingEvent; infer_instance

def LiveFindingEvent (event : FindingEvent) : Prop :=
  state.UnresolvedFindingEvent event ∨ state.CustodyFindingEvent event

instance (event : FindingEvent) : Decidable (state.LiveFindingEvent event) := by
  delta LiveFindingEvent; infer_instance

/-- The evidence row repeats a citation that was released with a resolved
episode: an event at or before a resolution preceding `event` made it first. -/
def ReleasedRecitation (event : FindingEvent) (evidence : FindingEvidence) : Prop :=
  ∃ cited ∈ state.findingEvents, cited.findingId = event.findingId ∧
    cited.eventRevision < event.eventRevision ∧
    (∃ citation ∈ state.findingEvidence, citation.eventId = cited.eventId ∧
      citation.reportId = evidence.reportId ∧
      citation.reportSemanticDigest = evidence.reportSemanticDigest) ∧
    ∃ resolution ∈ state.findingEvents, resolution.findingId = event.findingId ∧
      resolution.eventKind = .resolved ∧ cited.eventRevision ≤ resolution.eventRevision ∧
      resolution.eventRevision < event.eventRevision

instance (event : FindingEvent) (evidence : FindingEvidence) :
    Decidable (state.ReleasedRecitation event evidence) := by
  delta ReleasedRecitation; infer_instance

/-! ## Evaluation roots -/

def PendingClaim : Prop :=
  (∃ claim ∈ state.savedCheckEvents, claim.evaluationId = some evaluationId ∧ claim.outcome = .claimed) ∧
  ¬ ∃ terminal ∈ state.savedCheckEvents,
    terminal.evaluationId = some evaluationId ∧ terminal.outcome.terminal

instance (evaluationId : String) : Decidable (state.PendingClaim evaluationId) := by
  delta PendingClaim; infer_instance

def NamedByFinding : Prop :=
  ∃ event ∈ state.findingEvents, event.evaluationId = evaluationId

instance (evaluationId : String) : Decidable (state.NamedByFinding evaluationId) := by
  delta NamedByFinding; infer_instance

def NamedBySavedCheck : Prop :=
  ∃ event ∈ state.savedCheckEvents, event.evaluationId = some evaluationId

instance (evaluationId : String) : Decidable (state.NamedBySavedCheck evaluationId) := by
  delta NamedBySavedCheck; infer_instance

def DiagnosticOrigin : Prop :=
  ∃ origin ∈ state.localDiagnosticArtifactOrigins, origin.evaluationId = some evaluationId

instance (evaluationId : String) : Decidable (state.DiagnosticOrigin evaluationId) := by
  delta DiagnosticOrigin; infer_instance

/-- The instance whose watermarks decide which evaluations are newer. -/
def ownInstance : Option String :=
  (state.evaluationWatermarks.find? fun own => own.evaluationId = evaluationId).map
    EvaluationWatermark.instanceId

/-- A full evaluation of the same lineage with a later revision. -/
def NewerInLineage (evaluation newer : EvaluationRun) : Prop :=
  (∃ watermark ∈ state.evaluationWatermarks, watermark.evaluationId = newer.evaluationId ∧
    some watermark.instanceId = state.ownInstance evaluation.evaluationId) ∧
  newer.detectorId = evaluation.detectorId ∧ newer.detectorVersion = evaluation.detectorVersion ∧
  evaluation.evaluationRevision < newer.evaluationRevision ∧ newer.sourceExpired = false ∧
  newer.detailJson.lineage = evaluation.detailJson.lineage

instance (evaluation newer : EvaluationRun) : Decidable (state.NewerInLineage evaluation newer) := by
  delta NewerInLineage; infer_instance

def LineageNewest (evaluation : EvaluationRun) : Prop :=
  ¬ ∃ newer ∈ state.evaluationRuns, state.NewerInLineage evaluation newer

instance (evaluation : EvaluationRun) : Decidable (state.LineageNewest evaluation) := by
  delta LineageNewest; infer_instance

/-- The roots for which the planner keeps an evaluation. -/
def EvaluationRoot (evaluation : EvaluationRun) : Prop :=
  (∃ event ∈ state.findingEvents, event.evaluationId = evaluation.evaluationId ∧
    state.LiveFindingEvent event) ∨
  state.PendingClaim evaluation.evaluationId ∨ state.DiagnosticOrigin evaluation.evaluationId ∨
  state.LineageNewest evaluation

instance (evaluation : EvaluationRun) : Decidable (state.EvaluationRoot evaluation) := by
  delta EvaluationRoot; infer_instance

/-! ## Run roots -/

/-- The evaluation names the report by its watermark or in its envelope. -/
def Cites (evaluation : EvaluationRun) (report : AdmittedReport) : Prop :=
  (∃ watermark ∈ state.evaluationWatermarks, watermark.evaluationId = evaluation.evaluationId ∧
    watermark.instanceId = report.instanceId ∧ watermark.maxReportSequence = report.reportSequence) ∨
  (evaluation.sourceExpired = false ∧
    (∃ lowest ∈ evaluation.minCitedReportSequence, lowest ≤ report.reportSequence) ∧
    report.reportId ∈ evaluation.detailJson.texts)

instance (evaluation : EvaluationRun) (report : AdmittedReport) :
    Decidable (state.Cites evaluation report) := by
  delta Cites; infer_instance

def Acknowledged : Prop :=
  ∃ link ∈ state.localWatcherProviderIntakes, link.runId = runId ∧
    ∃ acknowledgment ∈ state.providerIntakeAcknowledgments,
      acknowledgment.intakeId = link.intakeId ∧ acknowledgment.runId = link.runId

instance (runId : String) : Decidable (state.Acknowledged runId) := by
  delta Acknowledged; infer_instance

/-- The reports `latest_checkpoint` reads for an instance and a contract. -/
def CheckpointReport (instanceId checkpointContractDigest : String) (report : AdmittedReport) : Prop :=
  report.instanceId = instanceId ∧ report.nextCheckpointJson.isSome ∧
  ∃ run ∈ state.watcherRuns, run.checkpointContractDigest = checkpointContractDigest ∧
    report ∈ state.reportsOf run.runId ∧ state.Acknowledged run.runId

instance (instanceId checkpointContractDigest : String) (report : AdmittedReport) :
    Decidable (state.CheckpointReport instanceId checkpointContractDigest report) := by
  delta CheckpointReport; infer_instance

/-- `report` belongs to `runId`, carries a checkpoint, and no report in `among`
carries a later one for its instance and contract. -/
def NewestCheckpoint (among : AdmittedReport → Bool) (runId : String) (report : AdmittedReport) : Prop :=
  report.nextCheckpointJson.isSome ∧
  ∃ run ∈ state.watcherRuns, run.runId = runId ∧ state.Acknowledged runId ∧
    ¬ ∃ newer ∈ state.admittedReports, among newer ∧ report.reportSequence < newer.reportSequence ∧
      state.CheckpointReport report.instanceId run.checkpointContractDigest newer

instance (among : AdmittedReport → Bool) (runId : String) (report : AdmittedReport) :
    Decidable (state.NewestCheckpoint among runId report) := by
  delta NewestCheckpoint; infer_instance

def latestReportSequence (instanceId : String) : Option Int :=
  ((state.admittedReports.filter fun report => report.instanceId = instanceId).map
    AdmittedReport.reportSequence).max?

def SuccessorIntent : Prop :=
  ∃ intent ∈ state.localSuccessorAcquisitionIntents, intent.runId = runId

instance (runId : String) : Decidable (state.SuccessorIntent runId) := by
  delta SuccessorIntent; infer_instance

def RunOrigin : Prop :=
  ∃ origin ∈ state.localDiagnosticArtifactOrigins, origin.runId = runId

instance (runId : String) : Decidable (state.RunOrigin runId) := by
  delta RunOrigin; infer_instance

/-- The roots for which the planner keeps a whole collection. -/
def RunRoot : Prop :=
  state.SuccessorIntent runId ∨ state.RunOrigin runId ∨
  (∃ status ∈ state.statusesOf runId, ∃ current ∈ state.statusCurrent,
    current.latestStatusEventId = status.statusEventId) ∨
  (∃ report ∈ state.reportsOf runId,
    some report.reportSequence = state.latestReportSequence report.instanceId) ∨
  (∃ report ∈ state.reportsOf runId, state.NewestCheckpoint (fun _ => true) runId report) ∨
  (∃ report ∈ state.reportsOf runId, ∃ evidence ∈ state.findingEvidence,
    evidence.reportId = report.reportId ∧ ∃ event ∈ state.findingEvents,
      event.eventId = evidence.eventId ∧ state.LiveFindingEvent event)

instance (runId : String) : Decidable (state.RunRoot runId) := by
  delta RunRoot; infer_instance

end ConstellationNq.Store.StoreState
