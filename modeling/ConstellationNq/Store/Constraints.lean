import ConstellationNq.Library.Loop
import ConstellationNq.Store.Schema
import Mathlib.Tactic.MkIffOfInductiveProp

/-!
# The constraints of the schema

SQLite enforces the unique keys on every statement and the foreign keys by the
end of a transaction, so a transaction commits only if both hold in its result.
-/

set_option autoImplicit false

namespace ConstellationNq.Store

/-- The outcomes that end a saved-check claim. -/
def SavedCheckOutcome.terminal : SavedCheckOutcome → Bool
  | .refused | .passed | .failed => true
  | .installed | .claimed => false

/-! ## Primary keys and unique indexes -/

@[mk_iff]
structure CollectionTables.UniqueKeys (tables : CollectionTables) : Prop where
  runId : (tables.watcherRuns.map WatcherRun.runId).Nodup
  runRowid : (tables.watcherRuns.map WatcherRun.rowid).Nodup
  intakeId : (tables.providerIntakeAttempts.map ProviderIntakeAttempt.intakeId).Nodup
  intakeSequence : (tables.providerIntakeAttempts.map ProviderIntakeAttempt.intakeSequence).Nodup
  intakeIdempotencyKey : (tables.providerIntakeAttempts.map ProviderIntakeAttempt.idempotencyKey).Nodup
  intakeAttemptId : (tables.providerIntakeAttempts.map ProviderIntakeAttempt.attemptId).Nodup
  intakeRequestId : (tables.providerIntakeAttempts.map ProviderIntakeAttempt.requestId).Nodup
  linkIntakeId : (tables.localWatcherProviderIntakes.map LocalWatcherProviderIntake.intakeId).Nodup
  linkRunId : (tables.localWatcherProviderIntakes.map LocalWatcherProviderIntake.runId).Nodup
  submissionId : (tables.rawSubmissions.map RawSubmission.submissionId).Nodup
  submissionRunId : (tables.rawSubmissions.map RawSubmission.runId).Nodup
  reportId : (tables.admittedReports.map AdmittedReport.reportId).Nodup
  reportSequence : (tables.admittedReports.map AdmittedReport.reportSequence).Nodup
  reportSubmissionId : (tables.admittedReports.map AdmittedReport.submissionId).Nodup
  statusEventId : (tables.statusEvents.map StatusEvent.statusEventId).Nodup
  statusSequence : (tables.statusEvents.map StatusEvent.statusSequence).Nodup
  statusRunId : (tables.statusEvents.filterMap StatusEvent.runId).Nodup
  statusComponent : (tables.statusCurrent.map fun row => (row.componentKind, row.componentId)).Nodup
  statusTarget : (tables.statusCurrent.map StatusCurrent.latestStatusEventId).Nodup
  acknowledgmentIntakeId :
    (tables.providerIntakeAcknowledgments.map ProviderIntakeAcknowledgment.intakeId).Nodup
  acknowledgmentRunId : (tables.providerIntakeAcknowledgments.map ProviderIntakeAcknowledgment.runId).Nodup

instance (tables : CollectionTables) : Decidable tables.UniqueKeys :=
  decidable_of_iff' _ (CollectionTables.uniqueKeys_iff tables)

@[mk_iff]
structure EvaluationTables.UniqueKeys (tables : EvaluationTables) : Prop where
  evaluationId : (tables.evaluationRuns.map EvaluationRun.evaluationId).Nodup
  evaluationRowid : (tables.evaluationRuns.map EvaluationRun.rowid).Nodup
  evaluationSequence : (tables.evaluationRuns.map EvaluationRun.evaluationSequence).Nodup
  evaluationRevision :
    (tables.evaluationRuns.map fun row => (row.detectorId, row.detectorVersion, row.evaluationRevision)).Nodup
  watermark : (tables.evaluationWatermarks.map fun row => (row.evaluationId, row.instanceId)).Nodup
  refusalId : (tables.refusals.map RefusalRow.refusalId).Nodup

instance (tables : EvaluationTables) : Decidable tables.UniqueKeys :=
  decidable_of_iff' _ (EvaluationTables.uniqueKeys_iff tables)

@[mk_iff]
structure FindingTables.UniqueKeys (tables : FindingTables) : Prop where
  eventId : (tables.findingEvents.map FindingEvent.eventId).Nodup
  eventRevision : (tables.findingEvents.map fun row => (row.findingId, row.eventRevision)).Nodup
  evidence : (tables.findingEvidence.map fun row => (row.eventId, row.ordinal)).Nodup
  currentFindingId : (tables.findingCurrent.map FindingCurrent.findingId).Nodup
  currentEventId : (tables.findingCurrent.map FindingCurrent.latestEventId).Nodup

instance (tables : FindingTables) : Decidable tables.UniqueKeys :=
  decidable_of_iff' _ (FindingTables.uniqueKeys_iff tables)

@[mk_iff]
structure NotificationTables.UniqueKeys (tables : NotificationTables) : Prop where
  notificationId : (tables.notificationOutbox.map NotificationOutbox.notificationId).Nodup
  idempotencyKey : (tables.notificationOutbox.map NotificationOutbox.idempotencyKey).Nodup
  attempt : (tables.notificationAttempts.map fun row => (row.notificationId, row.attemptNumber)).Nodup
  intentNotificationId :
    (tables.notificationDeliveryIntents.map NotificationDeliveryIntent.notificationId).Nodup
  intentIdentity :
    (tables.notificationDeliveryIntents.map fun row => (row.stableEventId, row.destinationIdentity)).Nodup
  deliveryEvent :
    (tables.notificationDeliveryEvents.map fun row => (row.notificationId, row.eventNumber)).Nodup

instance (tables : NotificationTables) : Decidable tables.UniqueKeys :=
  decidable_of_iff' _ (NotificationTables.uniqueKeys_iff tables)

@[mk_iff]
structure SavedCheckTables.UniqueKeys (tables : SavedCheckTables) : Prop where
  definitionId : (tables.savedCheckDefinitions.map SavedCheckDefinition.definitionId).Nodup
  stableReference : (tables.savedCheckDefinitions.map SavedCheckDefinition.stableReference).Nodup
  savedCheckEvent : (tables.savedCheckEvents.map fun row => (row.definitionId, row.eventNumber)).Nodup
  claim :
    ((tables.savedCheckEvents.filter fun event => event.outcome = .claimed).filterMap
      SavedCheckEvent.evaluationId).Nodup
  terminal :
    ((tables.savedCheckEvents.filter fun event => event.outcome.terminal).filterMap
      SavedCheckEvent.evaluationId).Nodup

instance (tables : SavedCheckTables) : Decidable tables.UniqueKeys :=
  decidable_of_iff' _ (SavedCheckTables.uniqueKeys_iff tables)

@[mk_iff]
structure OriginTables.UniqueKeys (tables : OriginTables) : Prop where
  artifactId : (tables.localDiagnosticArtifactOrigins.map LocalDiagnosticArtifactOrigin.artifactId).Nodup
  originRunId : (tables.localDiagnosticArtifactOrigins.map LocalDiagnosticArtifactOrigin.runId).Nodup
  originEvaluationId :
    (tables.localDiagnosticArtifactOrigins.filterMap LocalDiagnosticArtifactOrigin.evaluationId).Nodup
  acquisitionId :
    (tables.localSuccessorAcquisitionIntents.map LocalSuccessorAcquisitionIntent.acquisitionId).Nodup
  acquisitionRunId : (tables.localSuccessorAcquisitionIntents.map LocalSuccessorAcquisitionIntent.runId).Nodup
  acquisitionIntakeId :
    (tables.localSuccessorAcquisitionIntents.map LocalSuccessorAcquisitionIntent.intakeId).Nodup

instance (tables : OriginTables) : Decidable tables.UniqueKeys :=
  decidable_of_iff' _ (OriginTables.uniqueKeys_iff tables)

@[mk_iff]
structure BindingTables.UniqueKeys (tables : BindingTables) : Prop where
  bindingEventId : (tables.instanceBindingEvents.map InstanceBindingEvent.bindingEventId).Nodup
  materializationEventId :
    (tables.bindingMaterializationEvents.map BindingMaterializationEvent.materializationEventId).Nodup
  materializationOperation :
    (tables.bindingMaterializationEvents.map fun row => (row.operationId, row.phase)).Nodup
  materializationBinding :
    (tables.bindingMaterializationEvents.map fun row => (row.bindingEventId, row.phase)).Nodup

instance (tables : BindingTables) : Decidable tables.UniqueKeys :=
  decidable_of_iff' _ (BindingTables.uniqueKeys_iff tables)

@[mk_iff]
structure UniqueKeys (state : StoreState) : Prop where
  collection : state.toCollectionTables.UniqueKeys
  evaluation : state.toEvaluationTables.UniqueKeys
  finding : state.toFindingTables.UniqueKeys
  notification : state.toNotificationTables.UniqueKeys
  savedCheck : state.toSavedCheckTables.UniqueKeys
  origin : state.toOriginTables.UniqueKeys
  binding : state.toBindingTables.UniqueKeys

instance (state : StoreState) : Decidable (UniqueKeys state) :=
  decidable_of_iff' _ (uniqueKeys_iff state)

/-! ## Foreign keys, by the tables that hold them -/

@[mk_iff]
structure CollectionForeignKeys (state : StoreState) : Prop where
  linkIntake : ∀ link ∈ state.localWatcherProviderIntakes,
    ∃ intake ∈ state.providerIntakeAttempts, intake.intakeId = link.intakeId
  linkRun : ∀ link ∈ state.localWatcherProviderIntakes, ∃ run ∈ state.watcherRuns, run.runId = link.runId
  submissionRun : ∀ submission ∈ state.rawSubmissions, ∃ run ∈ state.watcherRuns, run.runId = submission.runId
  reportSubmission : ∀ report ∈ state.admittedReports,
    ∃ submission ∈ state.rawSubmissions, submission.submissionId = report.submissionId
  observationReport : ∀ child ∈ state.observations,
    ∃ report ∈ state.admittedReports, report.reportId = child.reportId
  coverageReport : ∀ child ∈ state.reportCoverage,
    ∃ report ∈ state.admittedReports, report.reportId = child.reportId
  errorReport : ∀ child ∈ state.reportErrors,
    ∃ report ∈ state.admittedReports, report.reportId = child.reportId
  observationCoverageReport : ∀ child ∈ state.observationCoverage,
    ∃ observation ∈ state.observations, observation.reportId = child.reportId
  statusRun : ∀ status ∈ state.statusEvents, ∀ runId ∈ status.runId,
    ∃ run ∈ state.watcherRuns, run.runId = runId
  statusTarget : ∀ current ∈ state.statusCurrent,
    ∃ status ∈ state.statusEvents, status.statusEventId = current.latestStatusEventId
  acknowledgmentIntake : ∀ acknowledgment ∈ state.providerIntakeAcknowledgments,
    ∃ intake ∈ state.providerIntakeAttempts, intake.intakeId = acknowledgment.intakeId
  acknowledgmentRun : ∀ acknowledgment ∈ state.providerIntakeAcknowledgments,
    ∃ run ∈ state.watcherRuns, run.runId = acknowledgment.runId
  acknowledgmentStatus : ∀ acknowledgment ∈ state.providerIntakeAcknowledgments,
    ∃ status ∈ state.statusEvents, status.statusEventId = acknowledgment.statusEventId

instance (state : StoreState) : Decidable (CollectionForeignKeys state) :=
  decidable_of_iff' _ (collectionForeignKeys_iff state)

@[mk_iff]
structure EvaluationForeignKeys (state : StoreState) : Prop where
  evaluationTrigger : ∀ evaluation ∈ state.evaluationRuns, ∀ runId ∈ evaluation.triggerRunId,
    ∃ run ∈ state.watcherRuns, run.runId = runId
  watermarkEvaluation : ∀ watermark ∈ state.evaluationWatermarks,
    ∃ evaluation ∈ state.evaluationRuns, evaluation.evaluationId = watermark.evaluationId
  refusalRun : ∀ refusal ∈ state.refusals, ∀ runId ∈ refusal.runId,
    ∃ run ∈ state.watcherRuns, run.runId = runId
  refusalSubmission : ∀ refusal ∈ state.refusals, ∀ submissionId ∈ refusal.submissionId,
    ∃ submission ∈ state.rawSubmissions, submission.submissionId = submissionId
  refusalEvaluation : ∀ refusal ∈ state.refusals, ∀ evaluationId ∈ refusal.evaluationId,
    ∃ evaluation ∈ state.evaluationRuns, evaluation.evaluationId = evaluationId

instance (state : StoreState) : Decidable (EvaluationForeignKeys state) :=
  decidable_of_iff' _ (evaluationForeignKeys_iff state)

@[mk_iff]
structure FindingForeignKeys (state : StoreState) : Prop where
  eventEvaluation : ∀ event ∈ state.findingEvents,
    ∃ evaluation ∈ state.evaluationRuns, evaluation.evaluationId = event.evaluationId
  evidenceEvent : ∀ evidence ∈ state.findingEvidence,
    ∃ event ∈ state.findingEvents, event.eventId = evidence.eventId
  evidenceReport : ∀ evidence ∈ state.findingEvidence,
    ∃ report ∈ state.admittedReports, report.reportId = evidence.reportId ∧
      report.semanticDigest = evidence.reportSemanticDigest
  currentEvent : ∀ current ∈ state.findingCurrent,
    ∃ event ∈ state.findingEvents, event.eventId = current.latestEventId

instance (state : StoreState) : Decidable (FindingForeignKeys state) :=
  decidable_of_iff' _ (findingForeignKeys_iff state)

@[mk_iff]
structure NotificationForeignKeys (state : StoreState) : Prop where
  notificationEvent : ∀ outbox ∈ state.notificationOutbox, ∀ eventId ∈ outbox.findingEventId,
    ∃ event ∈ state.findingEvents, event.eventId = eventId
  attemptNotification : ∀ attempt ∈ state.notificationAttempts,
    ∃ outbox ∈ state.notificationOutbox, outbox.notificationId = attempt.notificationId
  intentNotification : ∀ intent ∈ state.notificationDeliveryIntents,
    ∃ outbox ∈ state.notificationOutbox, outbox.notificationId = intent.notificationId
  deliveryIntent : ∀ event ∈ state.notificationDeliveryEvents,
    ∃ intent ∈ state.notificationDeliveryIntents, intent.notificationId = event.notificationId

instance (state : StoreState) : Decidable (NotificationForeignKeys state) :=
  decidable_of_iff' _ (notificationForeignKeys_iff state)

@[mk_iff]
structure SavedCheckForeignKeys (state : StoreState) : Prop where
  savedCheckDefinition : ∀ event ∈ state.savedCheckEvents,
    ∃ definition ∈ state.savedCheckDefinitions, definition.definitionId = event.definitionId

instance (state : StoreState) : Decidable (SavedCheckForeignKeys state) :=
  decidable_of_iff' _ (savedCheckForeignKeys_iff state)

@[mk_iff]
structure OriginForeignKeys (state : StoreState) : Prop where
  originRun : ∀ origin ∈ state.localDiagnosticArtifactOrigins,
    ∃ run ∈ state.watcherRuns, run.runId = origin.runId
  originEvaluation : ∀ origin ∈ state.localDiagnosticArtifactOrigins, ∀ evaluationId ∈ origin.evaluationId,
    ∃ evaluation ∈ state.evaluationRuns, evaluation.evaluationId = evaluationId

instance (state : StoreState) : Decidable (OriginForeignKeys state) :=
  decidable_of_iff' _ (originForeignKeys_iff state)

@[mk_iff]
structure BindingForeignKeys (state : StoreState) : Prop where
  materializationBinding : ∀ event ∈ state.bindingMaterializationEvents,
    ∃ binding ∈ state.instanceBindingEvents, binding.bindingEventId = event.bindingEventId

instance (state : StoreState) : Decidable (BindingForeignKeys state) :=
  decidable_of_iff' _ (bindingForeignKeys_iff state)

@[mk_iff]
structure ForeignKeys (state : StoreState) : Prop where
  collection : CollectionForeignKeys state
  evaluation : EvaluationForeignKeys state
  finding : FindingForeignKeys state
  notification : NotificationForeignKeys state
  savedCheck : SavedCheckForeignKeys state
  origin : OriginForeignKeys state
  binding : BindingForeignKeys state

instance (state : StoreState) : Decidable (ForeignKeys state) :=
  decidable_of_iff' _ (foreignKeys_iff state)

/-! ## Committing -/

/-- The end of a transaction that appends rows. -/
def StoreState.commit (state : StoreState) : Except StoreError StoreState :=
  if ¬ UniqueKeys state then
    .error (.sqlite "UNIQUE constraint failed")
  else if ¬ ForeignKeys state then
    .error (.sqlite "FOREIGN KEY constraint failed")
  else
    .ok state

theorem StoreState.commit_eq_ok {state next : StoreState} (committed : state.commit = .ok next) :
    next = state ∧ UniqueKeys state ∧ ForeignKeys state := by
  unfold StoreState.commit at committed
  split at committed
  · cases committed
  · rename_i unique
    split at committed
    · cases committed
    · rename_i foreign
      exact ⟨(Except.ok.inj committed).symm, not_not.mp unique, not_not.mp foreign⟩

theorem uniqueKeys_empty : UniqueKeys StoreState.empty := by
  constructor <;> constructor <;> exact List.nodup_nil

theorem foreignKeys_empty : ForeignKeys StoreState.empty := by
  constructor <;> constructor <;> intro row member <;> cases member

end ConstellationNq.Store
