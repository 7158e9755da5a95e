import ConstellationNq.Store.Encoding
import Mathlib.Data.String.Basic

/-!
# The tables of a store

The rows that collection, evaluation, finding, custody and expiry read and
write, with the columns they use, in rowid order.
-/

set_option autoImplicit false

namespace ConstellationNq.Store

/-- A stored time: its text and what chrono and SQLite's `julianday` read in it. -/
structure Timestamp where
  text : String
  instant : Option Int
  julianday : Option Int
deriving DecidableEq

/-- `julianday(left) < julianday(right)`: a comparison with NULL selects nothing. -/
def Timestamp.lt (left right : Timestamp) : Bool :=
  match left.julianday, right.julianday with
  | some left, some right => left < right
  | _, _ => false

/-- `julianday(left) >= julianday(right)`. -/
def Timestamp.ge (left right : Timestamp) : Bool :=
  match left.julianday, right.julianday with
  | some left, some right => right ≤ left
  | _, _ => false

/-! ## Collections -/

structure ProfileBinding where
  profileId : String
  profileVersion : String
  profileDigest : String
deriving DecidableEq

structure WatcherRun where
  rowid : Int
  runId : String
  instanceId : String
  profile : ProfileBinding
  checkpointContractDigest : String
  finishedAt : Timestamp
deriving DecidableEq

/-- The identities a retired intake keeps of the collection it belonged to. -/
structure RetiredLinks where
  runId : Option String
  submissionId : Option String
  reportId : Option String
  reportSemanticDigest : Option String
deriving DecidableEq

def RetiredLinks.none : RetiredLinks where
  runId := Option.none
  submissionId := Option.none
  reportId := Option.none
  reportSemanticDigest := Option.none

/-- `binding` stands for the immutable columns that only the retired identity
commitment reads. -/
structure ProviderIntakeAttempt where
  intakeSequence : Int
  intakeId : String
  idempotencyKey : String
  attemptId : String
  requestId : String
  replayDigest : String
  binding : String
  receivedAt : Timestamp
  rawBytes : List UInt8
  contextJson : String
  interpretationJson : String
  nativeOutcomeJson : String
  historyExpired : Bool
  retiredIdentityDigest : Option String
  retired : RetiredLinks
deriving DecidableEq

structure LocalWatcherProviderIntake where
  intakeId : String
  runId : String
deriving DecidableEq

inductive AdmissionOutcome where
  | admitted
  | rejected
deriving DecidableEq

structure RawSubmission where
  submissionId : String
  runId : String
  rawBytes : List UInt8
  receivedAt : Timestamp
  admissionOutcome : AdmissionOutcome
  sourceExpired : Bool
deriving DecidableEq

structure AdmittedReport where
  reportSequence : Int
  reportId : String
  submissionId : String
  instanceId : String
  semanticDigest : String
  receivedAt : Timestamp
  admittedAt : Timestamp
  canonicalJson : String
  validatedReportJson : String
  nextCheckpointJson : Option String
  sourceExpired : Bool
deriving DecidableEq

/-- A row of `observations`, `report_coverage`, `observation_coverage` or
`report_errors`. -/
structure ReportChild where
  reportId : String
  ordinal : Nat
deriving DecidableEq

inductive ComponentKind where
  | daemon
  | database
  | profileCatalog
  | admission
  | scheduler
  | instanceComponent
  | evaluation
  | notification
deriving DecidableEq

structure StatusEvent where
  statusSequence : Int
  statusEventId : String
  componentKind : ComponentKind
  componentId : String
  runId : Option String
deriving DecidableEq

structure StatusCurrent where
  componentKind : ComponentKind
  componentId : String
  latestStatusEventId : String
deriving DecidableEq

structure ProviderIntakeAcknowledgment where
  intakeId : String
  runId : String
  statusEventId : String
deriving DecidableEq

structure SqliteSequence where
  providerIntakeAttempts : Int
  admittedReports : Int
  statusEvents : Int
deriving DecidableEq

structure CollectionTables where
  watcherRuns : List WatcherRun
  providerIntakeAttempts : List ProviderIntakeAttempt
  localWatcherProviderIntakes : List LocalWatcherProviderIntake
  rawSubmissions : List RawSubmission
  admittedReports : List AdmittedReport
  observations : List ReportChild
  reportCoverage : List ReportChild
  observationCoverage : List ReportChild
  reportErrors : List ReportChild
  statusEvents : List StatusEvent
  statusCurrent : List StatusCurrent
  providerIntakeAcknowledgments : List ProviderIntakeAcknowledgment
  sqliteSequence : SqliteSequence

/-! ## Evaluations -/

inductive EvaluationOutcome where
  | conditionPresent
  | conditionExplicitlyAbsent
  | cannotEvaluate
deriving DecidableEq

/-- The envelope fields of the evaluation-lineage identity, as `json_extract`
renders them. -/
structure Lineage where
  instanceId : Option String
  detector : Option String
  profile : Option String
  subject : Option String
  scope : Option String
  vantage : Option String
  condition : Option String
deriving DecidableEq

/-- An evaluation envelope as expiry reads it: its lineage and its text leaves. -/
structure Envelope where
  lineage : Lineage
  texts : List String
deriving DecidableEq

def Envelope.empty : Envelope where
  lineage := {
    instanceId := none
    detector := none
    profile := none
    subject := none
    scope := none
    vantage := none
    condition := none }
  texts := []

structure EvaluationRun where
  rowid : Int
  evaluationId : String
  evaluationSequence : Int
  detectorId : String
  detectorVersion : String
  detectorDigest : String
  evaluatorArtifactDigest : String
  triggerRunId : Option String
  profile : ProfileBinding
  profileSemanticId : String
  evaluationRevision : Int
  evaluatedAt : Timestamp
  outcome : EvaluationOutcome
  detailJson : Envelope
  sourceExpired : Bool
  minCitedReportSequence : Option Int
deriving DecidableEq

structure EvaluationWatermark where
  evaluationId : String
  instanceId : String
  maxReportSequence : Int
  watermarkReceivedAt : Option String
deriving DecidableEq

inductive RefusalSource where
  | acquisition
  | protocol
  | admission
  | profile
  | evaluation
deriving DecidableEq

structure RefusalRow where
  refusalId : String
  sourceKind : RefusalSource
  responsibleInstanceId : String
  runId : Option String
  submissionId : Option String
  evaluationId : Option String
  profile : ProfileBinding
  profileSemanticId : Option String
  detailJson : String
deriving DecidableEq

structure EvaluationTables where
  evaluationRuns : List EvaluationRun
  evaluationWatermarks : List EvaluationWatermark
  refusals : List RefusalRow

/-! ## Findings -/

inductive FindingEventKind where
  | opened
  | updated
  | resolved
  | reopened
  | operatorUpdated
deriving DecidableEq

inductive ConditionState where
  | present
  | explicitlyAbsent
  | cannotEvaluate
deriving DecidableEq

inductive VisibilityState where
  | sufficient
  | partially
  | stale
  | missing
  | refused
deriving DecidableEq

structure FindingEvent where
  eventId : String
  findingId : String
  eventRevision : Int
  eventKind : FindingEventKind
  evaluationId : String
  instanceId : String
  detectorId : String
  detectorVersion : String
  detectorDigest : String
  evaluatorArtifactDigest : String
  evaluationRevision : Int
  profile : ProfileBinding
  subjectJson : String
  conditionName : String
  conditionState : ConditionState
  visibilityState : VisibilityState
  basisJson : String
  refusalJson : Option String
  evaluatedAt : Timestamp
deriving DecidableEq

structure FindingEvidence where
  eventId : String
  ordinal : Nat
  reportId : String
  reportSemanticDigest : String
  observationOrdinal : Option Nat
  observedAt : String
  receivedAt : String
deriving DecidableEq

structure FindingCurrent where
  findingId : String
  latestEventId : String
deriving DecidableEq

structure FindingTables where
  findingEvents : List FindingEvent
  findingEvidence : List FindingEvidence
  findingCurrent : List FindingCurrent

/-! ## Notifications, saved checks and origins -/

structure NotificationOutbox where
  notificationId : String
  idempotencyKey : String
  findingEventId : Option String
  maxAttempts : Int
deriving DecidableEq

inductive AttemptOutcome where
  | delivered
  | failed
  | retryable
deriving DecidableEq

structure NotificationAttempt where
  notificationId : String
  attemptNumber : Int
  outcome : AttemptOutcome
deriving DecidableEq

structure NotificationDeliveryIntent where
  notificationId : String
  stableEventId : String
  destinationIdentity : String
  contentDigest : String
  intentJson : String
deriving DecidableEq

inductive DeliveryOutcome where
  | claimed
  | refused
  | failed
  | unknown
  | accepted
deriving DecidableEq

structure NotificationDeliveryEvent where
  notificationId : String
  eventNumber : Int
  outcome : DeliveryOutcome
deriving DecidableEq

structure NotificationTables where
  notificationOutbox : List NotificationOutbox
  notificationAttempts : List NotificationAttempt
  notificationDeliveryIntents : List NotificationDeliveryIntent
  notificationDeliveryEvents : List NotificationDeliveryEvent

inductive SavedCheckOutcome where
  | installed
  | claimed
  | refused
  | passed
  | failed
deriving DecidableEq

structure SavedCheckDefinition where
  definitionId : String
  stableReference : String
  definitionDigest : String
  definitionJson : String
deriving DecidableEq

/-- `binding` is the `binding` member of the event's detail, `detailJson` the
whole of it. -/
structure SavedCheckEvent where
  definitionId : String
  eventNumber : Int
  outcome : SavedCheckOutcome
  binding : Option String
  detailJson : String
  evaluationId : Option String
deriving DecidableEq

structure SavedCheckTables where
  savedCheckDefinitions : List SavedCheckDefinition
  savedCheckEvents : List SavedCheckEvent

structure LocalDiagnosticArtifactOrigin where
  artifactId : String
  runId : String
  evaluationId : Option String
deriving DecidableEq

structure LocalSuccessorAcquisitionIntent where
  acquisitionId : String
  runId : String
  intakeId : String
  intentJson : String
deriving DecidableEq

structure OriginTables where
  localDiagnosticArtifactOrigins : List LocalDiagnosticArtifactOrigin
  localSuccessorAcquisitionIntents : List LocalSuccessorAcquisitionIntent

/-! ## Binding transitions -/

structure InstanceBindingEvent where
  bindingEventId : String
  instanceId : String
deriving DecidableEq

inductive MaterializationPhase where
  | intent
  | completed
deriving DecidableEq

structure BindingMaterializationEvent where
  materializationEventId : String
  operationId : String
  instanceId : String
  bindingEventId : String
  phase : MaterializationPhase
deriving DecidableEq

structure BindingTables where
  instanceBindingEvents : List InstanceBindingEvent
  bindingMaterializationEvents : List BindingMaterializationEvent

/-! ## The retention boundary and the store -/

structure LineageFloor where
  detectorId : String
  detectorVersion : String
  revision : Int
deriving DecidableEq

structure RetentionBoundary where
  generation : Int
  evaluationFloor : Int
  reportFloor : Int
  intakeFloor : Int
  statusFloor : Int
deriving DecidableEq

structure RetentionState extends RetentionBoundary where
  cutoff : Option Timestamp
  lineageFloors : List LineageFloor
deriving DecidableEq

structure StoreState extends CollectionTables, EvaluationTables, FindingTables, NotificationTables, SavedCheckTables,
    OriginTables, BindingTables where
  retention : RetentionState

def StoreState.empty : StoreState where
  watcherRuns := []
  providerIntakeAttempts := []
  localWatcherProviderIntakes := []
  rawSubmissions := []
  admittedReports := []
  observations := []
  reportCoverage := []
  observationCoverage := []
  reportErrors := []
  statusEvents := []
  statusCurrent := []
  providerIntakeAcknowledgments := []
  sqliteSequence := { providerIntakeAttempts := 0, admittedReports := 0, statusEvents := 0 }
  evaluationRuns := []
  evaluationWatermarks := []
  refusals := []
  findingEvents := []
  findingEvidence := []
  findingCurrent := []
  notificationOutbox := []
  notificationAttempts := []
  notificationDeliveryIntents := []
  notificationDeliveryEvents := []
  savedCheckDefinitions := []
  savedCheckEvents := []
  localDiagnosticArtifactOrigins := []
  localSuccessorAcquisitionIntents := []
  instanceBindingEvents := []
  bindingMaterializationEvents := []
  retention := {
    generation := 0
    evaluationFloor := 0
    reportFloor := 0
    intakeFloor := 0
    statusFloor := 0
    cutoff := none
    lineageFloors := [] }

end ConstellationNq.Store
