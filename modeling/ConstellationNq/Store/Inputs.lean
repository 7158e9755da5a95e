import ConstellationNq.Store.Constraints

/-!
# What a caller commits

The inputs of the appending transactions, with the fields that a modelled check
reads or a modelled table keeps.
-/

set_option autoImplicit false

namespace ConstellationNq.Store

structure ProviderIntakeInput where
  intakeId : String
  idempotencyKey : String
  attemptId : String
  requestId : String
  replayDigest : String
  binding : String
  receivedAt : Timestamp
  rawBytes : List UInt8
  contextJson : String
  interpretationJson : String
  nativeOutcomeJson : String

/-- `response` tells whether the acquisition outcome is `"response"`. -/
structure RunInput where
  runId : String
  instanceId : String
  profile : ProfileBinding
  checkpointContractDigest : String
  finishedAt : Timestamp
  response : Bool

structure ObservationInput where
  ordinal : Nat
  coverage : List Nat

structure ReportInput where
  reportId : String
  instanceId : String
  profile : ProfileBinding
  semanticDigest : String
  receivedAt : Timestamp
  admittedAt : Timestamp
  canonicalJson : String
  validatedReportJson : String
  nextCheckpointJson : Option String
  observations : List ObservationInput
  coverage : List Nat
  errors : List Nat

structure RefusalInput where
  refusalId : String
  sourceKind : RefusalSource
  responsibleInstanceId : String
  profileSemanticId : Option String
  detailJson : String

inductive SubmissionDisposition where
  | rejected (refusal : RefusalInput)
  | admitted (report : ReportInput)

structure SubmissionInput where
  submissionId : String
  rawBytes : List UInt8
  receivedAt : Timestamp
  disposition : SubmissionDisposition

structure CollectionInput where
  intake : ProviderIntakeInput
  run : RunInput
  submission : Option SubmissionInput

structure StatusEventInput where
  statusEventId : String
  componentKind : ComponentKind
  componentId : String

structure EvaluationWatermarkInput where
  instanceId : String
  maxReportSequence : Int
  watermarkReceivedAt : Option String

structure EvaluationInput where
  evaluationId : String
  triggerRunId : Option String
  detectorId : String
  detectorVersion : String
  detectorDigest : String
  evaluatorArtifactDigest : String
  profile : ProfileBinding
  profileSemanticId : String
  evaluatedAt : Timestamp
  outcome : EvaluationOutcome
  detail : Envelope
  watermarks : List EvaluationWatermarkInput
  refusal : Option RefusalInput

structure FindingEvidenceInput where
  ordinal : Nat
  reportId : String
  reportSemanticDigest : String
  observationOrdinal : Option Nat
  observedAt : String
  receivedAt : String

structure FindingEventInput where
  eventId : String
  findingId : String
  eventKind : FindingEventKind
  instanceId : String
  profile : ProfileBinding
  subjectJson : String
  conditionName : String
  conditionState : ConditionState
  visibilityState : VisibilityState
  basisJson : String
  refusalJson : Option String
  evidence : List FindingEvidenceInput

structure EvaluationCommitInput where
  evaluation : EvaluationInput
  finding : Option FindingEventInput

structure DiagnosticArtifactCommitInput where
  artifactId : String
  runId : String
  evaluationId : Option String

structure AdmittedCollectionCompletion where
  evaluations : List EvaluationCommitInput
  diagnosticArtifact : Option DiagnosticArtifactCommitInput
  status : StatusEventInput

structure RunResultStatusInput where
  runId : String
  status : StatusEventInput

structure NotificationInput where
  notificationId : String
  idempotencyKey : String
  findingEventId : Option String
  maxAttempts : Int

structure SavedCheckClaimInput where
  definitionId : String
  evaluationId : String
  binding : Option String
  detailJson : String

/-! ## Inputs for concrete runs -/

namespace Sample

def time (instant : Int) : Timestamp where
  text := toString instant
  instant := some instant
  julianday := some instant

def profile : ProfileBinding where
  profileId := "profile"
  profileVersion := "1"
  profileDigest := "digest"

def envelope (instanceId : String) : Envelope where
  lineage := {
    instanceId := some instanceId
    detector := some "detector"
    profile := some "profile"
    subject := some "subject"
    scope := some "scope"
    vantage := some "vantage"
    condition := some "condition" }
  texts := []

/-- An evaluation of an instance up to one of its reports, or to none. -/
def evaluation (evaluationId : String) (triggerRunId : Option String) (instanceId : String)
    (evaluated reportSequence : Int) (received : Option Int) (outcome : EvaluationOutcome) : EvaluationInput where
  evaluationId := evaluationId
  triggerRunId := triggerRunId
  detectorId := "detector"
  detectorVersion := "1"
  detectorDigest := "digest"
  evaluatorArtifactDigest := "artifact"
  profile := profile
  profileSemanticId := "semantic"
  evaluatedAt := time evaluated
  outcome := outcome
  detail := envelope instanceId
  watermarks := [{
    instanceId := instanceId
    maxReportSequence := reportSequence
    watermarkReceivedAt := received.map fun instant => (time instant).text }]
  refusal := none

end Sample

end ConstellationNq.Store
