import ConstellationNq.Store.Inputs

/-!
# Appending transactions

The transactions that add rows: collections with their evaluations, evaluations
on their own, status events, notifications, saved checks and successor intents.
-/

set_option autoImplicit false

namespace ConstellationNq.Store

open Library.Loop

/-- `checked_add(1)` on a 64-bit integer. -/
def checkedSuccessor (value : Int) (message : String) : Except StoreError Int :=
  if value + 1 < 2 ^ 63 then .ok (value + 1) else .error (.invariant message)

/-- Ordinals are contiguous from zero. -/
def orderedUnique (ordinals : List Nat) : Bool := ordinals = List.range ordinals.length

namespace StoreState

variable (state : StoreState)

def nextRowid (rowids : List Int) : Int := rowids.max?.getD 0 + 1

/-! ## Collections -/

variable (collection : CollectionInput)

/-- The shape `validate_collection` requires of a submission. -/
def validateCollection : Except StoreError Unit :=
  match collection.submission with
  | none => .ok ()
  | some submission =>
      match submission.disposition with
      | .rejected refusal =>
          ensure (refusal.responsibleInstanceId = collection.run.instanceId)
            (.invariant "refusal lost the run's exact responsible instance")
      | .admitted report => do
          ensure (report.instanceId = collection.run.instanceId ∧ report.profile = collection.run.profile)
            (.invariant "admitted report identity does not match its bound run")
          ensure (report.receivedAt.text = submission.receivedAt.text)
            (.invariant "report and raw submission received times disagree")
          ensure (orderedUnique (report.observations.map ObservationInput.ordinal) ∧
              orderedUnique report.coverage ∧ orderedUnique report.errors ∧
              ∀ observation ∈ report.observations, orderedUnique observation.coverage)
            (.invariant "report ordinals must be contiguous from zero")

inductive ProviderIntakePreflight where
  | new
  | existing (intakeId : String)

/-- `provider_intake_preflight_on_connection`: an exact retry, a conflicting one,
or a new intake that lies after the retained boundary. -/
def providerIntakePreflight (intake : ProviderIntakeInput) : Except StoreError ProviderIntakePreflight :=
  match state.providerIntakeAttempts.find? fun row => row.idempotencyKey = intake.idempotencyKey ∨
      row.attemptId = intake.attemptId ∨ row.requestId = intake.requestId with
  | none =>
      if 0 < state.retention.generation then
        match intake.receivedAt.instant, state.retention.cutoff with
        | none, _ => .error (.invariant "invalid intake receipt time")
        | some _, none => .error (.integrity "retention generation has no cutoff")
        | some receipt, some cutoff =>
            match cutoff.instant with
            | none => .error (.integrity "invalid stored cutoff")
            | some cutoff =>
                if receipt < cutoff then .error (.historyIdentityUnavailable intake.intakeId) else .ok .new
      else
        .ok .new
  | some row => do
      ensure (row.idempotencyKey = intake.idempotencyKey ∧ row.replayDigest = intake.replayDigest)
        (.replayConflict "attempt, request, or idempotency identity is already bound")
      ensure (state.retention.generation = 0 ∨ row.historyExpired = false)
        (.historicalEvidenceExpired row.intakeId)
      ensure (∃ acknowledgment ∈ state.providerIntakeAcknowledgments,
          acknowledgment.intakeId = row.intakeId)
        (.integrity "provider intake exists without a durable acknowledgment")
      return .existing row.intakeId

def providerIntakeRow (intake : ProviderIntakeInput) (intakeSequence : Int) : ProviderIntakeAttempt where
  intakeSequence := intakeSequence
  intakeId := intake.intakeId
  idempotencyKey := intake.idempotencyKey
  attemptId := intake.attemptId
  requestId := intake.requestId
  replayDigest := intake.replayDigest
  binding := intake.binding
  receivedAt := intake.receivedAt
  rawBytes := intake.rawBytes
  contextJson := intake.contextJson
  interpretationJson := intake.interpretationJson
  nativeOutcomeJson := intake.nativeOutcomeJson
  historyExpired := false
  retiredIdentityDigest := none
  retired := RetiredLinks.none

def appendProviderIntake (intake : ProviderIntakeInput) : StoreState :=
  { state with
    providerIntakeAttempts := state.providerIntakeAttempts ++
      [providerIntakeRow intake (state.sqliteSequence.providerIntakeAttempts + 1)]
    sqliteSequence := { state.sqliteSequence with
      providerIntakeAttempts := state.sqliteSequence.providerIntakeAttempts + 1 } }

def runRow (run : RunInput) (rowid : Int) : WatcherRun where
  rowid := rowid
  runId := run.runId
  instanceId := run.instanceId
  profile := run.profile
  checkpointContractDigest := run.checkpointContractDigest
  finishedAt := run.finishedAt

def appendRun (run : RunInput) : StoreState :=
  { state with
    watcherRuns := state.watcherRuns ++
      [runRow run (nextRowid (state.watcherRuns.map WatcherRun.rowid))] }

def appendLink (intakeId runId : String) : StoreState :=
  { state with
    localWatcherProviderIntakes := state.localWatcherProviderIntakes ++ [{
      intakeId := intakeId
      runId := runId }] }

def SubmissionDisposition.outcome : SubmissionDisposition → AdmissionOutcome
  | .rejected _ => .rejected
  | .admitted _ => .admitted

def submissionRow (runId : String) (submission : SubmissionInput) : RawSubmission where
  submissionId := submission.submissionId
  runId := runId
  rawBytes := submission.rawBytes
  receivedAt := submission.receivedAt
  admissionOutcome := SubmissionDisposition.outcome submission.disposition
  sourceExpired := false

def appendSubmission (runId : String) (submission : SubmissionInput) : StoreState :=
  { state with rawSubmissions := state.rawSubmissions ++ [submissionRow runId submission] }

def reportChildren (reportId : String) (ordinals : List Nat) : List ReportChild :=
  ordinals.map fun ordinal => { reportId := reportId, ordinal := ordinal }

def reportRow (submissionId : String) (report : ReportInput) (reportSequence : Int) : AdmittedReport where
  reportSequence := reportSequence
  reportId := report.reportId
  submissionId := submissionId
  instanceId := report.instanceId
  semanticDigest := report.semanticDigest
  receivedAt := report.receivedAt
  admittedAt := report.admittedAt
  canonicalJson := report.canonicalJson
  validatedReportJson := report.validatedReportJson
  nextCheckpointJson := report.nextCheckpointJson
  sourceExpired := false

def appendReport (submissionId : String) (report : ReportInput) : StoreState :=
  { state with
    admittedReports := state.admittedReports ++
      [reportRow submissionId report (state.sqliteSequence.admittedReports + 1)]
    observations := state.observations ++
      reportChildren report.reportId (report.observations.map ObservationInput.ordinal)
    reportCoverage := state.reportCoverage ++ reportChildren report.reportId report.coverage
    observationCoverage := state.observationCoverage ++
      reportChildren report.reportId (report.observations.flatMap ObservationInput.coverage)
    reportErrors := state.reportErrors ++ reportChildren report.reportId report.errors
    sqliteSequence := { state.sqliteSequence with
      admittedReports := state.sqliteSequence.admittedReports + 1 } }

def refusalRow (refusal : RefusalInput) (runId submissionId evaluationId : Option String)
    (profile : ProfileBinding) : RefusalRow where
  refusalId := refusal.refusalId
  sourceKind := refusal.sourceKind
  responsibleInstanceId := refusal.responsibleInstanceId
  runId := runId
  submissionId := submissionId
  evaluationId := evaluationId
  profile := profile
  profileSemanticId := refusal.profileSemanticId
  detailJson := refusal.detailJson

def appendRefusal (refusal : RefusalRow) : StoreState :=
  { state with refusals := state.refusals ++ [refusal] }

def insertRefusal (refusal : RefusalInput) (runId submissionId evaluationId : Option String)
    (profile : ProfileBinding) : Except StoreError StoreState := do
  ensure (refusal.sourceKind = .profile → refusal.profileSemanticId.isSome)
    (.invariant "profile-origin refusal requires a profile semantic identity")
  ensure (refusal.sourceKind ≠ .profile → refusal.profileSemanticId.isNone)
    (.invariant "non-profile refusal cannot carry a profile semantic projection")
  return state.appendRefusal (refusalRow refusal runId submissionId evaluationId profile)

/-- The collection names an identity that a retired intake committed to. -/
def ReusesRetiredIdentity : Prop :=
  ∃ intake ∈ state.providerIntakeAttempts, intake.historyExpired ∧
    (intake.retired.runId = some collection.run.runId ∨
      ∃ submission ∈ collection.submission, intake.retired.submissionId = some submission.submissionId ∨
        match submission.disposition with
        | .admitted report => intake.retired.reportId = some report.reportId
        | .rejected _ => False)

instance (collection : CollectionInput) : Decidable (state.ReusesRetiredIdentity collection) := by
  unfold ReusesRetiredIdentity
  refine @List.decidableBEx _ _ (fun intake => ?_) _
  refine @instDecidableAnd _ _ _ ?_
  refine @instDecidableOr _ _ _ ?_
  refine @Option.decidableExistsMem _ _ (fun submission => ?_) _
  refine @instDecidableOr _ _ _ ?_
  split <;> infer_instance

def insertSubmission (run : RunInput) (submission : SubmissionInput) : Except StoreError StoreState :=
  let submitted := state.appendSubmission run.runId submission
  match submission.disposition with
  | .rejected refusal =>
      submitted.insertRefusal refusal (some run.runId) (some submission.submissionId) none run.profile
  | .admitted report => .ok (submitted.appendReport submission.submissionId report)

def insertOptionalSubmission (run : RunInput) (submission : Option SubmissionInput) :
    Except StoreError StoreState :=
  match submission with
  | none => .ok state
  | some submission => state.insertSubmission run submission

def insertCollection : Except StoreError StoreState := do
  ensure (state.retention.generation = 0 ∨ ¬ state.ReusesRetiredIdentity collection)
    (.replayConflict "collection reuses an expired immutable occurrence identity")
  let linked := ((state.appendProviderIntake collection.intake).appendRun collection.run).appendLink
    collection.intake.intakeId collection.run.runId
  linked.insertOptionalSubmission collection.run collection.submission

/-! ## Status events -/

def statusRow (status : StatusEventInput) (runId : Option String) (statusSequence : Int) : StatusEvent where
  statusSequence := statusSequence
  statusEventId := status.statusEventId
  componentKind := status.componentKind
  componentId := status.componentId
  runId := runId

/-- The pointer of the status event's component moves to it. -/
def pointStatus (pointers : List StatusCurrent) (status : StatusEvent) : List StatusCurrent :=
  (pointers.filter fun current =>
    ¬ (current.componentKind = status.componentKind ∧ current.componentId = status.componentId)) ++ [{
      componentKind := status.componentKind
      componentId := status.componentId
      latestStatusEventId := status.statusEventId }]

def appendStatusEvent (status : StatusEventInput) (runId : Option String) : StoreState :=
  let row := statusRow status runId (state.sqliteSequence.statusEvents + 1)
  { state with
    statusEvents := state.statusEvents ++ [row]
    sqliteSequence := { state.sqliteSequence with statusEvents := state.sqliteSequence.statusEvents + 1 }
    statusCurrent := pointStatus state.statusCurrent row }

def appendAcknowledgment (intakeId runId statusEventId : String) : StoreState :=
  { state with
    providerIntakeAcknowledgments := state.providerIntakeAcknowledgments ++ [{
      intakeId := intakeId
      runId := runId
      statusEventId := statusEventId }] }

def recordStatus (status : StatusEventInput) : Except StoreError StoreState :=
  (state.appendStatusEvent status none).commit

/-! ## Finding events -/

def currentEvent (findingId : String) : Option FindingEvent :=
  (state.findingCurrent.find? fun current => current.findingId = findingId).bind fun current =>
    state.findingEvents.find? fun event => event.eventId = current.latestEventId

def validateFindingAgainstEvaluation (finding : FindingEventInput) (evaluation : EvaluationInput) :
    Except StoreError Unit := do
  ensure (finding.profile = evaluation.profile)
    (.invariant "finding profile binding disagrees with its evaluation")
  ensure (finding.refusalJson = evaluation.refusal.map RefusalInput.detailJson)
    (.invariant "finding refusal must be the exact canonical evaluation refusal")
  ensure (¬ (finding.eventKind = .resolved ∧ (evaluation.outcome ≠ .conditionExplicitlyAbsent ∨
      finding.conditionState ≠ .explicitlyAbsent ∨ finding.visibilityState ≠ .sufficient)))
    (.invariant "only explicit absence under sufficient current coverage can resolve a finding")
  ensure (¬ (evaluation.outcome = .conditionPresent ∧ finding.conditionState ≠ .present))
    (.invariant "finding condition disagrees with detector outcome")
  ensure (¬ (evaluation.outcome = .conditionExplicitlyAbsent ∧
      finding.conditionState ≠ .explicitlyAbsent))
    (.invariant "finding condition disagrees with detector outcome")
  ensure (¬ (evaluation.outcome = .cannotEvaluate ∧ finding.eventKind = .resolved))
    (.invariant "a detector refusal cannot resolve a finding")
  ensure (¬ (evaluation.outcome = .cannotEvaluate ∧ finding.eventKind = .opened))
    (.invariant "a detector refusal cannot open a finding without a prior present condition")
  ensure (orderedUnique (finding.evidence.map FindingEvidenceInput.ordinal))
    (.invariant "finding evidence ordinals must be contiguous from zero")

def validateOptionalFinding (finding : Option FindingEventInput) (evaluation : EvaluationInput) :
    Except StoreError Unit :=
  match finding with
  | none => .ok ()
  | some finding => validateFindingAgainstEvaluation finding evaluation

/-- The immutable lineage of a finding, kept from its current event. -/
def SameFindingLineage (prior : FindingEvent) (finding : FindingEventInput) (evaluation : EvaluationInput) :
    Prop :=
  prior.instanceId = finding.instanceId ∧ prior.detectorId = evaluation.detectorId ∧
  prior.detectorVersion = evaluation.detectorVersion ∧ prior.detectorDigest = evaluation.detectorDigest ∧
  prior.profile = finding.profile ∧ prior.subjectJson = finding.subjectJson ∧
  prior.conditionName = finding.conditionName ∧ prior.basisJson = finding.basisJson ∧
  ∃ priorEvaluation ∈ state.evaluationRuns, priorEvaluation.evaluationId = prior.evaluationId ∧
    priorEvaluation.profileSemanticId = evaluation.profileSemanticId

instance (prior : FindingEvent) (finding : FindingEventInput) (evaluation : EvaluationInput) :
    Decidable (state.SameFindingLineage prior finding evaluation) := by
  delta SameFindingLineage; infer_instance

/-- The current event of the finding makes the same citation. -/
def Recites (findingId : String) (evidence : FindingEvidenceInput) : Prop :=
  ∃ current ∈ state.findingCurrent, current.findingId = findingId ∧
    ∃ prior ∈ state.findingEvidence, prior.eventId = current.latestEventId ∧
      prior.reportId = evidence.reportId ∧
      prior.reportSemanticDigest = evidence.reportSemanticDigest ∧
      prior.observationOrdinal = evidence.observationOrdinal ∧
      prior.observedAt = evidence.observedAt ∧ prior.receivedAt = evidence.receivedAt

instance (findingId : String) (evidence : FindingEvidenceInput) :
    Decidable (state.Recites findingId evidence) := by
  delta Recites; infer_instance

def validateEvidence (findingId : String) (watermarks : List EvaluationWatermarkInput)
    (evidence : FindingEvidenceInput) : Except StoreError Unit :=
  match state.admittedReports.find? fun report => report.reportId = evidence.reportId ∧
      report.semanticDigest = evidence.reportSemanticDigest with
  | none => .error (.invariant "finding evidence is not an admitted report")
  | some report =>
      match watermarks.find? fun watermark => watermark.instanceId = report.instanceId with
      | none => .error (.invariant "finding evidence is outside the evaluation watermark")
      | some watermark => do
          ensure (report.reportSequence ≤ watermark.maxReportSequence)
            (.invariant "finding evidence is newer than the evaluation watermark")
          if report.sourceExpired then
            ensure (state.Recites findingId evidence)
              (.invariant
                "finding evidence is a source-expired report that the finding's current event does not cite")
          else
            ensure (∀ ordinal ∈ evidence.observationOrdinal, ∃ observation ∈ state.observations,
                observation.reportId = evidence.reportId ∧ observation.ordinal = ordinal)
              (.invariant "finding evidence references missing observation")

variable (evaluation : EvaluationInput)

def findingEventRow (evaluationRevision : Int) (finding : FindingEventInput) (eventRevision : Int) : FindingEvent where
  eventId := finding.eventId
  findingId := finding.findingId
  eventRevision := eventRevision
  eventKind := finding.eventKind
  evaluationId := evaluation.evaluationId
  instanceId := finding.instanceId
  detectorId := evaluation.detectorId
  detectorVersion := evaluation.detectorVersion
  detectorDigest := evaluation.detectorDigest
  evaluatorArtifactDigest := evaluation.evaluatorArtifactDigest
  evaluationRevision := evaluationRevision
  profile := finding.profile
  subjectJson := finding.subjectJson
  conditionName := finding.conditionName
  conditionState := finding.conditionState
  visibilityState := finding.visibilityState
  basisJson := finding.basisJson
  refusalJson := finding.refusalJson
  evaluatedAt := evaluation.evaluatedAt

def evidenceRow (eventId : String) (evidence : FindingEvidenceInput) : FindingEvidence where
  eventId := eventId
  ordinal := evidence.ordinal
  reportId := evidence.reportId
  reportSemanticDigest := evidence.reportSemanticDigest
  observationOrdinal := evidence.observationOrdinal
  observedAt := evidence.observedAt
  receivedAt := evidence.receivedAt

/-- The pointer of the event's finding moves to it. -/
def pointFinding (pointers : List FindingCurrent) (event : FindingEvent) : List FindingCurrent :=
  (pointers.filter fun current => current.findingId ≠ event.findingId) ++ [{
    findingId := event.findingId
    latestEventId := event.eventId }]

def appendFindingEvent (event : FindingEvent) (evidence : List FindingEvidence) : StoreState :=
  { state with
    findingEvents := state.findingEvents ++ [event]
    findingEvidence := state.findingEvidence ++ evidence
    findingCurrent := pointFinding state.findingCurrent event }

/-- A detector refusal keeps the condition of the finding's current event. -/
def requireRetainedCondition (current : Option FindingEvent) (finding : FindingEventInput)
    (evaluation : EvaluationInput) : Except StoreError Unit :=
  if evaluation.outcome = .cannotEvaluate then do
    ensure current.isSome
      (.invariant "a detector refusal cannot create a finding without prior condition state")
    ensure (finding.visibilityState ≠ .sufficient)
      (.invariant "a detector refusal cannot claim sufficient evidence visibility")
    ensure (∀ prior ∈ current, finding.conditionState = prior.conditionState)
      (.invariant "a detector refusal must retain the prior finding condition state")
  else
    .ok ()

def allocateEventRevision : Option FindingEvent → Except StoreError Int
  | none => .ok 1
  | some prior => checkedSuccessor prior.eventRevision "finding revision space is exhausted"

def insertFindingEvent (evaluationRevision : Int) (finding : FindingEventInput) : Except StoreError StoreState := do
  let current := state.currentEvent finding.findingId
  ensure (current.isSome ∨ finding.eventKind = .opened)
    (.invariant "a new finding must begin with an opened event")
  ensure (current.isNone ∨ finding.eventKind ≠ .opened)
    (.invariant "an existing finding cannot be opened twice")
  ensure (∀ prior ∈ current, state.SameFindingLineage prior finding evaluation)
    (.invariant
      "finding update cannot substitute immutable detector, profile, subject, or condition lineage")
  requireRetainedCondition current finding evaluation
  let eventRevision ← allocateEventRevision current
  finding.evidence.forM (state.validateEvidence finding.findingId evaluation.watermarks)
  return state.appendFindingEvent (findingEventRow evaluation evaluationRevision finding eventRevision)
    (finding.evidence.map (evidenceRow finding.eventId))

/-! ## Evaluations -/

def validateWatermark (watermark : EvaluationWatermarkInput) : Except StoreError Unit := do
  ensure (0 ≤ watermark.maxReportSequence) (.invariant "evaluation watermark cannot be negative")
  if watermark.maxReportSequence = 0 then
    ensure watermark.watermarkReceivedAt.isNone
      (.invariant "empty watermark cannot carry a received time")
  else
    let report := state.admittedReports.find? fun report =>
      report.instanceId = watermark.instanceId ∧ report.reportSequence = watermark.maxReportSequence
    ensure (report.map (fun report => report.receivedAt.text) = watermark.watermarkReceivedAt)
      (.invariant "watermark does not identify an admitted report")

/-- The trigger is an admitted collection of the same profile, and the only
watermark is its report. -/
def TriggerAgrees (runId : String) : Prop :=
  ∃ run ∈ state.watcherRuns, run.runId = runId ∧ run.profile = evaluation.profile ∧
    ∃ submission ∈ state.rawSubmissions, submission.runId = runId ∧
      submission.admissionOutcome = .admitted ∧
      ∃ report ∈ state.admittedReports, report.submissionId = submission.submissionId ∧
        evaluation.watermarks.map (fun watermark => (watermark.instanceId, watermark.maxReportSequence)) =
          [(run.instanceId, report.reportSequence)]

instance (evaluation : EvaluationInput) (runId : String) :
    Decidable (state.TriggerAgrees evaluation runId) := by
  delta TriggerAgrees; infer_instance

def currentRevision (detectorId detectorVersion : String) : Int :=
  ((state.evaluationRuns.filter fun evaluation =>
    evaluation.detectorId = detectorId ∧ evaluation.detectorVersion = detectorVersion).map
      EvaluationRun.evaluationRevision).max?.getD 0

def currentSequence : Int :=
  (state.evaluationRuns.map EvaluationRun.evaluationSequence).max?.getD 0

def minCitedReportSequence (detail : Envelope) : Option Int :=
  (detail.texts.filterMap fun text =>
    (state.admittedReports.find? fun report => report.reportId = text).map
      AdmittedReport.reportSequence).min?

def evaluationRow (evaluationRevision evaluationSequence : Int) :
    EvaluationRun where
  rowid := nextRowid (state.evaluationRuns.map EvaluationRun.rowid)
  evaluationId := evaluation.evaluationId
  evaluationSequence := evaluationSequence
  detectorId := evaluation.detectorId
  detectorVersion := evaluation.detectorVersion
  detectorDigest := evaluation.detectorDigest
  evaluatorArtifactDigest := evaluation.evaluatorArtifactDigest
  triggerRunId := evaluation.triggerRunId
  profile := evaluation.profile
  profileSemanticId := evaluation.profileSemanticId
  evaluationRevision := evaluationRevision
  evaluatedAt := evaluation.evaluatedAt
  outcome := evaluation.outcome
  detailJson := evaluation.detail
  sourceExpired := false
  minCitedReportSequence := state.minCitedReportSequence evaluation.detail

def watermarkRow (evaluationId : String) (watermark : EvaluationWatermarkInput) : EvaluationWatermark where
  evaluationId := evaluationId
  instanceId := watermark.instanceId
  maxReportSequence := watermark.maxReportSequence
  watermarkReceivedAt := watermark.watermarkReceivedAt

def appendEvaluation (evaluation : EvaluationRun) (watermarks : List EvaluationWatermark) : StoreState :=
  { state with
    evaluationRuns := state.evaluationRuns ++ [evaluation]
    evaluationWatermarks := state.evaluationWatermarks ++ watermarks }

def insertEvaluationRefusal : Except StoreError StoreState :=
  match evaluation.refusal with
  | none => .ok state
  | some refusal => do
      ensure (refusal.sourceKind = .profile ∧
          (∃ watermark ∈ evaluation.watermarks, watermark.instanceId = refusal.responsibleInstanceId) ∧
          refusal.profileSemanticId = some evaluation.profileSemanticId)
        (.invariant "evaluation refusal disagrees with its required profile semantic binding")
      state.insertRefusal refusal none none (some evaluation.evaluationId) evaluation.profile

def insertOptionalFinding (evaluationRevision : Int) (finding : Option FindingEventInput) :
    Except StoreError StoreState :=
  match finding with
  | none => .ok state
  | some finding => state.insertFindingEvent evaluation evaluationRevision finding

def insertEvaluation (input : EvaluationCommitInput) : Except StoreError StoreState := do
  let evaluation := input.evaluation
  ensure ((evaluation.outcome = .cannotEvaluate) ↔ evaluation.refusal.isSome)
    (.invariant "cannot_evaluate requires exactly one typed refusal")
  validateOptionalFinding input.finding evaluation
  ensure (∀ runId ∈ evaluation.triggerRunId, state.TriggerAgrees evaluation runId)
    (.invariant "evaluation trigger run disagrees with its admitted collection")
  let evaluationRevision ← checkedSuccessor
    (state.currentRevision evaluation.detectorId evaluation.detectorVersion)
    "evaluation revision space is exhausted"
  let evaluationSequence ← checkedSuccessor state.currentSequence "evaluation sequence space is exhausted"
  ensure (evaluation.watermarks.map EvaluationWatermarkInput.instanceId).Nodup
    (.invariant "duplicate evaluation watermark")
  evaluation.watermarks.forM state.validateWatermark
  let appended := state.appendEvaluation
    (state.evaluationRow evaluation evaluationRevision evaluationSequence)
    (evaluation.watermarks.map (watermarkRow evaluation.evaluationId))
  let refused ← appended.insertEvaluationRefusal evaluation
  refused.insertOptionalFinding evaluation evaluationRevision input.finding

/-- `commit_evaluations_validated`; `commit_evaluation` is the case of one. -/
def commitEvaluations (inputs : List EvaluationCommitInput) : Except StoreError StoreState := do
  ensure (∀ input ∈ inputs, input.evaluation.triggerRunId = none)
    (.invariant "run-triggered evaluation requires atomic admitted completion")
  let appended ← inputs.foldlM insertEvaluation state
  appended.commit

/-! ## Collection commits -/

def appendOrigin (artifact : DiagnosticArtifactCommitInput) : StoreState :=
  { state with
    localDiagnosticArtifactOrigins := state.localDiagnosticArtifactOrigins ++ [{
      artifactId := artifact.artifactId
      runId := artifact.runId
      evaluationId := artifact.evaluationId }] }

def isAdmittedCollection : Bool :=
  collection.run.response && match collection.submission with
    | some { disposition := .admitted _, .. } => true
    | _ => false

def isNonSuccessCollection : Bool :=
  !collection.run.response || match collection.submission with
    | some { disposition := .rejected _, .. } => true
    | _ => false

def validateAdmittedCompletion (completion : AdmittedCollectionCompletion) :
    Except StoreError Unit := do
  ensure (completion.status.componentKind = .instanceComponent ∧
      completion.status.componentId = collection.run.instanceId)
    (.invariant "admitted result must be an instance status for the collection instance")
  ensure (∀ input ∈ completion.evaluations,
      input.evaluation.triggerRunId = some collection.run.runId)
    (.invariant "admitted evaluation does not link the collection run")
  ensure (completion.evaluations.map fun input => input.evaluation.evaluationId).Nodup
    (.invariant "admitted result duplicates evaluation")

/-- `insert_local_diagnostic_artifact`: the origin names this run and exactly one
of its evaluations. -/
def insertLocalDiagnosticArtifact (completion : AdmittedCollectionCompletion) :
    Except StoreError StoreState :=
  match completion.diagnosticArtifact with
  | none => .ok state
  | some artifact => do
      ensure (artifact.runId = collection.run.runId)
        (.invariant "local diagnostic artifact run differs from its admitted collection")
      ensure artifact.evaluationId.isSome
        (.invariant "admitted diagnostic artifact requires an exact evaluation origin")
      ensure ((completion.evaluations.countP fun input =>
          some input.evaluation.evaluationId = artifact.evaluationId) = 1)
        (.invariant "local diagnostic artifact requires exactly one evaluation in the same completion")
      return state.appendOrigin artifact

def appendResult (status : StatusEventInput) : StoreState :=
  (state.appendStatusEvent status (some collection.run.runId)).appendAcknowledgment
    collection.intake.intakeId collection.run.runId status.statusEventId

def completeAdmittedCollection (completion : AdmittedCollectionCompletion) :
    Except StoreError StoreState := do
  let inserted ← state.insertCollection collection
  validateAdmittedCompletion collection completion
  let evaluated ← completion.evaluations.foldlM insertEvaluation inserted
  let originated ← evaluated.insertLocalDiagnosticArtifact collection completion
  (originated.appendResult collection completion.status).commit

/-- An exact retry of a committed intake changes nothing. -/
def unlessReplayed (commit : Except StoreError StoreState) :
    ProviderIntakePreflight → Except StoreError StoreState
  | .existing _ => .ok state
  | .new => commit

def commitAdmittedCollection (completion : AdmittedCollectionCompletion) :
    Except StoreError StoreState := do
  validateCollection collection
  ensure (isAdmittedCollection collection)
    (.invariant "atomic admitted completion requires one admitted custody report")
  let preflight ← state.providerIntakePreflight collection.intake
  state.unlessReplayed (state.completeAdmittedCollection collection completion) preflight

def validateRunOnlyDiagnosticArtifact (artifact : Option DiagnosticArtifactCommitInput) : Except StoreError Unit :=
  match artifact with
  | none => .ok ()
  | some artifact => do
      ensure (artifact.runId = collection.run.runId)
        (.invariant "run-only diagnostic artifact differs from its non-success collection run")
      ensure artifact.evaluationId.isNone
        (.invariant "run-only diagnostic artifact cannot claim an evaluation origin")

def appendOptionalOrigin (artifact : Option DiagnosticArtifactCommitInput) : StoreState :=
  match artifact with
  | none => state
  | some artifact => state.appendOrigin artifact

def completeNonSuccessCollection (status : StatusEventInput) (artifact : Option DiagnosticArtifactCommitInput) :
    Except StoreError StoreState := do
  let inserted ← state.insertCollection collection
  ((inserted.appendOptionalOrigin artifact).appendResult collection status).commit

def commitNonSuccessCollection (result : RunResultStatusInput) (artifact : Option DiagnosticArtifactCommitInput) :
    Except StoreError StoreState := do
  validateCollection collection
  ensure (result.runId = collection.run.runId)
    (.invariant "canonical result run does not match collection run")
  ensure (result.status.componentKind = .instanceComponent ∧
      result.status.componentId = collection.run.instanceId)
    (.invariant "run-bearing result must be an instance status for the collection instance")
  ensure (isNonSuccessCollection collection)
    (.invariant "atomic non-success commit requires failed acquisition or rejected custody")
  validateRunOnlyDiagnosticArtifact collection artifact
  let preflight ← state.providerIntakePreflight collection.intake
  state.unlessReplayed (state.completeNonSuccessCollection collection result.status artifact) preflight

end StoreState

end ConstellationNq.Store
