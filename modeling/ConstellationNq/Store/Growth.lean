import ConstellationNq.Library.Sequence
import ConstellationNq.Store.Custody

/-!
# What an appending transaction adds

Every transaction but expiry adds rows at the end of the tables and leaves the
retention boundary alone. The rows it adds refer to one another: a new
evaluation is triggered by no run or by the run of the same transaction.
-/

set_option autoImplicit false

namespace ConstellationNq.Store

open Library.Loop Library.Sequence

namespace StoreState

variable {state after : StoreState}

/-! ## One finding event -/

theorem checkedSuccessor_eq_ok {value next : Int} {message : String}
    (allocated : checkedSuccessor value message = .ok next) : next = value + 1 := by
  unfold checkedSuccessor at allocated
  split at allocated
  · exact (Except.ok.inj allocated).symm
  · cases allocated

def nextEventRevision (state : StoreState) (findingId : String) : Int :=
  match state.currentEvent findingId with
  | none => 1
  | some prior => prior.eventRevision + 1

structure FindingAgrees (finding : FindingEventInput) (evaluation : EvaluationInput) : Prop where
  profile : finding.profile = evaluation.profile
  refusal : finding.refusalJson = evaluation.refusal.map RefusalInput.detailJson
  resolved : finding.eventKind = .resolved → evaluation.outcome = .conditionExplicitlyAbsent ∧
    finding.conditionState = .explicitlyAbsent ∧ finding.visibilityState = .sufficient
  present : evaluation.outcome = .conditionPresent → finding.conditionState = .present
  absent : evaluation.outcome = .conditionExplicitlyAbsent → finding.conditionState = .explicitlyAbsent

structure FindingAccepted (state : StoreState) (evaluation : EvaluationInput) (finding : FindingEventInput) :
    Prop where
  opening : finding.eventKind = .opened ↔ state.currentEvent finding.findingId = none
  lineage : ∀ prior ∈ state.currentEvent finding.findingId,
    state.SameFindingLineage prior finding evaluation
  retained : evaluation.outcome = .cannotEvaluate → finding.visibilityState ≠ .sufficient ∧
    ∃ prior ∈ state.currentEvent finding.findingId, finding.conditionState = prior.conditionState
  evidence : ∀ evidence ∈ finding.evidence,
    state.validateEvidence finding.findingId evaluation.watermarks evidence = .ok ()

variable {evaluation : EvaluationInput} {finding : FindingEventInput}

theorem validateFindingAgainstEvaluation_eq_ok (passed : validateFindingAgainstEvaluation finding evaluation = .ok ()) :
    FindingAgrees finding evaluation := by
  unfold validateFindingAgainstEvaluation at passed
  obtain ⟨_, profile, passed⟩ := bind_eq_ok.mp passed
  obtain ⟨_, refusal, passed⟩ := bind_eq_ok.mp passed
  obtain ⟨_, resolved, passed⟩ := bind_eq_ok.mp passed
  obtain ⟨_, present, passed⟩ := bind_eq_ok.mp passed
  obtain ⟨_, absent, _⟩ := bind_eq_ok.mp passed
  refine ⟨ensure_eq_ok.mp profile, ensure_eq_ok.mp refusal, fun kind => ?_, fun outcome => ?_, fun outcome => ?_⟩
  · have checked := ensure_eq_ok.mp resolved
    simp only [kind, true_and, not_or, not_not] at checked
    exact checked
  · exact not_not.mp fun different => ensure_eq_ok.mp present ⟨outcome, different⟩
  · exact not_not.mp fun different => ensure_eq_ok.mp absent ⟨outcome, different⟩

private theorem requireRetainedCondition_eq_ok {current : Option FindingEvent} {checked : Unit}
    (passed : requireRetainedCondition current finding evaluation = .ok checked)
    (refused : evaluation.outcome = .cannotEvaluate) :
    finding.visibilityState ≠ .sufficient ∧
      ∃ prior ∈ current, finding.conditionState = prior.conditionState := by
  unfold requireRetainedCondition at passed
  rw [if_pos refused] at passed
  obtain ⟨_, some_, passed⟩ := bind_eq_ok.mp passed
  obtain ⟨_, visible, same⟩ := bind_eq_ok.mp passed
  refine ⟨ensure_eq_ok.mp visible, ?_⟩
  obtain ⟨prior, rfl⟩ := Option.isSome_iff_exists.mp (ensure_eq_ok.mp some_)
  exact ⟨prior, rfl, ensure_eq_ok.mp same prior rfl⟩

private theorem allocateEventRevision_eq_ok {findingId : String} {eventRevision : Int}
    (allocated : allocateEventRevision (state.currentEvent findingId) = .ok eventRevision) :
    eventRevision = state.nextEventRevision findingId := by
  unfold nextEventRevision
  cases current : state.currentEvent findingId with
  | none =>
      rw [current] at allocated
      exact (Except.ok.inj allocated).symm
  | some prior =>
      rw [current] at allocated
      exact checkedSuccessor_eq_ok allocated

theorem insertFindingEvent_eq_ok {evaluationRevision : Int}
    (inserted : state.insertFindingEvent evaluation evaluationRevision finding = .ok after) :
    after = state.appendFindingEvent
        (findingEventRow evaluation evaluationRevision finding (state.nextEventRevision finding.findingId))
        (finding.evidence.map (evidenceRow finding.eventId)) ∧
      FindingAccepted state evaluation finding := by
  unfold insertFindingEvent at inserted
  obtain ⟨_, begins, inserted⟩ := bind_eq_ok.mp inserted
  obtain ⟨_, once, inserted⟩ := bind_eq_ok.mp inserted
  obtain ⟨_, lineage, inserted⟩ := bind_eq_ok.mp inserted
  obtain ⟨_, retained, inserted⟩ := bind_eq_ok.mp inserted
  obtain ⟨eventRevision, allocated, inserted⟩ := bind_eq_ok.mp inserted
  obtain ⟨_, evidence, final⟩ := bind_eq_ok.mp inserted
  have begins := ensure_eq_ok.mp begins
  have once := ensure_eq_ok.mp once
  refine ⟨?_, ⟨⟨fun opened => ?_, fun fresh => ?_⟩, ensure_eq_ok.mp lineage,
    requireRetainedCondition_eq_ok retained, forM_eq_ok_iff.mp evidence⟩⟩
  · rw [← allocateEventRevision_eq_ok allocated]
    exact (Except.ok.inj final).symm
  · exact Option.isNone_iff_eq_none.mp (once.resolve_right (not_not.mpr opened))
  · refine begins.resolve_left ?_
    simp [fresh]

/-! ## One evaluation -/

/-- The tables that evaluations and their findings do not touch. -/
structure SameCollections (before after : StoreState) : Prop where
  collection : after.toCollectionTables = before.toCollectionTables
  notification : after.toNotificationTables = before.toNotificationTables
  savedCheck : after.toSavedCheckTables = before.toSavedCheckTables
  origin : after.toOriginTables = before.toOriginTables
  binding : after.toBindingTables = before.toBindingTables
  retention : after.retention = before.retention

def newEvaluation (state : StoreState) (evaluation : EvaluationInput) : EvaluationRun :=
  state.evaluationRow evaluation
    (state.currentRevision evaluation.detectorId evaluation.detectorVersion + 1) (state.currentSequence + 1)

def newWatermarks (evaluation : EvaluationInput) : List EvaluationWatermark :=
  evaluation.watermarks.map (watermarkRow evaluation.evaluationId)

def newRefusals (evaluation : EvaluationInput) : List RefusalRow :=
  evaluation.refusal.toList.map fun refusal =>
    refusalRow refusal none none (some evaluation.evaluationId) evaluation.profile

def newEvents (state : StoreState) (input : EvaluationCommitInput) : List FindingEvent :=
  input.finding.toList.map fun finding =>
    findingEventRow input.evaluation (state.newEvaluation input.evaluation).evaluationRevision finding
      (state.nextEventRevision finding.findingId)

def newEvidence (input : EvaluationCommitInput) : List FindingEvidence :=
  input.finding.toList.flatMap fun finding => finding.evidence.map (evidenceRow finding.eventId)

/-- One inserted evaluation, with its finding event if it has one. -/
structure EvaluationStep (before : StoreState) (input : EvaluationCommitInput) (after : StoreState) : Prop where
  same : SameCollections before after
  evaluationRuns : after.evaluationRuns = before.evaluationRuns ++ [before.newEvaluation input.evaluation]
  evaluationWatermarks :
    after.evaluationWatermarks = before.evaluationWatermarks ++ newWatermarks input.evaluation
  refusals : after.refusals = before.refusals ++ newRefusals input.evaluation
  findingEvents : after.findingEvents = before.findingEvents ++ before.newEvents input
  findingEvidence : after.findingEvidence = before.findingEvidence ++ newEvidence input
  findingCurrent : after.findingCurrent = (before.newEvents input).foldl pointFinding before.findingCurrent
  refusing : input.evaluation.outcome = .cannotEvaluate ↔ input.evaluation.refusal.isSome
  refusal : ∀ refusal ∈ input.evaluation.refusal, refusal.sourceKind = .profile ∧
    (∃ watermark ∈ input.evaluation.watermarks, watermark.instanceId = refusal.responsibleInstanceId) ∧
    refusal.profileSemanticId = some input.evaluation.profileSemanticId
  trigger : ∀ runId ∈ input.evaluation.triggerRunId, before.TriggerAgrees input.evaluation runId
  agrees : ∀ finding ∈ input.finding, FindingAgrees finding input.evaluation
  accepted : ∀ finding ∈ input.finding, FindingAccepted
    (before.appendEvaluation (before.newEvaluation input.evaluation) (newWatermarks input.evaluation))
    input.evaluation finding

theorem insertRefusal_eq_ok {refusal : RefusalInput} {runId submissionId evaluationId : Option String}
    {profile : ProfileBinding}
    (inserted : state.insertRefusal refusal runId submissionId evaluationId profile = .ok after) :
    after = state.appendRefusal (refusalRow refusal runId submissionId evaluationId profile) := by
  unfold insertRefusal at inserted
  obtain ⟨_, _, inserted⟩ := bind_eq_ok.mp inserted
  obtain ⟨_, _, final⟩ := bind_eq_ok.mp inserted
  exact (Except.ok.inj final).symm

private theorem insertEvaluationRefusal_eq_ok (inserted : state.insertEvaluationRefusal evaluation = .ok after) :
    after = { state with refusals := state.refusals ++ newRefusals evaluation } ∧
      ∀ refusal ∈ evaluation.refusal, refusal.sourceKind = .profile ∧
        (∃ watermark ∈ evaluation.watermarks, watermark.instanceId = refusal.responsibleInstanceId) ∧
        refusal.profileSemanticId = some evaluation.profileSemanticId := by
  unfold insertEvaluationRefusal at inserted
  unfold newRefusals
  cases refused : evaluation.refusal with
  | none =>
      rw [refused] at inserted
      refine ⟨?_, by simp⟩
      simpa using (Except.ok.inj inserted).symm
  | some refusal =>
      rw [refused] at inserted
      obtain ⟨_, bound, final⟩ := bind_eq_ok.mp inserted
      refine ⟨insertRefusal_eq_ok final, fun other member => ?_⟩
      rw [Option.mem_some_iff.mp member] at bound
      exact ensure_eq_ok.mp bound

private theorem validateOptionalFinding_eq_ok {finding : Option FindingEventInput} {checked : Unit}
    (passed : validateOptionalFinding finding evaluation = .ok checked) :
    ∀ event ∈ finding, FindingAgrees event evaluation := by
  intro event member
  rw [Option.mem_def.mp member] at passed
  exact validateFindingAgainstEvaluation_eq_ok passed

theorem insertEvaluation_eq_ok {input : EvaluationCommitInput}
    (inserted : state.insertEvaluation input = .ok after) : EvaluationStep state input after := by
  unfold insertEvaluation at inserted
  obtain ⟨_, refusing, inserted⟩ := bind_eq_ok.mp inserted
  obtain ⟨_, agrees, inserted⟩ := bind_eq_ok.mp inserted
  obtain ⟨_, trigger, inserted⟩ := bind_eq_ok.mp inserted
  obtain ⟨revision, revised, inserted⟩ := bind_eq_ok.mp inserted
  obtain ⟨sequence, sequenced, inserted⟩ := bind_eq_ok.mp inserted
  obtain ⟨_, _, inserted⟩ := bind_eq_ok.mp inserted
  obtain ⟨_, _, inserted⟩ := bind_eq_ok.mp inserted
  obtain ⟨refused, refusal, found⟩ := bind_eq_ok.mp inserted
  obtain rfl := checkedSuccessor_eq_ok revised
  obtain rfl := checkedSuccessor_eq_ok sequenced
  obtain ⟨rfl, refusalBound⟩ := insertEvaluationRefusal_eq_ok refusal
  unfold insertOptionalFinding at found
  cases finding : input.finding with
  | none =>
      rw [finding] at found
      obtain rfl := Except.ok.inj found
      exact {
        same := ⟨rfl, rfl, rfl, rfl, rfl, rfl⟩
        evaluationRuns := rfl
        evaluationWatermarks := rfl
        refusals := rfl
        findingEvents := by simp [newEvents, finding, appendEvaluation]
        findingEvidence := by simp [newEvidence, finding, appendEvaluation]
        findingCurrent := by simp [newEvents, finding, appendEvaluation]
        refusing := ensure_eq_ok.mp refusing
        refusal := refusalBound
        trigger := ensure_eq_ok.mp trigger
        agrees := validateOptionalFinding_eq_ok agrees
        accepted := by simp [finding] }
  | some event =>
      rw [finding] at found
      obtain ⟨rfl, accepted⟩ := insertFindingEvent_eq_ok found
      exact {
        same := ⟨rfl, rfl, rfl, rfl, rfl, rfl⟩
        evaluationRuns := rfl
        evaluationWatermarks := rfl
        refusals := rfl
        findingEvents := by
          simp only [newEvents, finding, Option.toList_some, List.map_cons, List.map_nil]
          rfl
        findingEvidence := by
          simp only [newEvidence, finding, Option.toList_some, List.flatMap_cons, List.flatMap_nil,
            List.append_nil]
          rfl
        findingCurrent := by
          simp only [newEvents, finding, Option.toList_some, List.map_cons, List.map_nil]
          rfl
        refusing := ensure_eq_ok.mp refusing
        refusal := refusalBound
        trigger := ensure_eq_ok.mp trigger
        agrees := validateOptionalFinding_eq_ok agrees
        accepted := by
          intro other member
          rw [finding] at member
          cases member
          exact ⟨accepted.opening, accepted.lineage, accepted.retained, accepted.evidence⟩ }

/-- What the tables of evaluations and findings, the evaluations' refusals and the
compact reports have in common with those of an earlier state. -/
structure SameEvaluations (before after : StoreState) : Prop where
  evaluationRuns : after.evaluationRuns = before.evaluationRuns
  evaluationWatermarks : after.evaluationWatermarks = before.evaluationWatermarks
  refusals : ∀ evaluationId : String,
    after.refusals.filter (fun refusal => refusal.evaluationId = some evaluationId) =
      before.refusals.filter fun refusal => refusal.evaluationId = some evaluationId
  finding : after.toFindingTables = before.toFindingTables
  expiredReports : after.admittedReports.filter AdmittedReport.sourceExpired =
    before.admittedReports.filter AdmittedReport.sourceExpired
  retention : after.retention = before.retention

/-- Evaluations inserted one after the other, among changes of other tables. -/
inductive Evaluates : StoreState → List EvaluationCommitInput → StoreState → Prop where
  | nil {state : StoreState} : Evaluates state [] state
  | frame {before middle after : StoreState} {inputs : List EvaluationCommitInput}
      (same : SameEvaluations before middle) (rest : Evaluates middle inputs after) :
      Evaluates before inputs after
  | insert {before middle after : StoreState} {input : EvaluationCommitInput}
      {inputs : List EvaluationCommitInput} (step : EvaluationStep before input middle)
      (rest : Evaluates middle inputs after) : Evaluates before (input :: inputs) after

theorem SameEvaluations.evaluates {before after : StoreState} (same : SameEvaluations before after) :
    Evaluates before [] after :=
  .frame same .nil

theorem Evaluates.trans {before middle after : StoreState} {first second : List EvaluationCommitInput}
    (earlier : Evaluates before first middle) (later : Evaluates middle second after) :
    Evaluates before (first ++ second) after := by
  induction earlier with
  | nil => exact later
  | frame same _ ih => exact .frame same (ih later)
  | insert step _ ih => exact .insert step (ih later)

/-- What every inserted evaluation and every other change keeps. -/
theorem Evaluates.invariant {property : StoreState → Prop}
    (framed : ∀ before after, SameEvaluations before after → property before → property after)
    (inserted : ∀ before input after, EvaluationStep before input after → property before → property after)
    {before after : StoreState} {inputs : List EvaluationCommitInput}
    (evaluates : Evaluates before inputs after) (holds : property before) : property after := by
  induction evaluates with
  | nil => exact holds
  | frame same _ ih => exact ih (framed _ _ same holds)
  | insert step _ ih => exact ih (inserted _ _ _ step holds)

/-! ## The rows of a transaction -/

/-- The rows that a transaction adds to the tables of collections and evaluations
and to the tables that hold roots. -/
structure NewRows where
  runs : List WatcherRun := []
  intakes : List ProviderIntakeAttempt := []
  links : List LocalWatcherProviderIntake := []
  submissions : List RawSubmission := []
  reports : List AdmittedReport := []
  observations : List ReportChild := []
  reportCoverage : List ReportChild := []
  observationCoverage : List ReportChild := []
  reportErrors : List ReportChild := []
  statuses : List StatusEvent := []
  acknowledgments : List ProviderIntakeAcknowledgment := []
  inputs : List EvaluationCommitInput := []
  evaluations : List EvaluationRun := []
  watermarks : List EvaluationWatermark := []
  refusals : List RefusalRow := []
  events : List FindingEvent := []
  evidence : List FindingEvidence := []
  outbox : List NotificationOutbox := []
  attempts : List NotificationAttempt := []
  intents : List NotificationDeliveryIntent := []
  deliveries : List NotificationDeliveryEvent := []
  checkEvents : List SavedCheckEvent := []
  origins : List LocalDiagnosticArtifactOrigin := []
  successors : List LocalSuccessorAcquisitionIntent := []
  bindings : List InstanceBindingEvent := []
  materializations : List BindingMaterializationEvent := []

def NewRows.append (first second : NewRows) : NewRows where
  runs := first.runs ++ second.runs
  intakes := first.intakes ++ second.intakes
  links := first.links ++ second.links
  submissions := first.submissions ++ second.submissions
  reports := first.reports ++ second.reports
  observations := first.observations ++ second.observations
  reportCoverage := first.reportCoverage ++ second.reportCoverage
  observationCoverage := first.observationCoverage ++ second.observationCoverage
  reportErrors := first.reportErrors ++ second.reportErrors
  statuses := first.statuses ++ second.statuses
  acknowledgments := first.acknowledgments ++ second.acknowledgments
  inputs := first.inputs ++ second.inputs
  evaluations := first.evaluations ++ second.evaluations
  watermarks := first.watermarks ++ second.watermarks
  refusals := first.refusals ++ second.refusals
  events := first.events ++ second.events
  evidence := first.evidence ++ second.evidence
  outbox := first.outbox ++ second.outbox
  attempts := first.attempts ++ second.attempts
  intents := first.intents ++ second.intents
  deliveries := first.deliveries ++ second.deliveries
  checkEvents := first.checkEvents ++ second.checkEvents
  origins := first.origins ++ second.origins
  successors := first.successors ++ second.successors
  bindings := first.bindings ++ second.bindings
  materializations := first.materializations ++ second.materializations

/-- Every table grows by the new rows; the pointers move to the new events and the
boundary stays. -/
structure Growth (before : StoreState) (rows : NewRows) (after : StoreState) : Prop where
  watcherRuns : after.watcherRuns = before.watcherRuns ++ rows.runs
  providerIntakeAttempts : after.providerIntakeAttempts = before.providerIntakeAttempts ++ rows.intakes
  localWatcherProviderIntakes :
    after.localWatcherProviderIntakes = before.localWatcherProviderIntakes ++ rows.links
  rawSubmissions : after.rawSubmissions = before.rawSubmissions ++ rows.submissions
  admittedReports : after.admittedReports = before.admittedReports ++ rows.reports
  observations : after.observations = before.observations ++ rows.observations
  reportCoverage : after.reportCoverage = before.reportCoverage ++ rows.reportCoverage
  observationCoverage : after.observationCoverage = before.observationCoverage ++ rows.observationCoverage
  reportErrors : after.reportErrors = before.reportErrors ++ rows.reportErrors
  statusEvents : after.statusEvents = before.statusEvents ++ rows.statuses
  statusCurrent : after.statusCurrent = rows.statuses.foldl pointStatus before.statusCurrent
  providerIntakeAcknowledgments :
    after.providerIntakeAcknowledgments = before.providerIntakeAcknowledgments ++ rows.acknowledgments
  intakeSequences : rows.intakes.map ProviderIntakeAttempt.intakeSequence =
    consecutive before.sqliteSequence.providerIntakeAttempts rows.intakes.length
  intakeCounter : after.sqliteSequence.providerIntakeAttempts =
    before.sqliteSequence.providerIntakeAttempts + rows.intakes.length
  reportSequences : rows.reports.map AdmittedReport.reportSequence =
    consecutive before.sqliteSequence.admittedReports rows.reports.length
  reportCounter : after.sqliteSequence.admittedReports =
    before.sqliteSequence.admittedReports + rows.reports.length
  statusSequences : rows.statuses.map StatusEvent.statusSequence =
    consecutive before.sqliteSequence.statusEvents rows.statuses.length
  statusCounter : after.sqliteSequence.statusEvents =
    before.sqliteSequence.statusEvents + rows.statuses.length
  evaluates : Evaluates before rows.inputs after
  evaluationRuns : after.evaluationRuns = before.evaluationRuns ++ rows.evaluations
  evaluationWatermarks : after.evaluationWatermarks = before.evaluationWatermarks ++ rows.watermarks
  refusals : after.refusals = before.refusals ++ rows.refusals
  findingEvents : after.findingEvents = before.findingEvents ++ rows.events
  findingEvidence : after.findingEvidence = before.findingEvidence ++ rows.evidence
  notificationOutbox : after.notificationOutbox = before.notificationOutbox ++ rows.outbox
  notificationAttempts : after.notificationAttempts = before.notificationAttempts ++ rows.attempts
  notificationDeliveryIntents :
    after.notificationDeliveryIntents = before.notificationDeliveryIntents ++ rows.intents
  notificationDeliveryEvents :
    after.notificationDeliveryEvents = before.notificationDeliveryEvents ++ rows.deliveries
  savedCheckEvents : after.savedCheckEvents = before.savedCheckEvents ++ rows.checkEvents
  localDiagnosticArtifactOrigins :
    after.localDiagnosticArtifactOrigins = before.localDiagnosticArtifactOrigins ++ rows.origins
  localSuccessorAcquisitionIntents :
    after.localSuccessorAcquisitionIntents = before.localSuccessorAcquisitionIntents ++ rows.successors
  instanceBindingEvents : after.instanceBindingEvents = before.instanceBindingEvents ++ rows.bindings
  bindingMaterializationEvents :
    after.bindingMaterializationEvents = before.bindingMaterializationEvents ++ rows.materializations
  retention : after.retention = before.retention

theorem Growth.trans {before middle after : StoreState} {first second : NewRows}
    (earlier : Growth before first middle) (later : Growth middle second after) :
    Growth before (first.append second) after := by
  constructor
  case statusCurrent => simp [NewRows.append, later.statusCurrent, earlier.statusCurrent]
  case intakeSequences =>
    simp [NewRows.append, earlier.intakeSequences, later.intakeSequences, earlier.intakeCounter,
      consecutive_append]
  case intakeCounter =>
    simp [NewRows.append, later.intakeCounter, earlier.intakeCounter, add_assoc]
  case reportSequences =>
    simp [NewRows.append, earlier.reportSequences, later.reportSequences, earlier.reportCounter,
      consecutive_append]
  case reportCounter =>
    simp [NewRows.append, later.reportCounter, earlier.reportCounter, add_assoc]
  case statusSequences =>
    simp [NewRows.append, earlier.statusSequences, later.statusSequences, earlier.statusCounter,
      consecutive_append]
  case statusCounter =>
    simp [NewRows.append, later.statusCounter, earlier.statusCounter, add_assoc]
  case evaluates => exact earlier.evaluates.trans later.evaluates
  case watcherRuns => simp [NewRows.append, later.watcherRuns, earlier.watcherRuns]
  case providerIntakeAttempts =>
    simp [NewRows.append, later.providerIntakeAttempts, earlier.providerIntakeAttempts]
  case localWatcherProviderIntakes =>
    simp [NewRows.append, later.localWatcherProviderIntakes, earlier.localWatcherProviderIntakes]
  case rawSubmissions => simp [NewRows.append, later.rawSubmissions, earlier.rawSubmissions]
  case admittedReports => simp [NewRows.append, later.admittedReports, earlier.admittedReports]
  case observations => simp [NewRows.append, later.observations, earlier.observations]
  case reportCoverage => simp [NewRows.append, later.reportCoverage, earlier.reportCoverage]
  case observationCoverage => simp [NewRows.append, later.observationCoverage, earlier.observationCoverage]
  case reportErrors => simp [NewRows.append, later.reportErrors, earlier.reportErrors]
  case statusEvents => simp [NewRows.append, later.statusEvents, earlier.statusEvents]
  case providerIntakeAcknowledgments =>
    simp [NewRows.append, later.providerIntakeAcknowledgments, earlier.providerIntakeAcknowledgments]
  case evaluationRuns => simp [NewRows.append, later.evaluationRuns, earlier.evaluationRuns]
  case evaluationWatermarks =>
    simp [NewRows.append, later.evaluationWatermarks, earlier.evaluationWatermarks]
  case refusals => simp [NewRows.append, later.refusals, earlier.refusals]
  case findingEvents => simp [NewRows.append, later.findingEvents, earlier.findingEvents]
  case findingEvidence => simp [NewRows.append, later.findingEvidence, earlier.findingEvidence]
  case notificationOutbox => simp [NewRows.append, later.notificationOutbox, earlier.notificationOutbox]
  case notificationAttempts =>
    simp [NewRows.append, later.notificationAttempts, earlier.notificationAttempts]
  case notificationDeliveryIntents =>
    simp [NewRows.append, later.notificationDeliveryIntents, earlier.notificationDeliveryIntents]
  case notificationDeliveryEvents =>
    simp [NewRows.append, later.notificationDeliveryEvents, earlier.notificationDeliveryEvents]
  case savedCheckEvents => simp [NewRows.append, later.savedCheckEvents, earlier.savedCheckEvents]
  case localDiagnosticArtifactOrigins =>
    simp [NewRows.append, later.localDiagnosticArtifactOrigins, earlier.localDiagnosticArtifactOrigins]
  case localSuccessorAcquisitionIntents =>
    simp [NewRows.append, later.localSuccessorAcquisitionIntents, earlier.localSuccessorAcquisitionIntents]
  case instanceBindingEvents =>
    simp [NewRows.append, later.instanceBindingEvents, earlier.instanceBindingEvents]
  case bindingMaterializationEvents =>
    simp [NewRows.append, later.bindingMaterializationEvents, earlier.bindingMaterializationEvents]
  case retention => exact later.retention.trans earlier.retention

theorem Growth.refl (state : StoreState) : Growth state {} state := by
  constructor
  case evaluates => exact .nil
  all_goals simp [consecutive]

end StoreState

end ConstellationNq.Store
