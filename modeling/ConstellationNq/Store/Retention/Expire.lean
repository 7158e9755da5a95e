import ConstellationNq.Store.Retention.Validate
import Mathlib.Data.List.Sort

/-!
# Expiry

One expiry: the checks before it, the plan, the mutations the plan selects, the
new boundary, and the validation of the result before the transaction commits.
-/

set_option autoImplicit false

namespace ConstellationNq.Store

open Library.Loop

/-! ## What the plan selects -/

namespace ExpiryPlan

variable (plan : ExpiryPlan)

def Dead (runId : String) : Prop := ∃ dead ∈ plan.deadRuns, dead.runId = runId

instance (runId : String) : Decidable (plan.Dead runId) := by
  delta Dead; infer_instance

/-- A dead run whose row goes too: no compact report names it. -/
def Unanchored (runId : String) : Prop :=
  ∃ dead ∈ plan.deadRuns, dead.runId = runId ∧ dead.anchor = false

instance (runId : String) : Decidable (plan.Unanchored runId) := by
  delta Unanchored; infer_instance

def Disposed (disposition : Disposition) (evaluationId : String) : Prop :=
  ∃ selected ∈ plan.evaluations, selected.evaluationId = evaluationId ∧ selected.disposition = disposition

instance (disposition : Disposition) (evaluationId : String) :
    Decidable (plan.Disposed disposition evaluationId) := by
  delta Disposed; infer_instance

def Affected (evaluationId : String) : Prop :=
  ∃ selected ∈ plan.evaluations, selected.evaluationId = evaluationId ∧ selected.disposition ≠ .island

instance (evaluationId : String) : Decidable (plan.Affected evaluationId) := by
  delta Affected; infer_instance

def affectedEvaluations : Nat :=
  plan.evaluations.countP fun selected => selected.disposition ≠ .island

end ExpiryPlan

namespace StoreState

variable (state : StoreState)

def DeadSubmission (plan : ExpiryPlan) (submissionId : String) : Prop :=
  ∃ submission ∈ state.rawSubmissions, submission.submissionId = submissionId ∧ plan.Dead submission.runId

instance (plan : ExpiryPlan) (submissionId : String) :
    Decidable (state.DeadSubmission plan submissionId) := by
  delta DeadSubmission; infer_instance

def DeadReport (plan : ExpiryPlan) (reportId : String) : Prop :=
  ∃ report ∈ state.admittedReports, report.reportId = reportId ∧
    state.DeadSubmission plan report.submissionId

instance (plan : ExpiryPlan) (reportId : String) : Decidable (state.DeadReport plan reportId) := by
  delta DeadReport; infer_instance

/-- The submission of a compact report, which stays as its anchor. -/
def AnchorSubmission (plan : ExpiryPlan) (submissionId : String) : Prop :=
  ∃ report ∈ state.admittedReports, report.submissionId = submissionId ∧
    report.reportId ∈ plan.compactReports

instance (plan : ExpiryPlan) (submissionId : String) :
    Decidable (state.AnchorSubmission plan submissionId) := by
  delta AnchorSubmission; infer_instance

/-! ## Rewritten rows -/

def compactEvaluation (plan : ExpiryPlan) (evaluation : EvaluationRun) : EvaluationRun :=
  if plan.Disposed .compact evaluation.evaluationId then
    { evaluation with sourceExpired := true, detailJson := Envelope.empty }
  else
    evaluation

def compactReport (plan : ExpiryPlan) (report : AdmittedReport) : AdmittedReport :=
  if report.reportId ∈ plan.compactReports then
    { report with
      sourceExpired := true
      canonicalJson := emptyJson
      validatedReportJson := emptyJson
      nextCheckpointJson := none }
  else
    report

def compactSubmission (plan : ExpiryPlan) (submission : RawSubmission) : RawSubmission :=
  if state.AnchorSubmission plan submission.submissionId then
    { submission with sourceExpired := true, rawBytes := [] }
  else
    submission

/-- `expiry_links`: the collection each dead run's intake belonged to. -/
def expiryLinks (plan : ExpiryPlan) : List ExpiryLink :=
  (state.localWatcherProviderIntakes.filter fun link => plan.Dead link.runId).map fun link =>
    let submission := state.rawSubmissions.find? fun submission => submission.runId = link.runId
    let report := submission.bind fun submission =>
      state.admittedReports.find? fun report => report.submissionId = submission.submissionId
    { intakeId := link.intakeId
      runId := link.runId
      submissionId := submission.map RawSubmission.submissionId
      reportId := report.map AdmittedReport.reportId
      semanticDigest := report.map AdmittedReport.semanticDigest }

def ExpiryLink.retired (link : ExpiryLink) : RetiredLinks where
  runId := some link.runId
  submissionId := link.submissionId
  reportId := link.reportId
  reportSemanticDigest := link.semanticDigest

/-- The link under which an intake retires. -/
def retiringLink (plan : ExpiryPlan) (intake : ProviderIntakeAttempt) : Option ExpiryLink :=
  if intake.historyExpired = false ∧ intake.intakeSequence ≤ plan.floors.intake then
    (state.expiryLinks plan).find? fun link => link.intakeId = intake.intakeId
  else
    none

variable (identityDigest : IdentityDigest)

def retireIntake (plan : ExpiryPlan) (intake : ProviderIntakeAttempt) :
    ProviderIntakeAttempt :=
  match state.retiringLink plan intake with
  | none => intake
  | some link =>
      { intake with
        historyExpired := true
        rawBytes := []
        contextJson := emptyJson
        interpretationJson := emptyJson
        nativeOutcomeJson := emptyJson
        retiredIdentityDigest := some (identityDigest (intake.retiredIdentity (ExpiryLink.retired link)))
        retired := ExpiryLink.retired link }

/-! ## Retired lineage revisions -/

def SameLineage (left right : LineageFloor) : Bool :=
  left.detectorId = right.detectorId ∧ left.detectorVersion = right.detectorVersion

/-- Raise the recorded revision of a lineage, or record it. -/
def raiseLineageFloor (floors : List LineageFloor) (retired : LineageFloor) : List LineageFloor :=
  if ∃ old ∈ floors, SameLineage old retired then
    floors.map fun old =>
      if SameLineage old retired then { old with revision := max old.revision retired.revision } else old
  else
    floors ++ [retired]

def lineageLe (left right : LineageFloor) : Bool :=
  (compareLex (compareOn LineageFloor.detectorId) (compareOn LineageFloor.detectorVersion) left right).isLE

/-- The highest revision at or below the floor of every lineage that has one. -/
def retiredLineages (evaluationFloor : Int) : List LineageFloor :=
  let below := state.evaluationRuns.filter fun evaluation =>
    evaluation.evaluationSequence ≤ evaluationFloor
  ((below.map fun evaluation => (evaluation.detectorId, evaluation.detectorVersion)).dedup).filterMap
    fun lineage =>
      ((below.filter fun evaluation =>
        (evaluation.detectorId, evaluation.detectorVersion) = lineage).map
          EvaluationRun.evaluationRevision).max?.map fun revision =>
            { detectorId := lineage.1, detectorVersion := lineage.2, revision := revision }

def nextLineageFloors (evaluationFloor : Int) : List LineageFloor :=
  ((state.retiredLineages evaluationFloor).foldl raiseLineageFloor
    state.retention.lineageFloors).insertionSort fun left right => lineageLe left right

def lineageFloor (detectorId detectorVersion : String) : Int :=
  ((state.retention.lineageFloors.find? fun lineage =>
    lineage.detectorId = detectorId ∧ lineage.detectorVersion = detectorVersion).map
      LineageFloor.revision).getD 0

/-! ## The mutations -/

/-- The state the mutations leave. Their subqueries read only identities that no
earlier mutation changes, so each reads the state the plan was made from. -/
def applyPlan (cutoff : Timestamp) (plan : ExpiryPlan) : StoreState :=
  { state with
    refusals := state.refusals.filter fun refusal =>
      ¬ ((∃ evaluationId ∈ refusal.evaluationId, plan.Affected evaluationId) ∨
        (∃ runId ∈ refusal.runId, plan.Dead runId) ∨
        ∃ submissionId ∈ refusal.submissionId, state.DeadSubmission plan submissionId)
    evaluationWatermarks := state.evaluationWatermarks.filter fun watermark =>
      ¬ plan.Affected watermark.evaluationId
    evaluationRuns := (state.evaluationRuns.filter fun evaluation =>
      ¬ plan.Disposed .delete evaluation.evaluationId).map (compactEvaluation plan)
    observationCoverage := state.observationCoverage.filter fun child =>
      ¬ state.DeadReport plan child.reportId
    observations := state.observations.filter fun child => ¬ state.DeadReport plan child.reportId
    reportCoverage := state.reportCoverage.filter fun child => ¬ state.DeadReport plan child.reportId
    reportErrors := state.reportErrors.filter fun child => ¬ state.DeadReport plan child.reportId
    admittedReports := (state.admittedReports.filter fun report =>
      ¬ (state.DeadSubmission plan report.submissionId ∧ report.reportId ∉ plan.compactReports)).map
        (compactReport plan)
    providerIntakeAcknowledgments := state.providerIntakeAcknowledgments.filter fun acknowledgment =>
      ¬ plan.Dead acknowledgment.runId
    localWatcherProviderIntakes := state.localWatcherProviderIntakes.filter fun link =>
      ¬ plan.Dead link.runId
    rawSubmissions := (state.rawSubmissions.filter fun submission =>
      ¬ (plan.Dead submission.runId ∧ ¬ state.AnchorSubmission plan submission.submissionId)).map
        (state.compactSubmission plan)
    statusEvents := state.statusEvents.filter fun status => ¬ ∃ runId ∈ status.runId, plan.Dead runId
    watcherRuns := state.watcherRuns.filter fun run => ¬ plan.Unanchored run.runId
    providerIntakeAttempts := state.providerIntakeAttempts.map (state.retireIntake identityDigest plan)
    retention := {
      generation := state.retention.generation + 1
      evaluationFloor := plan.floors.evaluation
      reportFloor := plan.floors.report
      intakeFloor := plan.floors.intake
      statusFloor := plan.floors.status
      cutoff := some cutoff
      lineageFloors := state.nextLineageFloors plan.floors.evaluation } }

def retiredNow (plan : ExpiryPlan) : List String :=
  (state.providerIntakeAttempts.filter fun intake => (state.retiringLink plan intake).isSome).map
    ProviderIntakeAttempt.intakeId

/-! ## One expiry -/

structure RetentionResult where
  boundary : RetentionBoundary
  candidatesRemaining : Bool
deriving DecidableEq

inductive ExpiryOutcome where
  | unchanged (boundary : RetentionBoundary)
  | committed (state : StoreState) (result : RetentionResult)

def ExpiryOutcome.stateAfter (before : StoreState) : ExpiryOutcome → StoreState
  | .unchanged _ => before
  | .committed after _ => after

/-- The plan neither moves a floor nor retires a run or an evaluation. -/
def PlanIdle (plan : ExpiryPlan) : Prop :=
  plan.floors = state.retention.floors ∧ plan.deadRuns = [] ∧ plan.affectedEvaluations = 0

instance (plan : ExpiryPlan) : Decidable (state.PlanIdle plan) := by
  delta PlanIdle; infer_instance

/-- The checks before the plan: the whole history, or the rows beyond the
frontier of a handle that certified the rest. -/
def validateBeforeExpiry : Option HistoryBounds → Except StoreError Unit
  | none => state.validateBoundary identityDigest
  | some bounds => state.validateBoundaryScoped bounds

/-- The checks on the result, made inside the transaction. -/
def validateAfterExpiry (certified : Bool) (cutoff : Timestamp) (plan : ExpiryPlan) : Except StoreError Unit :=
  if certified then
    (state.applyPlan identityDigest cutoff plan).validateBoundaryOf identityDigest plan
      (state.expiryLinks plan) (state.retiredNow plan)
  else
    (state.applyPlan identityDigest cutoff plan).validateBoundary identityDigest

/-- The mutations of a plan, the checks on their result, and the commit. -/
def expirePlanned (certified : Bool) (cutoff : Timestamp) (plan : ExpiryPlan) : Except StoreError ExpiryOutcome := do
  ensure (state.retention.generation + 1 < 2 ^ 63) (.invariant "retention generation exhausted")
  let next := state.applyPlan identityDigest cutoff plan
  state.validateAfterExpiry identityDigest certified cutoff plan
  ensure (ForeignKeys next) (.integrity "expiry closure has surviving foreign-key references")
  return .committed next
    { boundary := next.retention.toRetentionBoundary, candidatesRemaining := plan.candidatesRemaining }

/-- The transaction, once something may advance. -/
def expireAdvancing (bounds : Option HistoryBounds) (cutoff : Timestamp) (maxCandidateRuns : Option Nat) :
    Except StoreError ExpiryOutcome := do
  state.validateBeforeExpiry identityDigest bounds
  if state.PlanIdle (state.planExpiry cutoff maxCandidateRuns) then
    return .unchanged state.retention.toRetentionBoundary
  else
    state.expirePlanned identityDigest bounds.isSome cutoff (state.planExpiry cutoff maxCandidateRuns)

/-- `expire_ordinary_before_checked`. `bounds` is the certified frontier of a
handle that validates the candidate closures itself, if it has one. -/
def expireOrdinaryBefore (bounds : Option HistoryBounds) (cutoff : Timestamp) (maxCandidateRuns : Option Nat) :
    Except StoreError ExpiryOutcome := do
  ensure cutoff.instant.isSome (.invariant "invalid expiry cutoff")
  state.validateBoundaryHeader
  if state.PrefixMayAdvance cutoff then
    state.expireAdvancing identityDigest bounds cutoff maxCandidateRuns
  else
    return .unchanged state.retention.toRetentionBoundary

end StoreState

end ConstellationNq.Store
