import ConstellationNq.Store.Retention.Plan

/-!
# Validation of the retention boundary

Every row at or below a floor is part of a collection that some root
relationship justifies, or a compact record that a retained row names. With a
plan, only the candidate closures of that plan are checked.
-/

set_option autoImplicit false

namespace ConstellationNq.Store

def refuseFirst {α : Type} (rows : List α) (violates : α → Bool) (message : α → String) :
    Except StoreError Unit :=
  match rows.find? violates with
  | some row => .error (.integrity (message row))
  | none => .ok ()

/-- The immutable columns that a retired intake commits to, with its links. -/
structure RetiredIdentity where
  intakeSequence : Int
  intakeId : String
  idempotencyKey : String
  attemptId : String
  requestId : String
  replayDigest : String
  binding : String
  receivedAt : String
  retired : RetiredLinks
deriving DecidableEq

variable (intake : ProviderIntakeAttempt)

def ProviderIntakeAttempt.retiredIdentity (links : RetiredLinks) :
    RetiredIdentity where
  intakeSequence := intake.intakeSequence
  intakeId := intake.intakeId
  idempotencyKey := intake.idempotencyKey
  attemptId := intake.attemptId
  requestId := intake.requestId
  replayDigest := intake.replayDigest
  binding := intake.binding
  receivedAt := intake.receivedAt.text
  retired := links

abbrev IdentityDigest := RetiredIdentity → String

def emptyJson : String := "{}"

namespace StoreState

variable (state : StoreState)

/-! ## Declared rows -/

variable (evaluation : EvaluationRun)

/-- `evaluation_root_sql`. -/
def EvaluationRootAt : Prop :=
  state.NamedByFinding evaluation.evaluationId ∨ state.NamedBySavedCheck evaluation.evaluationId ∨
  state.DiagnosticOrigin evaluation.evaluationId ∨
  ¬ ∃ newer ∈ state.evaluationRuns, state.NewerInLineage evaluation newer ∧
    newer.evaluationSequence ≤ state.retention.evaluationFloor

instance (evaluation : EvaluationRun) : Decidable (state.EvaluationRootAt evaluation) := by
  delta EvaluationRootAt; infer_instance

/-- The report relationships of `justified_run_sql`. -/
def JustifyingReport (runId : String) (report : AdmittedReport) : Prop :=
  report.sourceExpired = false ∧
  ((∃ evidence ∈ state.findingEvidence, evidence.reportId = report.reportId) ∨
    some report.reportSequence = ((state.admittedReports.filter fun other =>
      other.instanceId = report.instanceId ∧ other.reportSequence ≤ state.retention.reportFloor).map
        AdmittedReport.reportSequence).max? ∨
    (∃ evaluation ∈ state.evaluationRuns, evaluation.sourceExpired = false ∧
      state.Cites evaluation report) ∨
    state.NewestCheckpoint (fun newer => newer.reportSequence ≤ state.retention.reportFloor) runId report)

instance (runId : String) (report : AdmittedReport) : Decidable (state.JustifyingReport runId report) := by
  delta JustifyingReport; infer_instance

/-- The newest status of its component, among those of runs, at or below the floor. -/
def NewestBelowFloor (status : StatusEvent) : Prop :=
  some status.statusSequence = ((state.statusEvents.filter fun other =>
    other.componentKind = status.componentKind ∧ other.componentId = status.componentId ∧
      other.runId.isSome ∧ other.statusSequence ≤ state.retention.statusFloor).map
        StatusEvent.statusSequence).max?

instance (status : StatusEvent) : Decidable (state.NewestBelowFloor status) := by
  delta NewestBelowFloor; infer_instance

/-- `justified_run_sql`. -/
def JustifiedRun (runId : String) : Prop :=
  state.SuccessorIntent runId ∨ state.RunOrigin runId ∨
  (∃ evaluation ∈ state.evaluationsOf runId, evaluation.sourceExpired = false ∧
    state.EvaluationRootAt evaluation) ∨
  (∃ report ∈ state.reportsOf runId, state.JustifyingReport runId report) ∨
  (∃ status ∈ state.statusesOf runId, state.NewestBelowFloor status)

instance (runId : String) : Decidable (state.JustifiedRun runId) := by
  delta JustifiedRun; infer_instance

/-! ## Laws of the rows below the floors -/

def UndeclaredEvaluation : Prop :=
  evaluation.evaluationSequence ≤ state.retention.evaluationFloor ∧ evaluation.sourceExpired = false ∧
  ¬ (state.EvaluationRootAt evaluation ∨ ∃ runId ∈ evaluation.triggerRunId, state.JustifiedRun runId)

instance (evaluation : EvaluationRun) : Decidable (state.UndeclaredEvaluation evaluation) := by
  delta UndeclaredEvaluation; infer_instance

def UndeclaredReport (report : AdmittedReport) (runId : String) : Prop :=
  report.reportSequence ≤ state.retention.reportFloor ∧ report.sourceExpired = false ∧
  ¬ state.JustifiedRun runId

instance (report : AdmittedReport) (runId : String) : Decidable (state.UndeclaredReport report runId) := by
  delta UndeclaredReport; infer_instance

def UndeclaredIntake : Prop :=
  intake.intakeSequence ≤ state.retention.intakeFloor ∧ intake.historyExpired = false ∧
  ((¬ ∃ link ∈ state.localWatcherProviderIntakes, link.intakeId = intake.intakeId) ∨
    ∃ link ∈ state.localWatcherProviderIntakes, link.intakeId = intake.intakeId ∧
      ¬ state.JustifiedRun link.runId)

instance (intake : ProviderIntakeAttempt) : Decidable (state.UndeclaredIntake intake) := by
  delta UndeclaredIntake; infer_instance

def UndeclaredStatus (status : StatusEvent) : Prop :=
  status.statusSequence ≤ state.retention.statusFloor ∧
  ∃ runId ∈ status.runId, ¬ state.JustifiedRun runId

instance (status : StatusEvent) : Decidable (state.UndeclaredStatus status) := by
  delta UndeclaredStatus; infer_instance

/-- A compact decision record keeps its identity, is still named, and lost
everything else together with its run. -/
def DeclaredCompactEvaluation : Prop :=
  evaluation.evaluationSequence ≤ state.retention.evaluationFloor ∧
  evaluation.detailJson = Envelope.empty ∧
  (state.NamedByFinding evaluation.evaluationId ∨ state.NamedBySavedCheck evaluation.evaluationId) ∧
  (¬ ∃ watermark ∈ state.evaluationWatermarks, watermark.evaluationId = evaluation.evaluationId) ∧
  (¬ ∃ refusal ∈ state.refusals, refusal.evaluationId = some evaluation.evaluationId) ∧
  ∀ runId ∈ evaluation.triggerRunId, ∃ submission ∈ state.rawSubmissions,
    submission.runId = runId ∧ submission.sourceExpired

instance (evaluation : EvaluationRun) : Decidable (state.DeclaredCompactEvaluation evaluation) := by
  delta DeclaredCompactEvaluation; infer_instance

def DeclaredCompactReport (report : AdmittedReport) : Prop :=
  report.reportSequence ≤ state.retention.reportFloor ∧ report.canonicalJson = emptyJson ∧
  report.validatedReportJson = emptyJson ∧ report.nextCheckpointJson = none ∧
  ((∃ evidence ∈ state.findingEvidence, evidence.reportId = report.reportId) ∨
    ∃ submission ∈ state.rawSubmissions, submission.submissionId = report.submissionId ∧
      ∃ evaluation ∈ state.evaluationRuns, evaluation.triggerRunId = some submission.runId ∧
        evaluation.sourceExpired) ∧
  (¬ ∃ child ∈ state.observations, child.reportId = report.reportId) ∧
  (¬ ∃ child ∈ state.reportCoverage, child.reportId = report.reportId) ∧
  (¬ ∃ child ∈ state.reportErrors, child.reportId = report.reportId) ∧
  ∃ submission ∈ state.rawSubmissions, submission.submissionId = report.submissionId ∧
    submission.sourceExpired

instance (report : AdmittedReport) : Decidable (state.DeclaredCompactReport report) := by
  delta DeclaredCompactReport; infer_instance

def DeclaredAnchor (submission : RawSubmission) : Prop :=
  submission.rawBytes.length = 0 ∧ submission.admissionOutcome = .admitted ∧
  (∃ report ∈ state.admittedReports, report.submissionId = submission.submissionId ∧
    report.sourceExpired) ∧
  (¬ ∃ status ∈ state.statusEvents, status.runId = some submission.runId) ∧
  ¬ ∃ link ∈ state.localWatcherProviderIntakes, link.runId = submission.runId

instance (submission : RawSubmission) : Decidable (state.DeclaredAnchor submission) := by
  delta DeclaredAnchor; infer_instance

/-- A full evaluation of a run whose source expired. -/
def FullEvaluationOfAnchor (submission : RawSubmission) : Prop :=
  evaluation.triggerRunId = some submission.runId ∧ evaluation.sourceExpired = false ∧
    submission.sourceExpired

instance (evaluation : EvaluationRun) (submission : RawSubmission) :
    Decidable (FullEvaluationOfAnchor evaluation submission) := by
  delta FullEvaluationOfAnchor; infer_instance

/-- A live finding event lost its evaluation, or cites a compact report that was
not released with an earlier episode. -/
def UnderRetained (event : FindingEvent) : Prop :=
  state.LiveFindingEvent event ∧
  (state.CompactEvaluation event.evaluationId ∨
    ∃ evidence ∈ state.findingEvidence, evidence.eventId = event.eventId ∧
      ∃ report ∈ state.admittedReports, report.reportId = evidence.reportId ∧ report.sourceExpired ∧
        ¬ state.ReleasedRecitation event evidence)

instance (event : FindingEvent) : Decidable (state.UnderRetained event) := by
  delta UnderRetained; infer_instance

/-- The shape of retired and of full intakes. -/
def MalformedIntake : Prop :=
  (intake.historyExpired ∧
    (state.retention.intakeFloor < intake.intakeSequence ∨ intake.retiredIdentityDigest = none ∨
      intake.retired.runId = none ∨ intake.rawBytes.length ≠ 0 ∨ intake.contextJson ≠ emptyJson ∨
      intake.interpretationJson ≠ emptyJson ∨ intake.nativeOutcomeJson ≠ emptyJson)) ∨
  (intake.historyExpired = false ∧
    (intake.retiredIdentityDigest ≠ none ∨ intake.retired ≠ RetiredLinks.none))

instance (intake : ProviderIntakeAttempt) : Decidable (state.MalformedIntake intake) := by
  delta MalformedIntake; infer_instance

end StoreState

/-! ## The rows that one expiry's own validation reads -/

/-- The candidate closures of the plan, or every row without one. -/
structure Selection where
  evaluation : String → Bool
  run : String → Bool
  submission : String → Bool
  intake : String → Bool
  event : FindingEvent → Bool

def Selection.all : Selection where
  evaluation := fun _ => true
  run := fun _ => true
  submission := fun _ => true
  intake := fun _ => true
  event := fun _ => true

namespace StoreState

variable (state : StoreState)

def candidates (plan : ExpiryPlan) (links : List ExpiryLink) : Selection where
  evaluation := fun evaluationId => ∃ selected ∈ plan.evaluations, selected.evaluationId = evaluationId
  run := fun runId => runId ∈ plan.runs
  submission := fun submissionId => ∃ submission ∈ state.rawSubmissions,
    submission.submissionId = submissionId ∧ submission.runId ∈ plan.runs
  intake := fun intakeId => (∃ link ∈ links, link.intakeId = intakeId) ∨
    ∃ link ∈ state.localWatcherProviderIntakes, link.intakeId = intakeId ∧ link.runId ∈ plan.runs
  event := fun event => (∃ selected ∈ plan.evaluations, selected.evaluationId = event.evaluationId) ∨
    ∃ evidence ∈ state.findingEvidence, evidence.eventId = event.eventId ∧
      evidence.reportId ∈ plan.compactReports

/-! ## The validator -/

def validateBoundaryHeader : Except StoreError Unit :=
  if state.retention.generation = 0 ∧ state.retention.floors ≠ ⟨0, 0, 0, 0⟩ then
    .error (.integrity "invalid retention boundary or unfinished deletion transaction")
  else if (state.retention.generation = 0 ∧ state.retention.lineageFloors ≠ []) ∨
      ∃ lineage ∈ state.retention.lineageFloors, lineage.revision ≤ 0 then
    .error (.integrity "invalid retired lineage revisions")
  else
    .ok ()

def revived (table key : String) (floor : Int) : String :=
  s!"{table} revives an expired prefix: undeclared retained row {key} below floor {floor}"

def validateRetainedBelowFloors (selection : Selection) : Except StoreError Unit := do
  refuseFirst state.evaluationRuns
    (fun evaluation => selection.evaluation evaluation.evaluationId ∧ state.UndeclaredEvaluation evaluation)
    (fun evaluation => revived "evaluation_runs" evaluation.evaluationId state.retention.evaluationFloor)
  refuseFirst state.admittedReports
    (fun report => ∃ submission ∈ state.rawSubmissions, submission.submissionId = report.submissionId ∧
      selection.run submission.runId ∧ state.UndeclaredReport report submission.runId)
    (fun report => revived "admitted_reports" report.reportId state.retention.reportFloor)
  refuseFirst state.providerIntakeAttempts
    (fun intake => selection.intake intake.intakeId ∧ state.UndeclaredIntake intake)
    (fun intake => revived "provider_intake_attempts" intake.intakeId state.retention.intakeFloor)
  refuseFirst state.statusEvents
    (fun status => (∀ runId ∈ status.runId, selection.run runId) ∧ state.UndeclaredStatus status)
    (fun status => revived "status_events" status.statusEventId state.retention.statusFloor)
  refuseFirst state.evaluationRuns
    (fun evaluation => evaluation.sourceExpired ∧ selection.evaluation evaluation.evaluationId ∧
      ¬ state.DeclaredCompactEvaluation evaluation)
    (fun evaluation =>
      "source-expired evaluation " ++ evaluation.evaluationId ++ " is not a declared decision record")
  refuseFirst state.admittedReports
    (fun report => report.sourceExpired ∧ selection.submission report.submissionId ∧
      ¬ state.DeclaredCompactReport report)
    (fun report => "source-expired report " ++ report.reportId ++ " is not a declared evidence record")
  refuseFirst state.rawSubmissions
    (fun submission => submission.sourceExpired ∧ selection.run submission.runId ∧
      ¬ state.DeclaredAnchor submission)
    (fun submission => "source-expired submission " ++ submission.submissionId ++ " is not a declared anchor")
  refuseFirst state.evaluationRuns
    (fun evaluation => ∃ submission ∈ state.rawSubmissions, selection.run submission.runId ∧
      FullEvaluationOfAnchor evaluation submission)
    (fun evaluation =>
      "evaluation " ++ evaluation.evaluationId ++ " keeps full history for a source-expired run")
  refuseFirst state.findingEvents
    (fun event => selection.event event ∧ state.UnderRetained event)
    (fun event => "live protected closure compacted: finding event " ++ event.eventId)
  refuseFirst state.evaluationRuns
    (fun evaluation => evaluation.sourceExpired ∧ selection.evaluation evaluation.evaluationId ∧
      state.PendingClaim evaluation.evaluationId)
    (fun evaluation => "live protected closure compacted: saved-check claim " ++ evaluation.evaluationId)

/-- The sequences above a floor continue it without a gap. -/
def validateCoverage (table : String) (floor : Int) (sequences : List Int) : Except StoreError Unit :=
  let above := sequences.filter fun sequence => floor < sequence
  if 0 < above.length ∧
      (above.min? ≠ some (floor + 1) ∨ above.max? ≠ some (floor + (above.length : Int))) then
    .error (.integrity (table ++ " has an undeclared retained coverage gap"))
  else
    .ok ()

def validateRetiredCommitments (identityDigest : IdentityDigest) (checked : ProviderIntakeAttempt → Bool) :
    Except StoreError Unit :=
  refuseFirst state.providerIntakeAttempts
    (fun intake => intake.historyExpired ∧ checked intake ∧
      intake.retiredIdentityDigest ≠ some (identityDigest (intake.retiredIdentity intake.retired)))
    (fun intake => "expired provider identity commitment " ++ intake.intakeId ++ " changed")

/-- `validate_boundary`: every surviving row is re-proven. -/
def validateBoundary (identityDigest : IdentityDigest) : Except StoreError Unit := do
  state.validateBoundaryHeader
  state.validateRetainedBelowFloors .all
  validateCoverage "admitted_reports" state.retention.reportFloor
    (state.admittedReports.map AdmittedReport.reportSequence)
  validateCoverage "provider_intake_attempts" state.retention.intakeFloor
    (state.providerIntakeAttempts.map ProviderIntakeAttempt.intakeSequence)
  validateCoverage "status_events" state.retention.statusFloor
    (state.statusEvents.map StatusEvent.statusSequence)
  refuseFirst state.providerIntakeAttempts (fun intake => state.MalformedIntake intake)
    (fun _ => "invalid expired provider identity commitment")
  state.validateRetiredCommitments identityDigest fun _ => true

/-- The validation of an expiry that relies on a certification: only the
candidate closures it selected and the intakes it retired. -/
def validateBoundaryOf (identityDigest : IdentityDigest) (plan : ExpiryPlan) (links : List ExpiryLink)
    (retiredNow : List String) : Except StoreError Unit := do
  let selection := state.candidates plan links
  state.validateBoundaryHeader
  state.validateRetainedBelowFloors selection
  refuseFirst state.providerIntakeAttempts
    (fun intake => selection.intake intake.intakeId ∧ state.MalformedIntake intake)
    (fun _ => "invalid expired provider identity commitment")
  state.validateRetiredCommitments identityDigest fun intake => intake.intakeId ∈ retiredNow

/-! ## Validation since a certified frontier -/

/-- The highest covered rowid of each table that the boundary is checked on. -/
structure HistoryBounds where
  evaluationRuns : Option Int
  admittedReports : Option Int
  providerIntakeAttempts : Option Int
  statusEvents : Option Int
deriving DecidableEq

structure SequencedRow where
  rowid : Int
  sequence : Int
  full : Bool
deriving DecidableEq

/-- Rows beyond the bound, all of them without one. -/
def newRows (bound : Option Int) (rows : List SequencedRow) : List SequencedRow :=
  rows.filter fun row => ∀ covered ∈ bound, covered < row.rowid

/-- Rows appended since the frontier are full, lie above the floor and continue
the sequence. -/
def validateAppended (table : String) (floor : Int) (bound : Option Int) (rows : List SequencedRow) :
    Except StoreError Unit :=
  let appended := newRows bound rows
  let sequences := appended.map SequencedRow.sequence
  let previous := bound.bind fun covered =>
    (rows.find? fun row => row.rowid = covered).map SequencedRow.sequence
  let start := max (previous.getD 0) floor + 1
  if ∃ row ∈ appended, row.sequence ≤ floor ∨ row.full = false then
    .error (.integrity
      s!"{table} revives an expired prefix: a row appended since validation is at or below floor {floor} or not full")
  else if appended ≠ [] ∧
      (sequences.min? ≠ some start ∨ sequences.max? ≠ some (start + sequences.length - 1)) then
    .error (.integrity (table ++ " has an undeclared retained coverage gap"))
  else
    .ok ()

def unretired : Bool :=
  intake.historyExpired = false ∧ intake.retiredIdentityDigest = none ∧ intake.retired = RetiredLinks.none

def intakeRows : List SequencedRow :=
  state.providerIntakeAttempts.map fun intake =>
    { rowid := intake.intakeSequence, sequence := intake.intakeSequence, full := unretired intake }

def validateBoundarySince (bounds : HistoryBounds) : Except StoreError Unit := do
  validateAppended "evaluation_runs" state.retention.evaluationFloor bounds.evaluationRuns
    (state.evaluationRuns.map fun evaluation =>
      { rowid := evaluation.rowid
        sequence := evaluation.evaluationSequence
        full := !evaluation.sourceExpired })
  validateAppended "admitted_reports" state.retention.reportFloor bounds.admittedReports
    (state.admittedReports.map fun report =>
      { rowid := report.reportSequence, sequence := report.reportSequence, full := !report.sourceExpired })
  validateAppended "provider_intake_attempts" state.retention.intakeFloor bounds.providerIntakeAttempts
    state.intakeRows
  validateAppended "status_events" state.retention.statusFloor bounds.statusEvents
    (state.statusEvents.map fun status =>
      { rowid := status.statusSequence, sequence := status.statusSequence, full := true })

def validateBoundaryScoped (bounds : HistoryBounds) : Except StoreError Unit := do
  state.validateBoundaryHeader
  if 0 < state.retention.generation then
    state.validateBoundarySince bounds
  else if ∃ row ∈ newRows bounds.providerIntakeAttempts state.intakeRows, row.full = false then
    .error (.integrity "retired intake without expiry boundary")
  else
    .ok ()

end StoreState

end ConstellationNq.Store
