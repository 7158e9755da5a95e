import ConstellationNq.Library.FixedPoint
import ConstellationNq.Store.Retention.Roots

/-!
# The expiry plan

The selection an expiry makes before it changes a row: the aged runs, the floors
they allow, the evaluations below the floor with what becomes of each, and the
runs whose closure retires.
-/

set_option autoImplicit false

namespace ConstellationNq.Store

open Library.FixedPoint

/-- At or after the cutoff, or a time SQLite cannot read. -/
def Timestamp.young (time cutoff : Timestamp) : Bool :=
  time.ge cutoff || time.julianday.isNone

structure Floors where
  evaluation : Int
  report : Int
  intake : Int
  status : Int
deriving DecidableEq

def RetentionBoundary.floors (boundary : RetentionBoundary) : Floors where
  evaluation := boundary.evaluationFloor
  report := boundary.reportFloor
  intake := boundary.intakeFloor
  status := boundary.statusFloor

inductive Disposition where
  | island
  | compact
  | delete
deriving DecidableEq

structure ExpiryEvaluation where
  evaluationId : String
  triggerRunId : Option String
  disposition : Disposition
deriving DecidableEq

structure ExpiryDeadRun where
  runId : String
  anchor : Bool
deriving DecidableEq

structure ExpiryLink where
  intakeId : String
  runId : String
  submissionId : Option String
  reportId : Option String
  semanticDigest : Option String
deriving DecidableEq

structure ExpiryPlan where
  floors : Floors
  runs : List String
  protectedRuns : List String
  evaluations : List ExpiryEvaluation
  compactReports : List String
  deadRuns : List ExpiryDeadRun
  candidatesRemaining : Bool

namespace StoreState

variable (state : StoreState)

/-! ## Aged runs -/

variable (cutoff : Timestamp)

/-- Everything the run received is older than the cutoff. -/
def Aged (run : WatcherRun) : Prop :=
  run.finishedAt.lt cutoff ∧
  (∀ submission ∈ state.submissionsOf run.runId, ¬ submission.receivedAt.young cutoff) ∧
  (∀ report ∈ state.reportsOf run.runId,
    ¬ (report.receivedAt.young cutoff ∨ report.admittedAt.young cutoff)) ∧
  (∀ intake ∈ state.intakesOf run.runId, ¬ intake.receivedAt.young cutoff)

instance (cutoff : Timestamp) (run : WatcherRun) : Decidable (state.Aged cutoff run) := by
  delta Aged; infer_instance

/-- `expiry_runs` as first filled: anchor runs are never candidates again. -/
def agedRuns : List String :=
  (state.watcherRuns.filter fun run => state.Aged cutoff run ∧ state.FullRun run.runId).map WatcherRun.runId

/-- A run at or below the status floor: an expired run's status is deleted with it. -/
def Settled (statusFloor : Int) (runId : String) : Prop :=
  ∃ status ∈ state.statusesOf runId, status.statusSequence ≤ statusFloor

instance (statusFloor : Int) (runId : String) : Decidable (state.Settled statusFloor runId) := by
  delta Settled; infer_instance

/-- The aged runs beyond the floors that a batch leaves for later. -/
def trimmedRuns (statusFloor : Int) (limit : Nat) (runs : List String) : List String :=
  (runs.filter fun runId => ¬ state.Settled statusFloor runId).drop (min limit (2 ^ 63 - 1))

/-! ## Floors -/

/-- The sequence before the first blocking row, or the highest one if no row
blocks; never below the floor already reached. -/
def advanceFloor (before : Int) (blocking : List Int) (highest : Option Int) : Int :=
  max before (((blocking.min?.map fun first => first - 1).or highest).getD before)

def evaluationFloor (before : Int) (runs : List String) : Int :=
  advanceFloor before
    ((state.evaluationRuns.filter fun evaluation => before < evaluation.evaluationSequence ∧
      (evaluation.evaluatedAt.young cutoff ∨ ∃ runId ∈ evaluation.triggerRunId, runId ∉ runs)).map
        EvaluationRun.evaluationSequence)
    (state.evaluationRuns.map EvaluationRun.evaluationSequence).max?

def reportFloor (before : Int) (runs : List String) : Int :=
  advanceFloor before
    ((state.admittedReports.filter fun report => before < report.reportSequence ∧
      ∃ submission ∈ state.rawSubmissions, submission.submissionId = report.submissionId ∧
        submission.runId ∉ runs).map AdmittedReport.reportSequence)
    (state.admittedReports.map AdmittedReport.reportSequence).max?

def intakeFloor (before : Int) (runs : List String) : Int :=
  advanceFloor before
    ((state.providerIntakeAttempts.filter fun intake => before < intake.intakeSequence ∧
      intake.historyExpired = false ∧
      ((¬ ∃ link ∈ state.localWatcherProviderIntakes, link.intakeId = intake.intakeId) ∨
        ∃ link ∈ state.localWatcherProviderIntakes, link.intakeId = intake.intakeId ∧
          link.runId ∉ runs)).map ProviderIntakeAttempt.intakeSequence)
    (state.providerIntakeAttempts.map ProviderIntakeAttempt.intakeSequence).max?

def statusFloor (before : Int) (runs : List String) : Int :=
  advanceFloor before
    ((state.statusEvents.filter fun status => before < status.statusSequence ∧
      ∃ runId ∈ status.runId, runId ∉ runs).map StatusEvent.statusSequence)
    ((state.statusEvents.filter fun status => status.runId.isSome).map StatusEvent.statusSequence).max?

/-- The floors that the candidate runs allow. -/
def floorsFor (before : Floors) (runs : List String) : Floors where
  evaluation := state.evaluationFloor cutoff before.evaluation runs
  report := state.reportFloor before.report runs
  intake := state.intakeFloor before.intake runs
  status := state.statusFloor before.status runs

def Within (floors : Floors) (runId : String) : Prop :=
  (∀ evaluation ∈ state.evaluationsOf runId, evaluation.evaluationSequence ≤ floors.evaluation) ∧
  (∀ report ∈ state.reportsOf runId, report.reportSequence ≤ floors.report) ∧
  (∀ intake ∈ state.intakesOf runId, intake.intakeSequence ≤ floors.intake) ∧
  (∀ status ∈ state.statusesOf runId, status.statusSequence ≤ floors.status)

instance (floors : Floors) (runId : String) : Decidable (state.Within floors runId) := by
  delta Within; infer_instance

/-- The loop over floors and candidates: a candidate with a row beyond the floors
leaves the set, which can lower the floors again. -/
def candidateRuns (before : Floors) (runs : List String) : List String :=
  prune (fun candidates runId => state.Within (state.floorsFor cutoff before candidates) runId) runs

/-! ## Protected closure -/

structure Closure where
  protectedRuns : List String
  evaluations : List ExpiryEvaluation

def Closure.islands (closure : Closure) : List String :=
  (closure.evaluations.filter fun evaluation => evaluation.disposition = .island).map
    ExpiryEvaluation.evaluationId

variable (evaluationFloor : Int)

/-- A surviving full evaluation names a report of the run. -/
def CitedBySurvivor (islands : List String) (runId : String) : Prop :=
  ∃ report ∈ state.reportsOf runId, ∃ evaluation ∈ state.evaluationRuns,
    state.Cites evaluation report ∧
      (evaluationFloor < evaluation.evaluationSequence ∨ evaluation.evaluationId ∈ islands)

instance (evaluationFloor : Int) (islands : List String) (runId : String) :
    Decidable (state.CitedBySurvivor evaluationFloor islands runId) := by
  delta CitedBySurvivor; infer_instance

def Closure.protect (runs : List String) (select : String → Bool) (closure : Closure) : Closure where
  protectedRuns := runs.filter fun runId => runId ∈ closure.protectedRuns ∨ select runId
  evaluations := closure.evaluations

/-- The runs of island evaluations. -/
def Closure.protectTriggers (runs : List String) (closure : Closure) : Closure :=
  closure.protect runs fun runId => ∃ evaluation ∈ closure.evaluations,
    evaluation.disposition = .island ∧ evaluation.triggerRunId = some runId

/-- Every evaluation that a protected run triggered. -/
def Closure.keepTriggered (closure : Closure) : Closure where
  protectedRuns := closure.protectedRuns
  evaluations := closure.evaluations.map fun evaluation =>
    if ∃ runId ∈ evaluation.triggerRunId, runId ∈ closure.protectedRuns then
      { evaluation with disposition := .island }
    else
      evaluation

/-- The runs whose reports a surviving evaluation names. -/
def Closure.protectCited (runs : List String) (closure : Closure) : Closure :=
  closure.protect runs fun runId => state.CitedBySurvivor evaluationFloor closure.islands runId

def Closure.grow (runs : List String) (closure : Closure) : Closure :=
  Closure.protectCited state evaluationFloor runs (closure.protectTriggers runs).keepTriggered

/-- Both counts only grow, so their sum tells whether a turn changed either. -/
def Closure.size (closure : Closure) : Nat := closure.protectedRuns.length + closure.islands.length

/-- The full evaluations at or below the floor and the roots among them. -/
def rootEvaluations : List ExpiryEvaluation :=
  (state.evaluationRuns.filter fun evaluation =>
    evaluation.evaluationSequence ≤ evaluationFloor ∧ evaluation.sourceExpired = false).map fun evaluation =>
      { evaluationId := evaluation.evaluationId
        triggerRunId := evaluation.triggerRunId
        disposition := if state.EvaluationRoot evaluation then .island else .delete }

def rootClosure (runs : List String) : Closure where
  protectedRuns := runs.filter fun runId => state.RunRoot runId
  evaluations := state.rootEvaluations evaluationFloor

def protectedClosure (runs : List String) : Closure :=
  saturate (Closure.grow state evaluationFloor runs) Closure.size
    (runs.length + state.evaluationRuns.length) (state.rootClosure evaluationFloor runs)

/-! ## The plan -/

/-- A released decision that a finding or saved-check row still names stays as a
compact record. -/
def dispose (evaluation : ExpiryEvaluation) : ExpiryEvaluation :=
  if evaluation.disposition = .delete ∧
      (state.NamedByFinding evaluation.evaluationId ∨ state.NamedBySavedCheck evaluation.evaluationId) then
    { evaluation with disposition := .compact }
  else
    evaluation

def compactReportsOf (reportFloor : Int) (runs : List String) (protectedRuns : List String)
    (evaluations : List ExpiryEvaluation) : List String :=
  (state.admittedReports.filter fun report => report.sourceExpired = false ∧
    report.reportSequence ≤ reportFloor ∧ ∃ submission ∈ state.rawSubmissions,
      submission.submissionId = report.submissionId ∧ submission.runId ∈ runs ∧
      submission.runId ∉ protectedRuns ∧
      ((∃ evidence ∈ state.findingEvidence, evidence.reportId = report.reportId) ∨
        ∃ evaluation ∈ evaluations, evaluation.disposition = .compact ∧
          evaluation.triggerRunId = some submission.runId)).map AdmittedReport.reportId

def deadRunsOf (runs protectedRuns compactReports : List String) : List ExpiryDeadRun :=
  (runs.filter fun runId => runId ∉ protectedRuns).map fun runId =>
    { runId := runId
      anchor := ∃ report ∈ state.reportsOf runId, report.reportId ∈ compactReports }

/-- What is selected once the candidate runs and the floors are known. -/
def planFor (floors : Floors) (runs : List String) (candidatesRemaining : Bool) : ExpiryPlan :=
  let closure := state.protectedClosure floors.evaluation runs
  let evaluations := closure.evaluations.map state.dispose
  let compactReports := state.compactReportsOf floors.report runs closure.protectedRuns evaluations
  { floors := floors
    runs := runs
    protectedRuns := closure.protectedRuns
    evaluations := evaluations
    compactReports := compactReports
    deadRuns := state.deadRunsOf runs closure.protectedRuns compactReports
    candidatesRemaining := candidatesRemaining }

def planExpiry (maxCandidateRuns : Option Nat) : ExpiryPlan :=
  let before := state.retention.floors
  let aged := state.agedRuns cutoff
  let trimmed := match maxCandidateRuns with
    | none => []
    | some limit => state.trimmedRuns before.status limit aged
  let runs := state.candidateRuns cutoff before (aged.filter fun runId => runId ∉ trimmed)
  state.planFor (state.floorsFor cutoff before runs) runs (trimmed ≠ [])

/-! ## Whether an expiry can change anything -/

def firstAbove (floor : Int) (sequences : List Int) : Option Int :=
  (sequences.filter fun sequence => floor < sequence).min?

/-- The run owns the first report, intake or status beyond the floors. -/
def FirstRun (runId : String) : Prop :=
  (∃ report ∈ state.reportsOf runId, some report.reportSequence =
    firstAbove state.retention.reportFloor (state.admittedReports.map AdmittedReport.reportSequence)) ∨
  (∃ intake ∈ state.intakesOf runId, some intake.intakeSequence =
    firstAbove state.retention.intakeFloor
      (state.providerIntakeAttempts.map ProviderIntakeAttempt.intakeSequence)) ∨
  (∃ status ∈ state.statusesOf runId, some status.statusSequence =
    firstAbove state.retention.statusFloor
      ((state.statusEvents.filter fun status => status.runId.isSome).map StatusEvent.statusSequence))

instance (runId : String) : Decidable (state.FirstRun runId) := by
  delta FirstRun; infer_instance

/-- A full evaluation kept for a finding or saved-check root whose obligation has
ended, and which nothing else holds. -/
def ReleasedIsland (evaluation : EvaluationRun) : Prop :=
  evaluation.evaluationSequence ≤ state.retention.evaluationFloor ∧ evaluation.sourceExpired = false ∧
  (state.NamedByFinding evaluation.evaluationId ∨ state.NamedBySavedCheck evaluation.evaluationId) ∧
  (¬ ∃ event ∈ state.findingEvents, event.evaluationId = evaluation.evaluationId ∧
    state.LiveFindingEvent event) ∧
  ¬ state.PendingClaim evaluation.evaluationId ∧ ¬ state.DiagnosticOrigin evaluation.evaluationId ∧
  (∀ runId ∈ evaluation.triggerRunId, ¬ state.RunOrigin runId ∧ ¬ state.SuccessorIntent runId) ∧
  ¬ state.LineageNewest evaluation

instance (evaluation : EvaluationRun) : Decidable (state.ReleasedIsland evaluation) := by
  delta ReleasedIsland; infer_instance

def releasedIslands : Nat :=
  if state.retention.generation = 0 then 0
  else state.evaluationRuns.countP fun evaluation => state.ReleasedIsland evaluation

def PrefixMayAdvance : Prop :=
  (∃ evaluation ∈ state.evaluationRuns, evaluation.evaluatedAt.lt cutoff ∧
    some evaluation.evaluationSequence = firstAbove state.retention.evaluationFloor
      (state.evaluationRuns.map EvaluationRun.evaluationSequence)) ∨
  (∃ run ∈ state.watcherRuns, state.FirstRun run.runId ∧ state.Aged cutoff run) ∨
  0 < state.releasedIslands

instance (cutoff : Timestamp) : Decidable (state.PrefixMayAdvance cutoff) := by
  delta PrefixMayAdvance; infer_instance

end StoreState

end ConstellationNq.Store
