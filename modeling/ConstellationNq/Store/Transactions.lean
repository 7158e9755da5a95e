import ConstellationNq.Store.Growth
import ConstellationNq.Store.Operation

/-!
# What a transaction adds

Every accepted transaction but expiry is a growth whose rows refer to one another:
a new run has its intake, its link and its status, and a new evaluation is
triggered by no run or by the new one. An expiry applies its plan.
-/

set_option autoImplicit false

namespace ConstellationNq.Store

open Library.Loop Library.Sequence

variable {identityDigest : IdentityDigest}

namespace StoreState

variable {state after : StoreState}

/-! ## Single appends -/

variable {before : StoreState}

theorem SameEvaluations.of_tables {after : StoreState}
    (evaluation : after.toEvaluationTables = before.toEvaluationTables)
    (finding : after.toFindingTables = before.toFindingTables)
    (reports : after.admittedReports = before.admittedReports) (retention : after.retention = before.retention) :
    SameEvaluations before after where
  evaluationRuns := by rw [evaluation]
  evaluationWatermarks := by rw [evaluation]
  refusals := by simp [evaluation]
  finding := finding
  expiredReports := by rw [reports]
  retention := retention

private theorem growth_providerIntake (intake : ProviderIntakeInput) :
    Growth state
      { intakes := [providerIntakeRow intake (state.sqliteSequence.providerIntakeAttempts + 1)] }
      (state.appendProviderIntake intake) := by
  constructor
  case evaluates => exact SameEvaluations.evaluates (.of_tables rfl rfl rfl rfl)
  all_goals simp [appendProviderIntake, providerIntakeRow, consecutive]

private theorem growth_run (run : RunInput) :
    Growth state { runs := [runRow run (nextRowid (state.watcherRuns.map WatcherRun.rowid))] }
      (state.appendRun run) := by
  constructor
  case evaluates => exact SameEvaluations.evaluates (.of_tables rfl rfl rfl rfl)
  all_goals simp [appendRun, consecutive]

private theorem growth_link (intakeId runId : String) :
    Growth state { links := [{ intakeId := intakeId, runId := runId }] }
      (state.appendLink intakeId runId) := by
  constructor
  case evaluates => exact SameEvaluations.evaluates (.of_tables rfl rfl rfl rfl)
  all_goals simp [appendLink, consecutive]

private theorem growth_submission (runId : String) (submission : SubmissionInput) :
    Growth state { submissions := [submissionRow runId submission] }
      (state.appendSubmission runId submission) := by
  constructor
  case evaluates => exact SameEvaluations.evaluates (.of_tables rfl rfl rfl rfl)
  all_goals simp [appendSubmission, consecutive]

private def reportRows (state : StoreState) (submissionId : String) (report : ReportInput) : NewRows where
  reports := [reportRow submissionId report (state.sqliteSequence.admittedReports + 1)]
  observations := reportChildren report.reportId (report.observations.map ObservationInput.ordinal)
  reportCoverage := reportChildren report.reportId report.coverage
  observationCoverage := reportChildren report.reportId (report.observations.flatMap ObservationInput.coverage)
  reportErrors := reportChildren report.reportId report.errors

private theorem growth_report (submissionId : String) (report : ReportInput) :
    Growth state (reportRows state submissionId report) (state.appendReport submissionId report) := by
  constructor
  case evaluates =>
    refine SameEvaluations.evaluates ⟨rfl, rfl, fun _ => rfl, rfl, ?_, rfl⟩
    simp [appendReport, reportRow]
  all_goals simp [appendReport, reportRows, reportRow, consecutive]

private theorem growth_refusal {refusal : RefusalRow} (foreign : refusal.evaluationId = none) :
    Growth state { refusals := [refusal] } (state.appendRefusal refusal) := by
  constructor
  case evaluates =>
    refine SameEvaluations.evaluates ⟨rfl, rfl, fun evaluationId => ?_, rfl, rfl, rfl⟩
    simp [appendRefusal, foreign]
  all_goals simp [appendRefusal, consecutive]

private theorem growth_status (status : StatusEventInput) (runId : Option String) :
    Growth state { statuses := [statusRow status runId (state.sqliteSequence.statusEvents + 1)] }
      (state.appendStatusEvent status runId) := by
  constructor
  case evaluates => exact SameEvaluations.evaluates (.of_tables rfl rfl rfl rfl)
  all_goals simp [appendStatusEvent, statusRow, consecutive]

private theorem growth_acknowledgment (intakeId runId statusEventId : String) :
    Growth state { acknowledgments := [{ intakeId := intakeId, runId := runId, statusEventId := statusEventId }] }
      (state.appendAcknowledgment intakeId runId statusEventId) := by
  constructor
  case evaluates => exact SameEvaluations.evaluates (.of_tables rfl rfl rfl rfl)
  all_goals simp [appendAcknowledgment, consecutive]

private theorem growth_origin (artifact : DiagnosticArtifactCommitInput) :
    Growth state { origins := [{
      artifactId := artifact.artifactId
      runId := artifact.runId
      evaluationId := artifact.evaluationId }] } (state.appendOrigin artifact) := by
  constructor
  case evaluates => exact SameEvaluations.evaluates (.of_tables rfl rfl rfl rfl)
  all_goals simp [appendOrigin, consecutive]

/-! ## The rows refer to one another -/

structure NewRows.Linked (rows : NewRows) : Prop where
  run : ∀ run ∈ rows.runs, (∃ link ∈ rows.links, link.runId = run.runId) ∧
    ∃ status ∈ rows.statuses, status.runId = some run.runId
  intake : ∀ intake ∈ rows.intakes, unretired intake ∧ ∃ link ∈ rows.links, link.intakeId = intake.intakeId
  link : ∀ link ∈ rows.links, (∃ run ∈ rows.runs, run.runId = link.runId) ∧
    ∃ intake ∈ rows.intakes, intake.intakeId = link.intakeId
  submission : ∀ submission ∈ rows.submissions, submission.sourceExpired = false ∧
    ∃ run ∈ rows.runs, run.runId = submission.runId
  report : ∀ report ∈ rows.reports, report.sourceExpired = false ∧
    ∃ submission ∈ rows.submissions, submission.submissionId = report.submissionId ∧
      submission.admissionOutcome = .admitted
  observation : ∀ child ∈ rows.observations, ∃ report ∈ rows.reports, report.reportId = child.reportId
  coverage : ∀ child ∈ rows.reportCoverage, ∃ report ∈ rows.reports, report.reportId = child.reportId
  error : ∀ child ∈ rows.reportErrors, ∃ report ∈ rows.reports, report.reportId = child.reportId
  status : ∀ status ∈ rows.statuses, ∀ runId ∈ status.runId, ∃ run ∈ rows.runs, run.runId = runId
  acknowledgment : ∀ acknowledgment ∈ rows.acknowledgments,
    (∃ link ∈ rows.links, link.intakeId = acknowledgment.intakeId ∧ link.runId = acknowledgment.runId) ∧
    ∃ status ∈ rows.statuses, status.statusEventId = acknowledgment.statusEventId ∧
      status.runId = some acknowledgment.runId
  evaluation : ∀ evaluation ∈ rows.evaluations, evaluation.sourceExpired = false ∧
    ∀ runId ∈ evaluation.triggerRunId, ∃ submission ∈ rows.submissions, submission.runId = runId ∧
      ∃ report ∈ rows.reports, report.submissionId = submission.submissionId
  watermark : ∀ watermark ∈ rows.watermarks, ∃ evaluation ∈ rows.evaluations,
    evaluation.evaluationId = watermark.evaluationId
  refusalRun : ∀ refusal ∈ rows.refusals, ∀ runId ∈ refusal.runId, ∃ run ∈ rows.runs, run.runId = runId
  refusalEvaluation : ∀ refusal ∈ rows.refusals, ∀ evaluationId ∈ refusal.evaluationId,
    ∃ evaluation ∈ rows.evaluations, evaluation.evaluationId = evaluationId
  event : ∀ event ∈ rows.events, ∃ evaluation ∈ rows.evaluations, evaluation.evaluationId = event.evaluationId
  evidence : ∀ evidence ∈ rows.evidence, ∃ event ∈ rows.events, event.eventId = evidence.eventId

/-- The rows of evaluations inserted one after the other. -/
structure NewRows.OfEvaluations (rows : NewRows) (inputs : List EvaluationCommitInput) : Prop where
  only : rows = {
    inputs := inputs
    evaluations := rows.evaluations
    watermarks := rows.watermarks
    refusals := rows.refusals
    events := rows.events
    evidence := rows.evidence }
  evaluation : ∀ evaluation ∈ rows.evaluations, evaluation.sourceExpired = false ∧
    ∃ input ∈ inputs, evaluation.triggerRunId = input.evaluation.triggerRunId
  watermark : ∀ watermark ∈ rows.watermarks, ∃ evaluation ∈ rows.evaluations,
    evaluation.evaluationId = watermark.evaluationId
  refusal : ∀ refusal ∈ rows.refusals, refusal.runId = none ∧ ∃ evaluation ∈ rows.evaluations,
    refusal.evaluationId = some evaluation.evaluationId
  event : ∀ event ∈ rows.events, ∃ evaluation ∈ rows.evaluations, evaluation.evaluationId = event.evaluationId
  evidence : ∀ evidence ∈ rows.evidence, ∃ event ∈ rows.events, event.eventId = evidence.eventId

private def stepRows (state : StoreState) (input : EvaluationCommitInput) : NewRows where
  inputs := [input]
  evaluations := [state.newEvaluation input.evaluation]
  watermarks := newWatermarks input.evaluation
  refusals := newRefusals input.evaluation
  events := state.newEvents input
  evidence := newEvidence input

private theorem EvaluationStep.growth {input : EvaluationCommitInput} (step : EvaluationStep before input after) :
    Growth before (stepRows before input) after := by
  have collection := step.same.collection
  constructor
  case evaluates => exact .insert step .nil
  case evaluationRuns => exact step.evaluationRuns
  case evaluationWatermarks => exact step.evaluationWatermarks
  case refusals => exact step.refusals
  case findingEvents => exact step.findingEvents
  case findingEvidence => exact step.findingEvidence
  case retention => exact step.same.retention
  all_goals simp [stepRows, collection, step.same.notification, step.same.savedCheck, step.same.origin,
    step.same.binding, consecutive]

private theorem stepRows_ofEvaluations (state : StoreState) (input : EvaluationCommitInput) :
    (stepRows state input).OfEvaluations [input] where
  only := rfl
  evaluation := by simp [stepRows, newEvaluation, evaluationRow]
  watermark := by simp [stepRows, newWatermarks, newEvaluation, evaluationRow, watermarkRow]
  refusal := by simp [stepRows, newRefusals, newEvaluation, evaluationRow, refusalRow]
  event := by simp [stepRows, newEvents, newEvaluation, evaluationRow, findingEventRow]
  evidence := by
    simp only [stepRows, newEvidence, newEvents, List.mem_flatMap, List.mem_map]
    rintro _ ⟨finding, member, evidence, cited, rfl⟩
    exact ⟨_, ⟨finding, member, rfl⟩, rfl⟩

private theorem refers_insert {α β : Type} {refers : α → β → Prop} {before between behind : List α}
    {beforeTargets betweenTargets behindTargets : List β}
    (outer : ∀ row ∈ before ++ behind, ∃ target ∈ beforeTargets ++ behindTargets, refers row target)
    (inner : ∀ row ∈ between, ∃ target ∈ betweenTargets, refers row target) :
    ∀ row ∈ before ++ between ++ behind, ∃ target ∈ beforeTargets ++ betweenTargets ++ behindTargets,
      refers row target := by
  simp only [List.mem_append] at outer ⊢
  rintro row ((member | member) | member)
  · obtain ⟨target, listed, named⟩ := outer row (.inl member)
    exact ⟨target, by tauto, named⟩
  · obtain ⟨target, listed, named⟩ := inner row member
    exact ⟨target, by tauto, named⟩
  · obtain ⟨target, listed, named⟩ := outer row (.inr member)
    exact ⟨target, by tauto, named⟩

private theorem refers_append {α β : Type} {refers : α → β → Prop} {first second : List α}
    {firstTargets secondTargets : List β} (earlier : ∀ row ∈ first, ∃ target ∈ firstTargets, refers row target)
    (later : ∀ row ∈ second, ∃ target ∈ secondTargets, refers row target) :
    ∀ row ∈ first ++ second, ∃ target ∈ firstTargets ++ secondTargets, refers row target := by
  have inserted := @refers_insert _ _ refers first second [] firstTargets secondTargets []
  simp only [List.append_nil] at inserted
  exact inserted earlier later

private theorem NewRows.OfEvaluations.append {first second : NewRows}
    {earlier later : List EvaluationCommitInput} (left : first.OfEvaluations earlier)
    (right : second.OfEvaluations later) : (first.append second).OfEvaluations (earlier ++ later) where
  only := by
    rw [left.only, right.only]
    rfl
  evaluation := by
    intro evaluation member
    refine ⟨(List.mem_append.mp member).elim (fun old => (left.evaluation evaluation old).1)
      fun new => (right.evaluation evaluation new).1, ?_⟩
    exact refers_append (fun row old => (left.evaluation row old).2) (fun row new => (right.evaluation row new).2)
      evaluation member
  watermark := refers_append left.watermark right.watermark
  refusal := by
    intro refusal member
    refine ⟨(List.mem_append.mp member).elim (fun old => (left.refusal refusal old).1)
      fun new => (right.refusal refusal new).1, ?_⟩
    exact refers_append (fun row old => (left.refusal row old).2) (fun row new => (right.refusal row new).2)
      refusal member
  event := refers_append left.event right.event
  evidence := refers_append left.evidence right.evidence

variable {inputs : List EvaluationCommitInput}

theorem foldlM_insertEvaluation_growth (inserted : inputs.foldlM insertEvaluation state = .ok after) :
    ∃ rows : NewRows, Growth state rows after ∧ rows.OfEvaluations inputs := by
  induction inputs generalizing state with
  | nil =>
      obtain rfl := Except.ok.inj inserted
      refine ⟨{}, Growth.refl state, ⟨rfl, ?_, ?_, ?_, ?_, ?_⟩⟩ <;> simp
  | cons input inputs ih =>
      rw [List.foldlM_cons] at inserted
      obtain ⟨middle, first, rest⟩ := bind_eq_ok.mp inserted
      obtain ⟨rows, growth, laws⟩ := ih rest
      exact ⟨_, (insertEvaluation_eq_ok first).growth.trans growth,
        (stepRows_ofEvaluations state input).append laws⟩

/-! ## Collections -/

private def beginRows (state : StoreState) (collection : CollectionInput) : NewRows where
  intakes := [providerIntakeRow collection.intake (state.sqliteSequence.providerIntakeAttempts + 1)]
  runs := [runRow collection.run (nextRowid (state.watcherRuns.map WatcherRun.rowid))]
  links := [{ intakeId := collection.intake.intakeId, runId := collection.run.runId }]

private def submissionRows (state : StoreState) (run : RunInput) (submission : SubmissionInput) : NewRows :=
  match submission.disposition with
  | .rejected refusal => {
      submissions := [submissionRow run.runId submission]
      refusals := [refusalRow refusal (some run.runId) (some submission.submissionId) none run.profile] }
  | .admitted report => {
      reportRows state submission.submissionId report with
      submissions := [submissionRow run.runId submission] }

private def collectionRows (state : StoreState) (collection : CollectionInput) : NewRows :=
  (beginRows state collection).append (match collection.submission with
    | none => {}
    | some submission => submissionRows state collection.run submission)

private def resultRows (state : StoreState) (collection : CollectionInput) (status : StatusEventInput) :
    NewRows where
  statuses := [statusRow status (some collection.run.runId) (state.sqliteSequence.statusEvents + 1)]
  acknowledgments := [{
    intakeId := collection.intake.intakeId
    runId := collection.run.runId
    statusEventId := status.statusEventId }]

private theorem insertSubmission_growth {run : RunInput} {submission : SubmissionInput}
    (inserted : state.insertSubmission run submission = .ok after) :
    Growth state (submissionRows state run submission) after := by
  unfold insertSubmission at inserted
  unfold submissionRows
  cases disposed : submission.disposition with
  | rejected refusal =>
      simp only [disposed] at inserted
      obtain rfl := insertRefusal_eq_ok inserted
      exact (growth_submission run.runId submission).trans (growth_refusal rfl)
  | admitted report =>
      simp only [disposed] at inserted
      obtain rfl := Except.ok.inj inserted
      exact (growth_submission run.runId submission).trans
        (@growth_report (state.appendSubmission run.runId submission) _ report)

variable {collection : CollectionInput}

private theorem insertCollection_growth (inserted : state.insertCollection collection = .ok after) :
    Growth state (collectionRows state collection) after := by
  unfold insertCollection at inserted
  obtain ⟨_, _, inserted⟩ := bind_eq_ok.mp inserted
  have begun := ((@growth_providerIntake state collection.intake).trans
    (growth_run collection.run)).trans (growth_link collection.intake.intakeId collection.run.runId)
  refine begun.trans ?_
  unfold insertOptionalSubmission at inserted
  cases submitted : collection.submission with
  | none =>
      rw [submitted] at inserted
      obtain rfl := Except.ok.inj inserted
      exact Growth.refl _
  | some submission =>
      rw [submitted] at inserted
      exact insertSubmission_growth inserted

private theorem linked_collection (first last : StoreState) (collection : CollectionInput)
    (origins : List LocalDiagnosticArtifactOrigin) (status : StatusEventInput) :
    ((collectionRows first collection).append
      (NewRows.append { origins := origins } (resultRows last collection status))).Linked := by
  cases submitted : collection.submission with
  | none =>
      constructor <;> simp [NewRows.append, collectionRows, beginRows, submitted, resultRows, runRow,
        providerIntakeRow, unretired, statusRow]
  | some submission =>
      cases disposed : submission.disposition with
      | rejected refusal =>
          constructor <;> simp [NewRows.append, collectionRows, beginRows, submitted, submissionRows,
            disposed, resultRows, runRow, providerIntakeRow, unretired, statusRow, submissionRow, refusalRow]
      | admitted report =>
          constructor <;> simp [NewRows.append, collectionRows, beginRows, submitted, submissionRows,
            reportRows, disposed, resultRows, runRow, providerIntakeRow, unretired, statusRow, submissionRow,
            reportRow, reportChildren, SubmissionDisposition.outcome]

private theorem NewRows.Linked.insertEvaluations {first last evaluations : NewRows}
    (linked : (first.append last).Linked) (laws : evaluations.OfEvaluations inputs)
    (triggered : ∀ input ∈ inputs, ∀ runId ∈ input.evaluation.triggerRunId,
      ∃ submission ∈ first.submissions, submission.runId = runId ∧
        ∃ report ∈ first.reports, report.submissionId = submission.submissionId) :
    ((first.append evaluations).append last).Linked := by
  have shape : (first.append evaluations).append last = { first.append last with
      inputs := first.inputs ++ inputs ++ last.inputs
      evaluations := first.evaluations ++ evaluations.evaluations ++ last.evaluations
      watermarks := first.watermarks ++ evaluations.watermarks ++ last.watermarks
      refusals := first.refusals ++ evaluations.refusals ++ last.refusals
      events := first.events ++ evaluations.events ++ last.events
      evidence := first.evidence ++ evaluations.evidence ++ last.evidence } := by
    rw [laws.only]
    simp [NewRows.append]
  have inner : ∀ {α : Type} {item : α} {before between behind : List α},
      item ∈ before ++ between ++ behind → item ∈ before ++ behind ∨ item ∈ between := by
    intro α item before between behind member
    simp only [List.mem_append] at member ⊢
    tauto
  rw [shape]
  exact {
    run := linked.run
    intake := linked.intake
    link := linked.link
    submission := linked.submission
    report := linked.report
    observation := linked.observation
    coverage := linked.coverage
    error := linked.error
    status := linked.status
    acknowledgment := linked.acknowledgment
    evaluation := by
      intro evaluation member
      rcases inner member with old | new
      · exact linked.evaluation evaluation old
      · obtain ⟨full, input, given, same⟩ := laws.evaluation evaluation new
        refine ⟨full, fun runId trigger => ?_⟩
        obtain ⟨submission, submitted, owner, report, stored, same⟩ :=
          triggered input given runId (same ▸ trigger)
        exact ⟨submission, List.mem_append_left _ submitted, owner, report,
          List.mem_append_left _ stored, same⟩
    watermark := refers_insert linked.watermark laws.watermark
    refusalRun := by
      intro refusal member runId named
      rcases inner member with old | new
      · exact linked.refusalRun refusal old runId named
      · rw [(laws.refusal refusal new).1] at named
        cases named
    refusalEvaluation := by
      intro refusal member evaluationId named
      rcases inner member with old | new
      · obtain ⟨evaluation, stored, same⟩ := linked.refusalEvaluation refusal old evaluationId named
        refine ⟨evaluation, (List.mem_append.mp stored).elim (fun early => ?_) (List.mem_append_right _), same⟩
        exact List.mem_append_left _ (List.mem_append_left _ early)
      · obtain ⟨_, evaluation, stored, same⟩ := laws.refusal refusal new
        exact ⟨evaluation, List.mem_append_left _ (List.mem_append_right _ stored),
          Option.some.inj (same.symm.trans named)⟩
    event := refers_insert linked.event laws.event
    evidence := refers_insert linked.evidence laws.evidence }

/-! ## Transactions -/

/-- The binding rows of a transaction: none, a binding with its recovery intent, or
the completion of an intent. -/
inductive BindingStep (before : StoreState) (rows : NewRows) : Prop where
  | unbound (bindings : rows.bindings = []) (materializations : rows.materializations = [])
  | begun {event : InstanceBindingEvent} {intent : BindingMaterializationEvent}
      (bindings : rows.bindings = [event]) (materializations : rows.materializations = [intent])
      (phase : intent.phase = .intent) (sameInstance : intent.instanceId = event.instanceId)
      (sameEvent : intent.bindingEventId = event.bindingEventId)
      (free : ¬ ∃ earlier ∈ before.bindingMaterializationEvents,
        earlier.instanceId = intent.instanceId ∧ before.PendingIntent earlier)
  | completed {completion : BindingMaterializationEvent} (bindings : rows.bindings = [])
      (materializations : rows.materializations = [completion]) (phase : completion.phase = .completed)
      (exact_ : ∃ intent ∈ before.bindingMaterializationEvents,
        intent.operationId = completion.operationId ∧ intent.instanceId = completion.instanceId ∧
        intent.bindingEventId = completion.bindingEventId ∧ intent.phase = .intent)

/-- A committed transaction that added rows. -/
structure Committed (before : StoreState) (rows : NewRows) (after : StoreState) : Prop where
  growth : Growth before rows after
  linked : rows.Linked
  binding : BindingStep before rows
  unique : UniqueKeys after
  foreign : ForeignKeys after

variable {rows : NewRows}

private theorem Growth.committed {grown : StoreState} (growth : Growth before rows grown) (linked : rows.Linked)
    (binding : BindingStep before rows) (committed : grown.commit = .ok after) : Committed before rows after := by
  obtain ⟨rfl, unique, foreign⟩ := commit_eq_ok committed
  exact ⟨growth, linked, binding, unique, foreign⟩

private theorem growth_result (collection : CollectionInput) (status : StatusEventInput) :
    Growth state (resultRows state collection status) (state.appendResult collection status) :=
  (growth_status status _).trans (growth_acknowledgment _ _ _)

private theorem insertLocalDiagnosticArtifact_growth {completion : AdmittedCollectionCompletion}
    (inserted : state.insertLocalDiagnosticArtifact collection completion = .ok after) :
    ∃ origins, Growth state { origins := origins } after := by
  unfold insertLocalDiagnosticArtifact at inserted
  cases given : completion.diagnosticArtifact with
  | none =>
      rw [given] at inserted
      obtain rfl := Except.ok.inj inserted
      exact ⟨[], Growth.refl state⟩
  | some artifact =>
      rw [given] at inserted
      obtain ⟨_, _, inserted⟩ := bind_eq_ok.mp inserted
      obtain ⟨_, _, inserted⟩ := bind_eq_ok.mp inserted
      obtain ⟨_, _, final⟩ := bind_eq_ok.mp inserted
      obtain rfl := Except.ok.inj final
      exact ⟨_, growth_origin artifact⟩

private theorem appendOptionalOrigin_growth (artifact : Option DiagnosticArtifactCommitInput) :
    ∃ origins, Growth state { origins := origins } (state.appendOptionalOrigin artifact) := by
  cases artifact with
  | none => exact ⟨[], Growth.refl state⟩
  | some artifact => exact ⟨_, growth_origin artifact⟩

private theorem admitted_of_isAdmittedCollection (admitted : isAdmittedCollection collection = true) :
    ∃ submission report, collection.submission = some submission ∧
      submission.disposition = .admitted report := by
  unfold isAdmittedCollection at admitted
  rw [Bool.and_eq_true] at admitted
  split at admitted
  · rename_i submissionId rawBytes receivedAt report given
    exact ⟨_, report, given, rfl⟩
  · cases admitted.2

theorem commitAdmittedCollection_committed {completion : AdmittedCollectionCompletion}
    (committed : state.commitAdmittedCollection collection completion = .ok after) :
    after = state ∨ ∃ rows, Committed state rows after ∧ rows.inputs = completion.evaluations ∧
      rows.intents = [] ∧ rows.deliveries = [] := by
  unfold commitAdmittedCollection at committed
  obtain ⟨_, _, committed⟩ := bind_eq_ok.mp committed
  obtain ⟨_, admitted, committed⟩ := bind_eq_ok.mp committed
  obtain ⟨preflight, _, committed⟩ := bind_eq_ok.mp committed
  cases preflight with
  | existing _ => exact .inl (Except.ok.inj committed).symm
  | new =>
      refine .inr ?_
      change state.completeAdmittedCollection collection completion = .ok after at committed
      unfold completeAdmittedCollection at committed
      obtain ⟨inserted, insertion, committed⟩ := bind_eq_ok.mp committed
      obtain ⟨_, complete, committed⟩ := bind_eq_ok.mp committed
      obtain ⟨evaluated, evaluation, committed⟩ := bind_eq_ok.mp committed
      obtain ⟨originated, origination, committed⟩ := bind_eq_ok.mp committed
      obtain ⟨evaluations, evaluationGrowth, laws⟩ := foldlM_insertEvaluation_growth evaluation
      obtain ⟨origins, originGrowth⟩ := insertLocalDiagnosticArtifact_growth origination
      obtain ⟨submission, report, submitted, disposed⟩ :=
        admitted_of_isAdmittedCollection (ensure_eq_ok.mp admitted)
      have growth := ((insertCollection_growth insertion).trans evaluationGrowth).trans
        (originGrowth.trans (growth_result collection completion.status))
      refine ⟨_, growth.committed ((linked_collection _ _ collection origins _).insertEvaluations laws ?_)
        (.unbound ?_ ?_) committed, ?_, ?_, ?_⟩
      · intro input given runId trigger
        unfold validateAdmittedCompletion at complete
        obtain ⟨_, _, complete⟩ := bind_eq_ok.mp complete
        obtain ⟨_, triggers, _⟩ := bind_eq_ok.mp complete
        have linked := ensure_eq_ok.mp triggers input given
        rw [Option.mem_def, linked] at trigger
        obtain rfl := Option.some.inj trigger
        simp [collectionRows, beginRows, NewRows.append, submitted, submissionRows, reportRows, disposed, submissionRow,
          reportRow]
      all_goals
        rw [laws.only]
        simp [collectionRows, beginRows, NewRows.append, submitted, submissionRows, reportRows, disposed, resultRows]

theorem commitNonSuccessCollection_committed {result : RunResultStatusInput}
    {artifact : Option DiagnosticArtifactCommitInput}
    (committed : state.commitNonSuccessCollection collection result artifact = .ok after) :
    after = state ∨ ∃ rows, Committed state rows after ∧ rows.inputs = [] ∧
      rows.intents = [] ∧ rows.deliveries = [] := by
  unfold commitNonSuccessCollection at committed
  obtain ⟨_, _, committed⟩ := bind_eq_ok.mp committed
  obtain ⟨_, _, committed⟩ := bind_eq_ok.mp committed
  obtain ⟨_, _, committed⟩ := bind_eq_ok.mp committed
  obtain ⟨_, _, committed⟩ := bind_eq_ok.mp committed
  obtain ⟨_, _, committed⟩ := bind_eq_ok.mp committed
  obtain ⟨preflight, _, committed⟩ := bind_eq_ok.mp committed
  cases preflight with
  | existing _ => exact .inl (Except.ok.inj committed).symm
  | new =>
      refine .inr ?_
      change state.completeNonSuccessCollection collection result.status artifact = .ok after at committed
      unfold completeNonSuccessCollection at committed
      obtain ⟨inserted, insertion, committed⟩ := bind_eq_ok.mp committed
      obtain ⟨origins, originGrowth⟩ := @appendOptionalOrigin_growth inserted artifact
      have growth := (insertCollection_growth insertion).trans
        (originGrowth.trans (growth_result collection result.status))
      refine ⟨_, growth.committed (linked_collection _ _ collection origins _) (.unbound ?_ ?_) committed,
        ?_, ?_, ?_⟩
      all_goals
        cases submitted : collection.submission with
        | none => simp [collectionRows, beginRows, NewRows.append, submitted, resultRows]
        | some submission =>
            cases disposed : submission.disposition <;>
              simp [collectionRows, beginRows, NewRows.append, submitted, submissionRows, reportRows, disposed, resultRows]

theorem commitEvaluations_committed (committed : state.commitEvaluations inputs = .ok after) :
    ∃ rows, Committed state rows after ∧ rows.inputs = inputs ∧ rows.intents = [] ∧ rows.deliveries = [] := by
  unfold commitEvaluations at committed
  obtain ⟨_, untriggered, committed⟩ := bind_eq_ok.mp committed
  obtain ⟨evaluated, evaluation, committed⟩ := bind_eq_ok.mp committed
  obtain ⟨rows, growth, laws⟩ := foldlM_insertEvaluation_growth evaluation
  have empty : (NewRows.append {} {}).Linked := by
    constructor <;> simp [NewRows.append]
  have linked := empty.insertEvaluations laws (by
    intro input given runId trigger
    rw [ensure_eq_ok.mp untriggered input given] at trigger
    cases trigger)
  refine ⟨_, (((Growth.refl state).trans growth).trans (Growth.refl evaluated)).committed linked
    (.unbound ?_ ?_) committed, ?_, ?_, ?_⟩
  all_goals
    rw [laws.only]
    simp [NewRows.append]

theorem recordStatus_committed {status : StatusEventInput}
    (committed : state.recordStatus status = .ok after) :
    Committed state { statuses := [statusRow status none (state.sqliteSequence.statusEvents + 1)] } after := by
  refine (growth_status status none).committed ?_ (.unbound rfl rfl) committed
  constructor <;> simp [statusRow]

/-- A transaction over the tables of custody. -/
structure CustodyCommitted (before : StoreState) (rows : NewRows) (after : StoreState) : Prop extends
    Committed before rows after where
  collection : after.toCollectionTables = before.toCollectionTables
  evaluation : after.toEvaluationTables = before.toEvaluationTables
  finding : after.toFindingTables = before.toFindingTables
  inputs : rows.inputs = []

private theorem custodyCommitted {grown : StoreState} (committed : grown.commit = .ok after)
    (only : rows = {
      outbox := rows.outbox
      attempts := rows.attempts
      intents := rows.intents
      deliveries := rows.deliveries
      checkEvents := rows.checkEvents
      successors := rows.successors
      bindings := rows.bindings
      materializations := rows.materializations }) (collection : grown.toCollectionTables = state.toCollectionTables)
    (evaluation : grown.toEvaluationTables = state.toEvaluationTables)
    (finding : grown.toFindingTables = state.toFindingTables)
    (outbox : grown.notificationOutbox = state.notificationOutbox ++ rows.outbox)
    (attempts : grown.notificationAttempts = state.notificationAttempts ++ rows.attempts)
    (intents : grown.notificationDeliveryIntents = state.notificationDeliveryIntents ++ rows.intents)
    (deliveries : grown.notificationDeliveryEvents = state.notificationDeliveryEvents ++ rows.deliveries)
    (checkEvents : grown.savedCheckEvents = state.savedCheckEvents ++ rows.checkEvents)
    (origins : grown.localDiagnosticArtifactOrigins = state.localDiagnosticArtifactOrigins)
    (successors : grown.localSuccessorAcquisitionIntents = state.localSuccessorAcquisitionIntents ++ rows.successors)
    (bindings : grown.instanceBindingEvents = state.instanceBindingEvents ++ rows.bindings)
    (materializations :
      grown.bindingMaterializationEvents = state.bindingMaterializationEvents ++ rows.materializations)
    (retention : grown.retention = state.retention) (binding : BindingStep state rows) :
    CustodyCommitted state rows after := by
  have growth : Growth state rows grown := by
    rw [only]
    constructor
    case evaluates => exact SameEvaluations.evaluates (.of_tables evaluation finding (by rw [collection]) retention)
    all_goals simp [collection, evaluation, finding, outbox, attempts, intents, deliveries, checkEvents,
      origins, successors, bindings, materializations, retention, consecutive]
  have linked : rows.Linked := by
    rw [only]
    constructor <;> simp
  have inputs : rows.inputs = [] := by rw [only]
  have grew := growth.committed linked binding committed
  obtain ⟨rfl, _, _⟩ := commit_eq_ok committed
  exact { grew with collection, evaluation, finding, inputs }

theorem enqueueNotification_committed {notification : NotificationInput}
    (committed : state.enqueueNotification notification = .ok after) :
    CustodyCommitted state { outbox := [outboxRow notification] } after := by
  unfold enqueueNotification at committed
  obtain ⟨_, _, committed⟩ := bind_eq_ok.mp committed
  refine custodyCommitted committed rfl rfl rfl rfl rfl ?_ ?_ ?_ ?_ rfl ?_ ?_ ?_ rfl (.unbound rfl rfl) <;>
    simp [appendOutbox]

theorem appendNotificationAttempt_committed {attempt : NotificationAttempt}
    (committed : state.appendNotificationAttempt attempt = .ok after) :
    CustodyCommitted state { attempts := [attempt] } after := by
  unfold appendNotificationAttempt at committed
  obtain ⟨_, _, committed⟩ := bind_eq_ok.mp committed
  refine custodyCommitted committed rfl rfl rfl rfl ?_ rfl ?_ ?_ ?_ rfl ?_ ?_ ?_ rfl (.unbound rfl rfl) <;>
    simp [appendAttempt]

theorem retainNotificationDelivery_committed {notification : NotificationInput}
    {intent : NotificationDeliveryIntent}
    (committed : state.retainNotificationDelivery notification intent = .ok after) :
    after = state ∨
      CustodyCommitted state { outbox := [outboxRow notification], intents := [intent] } after := by
  unfold retainNotificationDelivery at committed
  split at committed
  · exact .inl (ensure_pure_eq_ok.mp committed).2.symm
  · obtain ⟨_, _, committed⟩ := bind_eq_ok.mp committed
    refine .inr ?_
    refine custodyCommitted committed rfl rfl rfl rfl rfl ?_ rfl ?_ ?_ rfl ?_ ?_ ?_ rfl (.unbound rfl rfl) <;>
      simp [appendIntent, appendOutbox]

theorem appendNotificationDeliveryEvent_committed {event : NotificationDeliveryEvent}
    (committed : state.appendNotificationDeliveryEvent event = .ok after) :
    CustodyCommitted state { deliveries := [event] } after := by
  unfold appendNotificationDeliveryEvent at committed
  obtain ⟨_, _, committed⟩ := bind_eq_ok.mp committed
  refine custodyCommitted committed rfl rfl rfl rfl ?_ ?_ ?_ rfl ?_ rfl ?_ ?_ ?_ rfl (.unbound rfl rfl) <;>
    simp [appendDeliveryEvent]

private theorem checkEvent_committed {event : SavedCheckEvent}
    (committed : (state.appendCheckEvent event).commit = .ok after) :
    CustodyCommitted state { checkEvents := [event] } after := by
  refine custodyCommitted committed rfl rfl rfl rfl ?_ ?_ ?_ ?_ rfl rfl ?_ ?_ ?_ rfl (.unbound rfl rfl) <;>
    simp [appendCheckEvent]

theorem installSavedCheck_committed {definition : SavedCheckDefinition}
    (committed : state.installSavedCheck definition = .ok after) :
    after = state ∨ ∃ event : SavedCheckEvent, event.outcome = .installed ∧ event.evaluationId = none ∧
      CustodyCommitted state { checkEvents := [event] } after := by
  unfold installSavedCheck at committed
  split at committed
  · exact .inl (ensure_pure_eq_ok.mp committed).2.symm
  · refine .inr ⟨installedEvent definition, rfl, rfl, ?_⟩
    refine custodyCommitted committed rfl rfl rfl rfl ?_ ?_ ?_ ?_ rfl rfl ?_ ?_ ?_ rfl (.unbound rfl rfl) <;>
      simp [appendCheckEvent, appendDefinition]

theorem claimSavedCheckEvaluation_committed {claim : SavedCheckClaimInput}
    (committed : state.claimSavedCheckEvaluation claim = .ok after) :
    after = state ∨ ∃ event : SavedCheckEvent, event.outcome = .claimed ∧
      event.evaluationId = some claim.evaluationId ∧
      CustodyCommitted state { checkEvents := [event] } after := by
  unfold claimSavedCheckEvaluation at committed
  obtain ⟨_, _, committed⟩ := bind_eq_ok.mp committed
  split at committed
  · exact .inl (ensure_pure_eq_ok.mp committed).2.symm
  · exact .inr ⟨_, rfl, rfl, checkEvent_committed committed⟩

theorem appendSavedCheckEvent_committed {outcome : SavedCheckOutcome} {terminal : SavedCheckClaimInput}
    (committed : state.appendSavedCheckEvent outcome terminal = .ok after) :
    after = state ∨ ∃ event : SavedCheckEvent, event.outcome.terminal ∧
      CustodyCommitted state { checkEvents := [event] } after := by
  unfold appendSavedCheckEvent at committed
  obtain ⟨_, ends, committed⟩ := bind_eq_ok.mp committed
  split at committed
  · exact .inl (ensure_pure_eq_ok.mp committed).2.symm
  · split at committed
    · cases committed
    · obtain ⟨_, _, committed⟩ := bind_eq_ok.mp committed
      exact .inr ⟨_, ensure_eq_ok.mp ends, checkEvent_committed committed⟩

theorem commitLocalSuccessorDispatch_committed {intent : LocalSuccessorAcquisitionIntent}
    (committed : state.commitLocalSuccessorDispatch intent = .ok after) :
    after = state ∨ CustodyCommitted state { successors := [intent] } after := by
  unfold commitLocalSuccessorDispatch at committed
  split at committed
  · exact .inl (ensure_pure_eq_ok.mp committed).2.symm
  · refine .inr ?_
    refine custodyCommitted committed rfl rfl rfl rfl ?_ ?_ ?_ ?_ ?_ rfl rfl ?_ ?_ rfl (.unbound rfl rfl) <;>
      simp [appendSuccessorIntent]

theorem beginBindingTransition_committed {event : InstanceBindingEvent} {intent : BindingMaterializationEvent}
    (committed : state.beginBindingTransition event intent = .ok after) :
    CustodyCommitted state { bindings := [event], materializations := [intent] } after := by
  unfold beginBindingTransition at committed
  obtain ⟨_, phase, committed⟩ := bind_eq_ok.mp committed
  obtain ⟨_, same, committed⟩ := bind_eq_ok.mp committed
  obtain ⟨_, free, committed⟩ := bind_eq_ok.mp committed
  have step : BindingStep state { bindings := [event], materializations := [intent] } :=
    .begun rfl rfl (ensure_eq_ok.mp phase) (ensure_eq_ok.mp same).1 (ensure_eq_ok.mp same).2 (ensure_eq_ok.mp free)
  refine custodyCommitted committed rfl rfl rfl rfl ?_ ?_ ?_ ?_ ?_ rfl ?_ rfl rfl rfl step <;>
    simp [appendMaterialization, appendBinding]

theorem completeBindingMaterialization_committed {completion : BindingMaterializationEvent}
    (committed : state.completeBindingMaterialization completion = .ok after) :
    CustodyCommitted state { materializations := [completion] } after := by
  unfold completeBindingMaterialization at committed
  obtain ⟨_, phase, committed⟩ := bind_eq_ok.mp committed
  obtain ⟨_, exact_, committed⟩ := bind_eq_ok.mp committed
  have counted := ensure_eq_ok.mp exact_
  have positive := List.countP_pos_iff.mp (by rw [counted]; exact Nat.one_pos)
  have step : BindingStep state { materializations := [completion] } :=
    .completed rfl rfl (ensure_eq_ok.mp phase) (by simpa using positive)
  refine custodyCommitted committed rfl rfl rfl rfl ?_ ?_ ?_ ?_ ?_ rfl ?_ ?_ rfl rfl step <;>
    simp [appendMaterialization]

/-! ## Expiry -/

/-- A committed expiry: what passed, and the plan it applied. -/
structure Expired (identityDigest : IdentityDigest) (before : StoreState) (bounds : Option HistoryBounds)
    (cutoff : Timestamp) (maxCandidateRuns : Option Nat) (after : StoreState) : Prop where
  instant : cutoff.instant.isSome
  header : before.validateBoundaryHeader = .ok ()
  advances : before.PrefixMayAdvance cutoff
  validBefore : before.validateBeforeExpiry identityDigest bounds = .ok ()
  busy : ¬ before.PlanIdle (before.planExpiry cutoff maxCandidateRuns)
  room : before.retention.generation + 1 < 2 ^ 63
  applied : after = before.applyPlan identityDigest cutoff (before.planExpiry cutoff maxCandidateRuns)
  validAfter : before.validateAfterExpiry identityDigest bounds.isSome cutoff
    (before.planExpiry cutoff maxCandidateRuns) = .ok ()
  foreign : ForeignKeys after

theorem expireOrdinaryBefore_cases {bounds : Option HistoryBounds} {cutoff : Timestamp}
    {maxCandidateRuns : Option Nat} {outcome : ExpiryOutcome}
    (expired : state.expireOrdinaryBefore identityDigest bounds cutoff maxCandidateRuns = .ok outcome) :
    (∃ boundary, outcome = .unchanged boundary) ∨
      Expired identityDigest state bounds cutoff maxCandidateRuns (outcome.stateAfter state) := by
  unfold expireOrdinaryBefore at expired
  obtain ⟨_, instant, expired⟩ := bind_eq_ok.mp expired
  obtain ⟨_, header, expired⟩ := bind_eq_ok.mp expired
  split at expired
  · rename_i advances
    unfold expireAdvancing at expired
    obtain ⟨_, validBefore, expired⟩ := bind_eq_ok.mp expired
    split at expired
    · obtain rfl := Except.ok.inj expired
      exact .inl ⟨_, rfl⟩
    · rename_i busy
      unfold expirePlanned at expired
      obtain ⟨_, room, expired⟩ := bind_eq_ok.mp expired
      obtain ⟨_, validAfter, expired⟩ := bind_eq_ok.mp expired
      obtain ⟨foreign, rfl⟩ := ensure_pure_eq_ok.mp expired
      exact .inr ⟨ensure_eq_ok.mp instant, header, advances, validBefore, busy, ensure_eq_ok.mp room, rfl,
        validAfter, foreign⟩
  · obtain rfl := Except.ok.inj expired
    exact .inl ⟨_, rfl⟩

/-! ## One step of a store -/

/-- What an accepted operation does to the store. -/
inductive Step (identityDigest : IdentityDigest) (operation : Operation) (before after : StoreState) : Prop where
  | unchanged (same : after = before)
  | grown {rows : NewRows} (committed : Committed before rows after)
      (undelivered : delivers operation = false → rows.intents = [] ∧ rows.deliveries = [])
  | expired {bounds : Option HistoryBounds} {cutoff : Timestamp} {maxCandidateRuns : Option Nat}
      (expires : operation = .expire bounds cutoff maxCandidateRuns)
      (expired : Expired identityDigest before bounds cutoff maxCandidateRuns after)

theorem apply_step {operation : Operation} (accepted : state.apply identityDigest operation = .ok after) :
    Step identityDigest operation state after := by
  cases operation with
  | commitAdmittedCollection collection completion =>
      rcases commitAdmittedCollection_committed accepted with same | ⟨rows, committed, _, undelivered⟩
      · exact .unchanged same
      · exact .grown committed fun _ => undelivered
  | commitNonSuccessCollection collection result artifact =>
      rcases commitNonSuccessCollection_committed accepted with same | ⟨rows, committed, _, undelivered⟩
      · exact .unchanged same
      · exact .grown committed fun _ => undelivered
  | commitEvaluations inputs =>
      obtain ⟨rows, committed, _, undelivered⟩ := commitEvaluations_committed accepted
      exact .grown committed fun _ => undelivered
  | recordStatus status => exact .grown (recordStatus_committed accepted) fun _ => ⟨rfl, rfl⟩
  | enqueueNotification notification =>
      exact .grown (enqueueNotification_committed accepted).toCommitted fun _ => ⟨rfl, rfl⟩
  | appendNotificationAttempt attempt =>
      exact .grown (appendNotificationAttempt_committed accepted).toCommitted fun _ => ⟨rfl, rfl⟩
  | retainNotificationDelivery notification intent =>
      rcases retainNotificationDelivery_committed accepted with same | committed
      · exact .unchanged same
      · exact .grown committed.toCommitted nofun
  | appendNotificationDeliveryEvent event =>
      exact .grown (appendNotificationDeliveryEvent_committed accepted).toCommitted nofun
  | installSavedCheck definition =>
      rcases installSavedCheck_committed accepted with same | ⟨_, _, _, committed⟩
      · exact .unchanged same
      · exact .grown committed.toCommitted fun _ => ⟨rfl, rfl⟩
  | claimSavedCheckEvaluation claim =>
      rcases claimSavedCheckEvaluation_committed accepted with same | ⟨_, _, _, committed⟩
      · exact .unchanged same
      · exact .grown committed.toCommitted fun _ => ⟨rfl, rfl⟩
  | appendSavedCheckEvent outcome terminal =>
      rcases appendSavedCheckEvent_committed accepted with same | ⟨_, _, committed⟩
      · exact .unchanged same
      · exact .grown committed.toCommitted fun _ => ⟨rfl, rfl⟩
  | commitLocalSuccessorDispatch intent =>
      rcases commitLocalSuccessorDispatch_committed accepted with same | committed
      · exact .unchanged same
      · exact .grown committed.toCommitted fun _ => ⟨rfl, rfl⟩
  | beginBindingTransition event intent =>
      exact .grown (beginBindingTransition_committed accepted).toCommitted fun _ => ⟨rfl, rfl⟩
  | completeBindingMaterialization completion =>
      exact .grown (completeBindingMaterialization_committed accepted).toCommitted fun _ => ⟨rfl, rfl⟩
  | expire bounds cutoff maxCandidateRuns =>
      obtain ⟨outcome, expired, final⟩ := bind_eq_ok.mp accepted
      obtain rfl := Except.ok.inj final
      obtain ⟨_, rfl⟩ | committed := expireOrdinaryBefore_cases expired
      · exact .unchanged rfl
      · exact .expired rfl committed

end StoreState

/-- A property of the empty store that growth and expiry keep. -/
theorem Reachable.induct {property : StoreState → Prop} (initial : property StoreState.empty)
    (grown : ∀ before rows after, Reachable identityDigest before → property before →
      StoreState.Committed before rows after → property after)
    (expired : ∀ before bounds cutoff maxCandidateRuns after, Reachable identityDigest before →
      property before → StoreState.Expired identityDigest before bounds cutoff maxCandidateRuns after →
      property after) {state : StoreState} (reachable : Reachable identityDigest state) : property state := by
  refine Reachable.invariant initial ?_ reachable
  intro before after operation earlier holds accepted
  rcases StoreState.apply_step accepted with same | ⟨committed, _⟩ | ⟨_, expiry⟩
  · exact same ▸ holds
  · exact grown _ _ _ earlier holds committed
  · exact expired _ _ _ _ _ earlier holds expiry

end ConstellationNq.Store
