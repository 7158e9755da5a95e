import ConstellationNq.Store.Retention.Expire
import ConstellationNq.Store.Retention.PlanProperties

/-!
# What an expiry leaves

The plan in terms of its closure, and the rows of every table after the
mutations. Rows of runs that are not dead and of evaluations that are not
affected stay exactly as they are.
-/

set_option autoImplicit false

namespace ConstellationNq.Store

open StoreState

/-! ## The plan in terms of its closure -/

/-- A retained finding or saved-check row names the evaluation. -/
def StoreState.Named (state : StoreState) (evaluationId : String) : Prop :=
  state.NamedByFinding evaluationId ∨ state.NamedBySavedCheck evaluationId

namespace ExpiryPlan

def Selects (state : StoreState) (plan : ExpiryPlan) (evaluationId : String) : Prop :=
  ∃ evaluation, state.Candidate plan.floors.evaluation evaluation ∧ evaluation.evaluationId = evaluationId

abbrev Holds (state : StoreState) (plan : ExpiryPlan) (node : Node) : Prop :=
  Kept state plan.floors.evaluation plan.runs node

structure Spec (state : StoreState) (plan : ExpiryPlan) : Prop where
  dead : ∀ runId, plan.Dead runId ↔ runId ∈ plan.runs ∧ ¬ plan.Holds state (.run runId)
  unanchored : ∀ runId, plan.Unanchored runId ↔ plan.Dead runId ∧
    ¬ ∃ report ∈ state.reportsOf runId, report.reportId ∈ plan.compactReports
  island : ∀ evaluationId, plan.Disposed .island evaluationId ↔ plan.Holds state (.evaluation evaluationId)
  compact : ∀ evaluationId, plan.Disposed .compact evaluationId ↔ plan.Selects state evaluationId ∧
    ¬ plan.Holds state (.evaluation evaluationId) ∧ state.Named evaluationId
  delete : ∀ evaluationId, plan.Disposed .delete evaluationId ↔ plan.Selects state evaluationId ∧
    ¬ plan.Holds state (.evaluation evaluationId) ∧ ¬ state.Named evaluationId
  affected : ∀ evaluationId, plan.Affected evaluationId ↔ plan.Selects state evaluationId ∧
    ¬ plan.Holds state (.evaluation evaluationId)
  compactReports : ∀ reportId, reportId ∈ plan.compactReports ↔
    ∃ report ∈ state.admittedReports, report.reportId = reportId ∧ report.sourceExpired = false ∧
      report.reportSequence ≤ plan.floors.report ∧ ∃ submission ∈ state.rawSubmissions,
        submission.submissionId = report.submissionId ∧ plan.Dead submission.runId ∧
        ((∃ evidence ∈ state.findingEvidence, evidence.reportId = report.reportId) ∨
          ∃ evaluation, state.Candidate plan.floors.evaluation evaluation ∧
            plan.Disposed .compact evaluation.evaluationId ∧
            evaluation.triggerRunId = some submission.runId)
  candidates : ∀ evaluationId, (∃ selected ∈ plan.evaluations, selected.evaluationId = evaluationId) ↔
    plan.Selects state evaluationId

/-- What is known of a plan that was made at a cutoff. -/
structure Chosen (state : StoreState) (cutoff : Timestamp) (plan : ExpiryPlan) : Prop extends
    plan.Spec state where
  floors : plan.floors = state.floorsFor cutoff state.retention.floors plan.runs
  aged : ∀ runId ∈ plan.runs, ∃ run ∈ state.watcherRuns, run.runId = runId ∧ state.Aged cutoff run
  full : ∀ runId ∈ plan.runs, state.FullRun runId
  within : ∀ runId ∈ plan.runs, state.Within plan.floors runId
  settled : ∀ run ∈ state.watcherRuns, state.Aged cutoff run → state.FullRun run.runId →
    state.Settled state.retention.floors.status run.runId →
    state.Within state.retention.floors run.runId → run.runId ∈ plan.runs

end ExpiryPlan

namespace StoreState

variable {state : StoreState}

private theorem dispose_evaluationId (row : ExpiryEvaluation) :
    (state.dispose row).evaluationId = row.evaluationId := by
  unfold dispose
  split <;> rfl

private theorem dispose_triggerRunId (row : ExpiryEvaluation) :
    (state.dispose row).triggerRunId = row.triggerRunId := by
  unfold dispose
  split <;> rfl

variable {row : ExpiryEvaluation}

private theorem dispose_island :
    (state.dispose row).disposition = .island ↔ row.disposition = .island := by
  unfold dispose
  split
  · rename_i named
    simp [named.1]
  · rfl

private theorem dispose_cases (state : StoreState) (undecided : row.disposition ≠ .compact) :
    (row.disposition = .island ∧ (state.dispose row).disposition = .island) ∨
      (row.disposition ≠ .island ∧ state.Named row.evaluationId ∧ (state.dispose row).disposition = .compact) ∨
      (row.disposition ≠ .island ∧ ¬ state.Named row.evaluationId ∧ (state.dispose row).disposition = .delete) := by
  unfold dispose Named
  cases chosen : row.disposition with
  | island => simp [chosen]
  | compact => exact absurd chosen undecided
  | delete => by_cases named : state.NamedByFinding row.evaluationId ∨ state.NamedBySavedCheck row.evaluationId <;>
      simp [chosen, named]

private theorem dispose_compact (undecided : row.disposition ≠ .compact) :
    (state.dispose row).disposition = .compact ↔ row.disposition ≠ .island ∧ state.Named row.evaluationId := by
  obtain ⟨island, kept⟩ | ⟨other, named, compacted⟩ | ⟨other, free, deleted⟩ := dispose_cases state undecided
  · simp [island, kept]
  · simp [other, named, compacted]
  · simp [free, deleted]

private theorem dispose_delete (undecided : row.disposition ≠ .compact) :
    (state.dispose row).disposition = .delete ↔
      row.disposition ≠ .island ∧ ¬ state.Named row.evaluationId := by
  obtain ⟨island, kept⟩ | ⟨other, named, compacted⟩ | ⟨other, free, deleted⟩ := dispose_cases state undecided
  · simp [island, kept]
  · simp [named, compacted]
  · simp [other, free, deleted]

section Plan

variable {floors : Floors} {runs : List String} {remaining : Bool}

/-- The rows of `expiry_evaluations` are the candidates, each with the disposition
that the closure and the naming rows give it. -/
private theorem mem_plan_evaluations :
    row ∈ (state.planFor floors runs remaining).evaluations ↔
      ∃ earlier ∈ (state.protectedClosure floors.evaluation runs).evaluations, state.dispose earlier = row := by
  simp [planFor]

variable (unique : (state.evaluationRuns.map EvaluationRun.evaluationId).Nodup)

private theorem selects_of_row (member : row ∈ (state.protectedClosure floors.evaluation runs).evaluations) :
    (state.planFor floors runs remaining).Selects state row.evaluationId := by
  obtain ⟨evaluation, candidate, sameId, _⟩ := protectedClosure_sound.rows row member
  exact ⟨evaluation, candidate, sameId.symm⟩

private theorem row_of_selects {evaluationId : String}
    (selected : (state.planFor floors runs remaining).Selects state evaluationId) :
    ∃ row ∈ (state.protectedClosure floors.evaluation runs).evaluations, row.evaluationId = evaluationId := by
  obtain ⟨evaluation, candidate, rfl⟩ := selected
  obtain ⟨row, member, sameId, _⟩ := protectedClosure_sound.complete evaluation candidate
  exact ⟨row, member, sameId⟩

include unique in
private theorem chosen_iff (chooses : Disposition → Prop) (decides : String → Prop)
    (decided : ∀ row ∈ (state.protectedClosure floors.evaluation runs).evaluations,
      chooses (state.dispose row).disposition ↔
        row.disposition ≠ .island ∧ decides row.evaluationId) (evaluationId : String) :
    (∃ row ∈ (state.planFor floors runs remaining).evaluations, row.evaluationId = evaluationId ∧
        chooses row.disposition) ↔
      (state.planFor floors runs remaining).Selects state evaluationId ∧
        ¬ (state.planFor floors runs remaining).Holds state (.evaluation evaluationId) ∧
        decides evaluationId := by
  constructor
  · rintro ⟨row, member, rfl, chosen⟩
    obtain ⟨earlier, stored, rfl⟩ := mem_plan_evaluations.mp member
    obtain ⟨notIsland, holds⟩ := (decided earlier stored).mp chosen
    rw [dispose_evaluationId]
    exact ⟨selects_of_row stored, fun kept => notIsland ((island_iff unique stored).mpr kept), holds⟩
  · rintro ⟨selected, notKept, holds⟩
    obtain ⟨row, member, rfl⟩ := row_of_selects selected
    refine ⟨state.dispose row, mem_plan_evaluations.mpr ⟨row, member, rfl⟩, dispose_evaluationId row, ?_⟩
    exact (decided row member).mpr ⟨fun island => notKept ((island_iff unique member).mp island), holds⟩

private theorem dead_iff {runId : String} : (state.planFor floors runs remaining).Dead runId ↔
    runId ∈ runs ∧ runId ∉ (state.protectedClosure floors.evaluation runs).protectedRuns := by
  simp [ExpiryPlan.Dead, planFor, deadRunsOf]

include unique in
/-- The triggers of the rows that are compacted are those of the evaluations they stand for. -/
private theorem compactTrigger_iff {runId : String} : (∃ row ∈ (state.planFor floors runs remaining).evaluations,
      row.disposition = .compact ∧ row.triggerRunId = some runId) ↔
    ∃ evaluation, state.Candidate floors.evaluation evaluation ∧
      (state.planFor floors runs remaining).Disposed .compact evaluation.evaluationId ∧
      evaluation.triggerRunId = some runId := by
  constructor
  · rintro ⟨row, member, chosen, triggered⟩
    obtain ⟨earlier, stored, rfl⟩ := mem_plan_evaluations.mp member
    obtain ⟨evaluation, candidate, sameId, sameTrigger⟩ := protectedClosure_sound.rows earlier stored
    rw [dispose_triggerRunId] at triggered
    refine ⟨evaluation, candidate, ⟨_, member, ?_, chosen⟩, sameTrigger ▸ triggered⟩
    rw [dispose_evaluationId, sameId]
  · rintro ⟨evaluation, candidate, ⟨row, member, sameId, chosen⟩, triggered⟩
    obtain ⟨earlier, stored, rfl⟩ := mem_plan_evaluations.mp member
    obtain ⟨other, eligible, otherId, otherTrigger⟩ := protectedClosure_sound.rows earlier stored
    rw [dispose_evaluationId, otherId] at sameId
    have equal := eq_of_evaluationId unique eligible.1 candidate.1 sameId
    refine ⟨_, member, chosen, ?_⟩
    rw [dispose_triggerRunId, otherTrigger, equal, triggered]

include unique in
theorem planFor_spec : (state.planFor floors runs remaining).Spec state where
  dead := by
    intro runId
    rw [dead_iff, mem_protectedRuns_iff unique]
    simp [planFor]
  unanchored := by
    intro runId
    simp only [ExpiryPlan.Unanchored, ExpiryPlan.Dead, planFor, deadRunsOf, List.mem_map]
    constructor
    · rintro ⟨_, ⟨candidate, member, rfl⟩, rfl, free⟩
      exact ⟨⟨_, ⟨candidate, member, rfl⟩, rfl⟩, of_decide_eq_false free⟩
    · rintro ⟨⟨_, ⟨candidate, member, rfl⟩, rfl⟩, free⟩
      exact ⟨_, ⟨candidate, member, rfl⟩, rfl, decide_eq_false free⟩
  island := by
    intro evaluationId
    constructor
    · rintro ⟨row, member, rfl, chosen⟩
      obtain ⟨earlier, stored, rfl⟩ := mem_plan_evaluations.mp member
      rw [dispose_evaluationId]
      exact (island_iff unique stored).mp (dispose_island.mp chosen)
    · intro kept
      obtain ⟨evaluation, candidate, rfl⟩ := kept.candidate
      obtain ⟨row, member, sameId, _⟩ := protectedClosure_sound.complete evaluation candidate
      refine ⟨state.dispose row, mem_plan_evaluations.mpr ⟨row, member, rfl⟩, ?_, ?_⟩
      · rw [dispose_evaluationId, sameId]
      · exact dispose_island.mpr ((island_iff unique member).mpr (sameId ▸ kept))
  compact := chosen_iff unique (· = .compact) state.Named fun row member =>
    dispose_compact (protectedClosure_sound.undecided row member)
  delete := chosen_iff unique (· = .delete) (¬ state.Named ·) fun row member =>
    dispose_delete (protectedClosure_sound.undecided row member)
  affected := by
    intro evaluationId
    have released := @chosen_iff state floors runs remaining unique (· ≠ .island) (fun _ => True)
      (fun row _ => by rw [ne_eq, dispose_island, and_true]) evaluationId
    rwa [and_true] at released
  compactReports := by
    intro reportId
    have selected : reportId ∈ (state.planFor floors runs remaining).compactReports ↔
        reportId ∈ state.compactReportsOf floors.report runs
          (state.protectedClosure floors.evaluation runs).protectedRuns
          (state.planFor floors runs remaining).evaluations := Iff.rfl
    rw [selected]
    simp only [compactReportsOf, List.mem_map, List.mem_filter, decide_eq_true_eq]
    constructor
    · rintro ⟨report, ⟨stored, full, below, submission, submitted, same, candidate, free, cited⟩, rfl⟩
      exact ⟨report, stored, rfl, full, below, submission, submitted, same,
        dead_iff.mpr ⟨candidate, free⟩, cited.imp_right (compactTrigger_iff unique).mp⟩
    · rintro ⟨report, stored, rfl, full, below, submission, submitted, same, expired, cited⟩
      obtain ⟨candidate, free⟩ := dead_iff.mp expired
      exact ⟨report, ⟨stored, full, below, submission, submitted, same, candidate, free,
        cited.imp_right (compactTrigger_iff unique).mpr⟩, rfl⟩
  candidates := by
    intro evaluationId
    constructor
    · rintro ⟨row, member, rfl⟩
      obtain ⟨earlier, stored, rfl⟩ := mem_plan_evaluations.mp member
      rw [dispose_evaluationId]
      exact selects_of_row stored
    · intro selected
      obtain ⟨row, member, rfl⟩ := row_of_selects selected
      exact ⟨state.dispose row, mem_plan_evaluations.mpr ⟨row, member, rfl⟩, dispose_evaluationId row⟩

end Plan

/-! ## The plan that an expiry makes -/

theorem planExpiry_chosen {cutoff : Timestamp} {maxCandidateRuns : Option Nat}
    (unique : (state.evaluationRuns.map EvaluationRun.evaluationId).Nodup) :
    (state.planExpiry cutoff maxCandidateRuns).Chosen state cutoff := by
  have candidate : ∀ runId ∈ (state.planExpiry cutoff maxCandidateRuns).runs,
      runId ∈ state.agedRuns cutoff := by
    intro runId member
    exact List.mem_of_mem_filter ((candidateRuns_sublist _).subset member)
  have stored : ∀ runId ∈ (state.planExpiry cutoff maxCandidateRuns).runs, ∃ run ∈ state.watcherRuns,
      run.runId = runId ∧ state.Aged cutoff run ∧ state.FullRun run.runId := by
    intro runId member
    have old := candidate runId member
    simp only [agedRuns, List.mem_map, List.mem_filter, decide_eq_true_eq] at old
    obtain ⟨run, ⟨listed, aged, full⟩, rfl⟩ := old
    exact ⟨run, listed, rfl, aged, full⟩
  refine { toSpec := planFor_spec unique, floors := rfl, aged := ?_, full := ?_, within := ?_, settled := ?_ }
  · intro runId member
    obtain ⟨run, listed, same, aged, _⟩ := stored runId member
    exact ⟨run, listed, same, aged⟩
  · intro runId member
    obtain ⟨run, _, rfl, _, full⟩ := stored runId member
    exact full
  · exact fun runId member => within_of_mem_candidateRuns member
  · intro run listed aged full settled within
    refine mem_candidateRuns_of_within ?_ within
    refine List.mem_filter.mpr ⟨?_, decide_eq_true ?_⟩
    · refine List.mem_map.mpr ⟨run, List.mem_filter.mpr ⟨listed, decide_eq_true ⟨aged, full⟩⟩, rfl⟩
    · -- a batch leaves out only runs beyond the status floor
      cases maxCandidateRuns with
      | none => exact List.not_mem_nil
      | some limit =>
          intro trimmed
          have unsettled := List.mem_of_mem_drop trimmed
          simp only [List.mem_filter, decide_eq_true_eq] at unsettled
          exact unsettled.2 settled

/-! ## Rows after the mutations -/

section Mutations

variable {identityDigest : IdentityDigest} {cutoff : Timestamp} {plan : ExpiryPlan}

@[simp] theorem compactEvaluation_evaluationId (evaluation : EvaluationRun) :
    (compactEvaluation plan evaluation).evaluationId = evaluation.evaluationId := by
  unfold compactEvaluation
  split <;> rfl

theorem compactEvaluation_eq (evaluation : EvaluationRun) :
    compactEvaluation plan evaluation = { evaluation with
      sourceExpired := (compactEvaluation plan evaluation).sourceExpired
      detailJson := (compactEvaluation plan evaluation).detailJson } := by
  unfold compactEvaluation
  split <;> rfl

theorem mem_applyPlan_evaluationRuns {evaluation : EvaluationRun} :
    evaluation ∈ (state.applyPlan identityDigest cutoff plan).evaluationRuns ↔
      ∃ old ∈ state.evaluationRuns, ¬ plan.Disposed .delete old.evaluationId ∧
        compactEvaluation plan old = evaluation := by
  simp [applyPlan, and_assoc]

theorem mem_applyPlan_admittedReports {report : AdmittedReport} :
    report ∈ (state.applyPlan identityDigest cutoff plan).admittedReports ↔
      ∃ old ∈ state.admittedReports,
        (state.DeadSubmission plan old.submissionId → old.reportId ∈ plan.compactReports) ∧
        compactReport plan old = report := by
  simp [applyPlan, and_assoc, imp_iff_not_or]

theorem mem_applyPlan_providerIntakeAttempts {intake : ProviderIntakeAttempt} :
    intake ∈ (state.applyPlan identityDigest cutoff plan).providerIntakeAttempts ↔
      ∃ old ∈ state.providerIntakeAttempts, state.retireIntake identityDigest plan old = intake := by
  simp [applyPlan]

@[simp] theorem compactReport_reportId (report : AdmittedReport) :
    (compactReport plan report).reportId = report.reportId := by
  unfold compactReport
  split <;> rfl

@[simp] theorem compactReport_submissionId (report : AdmittedReport) :
    (compactReport plan report).submissionId = report.submissionId := by
  unfold compactReport
  split <;> rfl

@[simp] theorem compactReport_reportSequence (report : AdmittedReport) :
    (compactReport plan report).reportSequence = report.reportSequence := by
  unfold compactReport
  split <;> rfl

@[simp] theorem compactSubmission_submissionId (submission : RawSubmission) :
    (state.compactSubmission plan submission).submissionId = submission.submissionId := by
  unfold compactSubmission
  split <;> rfl

@[simp] theorem compactSubmission_runId (submission : RawSubmission) :
    (state.compactSubmission plan submission).runId = submission.runId := by
  unfold compactSubmission
  split <;> rfl

@[simp] theorem retireIntake_intakeId (intake : ProviderIntakeAttempt) :
    (state.retireIntake identityDigest plan intake).intakeId = intake.intakeId := by
  unfold retireIntake
  split <;> rfl

@[simp] theorem retireIntake_intakeSequence (intake : ProviderIntakeAttempt) :
    (state.retireIntake identityDigest plan intake).intakeSequence = intake.intakeSequence := by
  unfold retireIntake
  split <;> rfl

section Frame

variable (keys : UniqueKeys state) (spec : plan.Spec state)

include spec in
theorem affected_of_delete {evaluationId : String} (deleted : plan.Disposed .delete evaluationId) :
    plan.Affected evaluationId := by
  obtain ⟨selected, released, _⟩ := (spec.delete _).mp deleted
  exact (spec.affected _).mpr ⟨selected, released⟩

include keys spec in
/-- An affected evaluation is a full one at or below the new floor that the closure
does not hold. -/
theorem affected_iff {evaluation : EvaluationRun} (member : evaluation ∈ state.evaluationRuns) :
    plan.Affected evaluation.evaluationId ↔ state.Candidate plan.floors.evaluation evaluation ∧
      ¬ plan.Holds state (.evaluation evaluation.evaluationId) := by
  rw [spec.affected]
  constructor
  · rintro ⟨⟨other, candidate, same⟩, released⟩
    rw [eq_of_evaluationId keys.evaluation.evaluationId candidate.1 member same] at candidate
    exact ⟨candidate, released⟩
  · rintro ⟨candidate, released⟩
    exact ⟨⟨evaluation, candidate, rfl⟩, released⟩

end Frame

end Mutations

end StoreState

end ConstellationNq.Store
