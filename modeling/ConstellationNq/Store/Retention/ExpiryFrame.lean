import ConstellationNq.Store.EvaluationShapeProperties

/-!
# What an expiry does not change

The answers that later decisions rest on, read before and after an expiry. Each of them
depends on a row that the planner counts among the roots.
-/

set_option autoImplicit false

namespace ConstellationNq.Store

open Library.Loop Library.Sequence

namespace StoreState

section Readers

variable (state : StoreState)

/-- `latest_checkpoint`, for a digest that it accepts. -/
def latestCheckpoint (instanceId checkpointContractDigest : String) : Option String :=
  ((state.admittedReports.filter fun report =>
    state.CheckpointReport instanceId checkpointContractDigest report).maxOn?
      AdmittedReport.reportSequence).bind AdmittedReport.nextCheckpointJson

def latestReport (instanceId : String) : Option AdmittedReport :=
  (state.admittedReports.filter fun report => report.instanceId = instanceId).maxOn? AdmittedReport.reportSequence

/-- The full evaluation with the highest revision, by the detector and the fields that
`lineage_newest_sql` compares. -/
def newestEvaluation (detector : String × String) (lineage : Lineage) : Option EvaluationRun :=
  (state.evaluationRuns.filter fun evaluation => evaluation.sourceExpired = false ∧
    (evaluation.detectorId, evaluation.detectorVersion) = detector ∧
    evaluation.detailJson.lineage = lineage).maxOn? EvaluationRun.evaluationRevision

end Readers

/-- Two states give the same answers. -/
structure SameObservables (before after : StoreState) : Prop where
  checkpoint : ∀ instanceId checkpointContractDigest,
    after.latestCheckpoint instanceId checkpointContractDigest =
      before.latestCheckpoint instanceId checkpointContractDigest
  statusCurrent : after.statusCurrent = before.statusCurrent
  status : ∀ current ∈ before.statusCurrent, ∀ status : StatusEvent,
    status.statusEventId = current.latestStatusEventId → (status ∈ after.statusEvents ↔ status ∈ before.statusEvents)
  findings : after.toFindingTables = before.toFindingTables
  evaluation : ∀ detector lineage, after.newestEvaluation detector lineage = before.newestEvaluation detector lineage
  report : ∀ instanceId, after.latestReport instanceId = before.latestReport instanceId
  savedChecks : after.toSavedCheckTables = before.toSavedCheckTables
  origins : after.toOriginTables = before.toOriginTables
  named : ∀ evaluation : EvaluationRun,
    before.PendingClaim evaluation.evaluationId ∨ before.DiagnosticOrigin evaluation.evaluationId →
      (evaluation ∈ after.evaluationRuns ↔ evaluation ∈ before.evaluationRuns)
  run : ∀ run : WatcherRun, before.RunOrigin run.runId ∨ before.SuccessorIntent run.runId →
    (run ∈ after.watcherRuns ↔ run ∈ before.watcherRuns)
  collection : ∀ runId, before.RunOrigin runId ∨ before.SuccessorIntent runId →
    before.reportsOf runId ⊆ after.reportsOf runId ∧ before.intakesOf runId ⊆ after.intakesOf runId ∧
      before.statusesOf runId ⊆ after.statusesOf runId

variable {state : StoreState} {identityDigest : IdentityDigest} {cutoff : Timestamp} {plan : ExpiryPlan}

/-! ## What the plan spares -/

variable {report : AdmittedReport}

section Spared

variable (spec : plan.Spec state)

include spec

variable {runId : String}

theorem not_dead_of_root (root : state.RunRoot runId) : ¬ plan.Dead runId := by
  intro dead
  obtain ⟨candidate, released⟩ := (spec.dead runId).mp dead
  exact released (.runRoot candidate root)

theorem not_affected_of_root {evaluationId : String} (root : ∀ evaluation ∈ state.evaluationRuns,
    evaluation.evaluationId = evaluationId → state.EvaluationRoot evaluation) : ¬ plan.Affected evaluationId := by
  intro affected
  obtain ⟨⟨evaluation, candidate, rfl⟩, released⟩ := (spec.affected evaluationId).mp affected
  exact released (.evaluationRoot candidate (root evaluation candidate.1 rfl))

theorem not_affected_iff {evaluationId : String} : ¬ plan.Affected evaluationId ↔
    ¬ plan.Disposed .delete evaluationId ∧ ¬ plan.Disposed .compact evaluationId := by
  rw [spec.affected, spec.delete, spec.compact]
  tauto

theorem mem_evaluationRuns_iff {evaluation : EvaluationRun} (spared : ¬ plan.Affected evaluation.evaluationId) :
    evaluation ∈ (state.applyPlan identityDigest cutoff plan).evaluationRuns ↔ evaluation ∈ state.evaluationRuns := by
  obtain ⟨remains, uncompacted⟩ := (not_affected_iff spec).mp spared
  rw [mem_applyPlan_evaluationRuns]
  constructor
  · rintro ⟨old, stored, _, rfl⟩
    rw [compactEvaluation_evaluationId] at uncompacted
    rwa [compactEvaluation, if_neg uncompacted]
  · exact fun stored => ⟨evaluation, stored, remains, if_neg uncompacted⟩

theorem not_affected_of_full {evaluation : EvaluationRun}
    (kept : evaluation ∈ (state.applyPlan identityDigest cutoff plan).evaluationRuns)
    (full : evaluation.sourceExpired = false) : ¬ plan.Affected evaluation.evaluationId := by
  obtain ⟨old, stored, remains, rfl⟩ := mem_applyPlan_evaluationRuns.mp kept
  rw [compactEvaluation_evaluationId]
  refine (not_affected_iff spec).mpr ⟨remains, fun compacted => ?_⟩
  rw [compactEvaluation, if_pos compacted] at full
  cases full

variable (keys : UniqueKeys state)

include keys

theorem report_alive (member : report ∈ state.admittedReports)
    (alive : ∀ runId, report ∈ state.reportsOf runId → ¬ plan.Dead runId) :
    report ∈ (state.applyPlan identityDigest cutoff plan).admittedReports := by
  have spared : ∀ submission ∈ state.rawSubmissions, submission.submissionId = report.submissionId →
      ¬ plan.Dead submission.runId := fun submission submitted same =>
    alive submission.runId (state.mem_reportsOf.mpr ⟨member, submission, submitted, same, rfl⟩)
  refine mem_applyPlan_admittedReports.mpr ⟨report, member, ?_, if_neg fun compacted => ?_⟩
  · rintro ⟨submission, submitted, same, dead⟩
    exact absurd dead (spared submission submitted same)
  · obtain ⟨other, stored, same, _, _, submission, submitted, owner, dead, _⟩ :=
      (spec.compactReports report.reportId).mp compacted
    rw [eq_of_key keys.collection.reportId stored member same] at owner
    exact spared submission submitted owner dead

theorem reportsOf_alive (alive : ¬ plan.Dead runId) (owned : report ∈ state.reportsOf runId) :
    report ∈ (state.applyPlan identityDigest cutoff plan).reportsOf runId := by
  obtain ⟨member, submission, submitted, same, owner⟩ := state.mem_reportsOf.mp owned
  refine (mem_reportsOf _).mpr ⟨report_alive spec keys member fun otherRun otherOwned => ?_,
    state.compactSubmission plan submission, List.mem_map_of_mem (List.mem_filter.mpr ⟨submitted, ?_⟩),
    by rw [compactSubmission_submissionId, same], by rw [compactSubmission_runId, owner]⟩
  · obtain ⟨_, other, otherSubmitted, otherSame, rfl⟩ := state.mem_reportsOf.mp otherOwned
    rwa [eq_of_key keys.collection.submissionId otherSubmitted submitted (otherSame.trans same.symm), owner]
  · simp [owner, alive]

omit spec in
/-- An intake retires only with the run that it is linked to. -/
theorem intakesOf_alive (alive : ¬ plan.Dead runId) :
    state.intakesOf runId ⊆ (state.applyPlan identityDigest cutoff plan).intakesOf runId := by
  intro intake owned
  obtain ⟨stored, link, linked, same, owner⟩ := state.mem_intakesOf.mp owned
  have unlinked : state.retiringLink plan intake = none := by
    unfold retiringLink
    split
    · refine List.find?_eq_none.mpr fun retiring listed named => alive ?_
      obtain ⟨other, chosen, rfl⟩ := List.mem_map.mp listed
      obtain ⟨otherLinked, dead⟩ := List.mem_filter.mp chosen
      have isLink : other = link := eq_of_key keys.collection.linkIntakeId otherLinked linked
        ((of_decide_eq_true named).trans same.symm)
      rw [isLink, owner] at dead
      exact of_decide_eq_true dead
    · rfl
  refine (mem_intakesOf _).mpr ⟨mem_applyPlan_providerIntakeAttempts.mpr ⟨intake, stored, ?_⟩, link,
    List.mem_filter.mpr ⟨linked, by simpa [owner] using alive⟩, same, owner⟩
  rw [retireIntake, unlinked]

omit spec keys in
theorem statusesOf_alive (alive : ¬ plan.Dead runId) :
    state.statusesOf runId ⊆ (state.applyPlan identityDigest cutoff plan).statusesOf runId := by
  intro status owned
  obtain ⟨stored, owner⟩ := state.mem_statusesOf.mp owned
  exact (mem_statusesOf _).mpr ⟨List.mem_filter.mpr ⟨stored, by simpa [owner] using alive⟩, owner⟩

end Spared

/-! ## The readers -/

section Reads

variable (spec : plan.Spec state) (keys : UniqueKeys state)

variable {checkpointContractDigest : String}

theorem mem_of_checkpointReport {instanceId : String}
    (reads : state.CheckpointReport instanceId checkpointContractDigest report) : report ∈ state.admittedReports := by
  obtain ⟨_, _, _, _, _, owned, _⟩ := reads
  exact (state.mem_reportsOf.mp owned).1

/-- Only full reports carry a checkpoint, and no row is added. -/
theorem checkpointReport_of_applyPlan {instanceId : String}
    (reads : (state.applyPlan identityDigest cutoff plan).CheckpointReport instanceId checkpointContractDigest report) :
    state.CheckpointReport instanceId checkpointContractDigest report := by
  obtain ⟨same, given, run, stored, contract, owned, link, linked, owner, acknowledgment, acknowledged, named⟩ := reads
  refine ⟨same, given, run, List.mem_of_mem_filter stored, contract, ?_, link, List.mem_of_mem_filter linked, owner,
    acknowledgment, List.mem_of_mem_filter acknowledged, named⟩
  obtain ⟨kept, submission, submitted, sameSubmission, ownerRun⟩ := (mem_reportsOf _).mp owned
  obtain ⟨old, oldStored, _, rfl⟩ := mem_applyPlan_admittedReports.mp kept
  obtain ⟨oldSubmission, chosen, rfl⟩ := List.mem_map.mp submitted
  have uncompacted : compactReport plan old = old := by
    refine if_neg fun compacted => ?_
    rw [compactReport, if_pos compacted] at given
    cases given
  rw [uncompacted] at sameSubmission ⊢
  rw [compactSubmission_submissionId] at sameSubmission
  rw [compactSubmission_runId] at ownerRun
  exact state.mem_reportsOf.mpr ⟨oldStored, oldSubmission, List.mem_of_mem_filter chosen, sameSubmission, ownerRun⟩

include spec keys

theorem checkpointReport_applyPlan {instanceId checkpointContractDigest : String} {report : AdmittedReport}
    (reads : state.CheckpointReport instanceId checkpointContractDigest report)
    (newest : ∀ newer, state.CheckpointReport instanceId checkpointContractDigest newer →
      newer.reportSequence ≤ report.reportSequence) :
    (state.applyPlan identityDigest cutoff plan).CheckpointReport instanceId checkpointContractDigest report := by
  obtain ⟨same, given, run, stored, contract, owned, acknowledged⟩ := reads
  have alive : ¬ plan.Dead run.runId := by
    refine not_dead_of_root spec (.inr (.inr (.inr (.inr (.inl ⟨report, owned, given, run, stored, rfl,
      acknowledged, ?_⟩)))))
    rintro ⟨newer, _, _, later, newerReads⟩
    rw [same, contract] at newerReads
    exact absurd later (not_lt.mpr (newest newer newerReads))
  obtain ⟨link, linked, owner, acknowledgment, given', named⟩ := acknowledged
  refine ⟨same, given, run, List.mem_filter.mpr ⟨stored, ?_⟩, contract, reportsOf_alive spec keys alive owned,
    link, List.mem_filter.mpr ⟨linked, ?_⟩, owner, acknowledgment, List.mem_filter.mpr ⟨given', ?_⟩, named⟩
  · exact decide_eq_true fun ⟨dead, listed, isRun, _⟩ => alive ⟨dead, listed, isRun⟩
  · simpa [owner] using alive
  · simpa [named.2, owner] using alive

theorem latestCheckpoint_applyPlan (instanceId checkpointContractDigest : String) :
    (state.applyPlan identityDigest cutoff plan).latestCheckpoint instanceId checkpointContractDigest =
      state.latestCheckpoint instanceId checkpointContractDigest := by
  refine congrArg (Option.bind · AdmittedReport.nextCheckpointJson) (maxOn?_eq_of_origins
    (nodup_key_filter (uniqueKeys_applyPlan keys).collection.reportSequence _) ?_ ?_)
  · intro report chosen
    have reads := checkpointReport_of_applyPlan (of_decide_eq_true (List.mem_filter.mp chosen).2)
    exact ⟨report, List.mem_filter.mpr ⟨mem_of_checkpointReport reads, decide_eq_true reads⟩, rfl⟩
  · intro report latest
    obtain ⟨_, reads⟩ := List.mem_filter.mp (List.maxOn?_mem latest)
    have stays : (state.applyPlan identityDigest cutoff plan).CheckpointReport instanceId checkpointContractDigest
        report := by
      refine checkpointReport_applyPlan spec keys (of_decide_eq_true reads) fun newer newerReads => ?_
      exact le_of_maxOn? latest
        (List.mem_filter.mpr ⟨mem_of_checkpointReport newerReads, decide_eq_true newerReads⟩)
    exact List.mem_filter.mpr ⟨mem_of_checkpointReport stays, decide_eq_true stays⟩

theorem latestReport_applyPlan (instanceId : String) :
    (state.applyPlan identityDigest cutoff plan).latestReport instanceId = state.latestReport instanceId := by
  refine maxOn?_eq_of_origins (nodup_key_filter (uniqueKeys_applyPlan keys).collection.reportSequence _) ?_ ?_
  · intro report chosen
    obtain ⟨member, same⟩ := List.mem_filter.mp chosen
    obtain ⟨old, stored, _, rfl⟩ := mem_applyPlan_admittedReports.mp member
    have sameInstance : (compactReport plan old).instanceId = old.instanceId := by
      unfold compactReport
      split <;> rfl
    rw [sameInstance] at same
    exact ⟨old, List.mem_filter.mpr ⟨stored, same⟩, (compactReport_reportSequence old).symm⟩
  · intro report latest
    obtain ⟨member, same⟩ := List.mem_filter.mp (List.maxOn?_mem latest)
    have newest : some report.reportSequence = state.latestReportSequence report.instanceId := by
      rw [of_decide_eq_true same]
      refine (List.max?_eq_some_iff.mpr ⟨List.mem_map_of_mem (List.maxOn?_mem latest), ?_⟩).symm
      intro sequence listed
      obtain ⟨other, chosen, rfl⟩ := List.mem_map.mp listed
      exact le_of_maxOn? latest chosen
    refine List.mem_filter.mpr ⟨report_alive spec keys member fun runId owned => not_dead_of_root spec ?_, same⟩
    exact .inr (.inr (.inr (.inl ⟨report, owned, newest⟩)))

theorem newestEvaluation_applyPlan (detector : String × String) (lineage : Lineage) :
    (state.applyPlan identityDigest cutoff plan).newestEvaluation detector lineage =
      state.newestEvaluation detector lineage := by
  refine maxOn?_eq_of_origins ?_ ?_ ?_
  · have keysAfter : UniqueKeys (state.applyPlan identityDigest cutoff plan) := uniqueKeys_applyPlan keys
    refine (nodup_revisionsOf keysAfter.evaluation.evaluationRevision detector).sublist ?_
    refine List.Sublist.map _ (List.monotone_filter_right _ fun evaluation of => ?_)
    exact decide_eq_true (of_decide_eq_true of).2.1
  · intro evaluation chosen
    obtain ⟨kept, of⟩ := List.mem_filter.mp chosen
    have spared := not_affected_of_full spec kept (of_decide_eq_true of).1
    exact ⟨evaluation, List.mem_filter.mpr ⟨(mem_evaluationRuns_iff spec spared).mp kept, of⟩, rfl⟩
  · intro evaluation newest
    obtain ⟨stored, of⟩ := List.mem_filter.mp (List.maxOn?_mem newest)
    obtain ⟨_, sameDetector, sameLineage⟩ := of_decide_eq_true of
    refine List.mem_filter.mpr ⟨(mem_evaluationRuns_iff spec ?_).mpr stored, of⟩
    refine not_affected_of_root spec fun other otherStored same => .inr (.inr (.inr ?_))
    rw [eq_of_key keys.evaluation.evaluationId otherStored stored same]
    rintro ⟨newer, listed, _, newerId, newerVersion, later, newerFull, newerLineage⟩
    have earlier := le_of_maxOn? newest (List.mem_filter.mpr ⟨listed, decide_eq_true
      ⟨newerFull, by rw [newerId, newerVersion, sameDetector], newerLineage.trans sameLineage⟩⟩)
    omega

theorem sameObservables_applyPlan : state.SameObservables (state.applyPlan identityDigest cutoff plan) where
  checkpoint := latestCheckpoint_applyPlan spec keys
  statusCurrent := rfl
  status := by
    intro current member status same
    refine ⟨List.mem_of_mem_filter, fun stored => List.mem_filter.mpr ⟨stored, decide_eq_true ?_⟩⟩
    rintro ⟨runId, owner, dead⟩
    refine not_dead_of_root spec (.inr (.inr (.inl ⟨status, ?_, current, member, same.symm⟩))) dead
    exact state.mem_statusesOf.mpr ⟨stored, owner⟩
  findings := rfl
  evaluation := newestEvaluation_applyPlan spec keys
  report := latestReport_applyPlan spec keys
  savedChecks := rfl
  origins := rfl
  named := by
    intro evaluation held
    refine mem_evaluationRuns_iff spec (not_affected_of_root spec fun other _ same => .inr ?_)
    rw [same]
    exact held.imp_right .inl
  run := by
    intro run named
    refine ⟨List.mem_of_mem_filter, fun stored => List.mem_filter.mpr ⟨stored, decide_eq_true ?_⟩⟩
    rintro ⟨dead, listed, isRun, _⟩
    exact not_dead_of_root spec (named.elim (.inr ∘ .inl) .inl) ⟨dead, listed, isRun⟩
  collection := by
    intro runId named
    have alive : ¬ plan.Dead runId := not_dead_of_root spec (named.elim (.inr ∘ .inl) .inl)
    exact ⟨fun _ => reportsOf_alive spec keys alive, intakesOf_alive keys alive, statusesOf_alive alive⟩

end Reads

end StoreState

open StoreState

/-- An expiry of a reachable store changes no answer. -/
theorem expiry_keeps_observables {identityDigest : IdentityDigest} {state after : StoreState}
    {bounds : Option HistoryBounds} {cutoff : Timestamp} {maxCandidateRuns : Option Nat}
    (reachable : Reachable identityDigest state)
    (expired : state.apply identityDigest (.expire bounds cutoff maxCandidateRuns) = .ok after) :
    state.SameObservables after := by
  obtain ⟨outcome, ran, final⟩ := bind_eq_ok.mp expired
  obtain rfl := Except.ok.inj final
  obtain ⟨_, rfl⟩ | committed := expireOrdinaryBefore_cases ran
  · constructor
    case collection => exact fun _ _ => ⟨fun _ => id, fun _ => id, fun _ => id⟩
    all_goals intros; rfl
  · rw [committed.applied]
    exact sameObservables_applyPlan (reachable.chosen cutoff maxCandidateRuns).toSpec reachable.uniqueKeys

/-- The expiry deletes an evaluation that its lineage has outgrown. -/
theorem expiry_keeps_observables_deleted :
    Sample.expired.evaluationRuns.map EvaluationRun.evaluationId = ["second"] ∧
      Sample.evaluated.SameObservables Sample.expired :=
  ⟨by decide +kernel, expiry_keeps_observables Sample.reachable_evaluated Sample.apply_expires⟩

end ConstellationNq.Store
