import ConstellationNq.Store.Invariants.Keys
import ConstellationNq.Store.Retention.LineageFloors

/-!
# Evaluation numbers

Sequences are allocated from the highest one that survives, and revisions from the
highest that survives in their detector's lineage. An expiry keeps both: a row that
it deletes has a newer one in its lineage, with a higher revision and so a higher
sequence.
-/

set_option autoImplicit false

namespace ConstellationNq.Store

open Library.Sequence StoreState

def EvaluationRun.Of (evaluation : EvaluationRun) (detectorId detectorVersion : String) : Prop :=
  evaluation.detectorId = detectorId ∧ evaluation.detectorVersion = detectorVersion

namespace StoreState

variable {state after : StoreState} {evaluation : EvaluationRun}

theorem le_currentSequence (member : evaluation ∈ state.evaluationRuns) :
    evaluation.evaluationSequence ≤ state.currentSequence :=
  le_max_getD (List.mem_map_of_mem member)

variable {detectorId detectorVersion : String}

theorem le_currentRevision (member : evaluation ∈ state.evaluationRuns)
    (of : evaluation.Of detectorId detectorVersion) :
    evaluation.evaluationRevision ≤ state.currentRevision detectorId detectorVersion := by
  refine le_max_getD (List.mem_map_of_mem (List.mem_filter.mpr ⟨member, ?_⟩))
  exact decide_eq_true of

theorem exists_currentSequence (positive : 0 < state.currentSequence) :
    ∃ evaluation ∈ state.evaluationRuns, evaluation.evaluationSequence = state.currentSequence :=
  List.mem_map.mp (max_getD_mem positive)

theorem exists_currentRevision (positive : 0 < state.currentRevision detectorId detectorVersion) :
    ∃ evaluation ∈ state.evaluationRuns, evaluation.Of detectorId detectorVersion ∧
      evaluation.evaluationRevision = state.currentRevision detectorId detectorVersion := by
  obtain ⟨evaluation, member, same⟩ := List.mem_map.mp (max_getD_mem positive)
  rw [List.mem_filter, decide_eq_true_eq] at member
  exact ⟨evaluation, member.1, member.2, same⟩

theorem currentSequence_le {bound : Int} (nonnegative : 0 ≤ bound)
    (below : ∀ evaluation ∈ state.evaluationRuns, evaluation.evaluationSequence ≤ bound) :
    state.currentSequence ≤ bound := by
  refine max_getD_le nonnegative fun sequence member => ?_
  obtain ⟨evaluation, stored, rfl⟩ := List.mem_map.mp member
  exact below evaluation stored

theorem currentRevision_le {bound : Int} (nonnegative : 0 ≤ bound)
    (below : ∀ evaluation ∈ state.evaluationRuns, evaluation.Of detectorId detectorVersion →
      evaluation.evaluationRevision ≤ bound) : state.currentRevision detectorId detectorVersion ≤ bound := by
  refine max_getD_le nonnegative fun revision member => ?_
  obtain ⟨evaluation, selected, rfl⟩ := List.mem_map.mp member
  rw [List.mem_filter, decide_eq_true_eq] at selected
  exact below evaluation selected.1 selected.2

/-- Sequences and revisions are positive and in order. -/
structure NumberedRows (state : StoreState) : Prop where
  rowid : ∀ evaluation ∈ state.evaluationRuns, evaluation.rowid = evaluation.evaluationSequence
  sorted : (state.evaluationRuns.map EvaluationRun.evaluationSequence).Pairwise (· < ·)
  sequencePositive : ∀ evaluation ∈ state.evaluationRuns, 0 < evaluation.evaluationSequence
  revisionPositive : ∀ evaluation ∈ state.evaluationRuns, 0 < evaluation.evaluationRevision
  ordered : ∀ earlier ∈ state.evaluationRuns, ∀ later ∈ state.evaluationRuns,
    later.Of earlier.detectorId earlier.detectorVersion →
    earlier.evaluationSequence < later.evaluationSequence →
    earlier.evaluationRevision < later.evaluationRevision

/-- There is no gap above the floor. -/
structure FlooredSequences (state : StoreState) : Prop where
  floorNonnegative : 0 ≤ state.retention.evaluationFloor
  floor : state.retention.evaluationFloor ≤ state.currentSequence
  dense : ∀ sequence, state.retention.evaluationFloor < sequence → sequence ≤ state.currentSequence →
    ∃ evaluation ∈ state.evaluationRuns, evaluation.evaluationSequence = sequence

/-- Nor is there one in a lineage above its floor, which the sequences agree with. -/
structure FlooredLineages (state : StoreState) : Prop where
  lineageDistinct : (floorKeys state.retention.lineageFloors).Nodup
  lineagePositive : ∀ lineage ∈ state.retention.lineageFloors, 0 < lineage.revision
  lineageFloor : ∀ detectorId detectorVersion,
    state.lineageFloor detectorId detectorVersion ≤ state.currentRevision detectorId detectorVersion
  beyond : ∀ evaluation ∈ state.evaluationRuns,
    state.retention.evaluationFloor < evaluation.evaluationSequence →
    state.lineageFloor evaluation.detectorId evaluation.detectorVersion < evaluation.evaluationRevision
  beneath : ∀ evaluation ∈ state.evaluationRuns,
    evaluation.evaluationSequence ≤ state.retention.evaluationFloor →
    evaluation.evaluationRevision ≤ state.lineageFloor evaluation.detectorId evaluation.detectorVersion
  lineageDense : ∀ detectorId detectorVersion revision,
    state.lineageFloor detectorId detectorVersion < revision →
    revision ≤ state.currentRevision detectorId detectorVersion →
    ∃ evaluation ∈ state.evaluationRuns, evaluation.Of detectorId detectorVersion ∧
      evaluation.evaluationRevision = revision
  /-- A retired revision belonged to a sequence below the floor that no other row has. -/
  retiredAt : ∀ detectorId detectorVersion, 0 < state.lineageFloor detectorId detectorVersion →
    ∃ sequence, sequence ≤ state.retention.evaluationFloor ∧
      (∀ evaluation ∈ state.evaluationRuns, evaluation.evaluationSequence = sequence →
        evaluation.Of detectorId detectorVersion ∧
        evaluation.evaluationRevision = state.lineageFloor detectorId detectorVersion) ∧
      ∀ evaluation ∈ state.evaluationRuns, evaluation.Of detectorId detectorVersion →
        evaluation.evaluationRevision < state.lineageFloor detectorId detectorVersion →
        evaluation.evaluationSequence < sequence

structure EvaluationNumbers (state : StoreState) : Prop extends NumberedRows state, FlooredSequences state,
  FlooredLineages state

theorem NumberedRows.sequenceNonnegative (rows : NumberedRows state) : 0 ≤ state.currentSequence := by
  refine max_getD_nonneg fun sequence member => ?_
  obtain ⟨evaluation, stored, rfl⟩ := List.mem_map.mp member
  exact (rows.sequencePositive evaluation stored).le

theorem NumberedRows.currentRevision_nonnegative (rows : NumberedRows state) (detectorId detectorVersion : String) :
    0 ≤ state.currentRevision detectorId detectorVersion := by
  refine max_getD_nonneg fun revision member => ?_
  obtain ⟨evaluation, selected, rfl⟩ := List.mem_map.mp member
  exact (rows.revisionPositive evaluation (List.mem_filter.mp selected).1).le

namespace EvaluationNumbers

theorem lineageNonnegative (numbers : EvaluationNumbers state) (detectorId detectorVersion : String) :
    0 ≤ state.lineageFloor detectorId detectorVersion := by
  unfold StoreState.lineageFloor
  cases found : state.retention.lineageFloors.find? fun lineage =>
      lineage.detectorId = detectorId ∧ lineage.detectorVersion = detectorVersion with
  | none => exact le_rfl
  | some lineage => exact (numbers.lineagePositive lineage (List.mem_of_find?_eq_some found)).le

theorem sequence_lt_of_revision_lt (numbers : EvaluationNumbers state) {earlier later : EvaluationRun}
    (earlierMember : earlier ∈ state.evaluationRuns) (laterMember : later ∈ state.evaluationRuns)
    (of : later.Of earlier.detectorId earlier.detectorVersion)
    (revised : earlier.evaluationRevision < later.evaluationRevision) :
    earlier.evaluationSequence < later.evaluationSequence := by
  rcases lt_trichotomy earlier.evaluationSequence later.evaluationSequence with below | same | above
  · exact below
  · have distinct : (state.evaluationRuns.map EvaluationRun.evaluationSequence).Nodup :=
      numbers.sorted.imp fun lower => ne_of_lt lower
    have equal := eq_of_key distinct earlierMember laterMember same
    rw [equal] at revised
    exact absurd revised (lt_irrefl _)
  · have reversed := numbers.ordered later laterMember earlier earlierMember ⟨of.1.symm, of.2.symm⟩ above
    exact absurd (revised.trans reversed) (lt_irrefl _)

end EvaluationNumbers

theorem evaluationNumbers_empty : EvaluationNumbers StoreState.empty := by
  refine ⟨⟨?_, .nil, ?_, ?_, ?_⟩, ⟨le_rfl, le_rfl, ?_⟩,
    ⟨List.nodup_nil, ?_, fun _ _ => le_rfl, ?_, ?_, ?_, fun _ _ positive => absurd positive (lt_irrefl 0)⟩⟩
  case refine_5 =>
    intro sequence above below
    change 0 < sequence at above
    change sequence ≤ 0 at below
    omega
  case refine_9 =>
    intro _ _ revision above below
    change 0 < revision at above
    change revision ≤ 0 at below
    omega
  all_goals
    intro row member
    cases member

/-! ## Allocation -/

theorem currentSequence_of_step {input : EvaluationCommitInput} (step : EvaluationStep state input after) :
    after.currentSequence = state.currentSequence + 1 := by
  unfold currentSequence
  rw [step.evaluationRuns, List.map_append, List.map_cons, List.map_nil]
  exact max_getD_append_succ _

theorem currentRevision_of_step {input : EvaluationCommitInput} (step : EvaluationStep state input after)
    (detectorId detectorVersion : String) :
    after.currentRevision detectorId detectorVersion =
      if (state.newEvaluation input.evaluation).detectorId = detectorId ∧
          (state.newEvaluation input.evaluation).detectorVersion = detectorVersion then
        state.currentRevision detectorId detectorVersion + 1
      else
        state.currentRevision detectorId detectorVersion := by
  unfold currentRevision
  rw [step.evaluationRuns, List.filter_append, List.map_append]
  split
  · rename_i same
    have allocated : (state.newEvaluation input.evaluation).evaluationRevision =
        state.currentRevision detectorId detectorVersion + 1 := by
      rw [← same.1, ← same.2]
      rfl
    rw [List.filter_cons_of_pos (by simpa using same), List.filter_nil, List.map_cons, List.map_nil,
      allocated]
    exact max_getD_append_succ _
  · rename_i other
    rw [List.filter_cons_of_neg (by simpa using other), List.filter_nil, List.map_nil, List.append_nil]

section Step

variable {input : EvaluationCommitInput} (step : EvaluationStep state input after) (numbers : EvaluationNumbers state)

include step

private theorem mem_of_step (evaluation : EvaluationRun) : evaluation ∈ after.evaluationRuns ↔
    evaluation ∈ state.evaluationRuns ∨ evaluation = state.newEvaluation input.evaluation := by
  rw [step.evaluationRuns, List.mem_append, List.mem_singleton]

private theorem lineageFloor_of_step (detectorId detectorVersion : String) :
    after.lineageFloor detectorId detectorVersion = state.lineageFloor detectorId detectorVersion := by
  unfold StoreState.lineageFloor
  rw [step.same.retention]

omit step in
private theorem newEvaluation_revision : (state.newEvaluation input.evaluation).evaluationRevision =
    state.currentRevision (state.newEvaluation input.evaluation).detectorId
      (state.newEvaluation input.evaluation).detectorVersion + 1 := rfl

include numbers

private theorem numberedRows_step : NumberedRows after := by
  have sequence : (state.newEvaluation input.evaluation).evaluationSequence = state.currentSequence + 1 := rfl
  have revision := @newEvaluation_revision state input
  have member := mem_of_step step
  have highest := numbers.sequenceNonnegative
  constructor
  case rowid =>
    intro evaluation stored
    rcases (member evaluation).mp stored with old | rfl
    · exact numbers.rowid evaluation old
    · have same : state.evaluationRuns.map EvaluationRun.rowid =
          state.evaluationRuns.map EvaluationRun.evaluationSequence :=
        List.map_congr_left numbers.rowid
      change nextRowid _ = _
      rw [same]
      rfl
  case sorted =>
    rw [step.evaluationRuns, List.map_append, List.pairwise_append]
    refine ⟨numbers.sorted, List.pairwise_singleton _ _, ?_⟩
    intro low lowMember high highMember
    obtain ⟨earlier, stored, rfl⟩ := List.mem_map.mp lowMember
    rw [List.map_cons, List.map_nil, List.mem_singleton] at highMember
    rw [highMember, sequence]
    exact Int.lt_add_one_of_le (le_currentSequence stored)
  case sequencePositive =>
    intro evaluation stored
    rcases (member evaluation).mp stored with old | rfl
    · exact numbers.sequencePositive evaluation old
    · omega
  case revisionPositive =>
    intro evaluation stored
    rcases (member evaluation).mp stored with old | rfl
    · exact numbers.revisionPositive evaluation old
    · have := numbers.currentRevision_nonnegative (state.newEvaluation input.evaluation).detectorId
        (state.newEvaluation input.evaluation).detectorVersion
      omega
  case ordered =>
    intro earlier earlierMember later laterMember of below
    rcases (member later).mp laterMember with oldLater | rfl
    · rcases (member earlier).mp earlierMember with oldEarlier | rfl
      · exact numbers.ordered earlier oldEarlier later oldLater of below
      · have := le_currentSequence oldLater
        omega
    · rcases (member earlier).mp earlierMember with oldEarlier | rfl
      · have bounded := le_currentRevision oldEarlier ⟨of.1.symm, of.2.symm⟩
        omega
      · exact absurd below (lt_irrefl _)

private theorem flooredSequences_step : FlooredSequences after := by
  constructor
  case floorNonnegative =>
    rw [step.same.retention]
    exact numbers.floorNonnegative
  case floor =>
    rw [step.same.retention, currentSequence_of_step step]
    exact numbers.floor.trans (Int.le_add_one le_rfl)
  case dense =>
    intro wanted above below
    rw [step.same.retention] at above
    rw [currentSequence_of_step step] at below
    rcases Int.le_add_one_iff.mp below with old | rfl
    · obtain ⟨evaluation, stored, same⟩ := numbers.dense wanted above old
      exact ⟨evaluation, (mem_of_step step evaluation).mpr (.inl stored), same⟩
    · exact ⟨_, (mem_of_step step _).mpr (.inr rfl), rfl⟩

private theorem flooredLineages_step : FlooredLineages after := by
  have sequence : (state.newEvaluation input.evaluation).evaluationSequence = state.currentSequence + 1 := rfl
  have revision := @newEvaluation_revision state input
  have member := mem_of_step step
  have floors := lineageFloor_of_step step
  have grown := currentRevision_of_step step
  constructor
  case lineageDistinct =>
    rw [step.same.retention]
    exact numbers.lineageDistinct
  case lineagePositive =>
    rw [step.same.retention]
    exact numbers.lineagePositive
  case lineageFloor =>
    intro detectorId detectorVersion
    have old := numbers.lineageFloor detectorId detectorVersion
    rw [floors, grown]
    split <;> omega
  case beyond =>
    intro evaluation stored above
    rw [step.same.retention] at above
    rw [floors]
    rcases (member evaluation).mp stored with old | rfl
    · exact numbers.beyond evaluation old above
    · have bounded := numbers.lineageFloor (state.newEvaluation input.evaluation).detectorId
        (state.newEvaluation input.evaluation).detectorVersion
      omega
  case beneath =>
    intro evaluation stored below
    rw [step.same.retention] at below
    rw [floors]
    rcases (member evaluation).mp stored with old | rfl
    · exact numbers.beneath evaluation old below
    · have := numbers.floor
      omega
  case lineageDense =>
    intro detectorId detectorVersion wanted above below
    rw [floors] at above
    rw [grown] at below
    split at below
    · rename_i same
      rcases Int.le_add_one_iff.mp below with old | rfl
      · obtain ⟨evaluation, stored, of, equal⟩ := numbers.lineageDense detectorId detectorVersion wanted above old
        exact ⟨evaluation, (member evaluation).mpr (.inl stored), of, equal⟩
      · refine ⟨_, (member _).mpr (.inr rfl), same, ?_⟩
        rw [revision, same.1, same.2]
    · obtain ⟨evaluation, stored, of, equal⟩ := numbers.lineageDense detectorId detectorVersion wanted above below
      exact ⟨evaluation, (member evaluation).mpr (.inl stored), of, equal⟩
  case retiredAt =>
    intro detectorId detectorVersion positive
    rw [floors] at positive
    obtain ⟨retired, within, unique, earlier⟩ := numbers.retiredAt detectorId detectorVersion positive
    rw [floors, step.same.retention]
    refine ⟨retired, within, fun evaluation stored same => ?_, fun evaluation stored of below => ?_⟩
    · rcases (member evaluation).mp stored with old | rfl
      · exact unique evaluation old same
      · have := numbers.floor
        omega
    · rcases (member evaluation).mp stored with old | rfl
      · exact earlier evaluation old of below
      · have bounded := numbers.lineageFloor detectorId detectorVersion
        rw [revision, of.1, of.2] at below
        omega

private theorem evaluationNumbers_step : EvaluationNumbers after :=
  ⟨numberedRows_step step numbers, flooredSequences_step step numbers, flooredLineages_step step numbers⟩

end Step

private theorem evaluationNumbers_frame (same : SameEvaluations state after)
    (numbers : EvaluationNumbers state) : EvaluationNumbers after := by
  have rows := same.evaluationRuns
  have retention := same.retention
  have highest : after.currentSequence = state.currentSequence := by
    unfold currentSequence
    rw [rows]
  have revision : ∀ detectorId detectorVersion, after.currentRevision detectorId detectorVersion =
      state.currentRevision detectorId detectorVersion := by
    intro detectorId detectorVersion
    unfold currentRevision
    rw [rows]
  have floors : ∀ detectorId detectorVersion, after.lineageFloor detectorId detectorVersion =
      state.lineageFloor detectorId detectorVersion := by
    intro detectorId detectorVersion
    unfold StoreState.lineageFloor
    rw [retention]
  refine ⟨⟨?rowid, ?sorted, ?sequencePositive, ?revisionPositive, ?ordered⟩, ⟨?floorNonnegative, ?floor, ?dense⟩,
    ⟨?lineageDistinct, ?lineagePositive, ?lineageFloor, ?beyond, ?beneath, ?lineageDense, ?retiredAt⟩⟩
  case rowid => rw [rows]; exact numbers.rowid
  case sorted => rw [rows]; exact numbers.sorted
  case sequencePositive => rw [rows]; exact numbers.sequencePositive
  case revisionPositive => rw [rows]; exact numbers.revisionPositive
  case ordered => rw [rows]; exact numbers.ordered
  case floorNonnegative => rw [retention]; exact numbers.floorNonnegative
  case floor => rw [retention, highest]; exact numbers.floor
  case dense => rw [retention, highest, rows]; exact numbers.dense
  case lineageDistinct => rw [retention]; exact numbers.lineageDistinct
  case lineagePositive => rw [retention]; exact numbers.lineagePositive
  case lineageFloor => simpa only [floors, revision] using numbers.lineageFloor
  case beyond => simpa only [floors, rows, retention] using numbers.beyond
  case beneath => simpa only [floors, rows, retention] using numbers.beneath
  case lineageDense => simpa only [floors, revision, rows] using numbers.lineageDense
  case retiredAt => simpa only [floors, rows, retention] using numbers.retiredAt

theorem evaluationNumbers_grown {rows : NewRows} (growth : Growth state rows after)
    (numbers : EvaluationNumbers state) : EvaluationNumbers after :=
  growth.evaluates.invariant (fun _ _ => evaluationNumbers_frame) (fun _ _ _ => evaluationNumbers_step) numbers

section Growth

variable {before : StoreState} {rows : NewRows} (growth : Growth before rows after)
  (numbers : EvaluationNumbers after)

include growth numbers in
theorem current_lt_of_growth (member : evaluation ∈ rows.evaluations) :
    before.currentSequence < evaluation.evaluationSequence ∧
      before.currentRevision evaluation.detectorId evaluation.detectorVersion < evaluation.evaluationRevision := by
  have stored : evaluation ∈ after.evaluationRuns := by
    rw [growth.evaluationRuns]
    exact List.mem_append_right _ member
  have above : ∀ old ∈ before.evaluationRuns, old.evaluationSequence < evaluation.evaluationSequence := by
    intro old oldMember
    have sorted := numbers.sorted
    rw [growth.evaluationRuns, List.map_append, List.pairwise_append] at sorted
    exact sorted.2.2 _ (List.mem_map_of_mem oldMember) _ (List.mem_map_of_mem member)
  constructor
  · refine Int.lt_of_le_sub_one (currentSequence_le ?_ fun old oldMember => Int.le_sub_one_of_lt (above old oldMember))
    have := numbers.sequencePositive evaluation stored
    omega
  · refine Int.lt_of_le_sub_one (currentRevision_le ?_ fun old oldMember of => Int.le_sub_one_of_lt ?_)
    · have := numbers.revisionPositive evaluation stored
      omega
    · have oldStored : old ∈ after.evaluationRuns := by
        rw [growth.evaluationRuns]
        exact List.mem_append_left _ oldMember
      exact numbers.ordered old oldStored evaluation stored ⟨of.1.symm, of.2.symm⟩ (above old oldMember)

include growth numbers in
theorem current_le_of_growth (detectorId detectorVersion : String) :
    before.currentSequence ≤ after.currentSequence ∧
      before.currentRevision detectorId detectorVersion ≤ after.currentRevision detectorId detectorVersion := by
  have kept : ∀ old ∈ before.evaluationRuns, old ∈ after.evaluationRuns := by
    intro old member
    rw [growth.evaluationRuns]
    exact List.mem_append_left _ member
  constructor
  · exact currentSequence_le numbers.sequenceNonnegative fun old member => le_currentSequence (kept old member)
  · exact currentRevision_le (numbers.currentRevision_nonnegative _ _) fun old member =>
      le_currentRevision (kept old member)

end Growth

/-! ## Expiry -/

section Expiry

variable {identityDigest : IdentityDigest} {cutoff : Timestamp} {plan : ExpiryPlan}

/-- An expiry deletes only evaluations that a newer one of their lineage replaces. -/
private theorem superseded_of_delete (keys : UniqueKeys state) (spec : plan.Spec state)
    (member : evaluation ∈ state.evaluationRuns) (deleted : plan.Disposed .delete evaluation.evaluationId) :
    ∃ newer ∈ state.evaluationRuns, state.NewerInLineage evaluation newer := by
  obtain ⟨candidate, released⟩ := (affected_iff keys spec member).mp (affected_of_delete spec deleted)
  by_contra newest
  exact released (.evaluationRoot candidate (.inr (.inr (.inr newest))))

private theorem mem_applyPlan_of_not_deleted (member : evaluation ∈ state.evaluationRuns)
    (kept : ¬ plan.Disposed .delete evaluation.evaluationId) :
    ∃ image ∈ (state.applyPlan identityDigest cutoff plan).evaluationRuns,
      image.evaluationSequence = evaluation.evaluationSequence ∧
      image.evaluationRevision = evaluation.evaluationRevision ∧
      image.Of evaluation.detectorId evaluation.detectorVersion := by
  refine ⟨compactEvaluation plan evaluation,
    mem_applyPlan_evaluationRuns.mpr ⟨evaluation, member, kept, rfl⟩, ?_⟩
  rw [compactEvaluation_eq]
  exact ⟨rfl, rfl, rfl, rfl⟩

theorem origin_of_mem_applyPlan {image : EvaluationRun}
    (member : image ∈ (state.applyPlan identityDigest cutoff plan).evaluationRuns) :
    ∃ evaluation ∈ state.evaluationRuns, ¬ plan.Disposed .delete evaluation.evaluationId ∧
      image = { evaluation with sourceExpired := image.sourceExpired, detailJson := image.detailJson } := by
  obtain ⟨evaluation, stored, kept, rfl⟩ := mem_applyPlan_evaluationRuns.mp member
  exact ⟨evaluation, stored, kept, compactEvaluation_eq evaluation⟩

variable (keys : UniqueKeys state) (chosen : plan.Chosen state cutoff) (numbers : EvaluationNumbers state)

include numbers in
private theorem numberedRows_applyPlan : NumberedRows (state.applyPlan identityDigest cutoff plan) := by
  constructor
  case rowid =>
    intro image member
    obtain ⟨evaluation, old, _, same⟩ := origin_of_mem_applyPlan member
    rw [same]
    exact numbers.rowid evaluation old
  case sorted =>
    have unchanged : (state.applyPlan identityDigest cutoff plan).evaluationRuns.map
        EvaluationRun.evaluationSequence = (state.evaluationRuns.filter fun evaluation =>
          ¬ plan.Disposed .delete evaluation.evaluationId).map EvaluationRun.evaluationSequence := by
      simp only [applyPlan, List.map_map]
      refine List.map_congr_left fun evaluation _ => ?_
      rw [Function.comp_apply, compactEvaluation_eq]
    rw [unchanged]
    exact numbers.sorted.sublist (List.filter_sublist.map _)
  case sequencePositive =>
    intro image member
    obtain ⟨evaluation, old, _, same⟩ := origin_of_mem_applyPlan member
    rw [same]
    exact numbers.sequencePositive evaluation old
  case revisionPositive =>
    intro image member
    obtain ⟨evaluation, old, _, same⟩ := origin_of_mem_applyPlan member
    rw [same]
    exact numbers.revisionPositive evaluation old
  case ordered =>
    intro earlier earlierMember later laterMember of below
    obtain ⟨first, firstOld, _, firstSame⟩ := origin_of_mem_applyPlan earlierMember
    obtain ⟨second, secondOld, _, secondSame⟩ := origin_of_mem_applyPlan laterMember
    rw [firstSame, secondSame] at of below ⊢
    exact numbers.ordered first firstOld second secondOld of below

include keys chosen numbers in
theorem currentSequence_applyPlan :
    (state.applyPlan identityDigest cutoff plan).currentSequence = state.currentSequence := by
  refine le_antisymm (currentSequence_le numbers.sequenceNonnegative fun image stored => ?_) ?_
  · obtain ⟨evaluation, old, _, same⟩ := origin_of_mem_applyPlan stored
    have bounded := le_currentSequence old
    rw [same]
    exact bounded
  · rcases numbers.sequenceNonnegative.eq_or_lt with zero | positive
    · rw [← zero]
      exact (numberedRows_applyPlan numbers).sequenceNonnegative
    · -- the highest evaluation is not deleted: a newer one would have a higher sequence
      obtain ⟨last, stored, highest⟩ := exists_currentSequence positive
      have kept : ¬ plan.Disposed .delete last.evaluationId := by
        intro deleted
        obtain ⟨newer, newerStored, _, sameId, sameVersion, revised, _⟩ :=
          superseded_of_delete keys chosen.toSpec stored deleted
        have above := numbers.sequence_lt_of_revision_lt stored newerStored ⟨sameId, sameVersion⟩ revised
        have bounded := le_currentSequence newerStored
        omega
      obtain ⟨image, imageStored, same, _⟩ := mem_applyPlan_of_not_deleted stored kept
      rw [← highest, ← same]
      exact le_currentSequence imageStored

include keys chosen numbers in
theorem currentRevision_applyPlan (detectorId detectorVersion : String) :
    (state.applyPlan identityDigest cutoff plan).currentRevision detectorId detectorVersion =
      state.currentRevision detectorId detectorVersion := by
  have nonnegative := numbers.currentRevision_nonnegative detectorId detectorVersion
  refine le_antisymm (currentRevision_le nonnegative fun image stored named => ?_) ?_
  · obtain ⟨evaluation, old, _, same⟩ := origin_of_mem_applyPlan stored
    rw [same] at named
    have bounded := le_currentRevision old named
    rw [same]
    exact bounded
  · rcases nonnegative.eq_or_lt with zero | positive
    · rw [← zero]
      exact (numberedRows_applyPlan numbers).currentRevision_nonnegative _ _
    · obtain ⟨last, stored, of, highest⟩ := exists_currentRevision positive
      have kept : ¬ plan.Disposed .delete last.evaluationId := by
        intro deleted
        obtain ⟨newer, newerStored, _, sameId, sameVersion, revised, _⟩ :=
          superseded_of_delete keys chosen.toSpec stored deleted
        have bounded := le_currentRevision newerStored ⟨sameId.trans of.1, sameVersion.trans of.2⟩
        omega
      obtain ⟨image, imageStored, _, same, imageOf⟩ := mem_applyPlan_of_not_deleted stored kept
      rw [← highest, ← same]
      exact le_currentRevision imageStored ⟨imageOf.1.trans of.1, imageOf.2.trans of.2⟩

include chosen in
theorem evaluationFloor_le : state.retention.evaluationFloor ≤ plan.floors.evaluation := by
  rw [chosen.floors]
  exact le_evaluationFloor

include keys chosen in
private theorem not_deleted_of_above (member : evaluation ∈ state.evaluationRuns)
    (above : plan.floors.evaluation < evaluation.evaluationSequence) :
    ¬ plan.Disposed .delete evaluation.evaluationId := by
  intro deleted
  have affected := affected_of_delete chosen.toSpec deleted
  have candidate := ((affected_iff keys chosen.toSpec member).mp affected).1
  exact absurd candidate.2.1 (not_le.mpr above)

include keys chosen numbers

private theorem flooredSequences_applyPlan : FlooredSequences (state.applyPlan identityDigest cutoff plan) := by
  have raised := evaluationFloor_le chosen
  have highest := @currentSequence_applyPlan state identityDigest cutoff plan keys chosen numbers
  constructor
  case floorNonnegative => exact numbers.floorNonnegative.trans raised
  case floor =>
    rw [highest]
    change plan.floors.evaluation ≤ _
    rw [chosen.floors]
    refine advanceFloor_le numbers.floor (fun sequence member => ?_) fun sequence top => ?_
    · obtain ⟨evaluation, selected, rfl⟩ := List.mem_map.mp member
      exact le_currentSequence (List.mem_filter.mp selected).1
    · unfold currentSequence
      rw [Option.mem_def.mp top]
      exact le_rfl
  case dense =>
    intro sequence above below
    rw [highest] at below
    obtain ⟨evaluation, old, same⟩ := numbers.dense sequence (raised.trans_lt above) below
    obtain ⟨image, stored, imageSame, _⟩ :=
      mem_applyPlan_of_not_deleted old (not_deleted_of_above keys chosen old (same ▸ above))
    exact ⟨image, stored, imageSame.trans same⟩

private theorem retiredAt_applyPlan
    (retires : state.Retires plan.floors.evaluation (state.nextLineageFloors plan.floors.evaluation))
    (positive : 0 < lookupFloor (state.nextLineageFloors plan.floors.evaluation) detectorId detectorVersion) :
    ∃ sequence, sequence ≤ plan.floors.evaluation ∧
      (∀ image ∈ (state.applyPlan identityDigest cutoff plan).evaluationRuns, image.evaluationSequence = sequence →
        image.Of detectorId detectorVersion ∧ image.evaluationRevision =
          lookupFloor (state.nextLineageFloors plan.floors.evaluation) detectorId detectorVersion) ∧
      ∀ image ∈ (state.applyPlan identityDigest cutoff plan).evaluationRuns, image.Of detectorId detectorVersion →
        image.evaluationRevision <
          lookupFloor (state.nextLineageFloors plan.floors.evaluation) detectorId detectorVersion →
        image.evaluationSequence < sequence := by
  have raised := evaluationFloor_le chosen
  rcases retires.attained detectorId detectorVersion with
    same | ⟨retired, old, within, sameId, sameVersion, same⟩
  · rw [same] at positive ⊢
    obtain ⟨sequence, within, unique, earlier⟩ := numbers.retiredAt detectorId detectorVersion positive
    refine ⟨sequence, within.trans raised, fun image member equal => ?_, fun image member of below => ?_⟩
    · obtain ⟨evaluation, stored, _, origin⟩ := origin_of_mem_applyPlan member
      rw [origin] at equal ⊢
      exact unique evaluation stored equal
    · obtain ⟨evaluation, stored, _, origin⟩ := origin_of_mem_applyPlan member
      rw [origin] at of below ⊢
      exact earlier evaluation stored of below
  · rw [same]
    refine ⟨retired.evaluationSequence, within, fun image member equal => ?_, fun image member of below => ?_⟩
    · obtain ⟨evaluation, stored, _, origin⟩ := origin_of_mem_applyPlan member
      rw [origin] at equal ⊢
      have only := eq_of_key keys.evaluation.evaluationSequence stored old equal
      rw [only]
      exact ⟨⟨sameId, sameVersion⟩, rfl⟩
    · obtain ⟨evaluation, stored, _, origin⟩ := origin_of_mem_applyPlan member
      rw [origin] at of below ⊢
      have ordered : evaluation.evaluationRevision < retired.evaluationRevision →
          evaluation.evaluationSequence < retired.evaluationSequence :=
        numbers.sequence_lt_of_revision_lt stored old ⟨sameId.trans of.1.symm, sameVersion.trans of.2.symm⟩
      exact ordered below

private theorem flooredLineages_applyPlan : FlooredLineages (state.applyPlan identityDigest cutoff plan) := by
  have retires : state.Retires plan.floors.evaluation (state.nextLineageFloors plan.floors.evaluation) :=
    nextLineageFloors_retires numbers.lineageDistinct numbers.lineagePositive numbers.revisionPositive
  have raised := evaluationFloor_le chosen
  have latest := @currentRevision_applyPlan state identityDigest cutoff plan keys chosen numbers
  have floors : ∀ detectorId detectorVersion,
      (state.applyPlan identityDigest cutoff plan).lineageFloor detectorId detectorVersion =
        lookupFloor (state.nextLineageFloors plan.floors.evaluation) detectorId detectorVersion :=
    fun _ _ => rfl
  constructor
  case lineageDistinct => exact retires.distinct
  case lineagePositive => exact retires.positive
  case lineageFloor =>
    intro detectorId detectorVersion
    rw [floors, latest]
    rcases retires.attained detectorId detectorVersion with same | ⟨evaluation, old, _, sameId, sameVersion, same⟩
    · rw [same]
      exact numbers.lineageFloor detectorId detectorVersion
    · rw [same]
      exact le_currentRevision old ⟨sameId, sameVersion⟩
  case beyond =>
    intro image member above
    obtain ⟨evaluation, old, _, same⟩ := origin_of_mem_applyPlan member
    rw [same] at above ⊢
    rw [floors]
    change plan.floors.evaluation < evaluation.evaluationSequence at above
    change lookupFloor _ evaluation.detectorId evaluation.detectorVersion < evaluation.evaluationRevision
    rcases retires.attained evaluation.detectorId evaluation.detectorVersion with
      same | ⟨covered, coveredOld, within, sameId, sameVersion, same⟩
    · rw [same]
      exact numbers.beyond evaluation old (raised.trans_lt above)
    · rw [same]
      exact numbers.ordered covered coveredOld evaluation old ⟨sameId.symm, sameVersion.symm⟩
        (within.trans_lt above)
  case beneath =>
    intro image member below
    obtain ⟨evaluation, old, _, same⟩ := origin_of_mem_applyPlan member
    rw [same] at below ⊢
    exact retires.covered evaluation old below
  case lineageDense =>
    intro detectorId detectorVersion revision above below
    rw [floors] at above
    rw [latest] at below
    have beyond := (retires.raised detectorId detectorVersion).trans_lt above
    obtain ⟨evaluation, old, of, same⟩ := numbers.lineageDense detectorId detectorVersion revision beyond below
    have uncovered : plan.floors.evaluation < evaluation.evaluationSequence := by
      by_contra covered
      have retired := retires.covered evaluation old (not_lt.mp covered)
      rw [of.1, of.2, same] at retired
      omega
    obtain ⟨image, stored, _, imageSame, imageOf⟩ :=
      mem_applyPlan_of_not_deleted old (not_deleted_of_above keys chosen old uncovered)
    exact ⟨image, stored, ⟨imageOf.1.trans of.1, imageOf.2.trans of.2⟩, imageSame.trans same⟩
  case retiredAt => exact fun _ _ positive => retiredAt_applyPlan keys chosen numbers retires positive

theorem evaluationNumbers_applyPlan : EvaluationNumbers (state.applyPlan identityDigest cutoff plan) :=
  ⟨numberedRows_applyPlan numbers, flooredSequences_applyPlan keys chosen numbers,
    flooredLineages_applyPlan keys chosen numbers⟩

end Expiry

end StoreState

theorem Reachable.evaluationNumbers {identityDigest : IdentityDigest} {state : StoreState}
    (reachable : Reachable identityDigest state) : EvaluationNumbers state := by
  refine Reachable.induct evaluationNumbers_empty ?_ ?_ reachable
  · exact fun _ _ _ _ numbers committed => evaluationNumbers_grown committed.growth numbers
  · intro before bounds cutoff limit after earlier numbers expired
    rw [expired.applied]
    exact evaluationNumbers_applyPlan earlier.uniqueKeys (earlier.chosen cutoff limit) numbers

end ConstellationNq.Store
