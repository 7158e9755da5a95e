import ConstellationNq.Store.Invariants.Numbers

/-!
# Numbers that are never reused

A run together with the evaluations it has inserted, in the order of their
insertion, whatever an expiry did to their rows since.
-/

set_option autoImplicit false

namespace ConstellationNq.Store

open Library.Sequence StoreState

/-- The evaluations of `after` that `before` does not have. -/
def StoreState.insertedEvaluations (before after : StoreState) : List EvaluationRun :=
  after.evaluationRuns.filter fun evaluation =>
    evaluation.evaluationId ∉ before.evaluationRuns.map EvaluationRun.evaluationId

/-- A run from the empty store and every evaluation inserted on the way. -/
inductive Allocates (identityDigest : IdentityDigest) : StoreState → List EvaluationRun → Prop where
  | empty : Allocates identityDigest StoreState.empty []
  | step {before after : StoreState} {history : List EvaluationRun} (operation : Operation)
      (earlier : Allocates identityDigest before history)
      (accepted : before.apply identityDigest operation = .ok after) :
      Allocates identityDigest after (history ++ before.insertedEvaluations after)

variable {identityDigest : IdentityDigest} {before state after : StoreState} {history : List EvaluationRun}

theorem Allocates.reachable (run : Allocates identityDigest state history) :
    Reachable identityDigest state := by
  induction run with
  | empty => exact .refl
  | step operation _ accepted ih => exact .step operation ih accepted

/-- What is known of the numbers a run has allocated. -/
structure Numbered (state : StoreState) (history : List EvaluationRun) : Prop where
  sequences : history.Pairwise fun earlier later => earlier.evaluationSequence < later.evaluationSequence
  revisions : history.Pairwise fun earlier later =>
    later.Of earlier.detectorId earlier.detectorVersion → earlier.evaluationRevision < later.evaluationRevision
  sequence : ∀ old ∈ history, old.evaluationSequence ≤ state.currentSequence
  revision : ∀ old ∈ history,
    old.evaluationRevision ≤ state.currentRevision old.detectorId old.detectorVersion

namespace StoreState

theorem insertedEvaluations_of_subset (subset : ∀ evaluation ∈ after.evaluationRuns,
    evaluation.evaluationId ∈ before.evaluationRuns.map EvaluationRun.evaluationId) :
    before.insertedEvaluations after = [] := by
  refine List.filter_eq_nil_iff.mpr fun evaluation member => ?_
  simpa using subset evaluation member

theorem insertedEvaluations_of_growth {rows : NewRows} (growth : Growth before rows after)
    (keys : UniqueKeys after) : before.insertedEvaluations after = rows.evaluations := by
  have distinct := keys.evaluation.evaluationId
  rw [growth.evaluationRuns] at distinct
  unfold insertedEvaluations
  rw [growth.evaluationRuns, List.filter_append]
  have old : before.evaluationRuns.filter (fun evaluation =>
      evaluation.evaluationId ∉ before.evaluationRuns.map EvaluationRun.evaluationId) = [] := by
    refine List.filter_eq_nil_iff.mpr fun evaluation member => ?_
    simpa using ⟨evaluation, member, rfl⟩
  have new : rows.evaluations.filter (fun evaluation =>
      evaluation.evaluationId ∉ before.evaluationRuns.map EvaluationRun.evaluationId) = rows.evaluations := by
    refine List.filter_eq_self.mpr fun evaluation member => ?_
    simp only [decide_eq_true_eq, List.mem_map, not_exists, not_and]
    exact fun other stored same => key_ne_of_append distinct stored member same
  rw [old, new, List.nil_append]

section Growth

variable {rows : NewRows} (growth : Growth before rows after) (numbers : EvaluationNumbers after)

include growth numbers in
theorem numbered_of_growth (numbered : Numbered before history) :
    Numbered after (history ++ rows.evaluations) := by
  have stored : ∀ evaluation ∈ rows.evaluations, evaluation ∈ after.evaluationRuns := by
    intro evaluation member
    rw [growth.evaluationRuns]
    exact List.mem_append_right _ member
  have increasing : rows.evaluations.Pairwise fun earlier later =>
      earlier.evaluationSequence < later.evaluationSequence := by
    have sorted := numbers.sorted
    rw [growth.evaluationRuns, List.map_append, List.pairwise_append, List.pairwise_map (l := rows.evaluations)] at sorted
    exact sorted.2.1
  have mono := current_le_of_growth growth numbers
  constructor
  case sequences =>
    refine List.pairwise_append.mpr ⟨numbered.sequences, increasing, fun old oldMember new newMember => ?_⟩
    exact (numbered.sequence old oldMember).trans_lt (current_lt_of_growth growth numbers newMember).1
  case revisions =>
    refine List.pairwise_append.mpr ⟨numbered.revisions, ?_, fun old oldMember new newMember of => ?_⟩
    · refine increasing.imp_of_mem fun firstMember secondMember below of => ?_
      exact numbers.ordered _ (stored _ firstMember) _ (stored _ secondMember) of below
    · have above := (current_lt_of_growth growth numbers newMember).2
      rw [of.1, of.2] at above
      exact (numbered.revision old oldMember).trans_lt above
  case sequence =>
    intro old member
    rcases List.mem_append.mp member with early | late
    · exact (numbered.sequence old early).trans (mono old.detectorId old.detectorVersion).1
    · exact le_currentSequence (stored old late)
  case revision =>
    intro old member
    rcases List.mem_append.mp member with early | late
    · exact (numbered.revision old early).trans (mono old.detectorId old.detectorVersion).2
    · exact le_currentRevision (stored old late) ⟨rfl, rfl⟩

end Growth

end StoreState

theorem Allocates.numbered (run : Allocates identityDigest state history) : Numbered state history := by
  induction run with
  | empty => exact ⟨.nil, .nil, by simp, by simp⟩
  | @step before after history operation earlier accepted ih =>
      have reachable := earlier.reachable
      have reached : Reachable identityDigest after := .step operation reachable accepted
      rcases apply_step accepted with same | ⟨committed, _⟩ | ⟨_, expired⟩
      · rw [same, insertedEvaluations_of_subset fun evaluation member => List.mem_map_of_mem member,
          List.append_nil]
        exact ih
      · rw [insertedEvaluations_of_growth committed.growth committed.unique]
        exact numbered_of_growth committed.growth reached.evaluationNumbers ih
      · have chosen := reachable.chosen
        have numbers := reachable.evaluationNumbers
        rw [expired.applied, insertedEvaluations_of_subset, List.append_nil]
        · refine ⟨ih.sequences, ih.revisions, ?_, ?_⟩
          · rw [currentSequence_applyPlan reachable.uniqueKeys (chosen _ _) numbers]
            exact ih.sequence
          · intro old member
            rw [currentRevision_applyPlan reachable.uniqueKeys (chosen _ _) numbers]
            exact ih.revision old member
        · intro image member
          obtain ⟨evaluation, stored, _, same⟩ := origin_of_mem_applyPlan member
          rw [same]
          exact List.mem_map.mpr ⟨evaluation, stored, rfl⟩

/-- Over every run, each evaluation is inserted with a sequence above all sequences
inserted before it and a revision above all that its detector version had, the next
insertion continues so, and the sequences above the floor have no gap. -/
theorem evaluation_numbers_never_reused (run : Allocates identityDigest state history) :
    (history.Pairwise fun earlier later => earlier.evaluationSequence < later.evaluationSequence) ∧
    (history.Pairwise fun earlier later => later.Of earlier.detectorId earlier.detectorVersion →
      earlier.evaluationRevision < later.evaluationRevision) ∧
    (∀ input : EvaluationInput, ∀ old ∈ history,
      old.evaluationSequence < (state.newEvaluation input).evaluationSequence ∧
      ((state.newEvaluation input).Of old.detectorId old.detectorVersion →
        old.evaluationRevision < (state.newEvaluation input).evaluationRevision)) ∧
    ∀ sequence, state.retention.evaluationFloor < sequence → sequence ≤ state.currentSequence →
      ∃ evaluation ∈ state.evaluationRuns, evaluation.evaluationSequence = sequence := by
  have numbered := run.numbered
  refine ⟨numbered.sequences, numbered.revisions, fun input old member => ⟨?_, fun of => ?_⟩,
    run.reachable.evaluationNumbers.dense⟩
  · exact Int.lt_add_one_of_le (numbered.sequence old member)
  · have bounded := numbered.revision old member
    rw [← of.1, ← of.2] at bounded
    exact Int.lt_add_one_of_le bounded

private def twoInserted : List EvaluationRun :=
  [] ++ StoreState.empty.insertedEvaluations Sample.evaluated ++ Sample.evaluated.insertedEvaluations Sample.expired

/-- The expiry deletes the first of two evaluations; the next insertion still takes
numbers above both. -/
theorem evaluation_numbers_never_reused_deleted :
    twoInserted.map EvaluationRun.evaluationSequence = [1, 2] ∧
    Sample.expired.evaluationRuns.map EvaluationRun.evaluationSequence = [2] ∧
    ∀ input : EvaluationInput, ∀ old ∈ twoInserted,
      old.evaluationSequence < (Sample.expired.newEvaluation input).evaluationSequence := by
  have allocates : Allocates (fun _ => "") Sample.expired twoInserted :=
    .step _ (.step _ .empty Sample.apply_evaluates) Sample.apply_expires
  refine ⟨by decide +kernel, by decide +kernel, fun input old member => ?_⟩
  exact ((evaluation_numbers_never_reused allocates).2.2.1 input old member).1

end ConstellationNq.Store
