import ConstellationNq.Store.Retention.ExpireProperties
import ConstellationNq.Store.Transactions

/-!
# Keys of a reachable store

A commit checks the keys of its result. The mutations of an expiry drop rows and
rewrite columns that are no key, so they keep every key distinct; the foreign keys
are checked again before an expiry commits.
-/

set_option autoImplicit false

namespace ConstellationNq.Store

open Library.Sequence StoreState

namespace StoreState

variable {state : StoreState} {identityDigest : IdentityDigest} {cutoff : Timestamp} {plan : ExpiryPlan}

private theorem collectionKeys_applyPlan (keys : state.toCollectionTables.UniqueKeys) :
    (state.applyPlan identityDigest cutoff plan).toCollectionTables.UniqueKeys where
  runId := nodup_key_filter keys.runId _
  runRowid := nodup_key_filter keys.runRowid _
  intakeId := nodup_key_map keys.intakeId retireIntake_intakeId
  intakeSequence := nodup_key_map keys.intakeSequence retireIntake_intakeSequence
  intakeIdempotencyKey := nodup_key_map keys.intakeIdempotencyKey fun intake => by
    unfold retireIntake
    split <;> rfl
  intakeAttemptId := nodup_key_map keys.intakeAttemptId fun intake => by
    unfold retireIntake
    split <;> rfl
  intakeRequestId := nodup_key_map keys.intakeRequestId fun intake => by
    unfold retireIntake
    split <;> rfl
  linkIntakeId := nodup_key_filter keys.linkIntakeId _
  linkRunId := nodup_key_filter keys.linkRunId _
  submissionId := nodup_key_map (nodup_key_filter keys.submissionId _) compactSubmission_submissionId
  submissionRunId := nodup_key_map (nodup_key_filter keys.submissionRunId _) compactSubmission_runId
  reportId := nodup_key_map (nodup_key_filter keys.reportId _) compactReport_reportId
  reportSequence := nodup_key_map (nodup_key_filter keys.reportSequence _) compactReport_reportSequence
  reportSubmissionId := nodup_key_map (nodup_key_filter keys.reportSubmissionId _) compactReport_submissionId
  statusEventId := nodup_key_filter keys.statusEventId _
  statusSequence := nodup_key_filter keys.statusSequence _
  statusRunId := keys.statusRunId.sublist (List.filter_sublist.filterMap _)
  statusComponent := keys.statusComponent
  statusTarget := keys.statusTarget
  acknowledgmentIntakeId := nodup_key_filter keys.acknowledgmentIntakeId _
  acknowledgmentRunId := nodup_key_filter keys.acknowledgmentRunId _

private theorem evaluationKeys_applyPlan (keys : state.toEvaluationTables.UniqueKeys) :
    (state.applyPlan identityDigest cutoff plan).toEvaluationTables.UniqueKeys where
  evaluationId := nodup_key_map (nodup_key_filter keys.evaluationId _) compactEvaluation_evaluationId
  evaluationRowid := nodup_key_map (nodup_key_filter keys.evaluationRowid _) fun evaluation => by
    rw [compactEvaluation_eq]
  evaluationSequence := nodup_key_map (nodup_key_filter keys.evaluationSequence _) fun evaluation => by
    rw [compactEvaluation_eq]
  evaluationRevision := nodup_key_map (nodup_key_filter keys.evaluationRevision _) fun evaluation => by
    rw [compactEvaluation_eq]
  watermark := nodup_key_filter keys.watermark _
  refusalId := nodup_key_filter keys.refusalId _

theorem uniqueKeys_applyPlan (keys : UniqueKeys state) :
    UniqueKeys (state.applyPlan identityDigest cutoff plan) where
  collection := collectionKeys_applyPlan keys.collection
  evaluation := evaluationKeys_applyPlan keys.evaluation
  finding := keys.finding
  notification := keys.notification
  savedCheck := keys.savedCheck
  origin := keys.origin
  binding := keys.binding

end StoreState

variable {identityDigest : IdentityDigest} {state : StoreState}

theorem Reachable.uniqueKeys (reachable : Reachable identityDigest state) : UniqueKeys state := by
  refine Reachable.induct uniqueKeys_empty ?_ ?_ reachable
  · exact fun _ _ _ _ _ committed => committed.unique
  · intro before bounds cutoff limit after _ keys expired
    rw [expired.applied]
    exact uniqueKeys_applyPlan keys

theorem Reachable.foreignKeys (reachable : Reachable identityDigest state) : ForeignKeys state := by
  refine Reachable.induct foreignKeys_empty ?_ ?_ reachable
  · exact fun _ _ _ _ _ committed => committed.foreign
  · exact fun _ _ _ _ _ _ _ expired => expired.foreign

theorem Reachable.chosen (reachable : Reachable identityDigest state) (cutoff : Timestamp)
    (maxCandidateRuns : Option Nat) :
    (state.planExpiry cutoff maxCandidateRuns).Chosen state cutoff :=
  planExpiry_chosen reachable.uniqueKeys.evaluation.evaluationId

end ConstellationNq.Store
