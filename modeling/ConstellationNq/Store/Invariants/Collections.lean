import ConstellationNq.Store.Invariants.Keys

/-!
# Numbers of a reachable store's collections

Reports and intakes are numbered without gaps above their floors, since expiry drops a
report only at or below the floor it sets and never drops an intake. An intake retires
only at or below its floor.
-/

set_option autoImplicit false

namespace ConstellationNq.Store

open Library.Sequence StoreState

structure CollectionNumbers (state : StoreState) : Prop where
  reports : Dense state.retention.reportFloor state.sqliteSequence.admittedReports
    (state.admittedReports.map AdmittedReport.reportSequence)
  intakes : Dense state.retention.intakeFloor state.sqliteSequence.providerIntakeAttempts
    (state.providerIntakeAttempts.map ProviderIntakeAttempt.intakeSequence)
  retired : ∀ intake ∈ state.providerIntakeAttempts, intake.historyExpired = true →
    intake.intakeSequence ≤ state.retention.intakeFloor

namespace StoreState

variable {state after : StoreState}

theorem collectionNumbers_empty : CollectionNumbers StoreState.empty := by
  have dense : Dense 0 0 [] := by
    constructor
    · exact nofun
    · intro value above below
      omega
  refine ⟨dense, dense, ?_⟩
  intro intake member
  cases member

theorem collectionNumbers_committed {rows : NewRows} (committed : Committed state rows after)
    (numbers : CollectionNumbers state) : CollectionNumbers after := by
  have growth := committed.growth
  constructor
  · rw [growth.admittedReports, growth.reportCounter, growth.retention, List.map_append, growth.reportSequences]
    exact numbers.reports.append _
  · rw [growth.providerIntakeAttempts, growth.intakeCounter, growth.retention, List.map_append,
      growth.intakeSequences]
    exact numbers.intakes.append _
  · intro intake member expired
    rw [growth.providerIntakeAttempts] at member
    rw [growth.retention]
    rcases List.mem_append.mp member with old | new
    · exact numbers.retired intake old expired
    · have fresh := of_decide_eq_true (committed.linked.intake intake new).1
      rw [fresh.1] at expired
      cases expired

section Expiry

variable {identityDigest : IdentityDigest} {cutoff : Timestamp} {plan : ExpiryPlan}
  (chosen : plan.Chosen state cutoff)

include chosen in
private theorem report_stays {report : AdmittedReport} (member : report ∈ state.admittedReports)
    (above : plan.floors.report < report.reportSequence) : ∃ kept ∈
      (state.applyPlan identityDigest cutoff plan).admittedReports, kept.reportSequence = report.reportSequence := by
  refine ⟨compactReport plan report, mem_applyPlan_admittedReports.mpr ⟨report, member, ?_, rfl⟩,
    compactReport_reportSequence report⟩
  rintro ⟨submission, submitted, same, dead⟩
  have owned : report ∈ state.reportsOf submission.runId :=
    (state.mem_reportsOf).mpr ⟨member, submission, submitted, same, rfl⟩
  have within := (chosen.within _ ((chosen.dead _).mp dead).1).2.1 report owned
  exact absurd within (not_le.mpr above)

include chosen in
theorem collectionNumbers_applyPlan (numbers : CollectionNumbers state) :
    CollectionNumbers (state.applyPlan identityDigest cutoff plan) := by
  have raised : Floors.Le state.retention.floors plan.floors := chosen.floors ▸ before_le_floorsFor
  constructor
  · refine numbers.reports.drop raised.report (fun sequence member => ?_) fun sequence member above => ?_
    · obtain ⟨report, stored, rfl⟩ := List.mem_map.mp member
      obtain ⟨old, oldStored, _, rfl⟩ := mem_applyPlan_admittedReports.mp stored
      rw [compactReport_reportSequence]
      exact List.mem_map_of_mem oldStored
    · obtain ⟨report, stored, rfl⟩ := List.mem_map.mp member
      obtain ⟨kept, keptStored, same⟩ := report_stays chosen stored above
      exact List.mem_map.mpr ⟨kept, keptStored, same⟩
  · have unchanged : (state.applyPlan identityDigest cutoff plan).providerIntakeAttempts.map
        ProviderIntakeAttempt.intakeSequence =
        state.providerIntakeAttempts.map ProviderIntakeAttempt.intakeSequence := by
      simp [applyPlan, Function.comp_def]
    rw [unchanged]
    exact numbers.intakes.drop raised.intake (List.Subset.refl _) fun _ member _ => member
  · intro intake member expired
    obtain ⟨old, stored, rfl⟩ := mem_applyPlan_providerIntakeAttempts.mp member
    rw [retireIntake_intakeSequence]
    unfold retireIntake at expired
    split at expired
    · exact (numbers.retired old stored expired).trans raised.intake
    · next link found =>
        unfold retiringLink at found
        split at found
        · next within => exact within.2
        · cases found

end Expiry

end StoreState

theorem Reachable.collectionNumbers {identityDigest : IdentityDigest} {state : StoreState}
    (reachable : Reachable identityDigest state) : CollectionNumbers state := by
  refine Reachable.induct collectionNumbers_empty ?_ ?_ reachable
  · exact fun _ _ _ _ numbers committed => collectionNumbers_committed committed numbers
  · intro before bounds cutoff limit after earlier numbers expired
    rw [expired.applied]
    exact collectionNumbers_applyPlan (earlier.chosen cutoff limit) numbers

end ConstellationNq.Store
