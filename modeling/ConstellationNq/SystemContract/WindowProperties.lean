import ConstellationNq.SystemContract.CoherenceProperties
import Mathlib.Data.Set.Finite.List
import Mathlib.Data.Set.Finite.Lemmas

/-!
# The declared window and the exact span

The window bounds the span of a closure in whole seconds. A closure may exceed
it by any fraction of a second and still be accepted.
-/

set_option autoImplicit false

namespace ConstellationNq.SystemContract

/-- The exact span of the closure of `root`, over all snapshots cited by all its
components, is within the window. -/
def ExactlyWithin (cut : ScopeCutBodyV1) (window : UInt64) (root : Identifier) : Prop :=
  ∃ earliest latest, IsLeast (closureInstants cut (observedInstants cut) root) earliest ∧
    IsGreatest (closureInstants cut (observedInstants cut) root) latest ∧
    latest.signedDurationSince earliest ≤ window.toNat * nanosPerSecond

/-- The closure of `root` exceeds the window, and either by less than a second
or with an instant that only an entry under a repeated identity contributes. -/
def Overshoots (cut : ScopeCutBodyV1) (window : UInt64) (root : Identifier) : Prop :=
  ∃ earliest latest, IsLeast (closureInstants cut (observedInstants cut) root) earliest ∧
    IsGreatest (closureInstants cut (observedInstants cut) root) latest ∧
    window.toNat * nanosPerSecond < latest.signedDurationSince earliest ∧
    (latest.signedDurationSince earliest < (window.toNat + 1) * nanosPerSecond ∨
      closureInstants cut (denotedInstants cut) root ≠ closureInstants cut (observedInstants cut) root)

private theorem closureInstants_finite (cut : ScopeCutBodyV1) (root : Identifier) :
    (closureInstants cut (observedInstants cut) root).Finite := by
  refine (cut.sourceSnapshots.map SourceSnapshotV1.capturedAt).finite_toSet.subset ?_
  rintro instant ⟨_, _, _, _, _, _, _, snapshot, member, _, rfl⟩
  exact List.mem_map_of_mem member

section Bounds

variable {cut : ScopeCutBodyV1} {observed : Identifier → Set Instant} {window : UInt64} {root : Identifier}
  (coherent : CoherentBy cut observed window) (consumes : Consumes cut root)

include coherent consumes

private theorem closureInstants_nonempty : (closureInstants cut (observedInstants cut) root).Nonempty := by
  obtain ⟨provider, requires⟩ := consumes
  obtain ⟨⟨component, member, named⟩, _⟩ := coherent.endpoints root provider requires
  obtain ⟨nonempty, known⟩ := coherent.supported component member
  obtain ⟨snapshotId, cited⟩ := List.exists_mem_of_ne_nil _ nonempty
  obtain ⟨snapshot, listed, identified⟩ := known snapshotId cited
  exact ⟨snapshot.capturedAt, root, .refl, component, member, named, snapshotId, cited, snapshot, listed, identified, rfl⟩

theorem exists_closure_bounds : ∃ earliest latest, IsLeast (closureInstants cut (observedInstants cut) root) earliest ∧
      IsGreatest (closureInstants cut (observedInstants cut) root) latest := by
  have finite := closureInstants_finite cut root
  have nonempty := closureInstants_nonempty coherent consumes
  obtain ⟨earliest, earliestMember, least⟩ := Set.exists_min_image _ id finite nonempty
  obtain ⟨latest, latestMember, greatest⟩ := Set.exists_max_image _ id finite nonempty
  exact ⟨earliest, latest, ⟨earliestMember, least⟩, ⟨latestMember, greatest⟩⟩

end Bounds

/-- Acceptance bounds every closure exactly by the window unless some closure
overshoots it. -/
theorem accepted_exactlyWithin_iff (cut : ScopeCutBodyV1) (window : UInt64) :
    (evaluateCutCoherence cut (.requiredObservationV1 window) = .ok () →
        ∀ root, Consumes cut root → ExactlyWithin cut window root) ↔
      ¬ CoherentBy cut (denotedInstants cut) window ∨ ∀ root, Consumes cut root → ¬ Overshoots cut window root := by
  rw [evaluateCutCoherence_eq_ok_iff]
  constructor
  · intro bounded
    by_cases coherent : CoherentBy cut (denotedInstants cut) window
    · refine Or.inr ?_
      rintro root consumes ⟨earliest, latest, least, greatest, beyond, _⟩
      obtain ⟨otherEarliest, otherLatest, otherLeast, otherGreatest, within⟩ := bounded coherent root consumes
      rw [otherLeast.unique least, otherGreatest.unique greatest] at within
      omega
    · exact Or.inl coherent
  · rintro (incoherent | bounded) coherent root consumes
    · exact absurd coherent incoherent
    · obtain ⟨earliest, latest, least, greatest⟩ := exists_closure_bounds coherent consumes
      refine ⟨earliest, latest, least, greatest, ?_⟩
      by_contra beyond
      refine bounded root consumes ⟨earliest, latest, least, greatest, not_le.mp beyond, ?_⟩
      by_cases same : closureInstants cut (denotedInstants cut) root = closureInstants cut (observedInstants cut) root
      · refine Or.inl ((Instant.numSeconds_le_iff (Int.natCast_nonneg _)).mp ?_)
        exact coherent.withinWindow root consumes earliest latest (same ▸ least) (same ▸ greatest)
      · exact Or.inr same

private theorem pairCut_closureInstants (consumerAt providerAt : Instant) :
    closureInstants (pairCut consumerAt providerAt) (observedInstants (pairCut consumerAt providerAt))
      ⟨"a", by decide⟩ = {consumerAt, providerAt} := by
  have requires : Requires (pairCut consumerAt providerAt) ⟨"a", by decide⟩ ⟨"b", by decide⟩ := by
    simp [Requires, pairCut]
  ext instant
  constructor
  · rintro ⟨_, _, component, componentMember, _, snapshotId, _, snapshot, snapshotMember, _, rfl⟩
    simp only [pairCut, List.mem_cons, List.not_mem_nil, or_false] at snapshotMember
    rcases snapshotMember with rfl | rfl
    · exact Or.inl rfl
    · exact Or.inr rfl
  · rintro (rfl | rfl)
    · exact ⟨⟨"a", by decide⟩, .refl, _, List.mem_cons_self, rfl, _, List.mem_cons_self, _, List.mem_cons_self, rfl, rfl⟩
    · exact ⟨⟨"b", by decide⟩, .single requires, _, List.mem_cons_of_mem _ List.mem_cons_self, rfl, _,
        List.mem_cons_self, _, List.mem_cons_of_mem _ List.mem_cons_self, rfl, rfl⟩

/-- The consumer is observed 1.9 seconds after its provider. -/
def fractionalCut : ScopeCutBodyV1 :=
  pairCut (instantAt 1 900000000) (instantAt 0 0)

/-- A closure of 1.9 seconds is accepted under a window of one second. -/
theorem accepted_beyond_window :
    evaluateCutCoherence fractionalCut (.requiredObservationV1 1) = .ok () ∧
      Consumes fractionalCut ⟨"a", by decide⟩ ∧ ¬ ExactlyWithin fractionalCut 1 ⟨"a", by decide⟩ := by
  refine ⟨by decide, ⟨⟨"b", by decide⟩, by simp [Requires, fractionalCut, pairCut]⟩, ?_⟩
  rintro ⟨earliest, latest, least, greatest, within⟩
  rw [fractionalCut, pairCut_closureInstants] at least greatest
  have order : instantAt 0 0 ≤ instantAt 1 900000000 := by decide
  have earliest_eq : earliest = instantAt 0 0 :=
    least.unique ⟨by simp, by simp [lowerBounds, order]⟩
  have latest_eq : latest = instantAt 1 900000000 :=
    greatest.unique ⟨by simp, by simp [upperBounds, order]⟩
  rw [earliest_eq, latest_eq] at within
  exact absurd within (by decide)

end ConstellationNq.SystemContract
