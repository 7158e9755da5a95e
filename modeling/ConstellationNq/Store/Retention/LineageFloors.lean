import ConstellationNq.Store.Retention.Expire
import Mathlib.Data.List.Dedup

/-!
# Retired revisions

The recorded revision of a lineage after an expiry: never lower than before, at
least every revision at or below the new floor, and one of these.
-/

set_option autoImplicit false

namespace ConstellationNq.Store.StoreState

variable {state : StoreState}

/-- The revision recorded for a lineage, zero without one. -/
def lookupFloor (floors : List LineageFloor) (detectorId detectorVersion : String) : Int :=
  ((floors.find? fun lineage =>
    lineage.detectorId = detectorId ∧ lineage.detectorVersion = detectorVersion).map
      LineageFloor.revision).getD 0

def floorKeys (floors : List LineageFloor) : List (String × String) :=
  floors.map fun lineage => (lineage.detectorId, lineage.detectorVersion)

private theorem sameLineage_iff {left right : LineageFloor} :
    SameLineage left right = true ↔
      left.detectorId = right.detectorId ∧ left.detectorVersion = right.detectorVersion := by
  simp [SameLineage]

variable {retired : LineageFloor} {floors : List LineageFloor}

theorem floorKeys_raise (distinct : (floorKeys floors).Nodup) :
    (floorKeys (raiseLineageFloor floors retired)).Nodup := by
  unfold raiseLineageFloor
  split
  · have unchanged : floorKeys (floors.map fun old => if SameLineage old retired then
        { old with revision := max old.revision retired.revision } else old) = floorKeys floors := by
      simp only [floorKeys, List.map_map]
      refine List.map_congr_left fun old _ => ?_
      simp only [Function.comp_apply]
      split <;> rfl
    rw [unchanged]
    exact distinct
  · rename_i fresh
    simp only [floorKeys, List.map_append, List.map_cons, List.map_nil]
    refine List.nodup_append.mpr ⟨distinct, List.nodup_singleton _, ?_⟩
    intro key old other new same
    simp only [List.mem_map] at old
    obtain ⟨lineage, member, rfl⟩ := old
    rw [List.mem_singleton.mp new, Prod.mk.injEq] at same
    exact fresh ⟨lineage, member, sameLineage_iff.mpr same⟩

theorem lookupFloor_raise (positive : 0 ≤ retired.revision) (detectorId detectorVersion : String) :
    lookupFloor (raiseLineageFloor floors retired) detectorId detectorVersion =
      if retired.detectorId = detectorId ∧ retired.detectorVersion = detectorVersion then
        max (lookupFloor floors detectorId detectorVersion) retired.revision
      else
        lookupFloor floors detectorId detectorVersion := by
  unfold raiseLineageFloor
  split
  · rename_i recorded
    obtain ⟨entry, member, same⟩ := recorded
    rw [sameLineage_iff] at same
    unfold lookupFloor
    rw [List.find?_map]
    have preserved : ((fun lineage : LineageFloor => decide (lineage.detectorId = detectorId ∧
          lineage.detectorVersion = detectorVersion)) ∘ fun old : LineageFloor =>
            if SameLineage old retired then { old with revision := max old.revision retired.revision }
            else old) =
        fun lineage : LineageFloor => decide (lineage.detectorId = detectorId ∧
          lineage.detectorVersion = detectorVersion) := by
      funext old
      simp only [Function.comp_apply]
      split <;> rfl
    rw [preserved]
    cases found : floors.find? fun lineage => lineage.detectorId = detectorId ∧
        lineage.detectorVersion = detectorVersion with
    | none =>
        have other : ¬ (retired.detectorId = detectorId ∧ retired.detectorVersion = detectorVersion) := by
          rintro ⟨sameId, sameVersion⟩
          refine List.find?_eq_none.mp found entry member ?_
          simp [same.1, same.2, sameId, sameVersion]
        simp [other]
    | some old =>
        have holds := List.find?_some found
        simp only [decide_eq_true_eq] at holds
        by_cases matches_ : retired.detectorId = detectorId ∧ retired.detectorVersion = detectorVersion
        · have raised : SameLineage old retired = true := by
            rw [sameLineage_iff, holds.1, holds.2, matches_.1, matches_.2]
            exact ⟨rfl, rfl⟩
          simp [raised, matches_]
        · have kept : ¬ SameLineage old retired = true := by
            rw [sameLineage_iff, holds.1, holds.2]
            exact fun equal => matches_ ⟨equal.1.symm, equal.2.symm⟩
          simp [kept, matches_]
  · rename_i fresh
    unfold lookupFloor
    rw [List.find?_append]
    by_cases matches_ : retired.detectorId = detectorId ∧ retired.detectorVersion = detectorVersion
    · have none_ : (floors.find? fun lineage => lineage.detectorId = detectorId ∧
          lineage.detectorVersion = detectorVersion) = none := by
        refine List.find?_eq_none.mpr fun lineage member holds => fresh ⟨lineage, member, ?_⟩
        rw [decide_eq_true_eq] at holds
        rw [sameLineage_iff, holds.1, holds.2, matches_.1, matches_.2]
        exact ⟨rfl, rfl⟩
      rw [none_, if_pos matches_]
      simp [matches_, positive]
    · simp [matches_]

theorem lookupFloor_perm {left right : List LineageFloor} (reordered : left.Perm right)
    (distinct : (floorKeys left).Nodup) (detectorId detectorVersion : String) :
    lookupFloor left detectorId detectorVersion = lookupFloor right detectorId detectorVersion := by
  unfold lookupFloor
  congr 2
  cases found : left.find? fun lineage => lineage.detectorId = detectorId ∧
      lineage.detectorVersion = detectorVersion with
  | none =>
      refine (List.find?_eq_none.mpr fun lineage member => ?_).symm
      exact List.find?_eq_none.mp found lineage (reordered.mem_iff.mpr member)
  | some entry =>
      have member := List.mem_of_find?_eq_some found
      have holds := List.find?_some found
      cases other : right.find? fun lineage => lineage.detectorId = detectorId ∧
          lineage.detectorVersion = detectorVersion with
      | none => exact absurd holds (List.find?_eq_none.mp other entry (reordered.mem_iff.mp member))
      | some twin =>
          have twinMember := reordered.mem_iff.mpr (List.mem_of_find?_eq_some other)
          have twinHolds := List.find?_some other
          rw [decide_eq_true_eq] at holds twinHolds
          have equal : entry = twin := List.inj_on_of_nodup_map distinct member twinMember (by
            rw [holds.1, holds.2, twinHolds.1, twinHolds.2])
          rw [equal]

section Retired

variable {evaluationFloor : Int}

theorem mem_retiredLineages (member : retired ∈ state.retiredLineages evaluationFloor) :
    ∃ evaluation ∈ state.evaluationRuns, evaluation.evaluationSequence ≤ evaluationFloor ∧
      retired.detectorId = evaluation.detectorId ∧ retired.detectorVersion = evaluation.detectorVersion ∧
      retired.revision = evaluation.evaluationRevision := by
  simp only [retiredLineages, List.mem_filterMap, Option.map_eq_some_iff] at member
  obtain ⟨lineage, _, revision, highest, rfl⟩ := member
  obtain ⟨stored, _⟩ := List.max?_eq_some_iff.mp highest
  simp only [List.mem_map, List.mem_filter, decide_eq_true_eq] at stored
  obtain ⟨evaluation, ⟨⟨stored, below⟩, same⟩, rfl⟩ := stored
  rw [← same]
  exact ⟨evaluation, stored, below, rfl, rfl, rfl⟩

theorem exists_retiredLineages {evaluation : EvaluationRun} (stored : evaluation ∈ state.evaluationRuns)
    (below : evaluation.evaluationSequence ≤ evaluationFloor) :
    ∃ retired ∈ state.retiredLineages evaluationFloor, retired.detectorId = evaluation.detectorId ∧
      retired.detectorVersion = evaluation.detectorVersion ∧
      evaluation.evaluationRevision ≤ retired.revision := by
  let lineage := (evaluation.detectorId, evaluation.detectorVersion)
  let revisions := ((state.evaluationRuns.filter fun other =>
    other.evaluationSequence ≤ evaluationFloor).filter fun other =>
      (other.detectorId, other.detectorVersion) = lineage).map EvaluationRun.evaluationRevision
  have member : evaluation.evaluationRevision ∈ revisions := by
    refine List.mem_map.mpr ⟨evaluation, ?_, rfl⟩
    simp [stored, below, lineage]
  cases highest : revisions.max? with
  | none =>
      rw [List.max?_eq_none_iff] at highest
      rw [highest] at member
      cases member
  | some revision =>
      refine ⟨{ detectorId := lineage.1, detectorVersion := lineage.2, revision := revision }, ?_, rfl, rfl, ?_⟩
      · simp only [retiredLineages, List.mem_filterMap]
        refine ⟨lineage, ?_, ?_⟩
        · rw [List.mem_dedup, List.mem_map]
          exact ⟨evaluation, List.mem_filter.mpr ⟨stored, decide_eq_true below⟩, rfl⟩
        · exact Option.map_eq_some_iff.mpr ⟨revision, highest, rfl⟩
      · exact (List.max?_eq_some_iff.mp highest).2 _ member

end Retired

variable {retired : List LineageFloor}

/-- What folding retired revisions into the records leaves of one lineage. -/
private theorem lookupFloor_foldl (positive : ∀ lineage ∈ retired, 0 ≤ lineage.revision) (floors : List LineageFloor)
    (detectorId detectorVersion : String) :
    lookupFloor floors detectorId detectorVersion ≤
      lookupFloor (retired.foldl raiseLineageFloor floors) detectorId detectorVersion ∧
    (∀ lineage ∈ retired, lineage.detectorId = detectorId → lineage.detectorVersion = detectorVersion →
      lineage.revision ≤ lookupFloor (retired.foldl raiseLineageFloor floors) detectorId detectorVersion) ∧
    (lookupFloor (retired.foldl raiseLineageFloor floors) detectorId detectorVersion =
        lookupFloor floors detectorId detectorVersion ∨
      ∃ lineage ∈ retired, lineage.detectorId = detectorId ∧ lineage.detectorVersion = detectorVersion ∧
        lookupFloor (retired.foldl raiseLineageFloor floors) detectorId detectorVersion = lineage.revision) := by
  induction retired generalizing floors with
  | nil => simp
  | cons first retired ih =>
      obtain ⟨firstPositive, restPositive⟩ := List.forall_mem_cons.mp positive
      obtain ⟨above, bounded, attained⟩ := ih restPositive (raiseLineageFloor floors first)
      rw [List.foldl_cons]
      rw [lookupFloor_raise firstPositive] at above attained
      refine ⟨?_, ?_, ?_⟩
      · refine le_trans ?_ above
        split
        · exact le_max_left _ _
        · exact le_rfl
      · intro lineage member sameId sameVersion
        rcases List.mem_cons.mp member with rfl | later
        · refine le_trans ?_ above
          rw [if_pos ⟨sameId, sameVersion⟩]
          exact le_max_right _ _
        · exact bounded lineage later sameId sameVersion
      · rcases attained with unchanged | ⟨lineage, member, sameId, sameVersion, equal⟩
        · split at unchanged
          · rename_i matches_
            rcases max_choice (lookupFloor floors detectorId detectorVersion) first.revision with old | new
            · exact .inl (unchanged.trans old)
            · exact .inr ⟨first, List.mem_cons_self, matches_.1, matches_.2, unchanged.trans new⟩
          · exact .inl unchanged
        · exact .inr ⟨lineage, List.mem_cons_of_mem _ member, sameId, sameVersion, equal⟩

private theorem floorKeys_foldl (distinct : (floorKeys floors).Nodup) :
    (floorKeys (retired.foldl raiseLineageFloor floors)).Nodup := by
  induction retired generalizing floors with
  | nil => exact distinct
  | cons first retired ih => exact ih (floorKeys_raise distinct)

private theorem positive_foldl (retiredPositive : ∀ lineage ∈ retired, 0 < lineage.revision)
    (floorsPositive : ∀ lineage ∈ floors, 0 < lineage.revision) :
    ∀ lineage ∈ retired.foldl raiseLineageFloor floors, 0 < lineage.revision := by
  induction retired generalizing floors with
  | nil => exact floorsPositive
  | cons first retired ih =>
      obtain ⟨firstPositive, restPositive⟩ := List.forall_mem_cons.mp retiredPositive
      refine ih restPositive fun lineage member => ?_
      unfold raiseLineageFloor at member
      split at member
      · obtain ⟨old, stored, rfl⟩ := List.mem_map.mp member
        split
        · exact lt_of_lt_of_le (floorsPositive old stored) (le_max_left _ _)
        · exact floorsPositive old stored
      · rcases List.mem_append.mp member with old | new
        · exact floorsPositive lineage old
        · rw [List.mem_singleton.mp new]
          exact firstPositive

/-- The records after an expiry whose new floor is `evaluationFloor`. -/
structure Retires (state : StoreState) (evaluationFloor : Int) (floors : List LineageFloor) : Prop where
  distinct : (floorKeys floors).Nodup
  positive : ∀ lineage ∈ floors, 0 < lineage.revision
  raised : ∀ detectorId detectorVersion,
    state.lineageFloor detectorId detectorVersion ≤ lookupFloor floors detectorId detectorVersion
  covered : ∀ evaluation ∈ state.evaluationRuns, evaluation.evaluationSequence ≤ evaluationFloor →
    evaluation.evaluationRevision ≤
      lookupFloor floors evaluation.detectorId evaluation.detectorVersion
  attained : ∀ detectorId detectorVersion,
    lookupFloor floors detectorId detectorVersion = state.lineageFloor detectorId detectorVersion ∨
      ∃ evaluation ∈ state.evaluationRuns, evaluation.evaluationSequence ≤ evaluationFloor ∧
        evaluation.detectorId = detectorId ∧ evaluation.detectorVersion = detectorVersion ∧
        lookupFloor floors detectorId detectorVersion = evaluation.evaluationRevision

theorem nextLineageFloors_retires {evaluationFloor : Int}
    (distinct : (floorKeys state.retention.lineageFloors).Nodup)
    (recorded : ∀ lineage ∈ state.retention.lineageFloors, 0 < lineage.revision)
    (revisions : ∀ evaluation ∈ state.evaluationRuns, 0 < evaluation.evaluationRevision) :
    state.Retires evaluationFloor (state.nextLineageFloors evaluationFloor) := by
  have positive : ∀ lineage ∈ state.retiredLineages evaluationFloor, 0 < lineage.revision := by
    intro lineage member
    obtain ⟨evaluation, stored, _, _, _, same⟩ := mem_retiredLineages member
    exact same ▸ revisions evaluation stored
  have sorted : (state.nextLineageFloors evaluationFloor).Perm
      ((state.retiredLineages evaluationFloor).foldl raiseLineageFloor state.retention.lineageFloors) :=
    List.perm_insertionSort _ _
  have folded : (floorKeys ((state.retiredLineages evaluationFloor).foldl raiseLineageFloor
      state.retention.lineageFloors)).Nodup := floorKeys_foldl distinct
  have lookup : ∀ detectorId detectorVersion,
      lookupFloor (state.nextLineageFloors evaluationFloor) detectorId detectorVersion =
        lookupFloor ((state.retiredLineages evaluationFloor).foldl raiseLineageFloor
          state.retention.lineageFloors) detectorId detectorVersion :=
    fun detectorId detectorVersion => (lookupFloor_perm sorted.symm folded detectorId detectorVersion).symm
  have fold := fun detectorId detectorVersion => lookupFloor_foldl
    (fun lineage member => (positive lineage member).le) state.retention.lineageFloors detectorId detectorVersion
  refine ⟨(sorted.map _).nodup_iff.mpr folded, ?_, ?_, ?_, ?_⟩
  · intro lineage member
    exact positive_foldl positive recorded lineage (sorted.mem_iff.mp member)
  · intro detectorId detectorVersion
    rw [lookup]
    exact (fold detectorId detectorVersion).1
  · intro evaluation stored below
    rw [lookup]
    obtain ⟨retired, member, sameId, sameVersion, bounded⟩ := exists_retiredLineages stored below
    exact bounded.trans ((fold _ _).2.1 retired member sameId sameVersion)
  · intro detectorId detectorVersion
    rw [lookup]
    refine (fold detectorId detectorVersion).2.2.imp_right ?_
    rintro ⟨retired, member, sameId, sameVersion, equal⟩
    obtain ⟨evaluation, stored, below, evaluationId, version, revision⟩ := mem_retiredLineages member
    exact ⟨evaluation, stored, below, evaluationId ▸ sameId, version ▸ sameVersion, equal.trans revision⟩

end ConstellationNq.Store.StoreState
