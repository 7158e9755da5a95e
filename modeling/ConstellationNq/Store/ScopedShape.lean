import ConstellationNq.Store.EvaluationShapeProperties

/-!
# The check since a frontier against the whole check

Over rows that are only appended, the check of the rows since a captured frontier
decides what the whole check decides, as long as the captured rows still reach the
floors.
-/

set_option autoImplicit false

namespace ConstellationNq.Store

open Library.Sequence StoreState

namespace StoreState

variable {state after : StoreState}

/-! ## Appended rows -/

/-- The captured rows reach the floors. -/
structure Anchored (state : StoreState) : Prop where
  latest : ∀ evaluation ∈ state.evaluationRuns,
    evaluation.evaluationSequence ≤ state.captureBounds.evaluationSequence
  floorNonnegative : 0 ≤ state.retention.evaluationFloor
  floor : state.retention.evaluationFloor ≤ state.captureBounds.evaluationSequence
  beneath : ∀ evaluation ∈ state.evaluationRuns,
    evaluation.evaluationSequence ≤ state.retention.evaluationFloor →
    evaluation.evaluationRevision ≤ state.lineageFloor evaluation.detectorId evaluation.detectorVersion
  lineageNonnegative : ∀ detectorId detectorVersion, 0 ≤ state.lineageFloor detectorId detectorVersion
  retired : ∀ detectorId detectorVersion, 0 < state.lineageFloor detectorId detectorVersion →
    ∃ evaluation ∈ state.evaluationRuns, evaluation.Of detectorId detectorVersion ∧
      state.lineageFloor detectorId detectorVersion ≤ evaluation.evaluationRevision

def appendEvaluations (state : StoreState) (appended : List EvaluationRun) : StoreState :=
  { state with evaluationRuns := state.evaluationRuns ++ appended }

/-- Rows that an insertion may add: SQLite numbers them above the rows it has. -/
structure Appendable (state : StoreState) (appended : List EvaluationRun) : Prop where
  rowid : ∀ new ∈ appended, 0 < new.rowid ∧ ∀ old ∈ state.evaluationRuns, old.rowid < new.rowid
  above : ∀ new ∈ appended, state.retention.evaluationFloor < new.evaluationSequence
  unique : (state.appendEvaluations appended).toEvaluationTables.UniqueKeys

variable {evaluation : EvaluationRun}

private theorem le_captureBounds (member : evaluation ∈ state.evaluationRuns) :
    evaluation.rowid ≤ state.captureBounds.bound := by
  change evaluation.rowid ≤ ((state.evaluationRuns.map EvaluationRun.rowid).max?).getD _
  have stored := List.mem_map_of_mem (f := EvaluationRun.rowid) member
  cases highest : (state.evaluationRuns.map EvaluationRun.rowid).max? with
  | none =>
      rw [List.max?_eq_none_iff.mp highest] at stored
      cases stored
  | some last => exact (List.max?_eq_some_iff.mp highest).2 _ stored

private theorem captureBounds_lt {bound : Int} (positive : 0 < bound)
    (above : ∀ old ∈ state.evaluationRuns, old.rowid < bound) : state.captureBounds.bound < bound := by
  change ((state.evaluationRuns.map EvaluationRun.rowid).max?).getD _ < bound
  cases highest : (state.evaluationRuns.map EvaluationRun.rowid).max? with
  | none =>
      rw [Option.getD_none]
      omega
  | some last =>
      obtain ⟨evaluation, stored, rfl⟩ := List.mem_map.mp (List.max?_eq_some_iff.mp highest).1
      exact above evaluation stored

private theorem captureBounds_sequence (nonempty : state.evaluationRuns ≠ []) :
    ∃ evaluation ∈ state.evaluationRuns,
      evaluation.evaluationSequence = state.captureBounds.evaluationSequence := by
  obtain ⟨last, highest⟩ : ∃ last, (state.evaluationRuns.map EvaluationRun.rowid).max? = some last :=
    Option.ne_none_iff_exists'.mp fun none_ => nonempty (by simpa using none_)
  obtain ⟨bounding, stored, same⟩ := List.mem_map.mp (List.max?_eq_some_iff.mp highest).1
  cases found : state.evaluationRuns.find? fun evaluation => evaluation.rowid = last with
  | none => exact absurd (decide_eq_true same) (List.find?_eq_none.mp found bounding stored)
  | some evaluation =>
      refine ⟨evaluation, List.mem_of_find?_eq_some found, ?_⟩
      change _ = state.sequenceAt ((state.evaluationRuns.map EvaluationRun.rowid).max?)
      unfold sequenceAt
      rw [highest, Option.bind_some, found]
      rfl

private theorem uniqueKeys_of_appendEvaluations {appended : List EvaluationRun}
    (keys : (state.appendEvaluations appended).toEvaluationTables.UniqueKeys) :
    state.toEvaluationTables.UniqueKeys where
  evaluationId := nodup_key_append_left keys.evaluationId
  evaluationRowid := nodup_key_append_left keys.evaluationRowid
  evaluationSequence := nodup_key_append_left keys.evaluationSequence
  evaluationRevision := nodup_key_append_left keys.evaluationRevision
  watermark := keys.watermark
  refusalId := keys.refusalId

section Appended

variable {appended : List EvaluationRun} (appendable : state.Appendable appended)

include appendable in
private theorem evaluationsSince_appendEvaluations :
    (state.appendEvaluations appended).evaluationsSince state.captureBounds = appended := by
  unfold evaluationsSince appendEvaluations
  rw [List.filter_append]
  have old : state.evaluationRuns.filter (fun evaluation =>
      state.captureBounds.bound < evaluation.rowid) = [] := by
    refine List.filter_eq_nil_iff.mpr fun evaluation member => ?_
    simpa using le_captureBounds member
  have new : appended.filter (fun evaluation => state.captureBounds.bound < evaluation.rowid) = appended := by
    refine List.filter_eq_self.mpr fun evaluation member => ?_
    obtain ⟨positive, above⟩ := appendable.rowid evaluation member
    exact decide_eq_true (captureBounds_lt positive above)
  rw [old, new, List.nil_append]

include appendable in
private theorem evaluationsAbove_appendEvaluations :
    (state.appendEvaluations appended).evaluationsAbove state.retention.evaluationFloor =
      state.evaluationsAbove state.retention.evaluationFloor ++ appended := by
  unfold evaluationsAbove appendEvaluations
  rw [List.filter_append]
  congr 1
  exact List.filter_eq_self.mpr fun evaluation member => decide_eq_true (appendable.above evaluation member)

include appendable in
private theorem covered_appendEvaluations :
    evaluation ∈ (state.appendEvaluations appended).evaluationRuns ∧
        evaluation.rowid ≤ state.captureBounds.bound ↔ evaluation ∈ state.evaluationRuns := by
  constructor
  · rintro ⟨member, covered⟩
    rcases List.mem_append.mp member with old | new
    · exact old
    · obtain ⟨positive, above⟩ := appendable.rowid evaluation new
      exact absurd covered (not_le.mpr (captureBounds_lt positive above))
  · intro old
    exact ⟨List.mem_append_left _ old, le_captureBounds old⟩

/-- The rows above the floor reach the captured sequence. -/
private theorem fills_captured (keys : state.toEvaluationTables.UniqueKeys) (anchored : Anchored state)
    (accepted : state.validateEvaluationRevisionShape = .ok ()) :
    Fills state.retention.evaluationFloor state.captureBounds.evaluationSequence
      ((state.evaluationsAbove state.retention.evaluationFloor).map EvaluationRun.evaluationSequence) := by
  have fills := ((validateEvaluationRevisionShape_eq_ok keys).mp accepted).2.1
  have floor := anchored.floor
  intro sequence
  rw [fills sequence]
  refine and_congr_right fun above => ⟨fun below => ?_, fun below => ?_⟩
  · obtain ⟨evaluation, stored, rfl⟩ := List.mem_map.mp ((fills sequence).mpr ⟨above, below⟩)
    exact anchored.latest evaluation (List.mem_filter.mp stored).1
  · have nonempty : state.evaluationRuns ≠ [] := by
      intro empty
      have zero : state.captureBounds.evaluationSequence = 0 := by
        unfold captureBounds sequenceAt
        rw [empty]
        rfl
      have := anchored.floorNonnegative
      omega
    obtain ⟨bounding, stored, same⟩ := captureBounds_sequence nonempty
    have member : bounding.evaluationSequence ∈ (state.evaluationsAbove state.retention.evaluationFloor).map
        EvaluationRun.evaluationSequence :=
      List.mem_map_of_mem (List.mem_filter.mpr ⟨stored, decide_eq_true (by omega)⟩)
    have := ((fills _).mp member).2
    omega

/-- The revision of a lineage that the rows above the floor reach. -/
private def reachedRevision (state : StoreState) (lineage : String × String) : Int :=
  state.lineageFloor lineage.1 lineage.2 +
    (revisionsOf (state.evaluationsAbove state.retention.evaluationFloor) lineage).length

private abbrev FillsLineage (state : StoreState) (lineage : String × String) : Prop :=
  Fills (state.lineageFloor lineage.1 lineage.2) (state.reachedRevision lineage)
    (revisionsOf (state.evaluationsAbove state.retention.evaluationFloor) lineage)

private abbrev ContinuesReached (state : StoreState) (appended : List EvaluationRun) (lineage : String × String) : Prop :=
  Fills (state.reachedRevision lineage) (state.reachedRevision lineage + (revisionsOf appended lineage).length)
    (revisionsOf appended lineage)

variable {lineage : String × String}

private theorem le_reachedRevision (anchored : Anchored state) (fills : state.FillsLineage lineage)
    (stored : evaluation ∈ state.evaluationRuns) (of : (evaluation.detectorId, evaluation.detectorVersion) = lineage) :
    evaluation.evaluationRevision ≤ state.reachedRevision lineage := by
  by_cases above : state.retention.evaluationFloor < evaluation.evaluationSequence
  · exact ((fills _).mp (mem_revisionsOf.mpr ⟨evaluation, List.mem_filter.mpr
      ⟨stored, decide_eq_true above⟩, of, rfl⟩)).2
  · have retired := anchored.beneath evaluation stored (not_lt.mp above)
    obtain ⟨detectorId, detectorVersion⟩ := lineage
    obtain ⟨rfl, rfl⟩ := Prod.mk.inj of
    unfold reachedRevision
    dsimp only
    omega

private theorem exists_reachedRevision (anchored : Anchored state) (fills : state.FillsLineage lineage)
    (positive : 0 < state.reachedRevision lineage) :
    ∃ evaluation ∈ state.evaluationRuns, (evaluation.detectorId, evaluation.detectorVersion) = lineage ∧
      evaluation.evaluationRevision = state.reachedRevision lineage := by
  by_cases advanced : state.lineageFloor lineage.1 lineage.2 < state.reachedRevision lineage
  · obtain ⟨evaluation, selected, of, same⟩ := mem_revisionsOf.mp ((fills _).mpr ⟨advanced, le_rfl⟩)
    exact ⟨evaluation, (List.mem_filter.mp selected).1, of, same⟩
  · have floor : state.reachedRevision lineage = state.lineageFloor lineage.1 lineage.2 := by
      unfold reachedRevision at advanced ⊢
      omega
    obtain ⟨evaluation, stored, of, reaches⟩ := anchored.retired lineage.1 lineage.2 (floor ▸ positive)
    have named : (evaluation.detectorId, evaluation.detectorVersion) = lineage := Prod.ext of.1 of.2
    have bounded := le_reachedRevision anchored fills stored named
    exact ⟨evaluation, stored, named, by omega⟩

include appendable in
/-- The new revisions of a lineage continue the covered ones exactly when they follow the
reached revision. -/
private theorem continuesFrom_iff (anchored : Anchored state)
    (revisionPositive : ∀ evaluation ∈ state.evaluationRuns, 0 < evaluation.evaluationRevision)
    (fills : state.FillsLineage lineage) :
    (∃ first, (state.appendEvaluations appended).ContinuesFrom state.captureBounds.bound lineage first) ↔
      state.ContinuesReached appended lineage := by
  have since : (state.appendEvaluations appended).newRevisions state.captureBounds.bound lineage =
      revisionsOf appended lineage := congrArg (revisionsOf · lineage) (evaluationsSince_appendEvaluations appendable)
  have nonnegative := anchored.lineageNonnegative lineage.1 lineage.2
  constructor
  · rintro ⟨first, continues⟩
    have covered : ∀ evaluation ∈ state.evaluationRuns,
        (evaluation.detectorId, evaluation.detectorVersion) = lineage → evaluation.evaluationRevision < first := by
      intro evaluation stored of
      obtain ⟨member, old⟩ := (covered_appendEvaluations appendable).mpr stored
      exact continues.covered evaluation member old of
    have below : state.reachedRevision lineage < first ∨ state.reachedRevision lineage = 0 := by
      by_cases positive : 0 < state.reachedRevision lineage
      · obtain ⟨evaluation, stored, of, same⟩ := exists_reachedRevision anchored fills positive
        exact .inl (same ▸ covered evaluation stored of)
      · unfold reachedRevision at positive ⊢
        omega
    have next : state.reachedRevision lineage = first - 1 := by
      rcases continues.follows with one | ⟨prior, member, old, of, before⟩ | retired
      · rcases below with lower | zero
        · unfold reachedRevision at lower ⊢
          omega
        · omega
      · have stored := (covered_appendEvaluations appendable).mp ⟨member, old⟩
        have reached := le_reachedRevision anchored fills stored of
        have positive := revisionPositive prior stored
        omega
      · change state.lineageFloor lineage.1 lineage.2 = first - 1 at retired
        rcases below with lower | zero
        · unfold reachedRevision at lower ⊢
          omega
        · unfold reachedRevision at zero ⊢
          omega
    have filled := continues.fills
    rw [since] at filled
    rw [ContinuesReached, next]
    exact filled
  · intro filled
    refine ⟨state.reachedRevision lineage + 1, ?_, ?_, ?_⟩
    · rw [since, Int.add_sub_cancel]
      exact filled
    · intro evaluation member old of
      have stored := (covered_appendEvaluations appendable).mp ⟨member, old⟩
      exact Int.lt_add_one_of_le (le_reachedRevision anchored fills stored of)
    · by_cases positive : 0 < state.reachedRevision lineage
      · obtain ⟨evaluation, stored, of, same⟩ := exists_reachedRevision anchored fills positive
        obtain ⟨member, old⟩ := (covered_appendEvaluations appendable).mpr stored
        exact .inr (.inl ⟨evaluation, member, old, of, by omega⟩)
      · unfold reachedRevision at positive ⊢
        exact .inl (by omega)

include appendable in
private theorem fills_sequences_appendEvaluations (anchored : Anchored state)
    (accepted : state.validateEvaluationRevisionShape = .ok ()) :
    Fills state.retention.evaluationFloor
        (state.retention.evaluationFloor +
          ((state.appendEvaluations appended).evaluationsAbove state.retention.evaluationFloor).length)
        (((state.appendEvaluations appended).evaluationsAbove state.retention.evaluationFloor).map
          EvaluationRun.evaluationSequence) ↔
      Fills state.captureBounds.evaluationSequence
        (state.captureBounds.evaluationSequence + appended.length)
        (appended.map EvaluationRun.evaluationSequence) := by
  have captured := fills_captured (uniqueKeys_of_appendEvaluations appendable.unique) anchored accepted
  have distinct : (((state.appendEvaluations appended).evaluationsAbove state.retention.evaluationFloor).map
      EvaluationRun.evaluationSequence).Nodup := nodup_key_filter appendable.unique.evaluationSequence _
  rw [evaluationsAbove_appendEvaluations appendable, List.map_append] at distinct
  have split := fills_append_iff anchored.floor distinct captured
  rw [← List.map_append, List.length_map, List.length_map] at split
  rw [evaluationsAbove_appendEvaluations appendable]
  exact split

include appendable in
private theorem fills_revisions_appendEvaluations (fills : state.FillsLineage lineage) :
    Fills (state.lineageFloor lineage.1 lineage.2)
        (state.lineageFloor lineage.1 lineage.2 +
          (revisionsOf ((state.appendEvaluations appended).evaluationsAbove state.retention.evaluationFloor)
            lineage).length)
        (revisionsOf ((state.appendEvaluations appended).evaluationsAbove state.retention.evaluationFloor)
          lineage) ↔ state.ContinuesReached appended lineage := by
  have distinct : (revisionsOf ((state.appendEvaluations appended).evaluationsAbove
      state.retention.evaluationFloor) lineage).Nodup :=
    nodup_revisionsOf (nodup_key_filter appendable.unique.evaluationRevision _) lineage
  rw [evaluationsAbove_appendEvaluations appendable, revisionsOf_append] at distinct
  rw [evaluationsAbove_appendEvaluations appendable, revisionsOf_append]
  exact fills_append_iff (by unfold reachedRevision; omega) distinct fills

end Appended

theorem EvaluationNumbers.sequenceAt_of_mem (numbers : EvaluationNumbers state) {bound : Int}
    (stored : bound ∈ state.evaluationRuns.map EvaluationRun.rowid) : state.sequenceAt (some bound) = bound := by
  obtain ⟨bounding, member, same⟩ := List.mem_map.mp stored
  unfold sequenceAt
  rw [Option.bind_some]
  cases found : state.evaluationRuns.find? fun evaluation => evaluation.rowid = bound with
  | none => exact absurd (decide_eq_true same) (List.find?_eq_none.mp found bounding member)
  | some evaluation =>
      have chosen := List.find?_some found
      rw [decide_eq_true_eq, numbers.rowid evaluation (List.mem_of_find?_eq_some found)] at chosen
      exact chosen

theorem EvaluationNumbers.captureBounds_sequence (numbers : EvaluationNumbers state) :
    state.captureBounds.evaluationSequence = state.currentSequence := by
  have highest : state.evaluationRuns.map EvaluationRun.rowid =
      state.evaluationRuns.map EvaluationRun.evaluationSequence :=
    List.map_congr_left numbers.rowid
  change state.sequenceAt (state.evaluationRuns.map EvaluationRun.rowid).max? = _
  unfold currentSequence
  rw [← highest]
  cases last : (state.evaluationRuns.map EvaluationRun.rowid).max? with
  | none => rfl
  | some bound => exact numbers.sequenceAt_of_mem (List.max?_eq_some_iff.mp last).1

end StoreState

theorem Reachable.anchored {identityDigest : IdentityDigest} {state : StoreState}
    (reachable : Reachable identityDigest state) : state.Anchored := by
  have numbers := reachable.evaluationNumbers
  have covered := numbers.captureBounds_sequence
  constructor
  case latest =>
    intro evaluation stored
    rw [covered]
    exact le_currentSequence stored
  case floorNonnegative => exact numbers.floorNonnegative
  case floor =>
    rw [covered]
    exact numbers.floor
  case beneath => exact numbers.beneath
  case lineageNonnegative => exact numbers.lineageNonnegative
  case retired =>
    intro detectorId detectorVersion positive
    have reached := numbers.lineageFloor detectorId detectorVersion
    obtain ⟨evaluation, stored, of, latest⟩ :=
      @exists_currentRevision state detectorId detectorVersion (by omega)
    exact ⟨evaluation, stored, of, latest ▸ reached⟩

/-- Whatever rows are appended above the floor of an accepted store whose captured rows
reach its floors, the check since the captured frontier accepts exactly when the whole
check does. -/
theorem shape_since_captured_iff_shape {state : StoreState} {appended : List EvaluationRun}
    (accepted : state.validateEvaluationRevisionShape = .ok ()) (anchored : state.Anchored)
    (appendable : state.Appendable appended) :
    (state.appendEvaluations appended).validateEvaluationRevisionShapeSince state.captureBounds = .ok () ↔
      (state.appendEvaluations appended).validateEvaluationRevisionShape = .ok () := by
  have keys := appendable.unique
  have oldKeys := uniqueKeys_of_appendEvaluations keys
  obtain ⟨possible, _, lineages⟩ := (validateEvaluationRevisionShape_eq_ok oldKeys).mp accepted
  obtain ⟨positive, events⟩ := requirePossibleRevisions_eq_ok.mp possible
  have since := evaluationsSince_appendEvaluations appendable
  have sequences := fills_sequences_appendEvaluations appendable anchored accepted
  have revisions := fun lineage => fills_revisions_appendEvaluations appendable (lineages lineage)
  rw [validateEvaluationRevisionShapeSince_eq_ok keys, validateEvaluationRevisionShape_eq_ok keys, since]
  · constructor
    · rintro ⟨filled, continued⟩
      have advanced : ∀ lineage, state.ContinuesReached appended lineage := by
        intro lineage
        by_cases present : lineage ∈ lineagesOf appended
        · exact (continuesFrom_iff appendable anchored positive (lineages lineage)).mp (continued lineage present)
        · rw [ContinuesReached, revisionsOf_eq_nil present]
          intro revision
          simp
      refine ⟨requirePossibleRevisions_eq_ok.mpr ⟨fun evaluation member => ?_, events⟩,
        sequences.mpr filled, fun lineage => (revisions lineage).mpr (advanced lineage)⟩
      rcases List.mem_append.mp member with old | new
      · exact positive evaluation old
      · have nonnegative := anchored.lineageNonnegative evaluation.detectorId evaluation.detectorVersion
        have revised := ((advanced (evaluation.detectorId, evaluation.detectorVersion) _).mp
          (mem_revisionsOf.mpr ⟨evaluation, new, rfl, rfl⟩)).1
        unfold reachedRevision at revised
        dsimp only at revised
        omega
    · rintro ⟨_, filled, advanced⟩
      refine ⟨sequences.mp filled, fun lineage _ => ?_⟩
      exact (continuesFrom_iff appendable anchored positive (lineages lineage)).mpr
        ((revisions lineage).mp (advanced lineage))
  · intro evaluation member old
    have stored := (covered_appendEvaluations appendable).mp ⟨member, old⟩
    exact ⟨anchored.latest evaluation stored, positive evaluation stored⟩

private def deletedHistory : StoreState :=
  { StoreState.empty with retention := { StoreState.empty.retention with evaluationFloor := 5 } }

private def sixthEvaluation : EvaluationRun :=
  { StoreState.empty.newEvaluation
      (Sample.evaluation "sixth" none "instance" 100 0 none .conditionPresent) with evaluationSequence := 6 }

/-- Where no captured row reaches the floor, the check since the frontier refuses what
the whole check accepts. -/
theorem shape_since_captured_refuses :
    deletedHistory.validateEvaluationRevisionShape.isOk ∧
    deletedHistory.Appendable [sixthEvaluation] ∧
    (deletedHistory.appendEvaluations [sixthEvaluation]).validateEvaluationRevisionShape.isOk ∧
    ¬ ((deletedHistory.appendEvaluations [sixthEvaluation]).validateEvaluationRevisionShapeSince
      deletedHistory.captureBounds).isOk := by
  refine ⟨by decide +kernel, ⟨?_, ?_, by decide +kernel⟩, by decide +kernel, by decide +kernel⟩
  · decide +kernel
  · decide +kernel

private def thirdEvaluation : EvaluationRun :=
  Sample.expired.newEvaluation (Sample.evaluation "third" none "instance" 101 0 none .conditionPresent)

/-- The expiry has deleted the first evaluation; a third one continues the second. -/
theorem shape_since_captured_third :
    Sample.expired.retention.evaluationFloor = 2 ∧
    ((Sample.expired.appendEvaluations [thirdEvaluation]).validateEvaluationRevisionShapeSince
        Sample.expired.captureBounds = .ok () ↔
      (Sample.expired.appendEvaluations [thirdEvaluation]).validateEvaluationRevisionShape = .ok ()) := by
  have appendable : Sample.expired.Appendable [thirdEvaluation] := by
    refine ⟨?_, ?_, ?_⟩ <;> decide +kernel
  exact ⟨by decide +kernel, shape_since_captured_iff_shape Sample.reachable_expired.evaluationRevisionShape
    Sample.reachable_expired.anchored appendable⟩

end ConstellationNq.Store
