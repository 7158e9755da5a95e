import ConstellationNq.Store.EvaluationShape
import ConstellationNq.Store.Invariants.Findings

/-!
# When the evaluation history has its shape

Both checks say that numbers fill an interval. The whole check asks it of all rows
above the floor, the check since a frontier of the rows that are new, so that on a
history whose covered part is filled the two ask the same.
-/

set_option autoImplicit false

namespace ConstellationNq.Store

open Library.Loop Library.Sequence StoreState

namespace StoreState

variable {state : StoreState}

/-! ## Groups -/

variable {lineage : String × String} {evaluations : List EvaluationRun}

theorem mem_lineagesOf :
    lineage ∈ lineagesOf evaluations ↔
      ∃ evaluation ∈ evaluations, (evaluation.detectorId, evaluation.detectorVersion) = lineage := by
  unfold lineagesOf
  rw [(List.perm_insertionSort _ _).mem_iff, List.mem_dedup, List.mem_map]

theorem mem_revisionsOf {revision : Int} :
    revision ∈ revisionsOf evaluations lineage ↔ ∃ evaluation ∈ evaluations,
      (evaluation.detectorId, evaluation.detectorVersion) = lineage ∧
        evaluation.evaluationRevision = revision := by
  simp [revisionsOf, and_assoc]

theorem revisionsOf_ne_nil (member : lineage ∈ lineagesOf evaluations) : revisionsOf evaluations lineage ≠ [] := by
  obtain ⟨evaluation, stored, same⟩ := mem_lineagesOf.mp member
  exact List.ne_nil_of_mem (mem_revisionsOf.mpr ⟨evaluation, stored, same, rfl⟩)

theorem revisionsOf_eq_nil (absent : lineage ∉ lineagesOf evaluations) : revisionsOf evaluations lineage = [] := by
  refine List.eq_nil_iff_forall_not_mem.mpr fun revision member => ?_
  obtain ⟨evaluation, stored, same, _⟩ := mem_revisionsOf.mp member
  exact absent (mem_lineagesOf.mpr ⟨evaluation, stored, same⟩)

theorem revisionsOf_append (first second : List EvaluationRun) (lineage : String × String) :
    revisionsOf (first ++ second) lineage = revisionsOf first lineage ++ revisionsOf second lineage := by
  simp [revisionsOf]

theorem nodup_revisionsOf
    (distinct : (evaluations.map fun evaluation =>
      (evaluation.detectorId, evaluation.detectorVersion, evaluation.evaluationRevision)).Nodup)
    (lineage : String × String) : (revisionsOf evaluations lineage).Nodup := by
  unfold revisionsOf
  refine List.Nodup.map_on ?_ ((List.Nodup.of_map _ distinct).filter _)
  intro first firstMember second secondMember same
  obtain ⟨firstStored, firstOf⟩ := List.mem_filter.mp firstMember
  obtain ⟨secondStored, secondOf⟩ := List.mem_filter.mp secondMember
  rw [decide_eq_true_eq] at firstOf secondOf
  have lineages := firstOf.trans secondOf.symm
  rw [Prod.mk.injEq] at lineages
  exact eq_of_key distinct firstStored secondStored (by rw [lineages.1, lineages.2, same])

/-! ## The whole check -/

private theorem exists_extremes (first : Int) (rest : List Int) :
    ∃ minimum maximum, (first :: rest).min? = some minimum ∧ (first :: rest).max? = some maximum := by
  have least : ((first :: rest).min?).isSome := by simp
  have greatest : ((first :: rest).max?).isSome := by simp
  obtain ⟨minimum, minimumIs⟩ := Option.isSome_iff_exists.mp least
  obtain ⟨maximum, maximumIs⟩ := Option.isSome_iff_exists.mp greatest
  exact ⟨minimum, maximum, minimumIs, maximumIs⟩

private theorem requireExactSequence_eq_ok {floor : Int} {sequences : List Int} (distinct : sequences.Nodup) :
    requireExactSequence floor sequences = .ok () ↔ Fills floor (floor + sequences.length) sequences := by
  unfold requireExactSequence
  rw [ensure_eq_ok, fills_iff distinct]
  cases sequences with
  | nil => simp
  | cons first rest =>
      obtain ⟨minimum, maximum, minimumIs, maximumIs⟩ := exists_extremes first rest
      simp [minimumIs, maximumIs]

private theorem requireLineageContinues_eq_ok {retired : Int} {revisions : List Int} (distinct : revisions.Nodup)
    (nonempty : revisions ≠ []) :
    requireLineageContinues lineage retired revisions = .ok () ↔
      Fills retired (retired + revisions.length) revisions := by
  unfold requireLineageContinues
  rw [ensure_eq_ok, fills_iff distinct]
  cases revisions with
  | nil => exact absurd rfl nonempty
  | cons first rest =>
      obtain ⟨minimum, maximum, minimumIs, maximumIs⟩ := exists_extremes first rest
      simp [minimumIs, maximumIs]

theorem requirePossibleRevisions_eq_ok :
    state.requirePossibleRevisions = .ok () ↔
      (∀ evaluation ∈ state.evaluationRuns, 0 < evaluation.evaluationRevision) ∧
      ∀ event ∈ state.findingEvents, 0 < event.eventRevision ∧ 0 < event.evaluationRevision := by
  unfold requirePossibleRevisions
  rw [refuseLeast_eq_ok]
  simp only [durableRevisions, List.mem_append, List.mem_map, decide_eq_false_iff_not, not_le]
  constructor
  · intro positive
    refine ⟨fun evaluation member => ?_, fun event member => ⟨?_, ?_⟩⟩
    · exact positive _ (.inl (.inl ⟨evaluation, member, rfl⟩))
    · exact positive _ (.inl (.inr ⟨event, member, rfl⟩))
    · exact positive _ (.inr ⟨event, member, rfl⟩)
  · rintro ⟨evaluations, events⟩ row ((⟨evaluation, member, rfl⟩ | ⟨event, member, rfl⟩) | ⟨event, member, rfl⟩)
    · exact evaluations evaluation member
    · exact (events event member).1
    · exact (events event member).2

theorem validateEvaluationRevisionShape_eq_ok (keys : state.toEvaluationTables.UniqueKeys) :
    state.validateEvaluationRevisionShape = .ok () ↔
      state.requirePossibleRevisions = .ok () ∧
      (let above := state.evaluationsAbove state.retention.evaluationFloor
      Fills state.retention.evaluationFloor (state.retention.evaluationFloor + above.length)
        (above.map EvaluationRun.evaluationSequence) ∧
      ∀ lineage, Fills (state.lineageFloor lineage.1 lineage.2)
        (state.lineageFloor lineage.1 lineage.2 + (revisionsOf above lineage).length)
        (revisionsOf above lineage)) := by
  have sequences : ((state.evaluationsAbove state.retention.evaluationFloor).map
      EvaluationRun.evaluationSequence).Nodup := nodup_key_filter keys.evaluationSequence _
  have revisions := nodup_revisionsOf
    (nodup_key_filter keys.evaluationRevision fun evaluation =>
      state.retention.evaluationFloor < evaluation.evaluationSequence)
  have counted : ((state.evaluationsAbove state.retention.evaluationFloor).map
      EvaluationRun.evaluationSequence).length =
        (state.evaluationsAbove state.retention.evaluationFloor).length := List.length_map _
  unfold validateEvaluationRevisionShape
  simp only [check_bind_eq_ok, requireExactSequence_eq_ok sequences, counted, forM_eq_ok_iff]
  refine and_congr_right fun _ => and_congr_right fun _ => ⟨fun passed lineage => ?_, fun fills lineage member => ?_⟩
  · by_cases member : lineage ∈ lineagesOf (state.evaluationsAbove state.retention.evaluationFloor)
    · exact (requireLineageContinues_eq_ok (revisions lineage) (revisionsOf_ne_nil member)).mp (passed lineage member)
    · rw [revisionsOf_eq_nil member]
      intro value
      simp
  · exact (requireLineageContinues_eq_ok (revisions lineage) (revisionsOf_ne_nil member)).mpr (fills lineage)

/-! ## Numbers fill the intervals above the floors -/

theorem EvaluationNumbers.fills_sequences (numbers : EvaluationNumbers state) :
    Fills state.retention.evaluationFloor state.currentSequence
      ((state.evaluationsAbove state.retention.evaluationFloor).map EvaluationRun.evaluationSequence) := by
  intro sequence
  simp only [evaluationsAbove, List.mem_map, List.mem_filter, decide_eq_true_eq]
  constructor
  · rintro ⟨evaluation, ⟨stored, above⟩, rfl⟩
    exact ⟨above, le_currentSequence stored⟩
  · rintro ⟨above, below⟩
    obtain ⟨evaluation, stored, rfl⟩ := numbers.dense sequence above below
    exact ⟨evaluation, ⟨stored, above⟩, rfl⟩

theorem EvaluationNumbers.fills_revisions (numbers : EvaluationNumbers state) (lineage : String × String) :
    Fills (state.lineageFloor lineage.1 lineage.2) (state.currentRevision lineage.1 lineage.2)
      (revisionsOf (state.evaluationsAbove state.retention.evaluationFloor) lineage) := by
  obtain ⟨detectorId, detectorVersion⟩ := lineage
  intro revision
  simp only [mem_revisionsOf, evaluationsAbove, List.mem_filter, decide_eq_true_eq, Prod.mk.injEq]
  constructor
  · rintro ⟨evaluation, ⟨stored, above⟩, ⟨rfl, rfl⟩, rfl⟩
    exact ⟨numbers.beyond evaluation stored above, le_currentRevision stored ⟨rfl, rfl⟩⟩
  · rintro ⟨above, below⟩
    obtain ⟨evaluation, stored, of, rfl⟩ := numbers.lineageDense detectorId detectorVersion revision above below
    refine ⟨evaluation, ⟨stored, ?_⟩, of, rfl⟩
    by_contra covered
    have retired := numbers.beneath evaluation stored (not_lt.mp covered)
    rw [of.1, of.2] at retired
    omega

/-! ## The check since a frontier -/

private theorem requireContinuedSequence_eq_ok {covered : Int} {selected : EvaluationRun → Bool}
    (distinct : (state.evaluationRuns.map EvaluationRun.evaluationSequence).Nodup)
    (below : ∀ evaluation ∈ state.evaluationRuns, selected evaluation = false →
      evaluation.evaluationSequence ≤ covered) :
    state.requireContinuedSequence covered (state.evaluationRuns.filter selected) = .ok () ↔
      Fills covered (covered + (state.evaluationRuns.filter selected).length)
        ((state.evaluationRuns.filter selected).map EvaluationRun.evaluationSequence) := by
  have newDistinct : ((state.evaluationRuns.filter selected).map EvaluationRun.evaluationSequence).Nodup :=
    nodup_key_filter distinct _
  have counted : ((state.evaluationRuns.filter selected).map EvaluationRun.evaluationSequence).length =
      (state.evaluationRuns.filter selected).length := List.length_map _
  have ends := @fills_iff _ covered newDistinct
  rw [counted] at ends
  unfold requireContinuedSequence
  rw [ensure_eq_ok, counted]
  constructor
  · rintro ⟨_, exact_⟩
    refine ends.mpr fun nonempty => ?_
    rcases exact_ with none_ | ⟨least, greatest, _⟩
    · rw [List.length_eq_zero_iff] at none_
      rw [none_] at nonempty
      exact absurd rfl nonempty
    · exact ⟨least, greatest⟩
  · intro fills
    constructor
    · rw [← List.countP_eq_length_filter]
      refine List.countP_congr fun evaluation stored => ?_
      rw [decide_eq_true_eq]
      constructor
      · intro above
        by_contra old
        exact absurd (below evaluation stored (Bool.eq_false_iff.mpr old)) (not_le.mpr above)
      · intro new
        exact ((fills _).mp (List.mem_map_of_mem (List.mem_filter.mpr ⟨stored, new⟩))).1
    · by_cases empty : state.evaluationRuns.filter selected = []
      · exact .inl (by rw [empty]; rfl)
      · have nonempty : (state.evaluationRuns.filter selected).map EvaluationRun.evaluationSequence ≠ [] := by
          simpa using empty
        obtain ⟨least, greatest⟩ := ends.mp fills nonempty
        refine .inr ⟨least, greatest, ?_⟩
        rw [greatest]
        refine List.max?_eq_some_iff.mpr ⟨?_, fun sequence member => ?_⟩
        · obtain ⟨evaluation, stored, same⟩ := List.mem_map.mp (List.max?_eq_some_iff.mp greatest).1
          exact List.mem_map.mpr ⟨evaluation, (List.mem_filter.mp stored).1, same⟩
        · obtain ⟨evaluation, stored, rfl⟩ := List.mem_map.mp member
          cases new : selected evaluation with
          | true => exact ((fills _).mp (List.mem_map_of_mem (List.mem_filter.mpr ⟨stored, new⟩))).2
          | false =>
              have := below evaluation stored new
              omega

abbrev newRevisions (state : StoreState) (bound : Int) (lineage : String × String) : List Int :=
  revisionsOf (state.evaluationRuns.filter fun evaluation => bound < evaluation.rowid) lineage

/-- What the new revisions of a lineage continue. -/
structure ContinuesFrom (state : StoreState) (bound : Int) (lineage : String × String) (first : Int) : Prop where
  fills : Fills (first - 1) (first - 1 + (state.newRevisions bound lineage).length)
    (state.newRevisions bound lineage)
  covered : ∀ evaluation ∈ state.evaluationRuns, evaluation.rowid ≤ bound →
    (evaluation.detectorId, evaluation.detectorVersion) = lineage → evaluation.evaluationRevision < first
  follows : first = 1 ∨
    (∃ evaluation ∈ state.evaluationRuns, evaluation.rowid ≤ bound ∧
      (evaluation.detectorId, evaluation.detectorVersion) = lineage ∧
      evaluation.evaluationRevision = first - 1) ∨
    state.lineageFloor lineage.1 lineage.2 = first - 1

private theorem countP_revisionsOf {bound first : Int}
    (fills : ∀ revision ∈ state.newRevisions bound lineage, first ≤ revision) :
    ((revisionsOf state.evaluationRuns lineage).countP fun revision => first ≤ revision) =
        (state.newRevisions bound lineage).length ↔
      ∀ evaluation ∈ state.evaluationRuns, evaluation.rowid ≤ bound →
        (evaluation.detectorId, evaluation.detectorVersion) = lineage →
        evaluation.evaluationRevision < first := by
  have split : (revisionsOf state.evaluationRuns lineage).Perm
      (state.newRevisions bound lineage ++
        revisionsOf (state.evaluationRuns.filter fun evaluation => !decide (bound < evaluation.rowid)) lineage) := by
    rw [← revisionsOf_append]
    exact ((List.filter_append_perm _ _).symm.filter _).map _
  rw [split.countP_eq, List.countP_append, List.countP_eq_length.mpr (by simpa using fills),
    Nat.add_eq_left, List.countP_eq_zero]
  constructor
  · intro none_ evaluation stored old same
    have absent := none_ evaluation.evaluationRevision (mem_revisionsOf.mpr ⟨evaluation,
      List.mem_filter.mpr ⟨stored, by simpa using old⟩, same, rfl⟩)
    simpa using absent
  · intro covered revision member
    obtain ⟨evaluation, selected, same, rfl⟩ := mem_revisionsOf.mp member
    obtain ⟨stored, old⟩ := List.mem_filter.mp selected
    have := covered evaluation stored (by simpa using old) same
    simpa using this

private theorem continues_iff {bound : Int}
    (distinct : (state.newRevisions bound lineage).Nodup)
    (nonempty : state.newRevisions bound lineage ≠ [])
    (positive : ∀ evaluation ∈ state.evaluationRuns, evaluation.rowid ≤ bound → 0 < evaluation.evaluationRevision) :
    state.Continues bound lineage (state.newRevisions bound lineage) ↔ ∃ first, state.ContinuesFrom bound lineage first := by
  generalize given : state.newRevisions bound lineage = revisions at distinct nonempty ⊢
  have counts := fun first => @countP_revisionsOf state lineage bound first
  rw [given] at counts
  obtain ⟨minimum, least⟩ : ∃ minimum, revisions.min? = some minimum :=
    Option.ne_none_iff_exists'.mp fun none_ => nonempty (List.min?_eq_none_iff.mp none_)
  obtain ⟨maximum, greatest⟩ : ∃ maximum, revisions.max? = some maximum :=
    Option.ne_none_iff_exists'.mp fun none_ => nonempty (List.max?_eq_none_iff.mp none_)
  have lowest := (List.min?_eq_some_iff.mp least).2
  unfold Continues
  simp only [least, greatest, Option.getD_some]
  constructor
  · rintro ⟨contiguous, from_, link⟩
    have covered := (counts minimum lowest).mp from_
    refine ⟨minimum, ?_, covered, ?_⟩
    · rw [given, fills_iff distinct]
      intro _
      rw [least, greatest]
      exact ⟨by congr 1; omega, by congr 1; omega⟩
    · split at link
      · rename_i one
        exact .inl one
      · rcases link with ⟨prior, found, old⟩ | ⟨_, retired⟩
        · have chosen := List.find?_some found
          rw [decide_eq_true_eq] at chosen
          exact .inr (.inl ⟨prior, List.mem_of_find?_eq_some found, old, chosen⟩)
        · exact .inr (.inr retired)
  · rintro ⟨first, continues⟩
    have fills := continues.fills
    rw [given, fills_iff distinct] at fills
    obtain ⟨firstLeast, lastGreatest⟩ := fills nonempty
    rw [least, Option.some.injEq] at firstLeast
    rw [greatest, Option.some.injEq] at lastGreatest
    obtain rfl : minimum = first := by omega
    refine ⟨by omega, (counts minimum lowest).mpr continues.covered, ?_⟩
    have newer : ∀ prior ∈ state.evaluationRuns,
        (prior.detectorId, prior.detectorVersion) = lineage → prior.evaluationRevision = minimum - 1 →
        prior.rowid ≤ bound := by
      intro prior stored same before
      by_contra beyond
      have member : prior.evaluationRevision ∈ revisions := by
        rw [← given]
        exact mem_revisionsOf.mpr ⟨prior, List.mem_filter.mpr ⟨stored, by simpa using beyond⟩, same, rfl⟩
      have := lowest _ member
      omega
    split
    · rename_i one
      refine List.find?_eq_none.mpr fun prior stored => ?_
      rw [decide_eq_true_eq]
      rintro ⟨same, before⟩
      have := positive prior stored (newer prior stored same before)
      omega
    · rename_i more
      cases found : state.evaluationRuns.find? fun evaluation =>
          (evaluation.detectorId, evaluation.detectorVersion) = lineage ∧
            evaluation.evaluationRevision = minimum - 1 with
      | some prior =>
          have chosen := List.find?_some found
          rw [decide_eq_true_eq] at chosen
          exact .inl ⟨prior, rfl, newer prior (List.mem_of_find?_eq_some found) chosen.1 chosen.2⟩
      | none =>
          refine .inr ⟨rfl, ?_⟩
          rcases continues.follows with one | ⟨prior, stored, _, same, before⟩ | retired
          · exact absurd one more
          · exact absurd (decide_eq_true ⟨same, before⟩) (List.find?_eq_none.mp found prior stored)
          · exact retired

theorem validateEvaluationRevisionShapeSince_eq_ok {frontier : EvaluationBounds}
    (keys : state.toEvaluationTables.UniqueKeys)
    (below : ∀ evaluation ∈ state.evaluationRuns, evaluation.rowid ≤ frontier.bound →
      evaluation.evaluationSequence ≤ frontier.evaluationSequence ∧ 0 < evaluation.evaluationRevision) :
    state.validateEvaluationRevisionShapeSince frontier = .ok () ↔
      Fills frontier.evaluationSequence
          (frontier.evaluationSequence + (state.evaluationsSince frontier).length)
          ((state.evaluationsSince frontier).map EvaluationRun.evaluationSequence) ∧
        ∀ lineage ∈ lineagesOf (state.evaluationsSince frontier),
          ∃ first, state.ContinuesFrom frontier.bound lineage first := by
  unfold validateEvaluationRevisionShapeSince
  have sequences : state.requireContinuedSequence frontier.evaluationSequence
      (state.evaluationsSince frontier) = .ok () ↔ _ :=
    requireContinuedSequence_eq_ok keys.evaluationSequence fun evaluation stored old =>
      (below evaluation stored (by simpa using old)).1
  simp only [check_bind_eq_ok, sequences, forM_eq_ok_iff]
  refine and_congr_right fun _ => forall_congr' fun lineage => forall_congr' fun member => ?_
  unfold requireNewRevisionsContinue
  rw [ensure_eq_ok]
  exact continues_iff (nodup_revisionsOf (nodup_key_filter keys.evaluationRevision _) lineage)
    (revisionsOf_ne_nil member) fun evaluation stored old => (below evaluation stored old).2

end StoreState

/-- The whole check accepts every reachable store. -/
theorem Reachable.evaluationRevisionShape {identityDigest : IdentityDigest} {state : StoreState}
    (reachable : Reachable identityDigest state) : state.validateEvaluationRevisionShape = .ok () := by
  have keys := reachable.uniqueKeys.evaluation
  have numbers := reachable.evaluationNumbers
  have history := reachable.findingHistory
  rw [validateEvaluationRevisionShape_eq_ok keys]
  refine ⟨requirePossibleRevisions_eq_ok.mpr ⟨numbers.revisionPositive, fun event member => ⟨?_, ?_⟩⟩, ?_, ?_⟩
  · exact history.revisionPositive member
  · obtain ⟨evaluation, stored, agrees⟩ := history.evaluated event member
    rw [agrees.evaluationRevision]
    exact numbers.revisionPositive evaluation stored
  · have fills := numbers.fills_sequences
    have distinct : ((state.evaluationsAbove state.retention.evaluationFloor).map
        EvaluationRun.evaluationSequence).Nodup := nodup_key_filter keys.evaluationSequence _
    have counted := fills.length numbers.floor distinct
    rw [List.length_map] at counted
    convert fills using 1
    omega
  · intro lineage
    have fills := numbers.fills_revisions lineage
    have distinct : (revisionsOf (state.evaluationsAbove state.retention.evaluationFloor) lineage).Nodup :=
      nodup_revisionsOf (nodup_key_filter keys.evaluationRevision _) lineage
    have counted := fills.length (numbers.lineageFloor lineage.1 lineage.2) distinct
    convert fills using 1
    omega

end ConstellationNq.Store
