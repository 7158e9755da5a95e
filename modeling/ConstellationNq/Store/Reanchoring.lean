import ConstellationNq.Store.ScopedShape

/-!
# A handle that re-anchors its frontier

A handle keeps the frontier it has validated while other handles write the same store
and expire its rows. Its frontier then moves down to the last covered row that is
left, which may lie below the floor, where deleted rows leave gaps that only the whole
check excuses.
-/

set_option autoImplicit false

namespace ConstellationNq.Store

open Library.Sequence StoreState

/-- The frontier of a handle on a store that other handles write, too. -/
inductive Handle (identityDigest : IdentityDigest) : StoreState → EvaluationBounds → Prop where
  | opened {state : StoreState} (reachable : Reachable identityDigest state) :
      Handle identityDigest state state.captureBounds
  | written {state after : StoreState} {frontier : EvaluationBounds} (operation : Operation)
      (earlier : Handle identityDigest state frontier)
      (accepted : state.apply identityDigest operation = .ok after) : Handle identityDigest after frontier
  | observed {state : StoreState} {frontier : EvaluationBounds}
      (earlier : Handle identityDigest state frontier) :
      Handle identityDigest state (state.reanchor frontier)

/-- A commit of a collection or of evaluations. -/
def Operation.commits : Operation → Bool
  | .commitAdmittedCollection _ _ => true
  | .commitNonSuccessCollection _ _ _ => true
  | .commitEvaluations _ => true
  | _ => false

namespace StoreState

variable {state after : StoreState}

/-- The evaluation with a sequence is left, and so is its predecessor. -/
def Linked (state : StoreState) (sequence : Int) : Prop :=
  ∃ evaluation ∈ state.evaluationRuns, evaluation.evaluationSequence = sequence ∧
    (evaluation.evaluationRevision = 1 ∨
      ∃ prior ∈ state.evaluationRuns, prior.Of evaluation.detectorId evaluation.detectorVersion ∧
        prior.evaluationRevision = evaluation.evaluationRevision - 1)

/-- No expiry deleted an evaluation between the rows that the frontier covers and the
floor, or the predecessor of one. -/
def Bridged (state : StoreState) (frontier : EvaluationBounds) : Prop :=
  ∀ sequence, 0 < sequence → sequence ≤ state.retention.evaluationFloor →
    (∀ evaluation ∈ state.evaluationRuns, evaluation.rowid ≤ frontier.bound →
      evaluation.evaluationSequence < sequence) → state.Linked sequence

def Canonical (frontier : EvaluationBounds) : Prop :=
  frontier.evaluationSequence = frontier.maxRowid.getD 0

section Frontier

variable {frontier : EvaluationBounds}

private theorem reanchor_maxRowid :
    (state.reanchor frontier).maxRowid = frontier.maxRowid.bind fun bound =>
      ((state.evaluationRuns.map EvaluationRun.rowid).filter fun rowid => rowid ≤ bound).max? := by
  unfold reanchor
  dsimp only
  split
  · rename_i same
    exact same.symm
  · rfl

private theorem mem_of_reanchor {bound : Int} (moved : (state.reanchor frontier).maxRowid = some bound) :
    bound ∈ state.evaluationRuns.map EvaluationRun.rowid := by
  rw [reanchor_maxRowid, Option.bind_eq_some_iff] at moved
  obtain ⟨_, _, highest⟩ := moved
  exact (List.mem_filter.mp (List.max?_eq_some_iff.mp highest).1).1

theorem EvaluationNumbers.canonical_sequenceAt (numbers : EvaluationNumbers state) {maxRowid : Option Int}
    (stored : ∀ bound ∈ maxRowid, bound ∈ state.evaluationRuns.map EvaluationRun.rowid) :
    Canonical { maxRowid := maxRowid, evaluationSequence := state.sequenceAt maxRowid } := by
  cases maxRowid with
  | none => rfl
  | some bound => exact numbers.sequenceAt_of_mem (stored bound rfl)

theorem EvaluationNumbers.canonical_reanchor (numbers : EvaluationNumbers state) (canonical : Canonical frontier) :
    Canonical (state.reanchor frontier) := by
  have stored : ∀ bound ∈ (state.reanchor frontier).maxRowid,
      bound ∈ state.evaluationRuns.map EvaluationRun.rowid := fun bound moved => mem_of_reanchor moved
  rw [reanchor_maxRowid] at stored
  unfold reanchor
  dsimp only
  split
  · exact canonical
  · exact numbers.canonical_sequenceAt stored

theorem EvaluationNumbers.covered_iff (numbers : EvaluationNumbers state) (canonical : Canonical frontier)
    {evaluation : EvaluationRun} (stored : evaluation ∈ state.evaluationRuns) :
    evaluation.rowid ≤ frontier.bound ↔ evaluation.evaluationSequence ≤ frontier.evaluationSequence := by
  have positive := numbers.sequencePositive evaluation stored
  unfold Canonical at canonical
  unfold EvaluationBounds.bound
  rw [numbers.rowid evaluation stored, canonical]
  cases frontier.maxRowid with
  | none =>
      simp only [Option.getD_none]
      omega
  | some bound => exact Iff.rfl

/-- Re-anchoring covers the same rows, up to the last one that is left. -/
theorem EvaluationNumbers.reanchored (numbers : EvaluationNumbers state) (canonical : Canonical frontier)
    {sequence : Int} (positive : 0 < sequence) :
    (∀ evaluation ∈ state.evaluationRuns, evaluation.rowid ≤ frontier.bound →
        evaluation.evaluationSequence < sequence) ↔ (state.reanchor frontier).evaluationSequence < sequence := by
  have anchored := numbers.canonical_reanchor canonical
  unfold Canonical at anchored
  rw [anchored]
  have moved := @reanchor_maxRowid state frontier
  cases bounded : frontier.maxRowid with
  | none =>
      rw [bounded] at moved
      rw [moved]
      simp only [Option.bind_none, Option.getD_none, positive, iff_true]
      intro evaluation stored covered
      have := numbers.sequencePositive evaluation stored
      unfold EvaluationBounds.bound at covered
      rw [bounded, numbers.rowid evaluation stored, Option.getD_none] at covered
      omega
  | some bound =>
      have limit : frontier.bound = bound := by
        unfold EvaluationBounds.bound
        rw [bounded]
        rfl
      rw [bounded, Option.bind_some] at moved
      rw [limit]
      cases highest : ((state.evaluationRuns.map EvaluationRun.rowid).filter fun rowid => rowid ≤ bound).max? with
      | none =>
          rw [moved, highest]
          simp only [Option.getD_none, positive, iff_true]
          intro evaluation stored covered
          have member : evaluation.rowid ∈ (state.evaluationRuns.map EvaluationRun.rowid).filter fun rowid =>
              rowid ≤ bound :=
            List.mem_filter.mpr ⟨List.mem_map_of_mem stored, decide_eq_true covered⟩
          rw [List.max?_eq_none_iff.mp highest] at member
          cases member
      | some last =>
          rw [moved, highest, Option.getD_some]
          obtain ⟨selected, greatest⟩ := List.max?_eq_some_iff.mp highest
          rw [List.mem_filter, decide_eq_true_eq] at selected
          obtain ⟨bounding, stored, rfl⟩ := List.mem_map.mp selected.1
          constructor
          · intro below
            rw [numbers.rowid bounding stored]
            exact below bounding stored selected.2
          · intro below evaluation member covered
            have lower := greatest evaluation.rowid (List.mem_filter.mpr
              ⟨List.mem_map_of_mem member, decide_eq_true covered⟩)
            rw [numbers.rowid evaluation member] at lower
            omega

theorem EvaluationNumbers.reanchor_bounds (numbers : EvaluationNumbers state) (canonical : Canonical frontier) :
    0 ≤ (state.reanchor frontier).evaluationSequence ∧
      (state.reanchor frontier).evaluationSequence ≤ state.currentSequence := by
  have anchored := numbers.canonical_reanchor canonical
  unfold Canonical at anchored
  rw [anchored]
  cases moved : (state.reanchor frontier).maxRowid with
  | none => exact ⟨le_rfl, numbers.sequenceNonnegative⟩
  | some bound =>
      obtain ⟨bounding, stored, rfl⟩ := List.mem_map.mp (mem_of_reanchor moved)
      rw [Option.getD_some, numbers.rowid bounding stored]
      exact ⟨(numbers.sequencePositive bounding stored).le, le_currentSequence stored⟩

end Frontier

/-! ## What the check since a low frontier accepts -/

section Since

variable {frontier : EvaluationBounds} (numbers : EvaluationNumbers state)

include numbers in
private theorem mem_evaluationsSince (canonical : Canonical frontier) {evaluation : EvaluationRun} :
    evaluation ∈ state.evaluationsSince frontier ↔
      evaluation ∈ state.evaluationRuns ∧ frontier.evaluationSequence < evaluation.evaluationSequence := by
  unfold evaluationsSince
  rw [List.mem_filter, decide_eq_true_eq]
  refine and_congr_right fun stored => ?_
  rw [← not_le, numbers.covered_iff canonical stored, not_le]

include numbers in
private theorem fills_since_iff (keys : state.toEvaluationTables.UniqueKeys) (canonical : Canonical frontier)
    (nonnegative : 0 ≤ frontier.evaluationSequence)
    (reached : frontier.evaluationSequence ≤ state.currentSequence) :
    Fills frontier.evaluationSequence (frontier.evaluationSequence + (state.evaluationsSince frontier).length)
        ((state.evaluationsSince frontier).map EvaluationRun.evaluationSequence) ↔
      ∀ sequence, frontier.evaluationSequence < sequence → sequence ≤ state.retention.evaluationFloor →
        ∃ evaluation ∈ state.evaluationRuns, evaluation.evaluationSequence = sequence := by
  have member : ∀ {sequence : Int},
      sequence ∈ (state.evaluationsSince frontier).map EvaluationRun.evaluationSequence ↔
        frontier.evaluationSequence < sequence ∧
          ∃ evaluation ∈ state.evaluationRuns, evaluation.evaluationSequence = sequence := by
    intro sequence
    simp only [List.mem_map, mem_evaluationsSince numbers canonical]
    constructor
    · rintro ⟨evaluation, ⟨stored, above⟩, rfl⟩
      exact ⟨above, evaluation, stored, rfl⟩
    · rintro ⟨above, evaluation, stored, rfl⟩
      exact ⟨evaluation, ⟨stored, above⟩, rfl⟩
  constructor
  · intro fills sequence above below
    have last : state.currentSequence ≤
        frontier.evaluationSequence + (state.evaluationsSince frontier).length := by
      by_contra beyond
      obtain ⟨latest, stored, highest⟩ := @exists_currentSequence state (by omega)
      have := ((fills _).mp (member.mpr ⟨by omega, latest, stored, highest⟩)).2
      omega
    have := numbers.floor
    exact (member.mp ((fills sequence).mpr ⟨above, by omega⟩)).2
  · intro left
    have fills : Fills frontier.evaluationSequence state.currentSequence
        ((state.evaluationsSince frontier).map EvaluationRun.evaluationSequence) := by
      intro sequence
      rw [member]
      refine and_congr_right fun above => ⟨?_, fun below => ?_⟩
      · rintro ⟨evaluation, stored, rfl⟩
        exact le_currentSequence stored
      · rcases le_or_gt sequence state.retention.evaluationFloor with beneath | beyond
        · exact left sequence above beneath
        · exact numbers.dense sequence beyond below
    have distinct : ((state.evaluationsSince frontier).map EvaluationRun.evaluationSequence).Nodup :=
      nodup_key_filter keys.evaluationSequence _
    have counted := fills.length reached distinct
    rw [List.length_map] at counted
    convert fills using 1
    omega

/-- All rows after the frontier are left and so are their predecessors. -/
structure Complete (state : StoreState) (covered : Int) : Prop where
  stored : ∀ sequence, covered < sequence → sequence ≤ state.retention.evaluationFloor →
    ∃ evaluation ∈ state.evaluationRuns, evaluation.evaluationSequence = sequence
  prior : ∀ evaluation ∈ state.evaluationRuns, covered < evaluation.evaluationSequence →
    evaluation.evaluationSequence ≤ state.retention.evaluationFloor → evaluation.evaluationRevision = 1 ∨
      ∃ prior ∈ state.evaluationRuns, prior.Of evaluation.detectorId evaluation.detectorVersion ∧
        prior.evaluationRevision = evaluation.evaluationRevision - 1

include numbers in
/-- A revision of a lineage after one beyond the frontier is itself left. -/
private theorem Complete.exists_predecessor {covered : Int} (complete : state.Complete covered)
    {first later : EvaluationRun} (firstStored : first ∈ state.evaluationRuns)
    (laterStored : later ∈ state.evaluationRuns) (of : later.Of first.detectorId first.detectorVersion)
    (beyond : covered < first.evaluationSequence)
    (revised : first.evaluationRevision < later.evaluationRevision) :
    ∃ prior ∈ state.evaluationRuns, prior.Of first.detectorId first.detectorVersion ∧
      prior.evaluationRevision = later.evaluationRevision - 1 := by
  have positive := numbers.revisionPositive first firstStored
  have after := numbers.sequence_lt_of_revision_lt firstStored laterStored of revised
  rcases le_or_gt later.evaluationSequence state.retention.evaluationFloor with beneath | above
  · rcases complete.prior later laterStored (by omega) beneath with one | ⟨prior, stored, priorOf, before⟩
    · omega
    · exact ⟨prior, stored, ⟨priorOf.1.trans of.1, priorOf.2.trans of.2⟩, before⟩
  · have retired := numbers.beyond later laterStored above
    rw [of.1, of.2] at retired
    have latest := le_currentRevision laterStored of
    rcases (show state.lineageFloor first.detectorId first.detectorVersion ≤ later.evaluationRevision - 1 by
      omega).lt_or_eq with dense | last
    · exact numbers.lineageDense first.detectorId first.detectorVersion _ dense (by omega)
    · rcases eq_or_lt_of_le (show first.evaluationRevision ≤ later.evaluationRevision - 1 by omega) with same | lower
      · exact ⟨first, firstStored, ⟨rfl, rfl⟩, same⟩
      · -- The retired revision is that of a sequence after `first`, hence left.
        obtain ⟨sequence, below, owned, before⟩ :=
          numbers.retiredAt first.detectorId first.detectorVersion (by omega)
        have between := before first firstStored ⟨rfl, rfl⟩ (by omega)
        obtain ⟨prior, stored, same⟩ := complete.stored sequence (by omega) below
        obtain ⟨priorOf, revision⟩ := owned prior stored same
        exact ⟨prior, stored, priorOf, by omega⟩

include numbers in
/-- Every revision from one beyond the frontier up to the current one is left. -/
private theorem Complete.exists_revision {covered : Int} (complete : state.Complete covered)
    {first : EvaluationRun} (firstStored : first ∈ state.evaluationRuns)
    (beyond : covered < first.evaluationSequence) (steps : Nat) :
    ∀ revision, state.currentRevision first.detectorId first.detectorVersion - steps = revision →
      first.evaluationRevision ≤ revision →
      ∃ evaluation ∈ state.evaluationRuns, evaluation.Of first.detectorId first.detectorVersion ∧
        evaluation.evaluationRevision = revision := by
  have positive := numbers.revisionPositive first firstStored
  induction steps with
  | zero =>
      intro revision same later
      obtain ⟨latest, stored, of, highest⟩ := @exists_currentRevision state first.detectorId first.detectorVersion (by
        have := le_currentRevision firstStored ⟨rfl, rfl⟩
        omega)
      exact ⟨latest, stored, of, by push_cast at same; omega⟩
  | succ steps ih =>
      intro revision same later
      push_cast at same
      obtain ⟨next, stored, of, following⟩ := ih (revision + 1) (by omega) (by omega)
      obtain ⟨prior, priorStored, priorOf, before⟩ :=
        complete.exists_predecessor numbers firstStored stored of beyond (by omega)
      exact ⟨prior, priorStored, priorOf, by omega⟩

include numbers in
private theorem Complete.continuesFrom {frontier : EvaluationBounds} (keys : state.toEvaluationTables.UniqueKeys)
    (canonical : Canonical frontier) (complete : state.Complete frontier.evaluationSequence)
    {lineage : String × String} (present : lineage ∈ lineagesOf (state.evaluationsSince frontier)) :
    ∃ first, state.ContinuesFrom frontier.bound lineage first := by
  have member : ∀ {revision : Int}, revision ∈ revisionsOf (state.evaluationsSince frontier) lineage ↔
      ∃ evaluation ∈ state.evaluationRuns, frontier.evaluationSequence < evaluation.evaluationSequence ∧
        evaluation.Of lineage.1 lineage.2 ∧ evaluation.evaluationRevision = revision := by
    intro revision
    simp only [mem_revisionsOf, mem_evaluationsSince numbers canonical, and_assoc, Prod.ext_iff, EvaluationRun.Of]
  have nonempty : revisionsOf (state.evaluationsSince frontier) lineage ≠ [] := by
    obtain ⟨evaluation, stored, of⟩ := mem_lineagesOf.mp present
    exact List.ne_nil_of_mem (mem_revisionsOf.mpr ⟨evaluation, stored, of, rfl⟩)
  obtain ⟨minimum, least⟩ : ∃ minimum, (revisionsOf (state.evaluationsSince frontier) lineage).min? = some minimum :=
    Option.ne_none_iff_exists'.mp fun none_ => nonempty (List.min?_eq_none_iff.mp none_)
  obtain ⟨chosen, lowest⟩ := List.min?_eq_some_iff.mp least
  obtain ⟨first, stored, beyond, of, rfl⟩ := member.mp chosen
  have current : state.currentRevision first.detectorId first.detectorVersion =
      state.currentRevision lineage.1 lineage.2 := by rw [of.1, of.2]
  have after : ∀ evaluation ∈ state.evaluationRuns, evaluation.Of lineage.1 lineage.2 →
      first.evaluationRevision < evaluation.evaluationRevision →
      first.evaluationSequence < evaluation.evaluationSequence := fun evaluation other named =>
    numbers.sequence_lt_of_revision_lt stored other ⟨named.1.trans of.1.symm, named.2.trans of.2.symm⟩
  have fills : Fills (first.evaluationRevision - 1) (state.currentRevision lineage.1 lineage.2)
      (revisionsOf (state.evaluationsSince frontier) lineage) := by
    intro revision
    constructor
    · intro given
      have low := lowest revision given
      obtain ⟨evaluation, evaluationStored, _, named, rfl⟩ := member.mp given
      have high := le_currentRevision evaluationStored named
      omega
    · rintro ⟨low, high⟩
      obtain ⟨evaluation, evaluationStored, named, same⟩ := complete.exists_revision numbers stored beyond
        (state.currentRevision lineage.1 lineage.2 - revision).toNat revision (by omega) (by omega)
      have ofLineage : evaluation.Of lineage.1 lineage.2 := ⟨named.1.trans of.1, named.2.trans of.2⟩
      refine member.mpr ⟨evaluation, evaluationStored, ?_, ofLineage, same⟩
      rcases eq_or_lt_of_le (show first.evaluationRevision ≤ evaluation.evaluationRevision by omega) with
        equal | later
      · obtain rfl := eq_of_key keys.evaluationRevision stored evaluationStored
          (by rw [equal, named.1, named.2])
        exact beyond
      · exact beyond.trans (after evaluation evaluationStored ofLineage later)
  have distinct : (revisionsOf (state.evaluationsSince frontier) lineage).Nodup :=
    nodup_revisionsOf (nodup_key_filter keys.evaluationRevision _) lineage
  have counted := fills.length (by have := le_currentRevision stored of; omega) distinct
  refine ⟨first.evaluationRevision, ?_, fun evaluation member covered named => ?_, ?_⟩
  · change Fills _ (_ + ((revisionsOf (state.evaluationsSince frontier) lineage).length : Int))
      (revisionsOf (state.evaluationsSince frontier) lineage)
    have span : first.evaluationRevision - 1 +
        ((revisionsOf (state.evaluationsSince frontier) lineage).length : Int) =
          state.currentRevision lineage.1 lineage.2 := by omega
    rw [span]
    exact fills
  · rw [numbers.covered_iff canonical member] at covered
    exact numbers.ordered evaluation member first stored
      ⟨of.1.trans (congrArg Prod.fst named).symm, of.2.trans (congrArg Prod.snd named).symm⟩ (by omega)
  · -- A predecessor that is left is covered, since `first` is the least one beyond.
    have coveredPrior : ∀ prior ∈ state.evaluationRuns, prior.Of lineage.1 lineage.2 →
        prior.evaluationRevision = first.evaluationRevision - 1 → prior.rowid ≤ frontier.bound := by
      intro prior priorStored named before
      rw [numbers.covered_iff canonical priorStored]
      by_contra later
      have := lowest _ (member.mpr ⟨prior, priorStored, not_le.mp later, named, rfl⟩)
      omega
    rcases le_or_gt first.evaluationSequence state.retention.evaluationFloor with beneath | above
    · rcases complete.prior first stored beyond beneath with one | ⟨prior, priorStored, named, before⟩
      · exact .inl one
      · have ofLineage : prior.Of lineage.1 lineage.2 := ⟨named.1.trans of.1, named.2.trans of.2⟩
        exact .inr (.inl ⟨prior, priorStored, coveredPrior prior priorStored ofLineage before,
          Prod.ext ofLineage.1 ofLineage.2, before⟩)
    · have retired := numbers.beyond first stored above
      rw [of.1, of.2] at retired
      have latest := le_currentRevision stored of
      rcases eq_or_lt_of_le (show state.lineageFloor lineage.1 lineage.2 ≤ first.evaluationRevision - 1 by
        omega) with last | dense
      · exact .inr (.inr last)
      · obtain ⟨prior, priorStored, named, before⟩ :=
          numbers.lineageDense lineage.1 lineage.2 _ dense (by omega)
        exact .inr (.inl ⟨prior, priorStored, coveredPrior prior priorStored named before,
          Prod.ext named.1 named.2, before⟩)

include numbers in
theorem shapeSince_iff_complete (keys : state.toEvaluationTables.UniqueKeys) (canonical : Canonical frontier)
    (nonnegative : 0 ≤ frontier.evaluationSequence)
    (reached : frontier.evaluationSequence ≤ state.currentSequence) :
    state.validateEvaluationRevisionShapeSince frontier = .ok () ↔
      state.Complete frontier.evaluationSequence := by
  rw [validateEvaluationRevisionShapeSince_eq_ok keys fun evaluation stored covered =>
    ⟨(numbers.covered_iff canonical stored).mp covered, numbers.revisionPositive evaluation stored⟩,
    fills_since_iff numbers keys canonical nonnegative reached]
  constructor
  · rintro ⟨sequences, continued⟩
    refine ⟨sequences, fun evaluation stored beyond beneath => ?_⟩
    have since := (mem_evaluationsSince numbers canonical).mpr ⟨stored, beyond⟩
    obtain ⟨first, continues⟩ := continued _ (mem_lineagesOf.mpr ⟨evaluation, since, rfl⟩)
    have filled := continues.fills
    have bounds := (filled _).mp (mem_revisionsOf.mpr ⟨evaluation, since, rfl, rfl⟩)
    rcases eq_or_lt_of_le (show first ≤ evaluation.evaluationRevision by omega) with same | later
    · rcases continues.follows with one | ⟨prior, priorStored, _, named, before⟩ | retired
      · exact .inl (same ▸ one)
      · exact .inr ⟨prior, priorStored, Prod.mk.inj named, same ▸ before⟩
      · have bounded := numbers.beneath evaluation stored beneath
        dsimp only at retired
        omega
    · obtain ⟨prior, selected, named, before⟩ := mem_revisionsOf.mp
        ((filled (evaluation.evaluationRevision - 1)).mpr ⟨by omega, by omega⟩)
      exact .inr ⟨prior, (List.mem_filter.mp selected).1, Prod.mk.inj named, before⟩
  · intro complete
    exact ⟨complete.stored, fun lineage present => complete.continuesFrom numbers keys canonical present⟩

end Since

private theorem complete_of_growth {rows : NewRows} (growth : Growth state rows after)
    (numbers : EvaluationNumbers state) (grown : EvaluationNumbers after)
    (keys : after.toEvaluationTables.UniqueKeys) (covered : Int) :
    after.Complete covered ↔
      ∀ sequence, covered < sequence → sequence ≤ state.retention.evaluationFloor → state.Linked sequence := by
  have floor : after.retention.evaluationFloor = state.retention.evaluationFloor := by rw [growth.retention]
  have old : ∀ evaluation ∈ after.evaluationRuns,
      evaluation.evaluationSequence ≤ state.retention.evaluationFloor → evaluation ∈ state.evaluationRuns := by
    intro evaluation member beneath
    rw [growth.evaluationRuns, List.mem_append] at member
    refine member.resolve_right fun new => ?_
    have above := (current_lt_of_growth growth grown new).1
    have := numbers.floor
    omega
  have kept : ∀ evaluation ∈ state.evaluationRuns, evaluation ∈ after.evaluationRuns := by
    intro evaluation member
    rw [growth.evaluationRuns]
    exact List.mem_append_left _ member
  constructor
  · intro complete sequence beyond beneath
    obtain ⟨evaluation, member, rfl⟩ := complete.stored sequence beyond (floor ▸ beneath)
    refine ⟨evaluation, old evaluation member beneath, rfl, ?_⟩
    rcases complete.prior evaluation member beyond (floor ▸ beneath) with one | ⟨prior, priorMember, of, before⟩
    · exact .inl one
    · have earlier := grown.sequence_lt_of_revision_lt priorMember member ⟨of.1.symm, of.2.symm⟩ (by omega)
      exact .inr ⟨prior, old prior priorMember (by omega), of, before⟩
  · intro linked
    constructor
    · intro sequence beyond beneath
      obtain ⟨evaluation, stored, same, _⟩ := linked sequence beyond (floor ▸ beneath)
      exact ⟨evaluation, kept evaluation stored, same⟩
    · intro evaluation member beyond beneath
      obtain ⟨same, stored, sequence, prior⟩ := linked evaluation.evaluationSequence beyond (floor ▸ beneath)
      obtain rfl := eq_of_key keys.evaluationSequence (kept same stored) member sequence
      exact prior.imp_right fun ⟨prior, priorStored, rest⟩ => ⟨prior, kept prior priorStored, rest⟩

end StoreState

variable {identityDigest : IdentityDigest} {state after : StoreState} {frontier : EvaluationBounds}

theorem Handle.reachable (handle : Handle identityDigest state frontier) : Reachable identityDigest state := by
  induction handle with
  | opened reachable => exact reachable
  | written operation _ accepted ih => exact .step operation ih accepted
  | observed _ ih => exact ih

theorem Handle.canonical (handle : Handle identityDigest state frontier) : Canonical frontier := by
  induction handle with
  | opened reachable =>
      exact reachable.evaluationNumbers.canonical_sequenceAt fun bound highest =>
        (List.max?_eq_some_iff.mp highest).1
  | written _ _ _ ih => exact ih
  | observed earlier ih => exact earlier.reachable.evaluationNumbers.canonical_reanchor ih

theorem Operation.growth_of_commits {operation : Operation} (commits : operation.commits)
    (accepted : state.apply identityDigest operation = .ok after) : ∃ rows, Growth state rows after := by
  rcases apply_step accepted with rfl | ⟨committed, _⟩ | ⟨rfl, _⟩
  · exact ⟨_, Growth.refl _⟩
  · exact ⟨_, committed.growth⟩
  · cases commits

/-- After its frontier was re-anchored, the next commit of a handle passes the check since
that frontier, as it passes the whole check, exactly when no expiry deleted an evaluation
between the rows the frontier covers and the floor, or the predecessor of one. -/
theorem reanchored_commit_accepted_iff_bridged {operation : Operation}
    (handle : Handle identityDigest state frontier) (commits : operation.commits)
    (accepted : state.apply identityDigest operation = .ok after) :
    (after.validateEvaluationRevisionShape = .ok () →
        after.validateEvaluationRevisionShapeSince (state.reanchor frontier) = .ok ()) ↔
      state.Bridged frontier := by
  have reachable := handle.reachable
  have numbers := reachable.evaluationNumbers
  have reached : Reachable identityDigest after := .step operation reachable accepted
  have grown := reached.evaluationNumbers
  have canonical := numbers.canonical_reanchor handle.canonical
  obtain ⟨nonnegative, below⟩ := numbers.reanchor_bounds handle.canonical
  obtain ⟨rows, growth⟩ := operation.growth_of_commits commits accepted
  have latest := (current_le_of_growth growth grown "" "").1
  have keys := reached.uniqueKeys.evaluation
  have whole := reached.evaluationRevisionShape
  rw [whole, shapeSince_iff_complete grown keys canonical nonnegative (below.trans latest),
    complete_of_growth growth numbers grown keys]
  simp only [forall_const]
  unfold Bridged
  constructor
  · intro linked sequence positive beneath uncovered
    exact linked sequence ((numbers.reanchored handle.canonical positive).mp uncovered) beneath
  · intro bridged sequence beyond beneath
    have positive := nonnegative.trans_lt beyond
    exact bridged sequence positive beneath ((numbers.reanchored handle.canonical positive).mpr beyond)

private theorem handle_evaluated : Handle (fun _ => "") Sample.evaluated StoreState.empty.captureBounds :=
  .written _ (.opened .refl) Sample.apply_evaluates

private theorem handle_expired : Handle (fun _ => "") Sample.expired StoreState.empty.captureBounds :=
  .written _ handle_evaluated Sample.apply_expires

private def thirdCommit : Operation := Sample.evaluates ["third"] 120

/-- A handle opened on an empty store; another one commits two evaluations of a lineage
and expires the first. The next commit passes the whole check, not the one since the
re-anchored frontier. -/
theorem reanchored_commit_refused :
    ∃ state frontier, Handle (fun _ => "") state frontier ∧
      ((state.apply (fun _ => "") thirdCommit).toOption.any fun after =>
        after.validateEvaluationRevisionShape.isOk &&
          !(after.validateEvaluationRevisionShapeSince (state.reanchor frontier)).isOk) :=
  ⟨Sample.expired, StoreState.empty.captureBounds, handle_expired, by decide +kernel⟩

private def thirdCommitted : StoreState := Sample.expired.after (fun _ => "") thirdCommit

/-- A handle opened after the two evaluations covers the floor that the expiry leaves; its
next commit passes both checks. -/
theorem reanchored_commit_bridged :
    Sample.expired.retention.evaluationFloor = 2 ∧
    thirdCommitted.validateEvaluationRevisionShapeSince (Sample.expired.reanchor Sample.evaluated.captureBounds) =
      .ok () := by
  have floor : Sample.expired.retention.evaluationFloor = 2 := by decide +kernel
  have handle : Handle (fun _ => "") Sample.expired Sample.evaluated.captureBounds :=
    .written _ (.opened Sample.reachable_evaluated) Sample.apply_expires
  have bridged : Sample.expired.Bridged Sample.evaluated.captureBounds := by
    intro sequence positive beneath uncovered
    have covered : ∃ evaluation ∈ Sample.expired.evaluationRuns,
        evaluation.rowid ≤ Sample.evaluated.captureBounds.bound ∧ evaluation.evaluationSequence = 2 := by
      decide +kernel
    obtain ⟨evaluation, stored, bounded, second⟩ := covered
    have below := uncovered evaluation stored bounded
    omega
  have applied : Sample.expired.apply (fun _ => "") thirdCommit = .ok thirdCommitted :=
    apply_eq_of_isOk (by decide +kernel)
  have reached : Reachable (fun _ => "") thirdCommitted := .step thirdCommit Sample.reachable_expired applied
  exact ⟨floor, (reanchored_commit_accepted_iff_bridged handle rfl applied).mpr bridged
    reached.evaluationRevisionShape⟩

end ConstellationNq.Store
