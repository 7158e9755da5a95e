import ConstellationNq.Store.Invariants.Collections
import ConstellationNq.Store.Invariants.Numbers

/-!
# The floors of an expiry

The loop over floors and candidate runs ends with the largest set of runs that its own
floors cover. Every comparison of the plan is made by SQLite, which finds neither an older
nor a younger row when it cannot read the cutoff: then nothing but a run or an unreadable
time stops the floor of the evaluations.
-/

set_option autoImplicit false

namespace ConstellationNq.Store

open Library.FixedPoint Library.Sequence

namespace StoreState

/-- The aged runs that a batch offers to the loop. -/
def batchRuns (state : StoreState) (cutoff : Timestamp) (maxCandidateRuns : Option Nat) : List String :=
  let trimmed := match maxCandidateRuns with
    | none => []
    | some limit => state.trimmedRuns state.retention.floors.status limit (state.agedRuns cutoff)
  (state.agedRuns cutoff).filter fun runId => runId ∉ trimmed

/-- A row between the old and the new floor. -/
def Newly (before after sequence : Int) : Prop := before < sequence ∧ sequence ≤ after

/-- No run straddles the floors: the rows that they newly cover are those of the runs, or
have no run, and the evaluations among them are older than the cutoff. -/
structure Unstraddled (state : StoreState) (cutoff : Timestamp) (floors : Floors) (runs : List String) : Prop where
  raised : Floors.Le state.retention.floors floors
  within : ∀ runId ∈ runs, state.Within floors runId
  older : ∀ evaluation ∈ state.evaluationRuns,
    Newly state.retention.evaluationFloor floors.evaluation evaluation.evaluationSequence →
    evaluation.evaluatedAt.lt cutoff = true
  evaluation : ∀ evaluation ∈ state.evaluationRuns,
    Newly state.retention.evaluationFloor floors.evaluation evaluation.evaluationSequence →
    ∀ runId ∈ evaluation.triggerRunId, runId ∈ runs
  report : ∀ report ∈ state.admittedReports,
    Newly state.retention.reportFloor floors.report report.reportSequence →
    ∃ runId ∈ runs, report ∈ state.reportsOf runId
  intake : ∀ intake ∈ state.providerIntakeAttempts,
    Newly state.retention.intakeFloor floors.intake intake.intakeSequence →
    ∃ runId ∈ runs, intake ∈ state.intakesOf runId
  status : ∀ status ∈ state.statusEvents,
    Newly state.retention.statusFloor floors.status status.statusSequence →
    ∀ runId ∈ status.runId, runId ∈ runs

/-- The loop ended, and its runs are the most of the batch that no floors straddle. -/
structure FloorFixpoint (state : StoreState) (cutoff : Timestamp) (maxCandidateRuns : Option Nat) : Prop where
  ended : pruneTurn (fun candidates runId =>
    decide (state.Within (state.floorsFor cutoff state.retention.floors candidates) runId))
      (state.planExpiry cutoff maxCandidateRuns).runs = none
  offered : (state.planExpiry cutoff maxCandidateRuns).runs ⊆ state.batchRuns cutoff maxCandidateRuns
  unstraddled : state.Unstraddled cutoff (state.planExpiry cutoff maxCandidateRuns).floors
    (state.planExpiry cutoff maxCandidateRuns).runs
  largest : ∀ floors runs, runs ⊆ state.batchRuns cutoff maxCandidateRuns → state.Unstraddled cutoff floors runs →
    runs ⊆ (state.planExpiry cutoff maxCandidateRuns).runs

/-- SQLite reads the cutoff, or else the first evaluation beyond the floor stops it
anyway: its own time is unreadable or a run triggered it. -/
def CutoffCounts (state : StoreState) (cutoff : Timestamp) : Prop :=
  cutoff.julianday = none → ∀ evaluation ∈ state.evaluationRuns,
    some evaluation.evaluationSequence = firstAbove state.retention.evaluationFloor
      (state.evaluationRuns.map EvaluationRun.evaluationSequence) →
    evaluation.evaluatedAt.julianday = none ∨ evaluation.triggerRunId ≠ none

instance (state : StoreState) (cutoff : Timestamp) : Decidable (state.CutoffCounts cutoff) := by
  delta CutoffCounts; infer_instance

variable {identityDigest : IdentityDigest} {state : StoreState} {cutoff : Timestamp} {maxCandidateRuns : Option Nat}

theorem planExpiry_runs : (state.planExpiry cutoff maxCandidateRuns).runs =
    state.candidateRuns cutoff state.retention.floors (state.batchRuns cutoff maxCandidateRuns) := rfl

/-! ## Comparisons -/

variable {time : Timestamp}

theorem lt_of_not_young (old : time.young cutoff = false) (readable : cutoff.julianday ≠ none) :
    time.lt cutoff = true := by
  unfold Timestamp.young Timestamp.ge at old
  unfold Timestamp.lt
  cases left : time.julianday with
  | none => simp [left] at old
  | some day =>
      cases right : cutoff.julianday with
      | none => exact absurd right readable
      | some limit => simpa [left, right] using old

theorem not_young_of_lt (old : time.lt cutoff = true) : time.young cutoff = false := by
  unfold Timestamp.lt at old
  unfold Timestamp.young Timestamp.ge
  split at old
  · next day limit left right => simpa [left, right] using old
  · cases old

theorem readable_of_lt (old : time.lt cutoff = true) : cutoff.julianday ≠ none := by
  intro unreadable
  unfold Timestamp.lt at old
  rw [unreadable] at old
  split at old
  · next _ _ _ right => cases right
  · cases old

theorem agedRuns_eq_nil (unreadable : cutoff.julianday = none) : state.agedRuns cutoff = [] := by
  unfold agedRuns
  rw [List.map_eq_nil_iff, List.filter_eq_nil_iff]
  intro run _ aged
  exact readable_of_lt (of_decide_eq_true aged).1.1 unreadable

theorem planExpiry_runs_eq_nil (unreadable : cutoff.julianday = none) :
    (state.planExpiry cutoff maxCandidateRuns).runs = [] := by
  refine List.subset_nil.mp fun runId inside => ?_
  have offered := (candidateRuns_sublist _).subset (planExpiry_runs ▸ inside)
  have aged := (List.mem_filter.mp offered).1
  rwa [agedRuns_eq_nil unreadable] at aged

/-! ## The largest set -/

variable {runId : String}

theorem Unstraddled.within_floorsFor {floors : Floors} {runs : List String}
    (unstraddled : state.Unstraddled cutoff floors runs) (keys : UniqueKeys state) (member : runId ∈ runs) :
    state.Within (state.floorsFor cutoff state.retention.floors runs) runId := by
  obtain ⟨evaluations, reports, intakes, statuses⟩ := unstraddled.within runId member
  refine ⟨fun evaluation owned => ?_, fun report owned => ?_, fun intake owned => ?_, fun status owned => ?_⟩
  · have stored := ((state.mem_evaluationsOf).mp owned).1
    refine le_advanceFloor_rows (List.mem_map_of_mem stored) (evaluations evaluation owned) ?_
    rintro other otherStored beyond covered (young | ⟨foreign, trigger, outside⟩)
    · have old := not_young_of_lt (unstraddled.older other otherStored ⟨beyond, covered⟩)
      rw [old] at young
      cases young
    · exact outside (unstraddled.evaluation other otherStored ⟨beyond, covered⟩ foreign trigger)
  · have stored := ((state.mem_reportsOf).mp owned).1
    refine le_advanceFloor_rows (List.mem_map_of_mem stored) (reports report owned) ?_
    rintro other otherStored beyond covered ⟨submission, submitted, same, outside⟩
    obtain ⟨owner, inside, ownedBy⟩ := unstraddled.report other otherStored ⟨beyond, covered⟩
    obtain ⟨_, ownSubmission, ownSubmitted, ownSame, rfl⟩ := (state.mem_reportsOf).mp ownedBy
    have equal := eq_of_key keys.collection.submissionId submitted ownSubmitted (same.trans ownSame.symm)
    exact outside (equal ▸ inside)
  · have stored := ((state.mem_intakesOf).mp owned).1
    refine le_advanceFloor_rows (List.mem_map_of_mem stored) (intakes intake owned) ?_
    rintro other otherStored beyond covered ⟨_, blocking⟩
    obtain ⟨owner, inside, ownedBy⟩ := unstraddled.intake other otherStored ⟨beyond, covered⟩
    obtain ⟨_, ownLink, ownLinked, ownSame, rfl⟩ := (state.mem_intakesOf).mp ownedBy
    rcases blocking with unlinked | ⟨link, linked, same, outside⟩
    · exact unlinked ⟨ownLink, ownLinked, ownSame⟩
    · have equal := eq_of_key keys.collection.linkIntakeId linked ownLinked (same.trans ownSame.symm)
      exact outside (equal ▸ inside)
  · obtain ⟨stored, owner⟩ := (state.mem_statusesOf).mp owned
    have counted : status.statusSequence ∈
        (state.statusEvents.filter fun status => status.runId.isSome).map StatusEvent.statusSequence :=
      List.mem_map_of_mem (List.mem_filter.mpr ⟨stored, by simp [owner]⟩)
    refine le_advanceFloor_rows counted (statuses status owned) ?_
    rintro other otherStored beyond covered ⟨foreign, owns, outside⟩
    exact outside (unstraddled.status other otherStored ⟨beyond, covered⟩ foreign owns)

/-! ## What the plan covers -/

/-- With a cutoff that counts, the evaluations that the floor newly covers are older. -/
private theorem older_of_counts (counts : state.CutoffCounts cutoff) {evaluation : EvaluationRun}
    (member : evaluation ∈ state.evaluationRuns)
    (newly : Newly state.retention.evaluationFloor (state.planExpiry cutoff maxCandidateRuns).floors.evaluation
      evaluation.evaluationSequence) : evaluation.evaluatedAt.lt cutoff = true := by
  have covered {other : EvaluationRun} (stored : other ∈ state.evaluationRuns)
      (beyond : state.retention.evaluationFloor < other.evaluationSequence)
      (below : other.evaluationSequence ≤ evaluation.evaluationSequence) :=
    @covered_evaluation state cutoff state.retention.floors (state.planExpiry cutoff maxCandidateRuns).runs other stored
      beyond (below.trans newly.2)
  by_cases readable : cutoff.julianday = none
  · obtain ⟨first, found⟩ : ∃ first, firstAbove state.retention.evaluationFloor
        (state.evaluationRuns.map EvaluationRun.evaluationSequence) = some first := by
      refine Option.isSome_iff_exists.mp (List.isSome_min?_of_mem (List.mem_filter.mpr ⟨List.mem_map_of_mem member, ?_⟩))
      exact decide_eq_true newly.1
    obtain ⟨listed, least⟩ := List.min?_eq_some_iff.mp found
    obtain ⟨mapped, beyond⟩ := List.mem_filter.mp listed
    obtain ⟨earliest, stored, rfl⟩ := List.mem_map.mp mapped
    have below := least _ (List.mem_filter.mpr ⟨List.mem_map_of_mem member, decide_eq_true newly.1⟩)
    obtain ⟨old, triggered⟩ := covered stored (of_decide_eq_true beyond) below
    rw [planExpiry_runs_eq_nil readable] at triggered
    rcases counts readable earliest stored found.symm with unreadable | given
    · simp [Timestamp.young, unreadable] at old
    · obtain ⟨runId, trigger⟩ := Option.ne_none_iff_exists'.mp given
      exact absurd (triggered runId trigger) List.not_mem_nil
  · exact lt_of_not_young (covered member newly.1 le_rfl).1 readable

/-- Otherwise the floor passes an evaluation that it cannot compare. -/
private theorem covered_of_not_counts (keys : UniqueKeys state) (uncounted : ¬ state.CutoffCounts cutoff) :
    cutoff.julianday = none ∧ ∃ evaluation ∈ state.evaluationRuns, Newly state.retention.evaluationFloor
      (state.planExpiry cutoff maxCandidateRuns).floors.evaluation evaluation.evaluationSequence := by
  unfold CutoffCounts at uncounted
  push Not at uncounted
  obtain ⟨unreadable, evaluation, member, first, readable, untriggered⟩ := uncounted
  obtain ⟨listed, least⟩ := List.min?_eq_some_iff.mp first.symm
  have beyond := of_decide_eq_true (List.mem_filter.mp listed).2
  refine ⟨unreadable, evaluation, member, beyond, ?_⟩
  refine le_advanceFloor_rows (List.mem_map_of_mem member) le_rfl fun other stored above covered blocking => ?_
  have same := least _ (List.mem_filter.mpr ⟨List.mem_map_of_mem stored, decide_eq_true above⟩)
  have equal := eq_of_key keys.evaluation.evaluationSequence member stored (same.antisymm covered)
  subst equal
  rcases blocking with young | ⟨runId, trigger, _⟩
  · obtain ⟨day, read⟩ := Option.ne_none_iff_exists'.mp readable
    simp [Timestamp.young, Timestamp.ge, read, unreadable] at young
  · rw [untriggered] at trigger
    cases trigger

/-! ## The probe -/

/-- Nothing beyond the floors moves: the floors stay, and what is selected to be deleted
or compacted lies at or below them. -/
structure NothingAdvances (state : StoreState) (cutoff : Timestamp) (maxCandidateRuns : Option Nat) : Prop where
  evaluation : (state.planExpiry cutoff maxCandidateRuns).floors.evaluation = state.retention.evaluationFloor
  report : (state.planExpiry cutoff maxCandidateRuns).floors.report = state.retention.reportFloor
  intake : (state.planExpiry cutoff maxCandidateRuns).floors.intake = state.retention.intakeFloor
  run : ∀ runId, (state.planExpiry cutoff maxCandidateRuns).Dead runId →
    state.Within state.retention.floors runId
  evaluations : ∀ evaluation ∈ state.evaluationRuns,
    (state.planExpiry cutoff maxCandidateRuns).Affected evaluation.evaluationId →
    evaluation.evaluationSequence ≤ state.retention.evaluationFloor

/-- A floor stays when the next row, if any row lies above it, blocks it. -/
private theorem advanceFloor_rows_stays {Row : Type} {rows : List Row} {key : Row → Int} {blocks : Row → Prop}
    [DecidablePred blocks] {before last : Int} (dense : Dense before last (rows.map key))
    (blocked : ∀ row ∈ rows, before < key row → firstAbove before (rows.map key) = some (key row) → blocks row) :
    advanceFloor before ((rows.filter fun row => before < key row ∧ blocks row).map key) (rows.map key).max? = before := by
  refine le_antisymm ?_ le_advanceFloor_before
  by_cases above : ∃ sequence ∈ rows.map key, before < sequence
  · obtain ⟨sequence, member, exceeds⟩ := above
    have next := dense.present (before + 1) (by omega) (by have := dense.bounded sequence member; omega)
    have first : firstAbove before (rows.map key) = some (before + 1) := by
      refine List.min?_eq_some_iff.mpr ⟨List.mem_filter.mpr ⟨next, by simp⟩, fun other listed => ?_⟩
      have exceeds := of_decide_eq_true (List.mem_filter.mp listed).2
      omega
    obtain ⟨row, stored, same⟩ := List.mem_map.mp next
    have beyond : before < key row := by omega
    have chosen := blocked row stored beyond (same ▸ first)
    have below := @advanceFloor_lt _ before ((rows.filter fun row => before < key row ∧ blocks row).map key)
      (rows.map key).max? (List.mem_map_of_mem (List.mem_filter.mpr ⟨stored, decide_eq_true ⟨beyond, chosen⟩⟩)) beyond
    omega
  · push Not at above
    refine advanceFloor_le le_rfl (fun sequence member => ?_) fun sequence top => ?_
    · exact above sequence (List.map_subset _ List.filter_sublist.subset member)
    · exact above sequence (List.max?_eq_some_iff.mp (Option.mem_def.mp top)).1

private theorem not_selected_of_first (probe : ¬ state.PrefixMayAdvance cutoff)
    (chosen : (state.planExpiry cutoff maxCandidateRuns).Chosen state cutoff) (first : state.FirstRun runId) :
    runId ∉ (state.planExpiry cutoff maxCandidateRuns).runs := by
  intro selected
  obtain ⟨run, stored, rfl, aged⟩ := chosen.aged runId selected
  exact probe (.inr (.inl ⟨run, stored, first, aged⟩))

section Reached

variable (reachable : Reachable identityDigest state)

include reachable

private theorem planExpiry_unstraddled (counts : state.CutoffCounts cutoff) :
    state.Unstraddled cutoff (state.planExpiry cutoff maxCandidateRuns).floors
      (state.planExpiry cutoff maxCandidateRuns).runs := by
  have chosen := reachable.chosen cutoff maxCandidateRuns
  have raised : Floors.Le state.retention.floors (state.planExpiry cutoff maxCandidateRuns).floors :=
    before_le_floorsFor
  constructor
  case raised => exact raised
  case within => exact chosen.within
  case older => exact fun evaluation member newly => older_of_counts counts member newly
  case evaluation => exact fun evaluation member newly => (covered_evaluation member newly.1 newly.2).2
  case report =>
    intro report member newly
    obtain ⟨submission, submitted, same⟩ := reachable.foreignKeys.collection.reportSubmission report member
    have owned : report ∈ state.reportsOf submission.runId :=
      (state.mem_reportsOf).mpr ⟨member, submission, submitted, same, rfl⟩
    exact ⟨submission.runId, covered_report owned newly.1 newly.2, owned⟩
  case intake =>
    intro intake member newly
    have full : intake.historyExpired = false := by
      refine Bool.eq_false_iff.mpr fun expired => ?_
      exact absurd (reachable.collectionNumbers.retired intake member expired) (not_le.mpr newly.1)
    by_cases linked : ∃ link ∈ state.localWatcherProviderIntakes, link.intakeId = intake.intakeId
    · obtain ⟨link, listed, same⟩ := linked
      have owned : intake ∈ state.intakesOf link.runId := (state.mem_intakesOf).mpr ⟨member, link, listed, same, rfl⟩
      exact ⟨link.runId, covered_intake owned full newly.1 newly.2, owned⟩
    · have below : (state.planExpiry cutoff maxCandidateRuns).floors.intake < intake.intakeSequence := by
        refine advanceFloor_lt (List.mem_map.mpr ⟨intake, ?_, rfl⟩) newly.1
        simp only [List.mem_filter, decide_eq_true_eq]
        exact ⟨member, newly.1, full, .inl linked⟩
      exact absurd newly.2 (not_le.mpr below)
  case status =>
    intro status member newly runId owner
    exact covered_status ((state.mem_statusesOf).mpr ⟨member, owner⟩) newly.1 newly.2

/-- The floors of an expiry and its runs are the largest that straddle nothing exactly when
the cutoff counts. -/
theorem floor_fixpoint_iff_counts :
    state.FloorFixpoint cutoff maxCandidateRuns ↔ state.CutoffCounts cutoff := by
  constructor
  · intro fixpoint
    by_contra uncounted
    obtain ⟨unreadable, evaluation, member, newly⟩ :=
      @covered_of_not_counts _ _ maxCandidateRuns reachable.uniqueKeys uncounted
    exact readable_of_lt (fixpoint.unstraddled.older evaluation member newly) unreadable
  · intro counts
    constructor
    case ended => exact pruneTurn_prune _ _
    case offered => exact (candidateRuns_sublist _).subset
    case unstraddled => exact planExpiry_unstraddled reachable counts
    case largest =>
      intro floors runs offered unstraddled
      exact subset_candidateRuns offered fun runId member => unstraddled.within_floorsFor reachable.uniqueKeys member

section Probe

variable (probe : ¬ state.PrefixMayAdvance cutoff)

include probe

private theorem evaluationFloor_stays (counts : state.CutoffCounts cutoff) :
    (state.planExpiry cutoff maxCandidateRuns).floors.evaluation = state.retention.evaluationFloor := by
  have numbers := reachable.evaluationNumbers
  have dense : Dense state.retention.evaluationFloor state.currentSequence
      (state.evaluationRuns.map EvaluationRun.evaluationSequence) := by
    constructor
    · intro sequence member
      obtain ⟨evaluation, stored, rfl⟩ := List.mem_map.mp member
      exact le_currentSequence stored
    · intro sequence above below
      obtain ⟨evaluation, stored, same⟩ := numbers.dense sequence above below
      exact List.mem_map.mpr ⟨evaluation, stored, same⟩
  refine advanceFloor_rows_stays dense fun evaluation stored beyond found => ?_
  by_cases readable : cutoff.julianday = none
  · rcases counts readable evaluation stored found.symm with unreadable | given
    · exact .inl (by simp [Timestamp.young, unreadable])
    · obtain ⟨runId, trigger⟩ := Option.ne_none_iff_exists'.mp given
      have outside : runId ∉ (state.planExpiry cutoff maxCandidateRuns).runs := by
        rw [planExpiry_runs_eq_nil readable]
        exact List.not_mem_nil
      exact .inr ⟨runId, trigger, outside⟩
  · left
    by_contra old
    have older := lt_of_not_young (Bool.eq_false_iff.mpr old) readable
    exact probe (.inl ⟨evaluation, stored, older, found.symm⟩)

private theorem reportFloor_stays :
    (state.planExpiry cutoff maxCandidateRuns).floors.report = state.retention.reportFloor := by
  have dense := reachable.collectionNumbers.reports
  refine advanceFloor_rows_stays dense fun report stored beyond found => ?_
  obtain ⟨submission, submitted, owner⟩ := reachable.foreignKeys.collection.reportSubmission report stored
  have first : state.FirstRun submission.runId :=
    .inl ⟨report, (state.mem_reportsOf).mpr ⟨stored, submission, submitted, owner, rfl⟩, found.symm⟩
  exact ⟨submission, submitted, owner, not_selected_of_first probe (reachable.chosen cutoff maxCandidateRuns) first⟩

private theorem intakeFloor_stays :
    (state.planExpiry cutoff maxCandidateRuns).floors.intake = state.retention.intakeFloor := by
  have dense := reachable.collectionNumbers.intakes
  refine advanceFloor_rows_stays dense fun intake stored beyond found => ?_
  have full : intake.historyExpired = false := by
    refine Bool.eq_false_iff.mpr fun expired => ?_
    exact absurd (reachable.collectionNumbers.retired intake stored expired) (not_le.mpr beyond)
  refine ⟨full, ?_⟩
  by_cases linked : ∃ link ∈ state.localWatcherProviderIntakes, link.intakeId = intake.intakeId
  · obtain ⟨link, listed, owner⟩ := linked
    have first : state.FirstRun link.runId :=
      .inr (.inl ⟨intake, (state.mem_intakesOf).mpr ⟨stored, link, listed, owner, rfl⟩, found.symm⟩)
    exact .inr ⟨link, listed, owner, not_selected_of_first probe (reachable.chosen cutoff maxCandidateRuns) first⟩
  · exact .inl linked

/-- The floor of the statuses may pass statuses without a run, but no status of a run. -/
private theorem statuses_stay {status : StatusEvent}
    (owned : status ∈ state.statusesOf runId)
    (covered : status.statusSequence ≤ (state.planExpiry cutoff maxCandidateRuns).floors.status) :
    status.statusSequence ≤ state.retention.statusFloor := by
  by_contra above
  obtain ⟨stored, owner⟩ := (state.mem_statusesOf).mp owned
  have listed : status.statusSequence ∈ ((state.statusEvents.filter fun status => status.runId.isSome).map
      StatusEvent.statusSequence).filter fun sequence => state.retention.statusFloor < sequence := by
    refine List.mem_filter.mpr ⟨List.mem_map_of_mem (List.mem_filter.mpr ⟨stored, by simp [owner]⟩), ?_⟩
    exact decide_eq_true (not_le.mp above)
  obtain ⟨sequence, found⟩ := Option.isSome_iff_exists.mp (List.isSome_min?_of_mem listed)
  obtain ⟨member, least⟩ := List.min?_eq_some_iff.mp found
  obtain ⟨mapped, beyond⟩ := List.mem_filter.mp member
  obtain ⟨earliest, selected, rfl⟩ := List.mem_map.mp mapped
  obtain ⟨earliestStored, owns⟩ := List.mem_filter.mp selected
  obtain ⟨firstRun, firstOwner⟩ := Option.isSome_iff_exists.mp owns
  have earliestOwned := (state.mem_statusesOf).mpr ⟨earliestStored, firstOwner⟩
  have outside := not_selected_of_first probe (reachable.chosen cutoff maxCandidateRuns)
    (.inr (.inr ⟨earliest, earliestOwned, found.symm⟩))
  exact outside (covered_status earliestOwned (of_decide_eq_true beyond) ((least _ listed).trans covered))

end Probe

/-- When the probe finds nothing, the plan advances nothing exactly when the cutoff counts. -/
theorem probe_sound_iff_counts (probe : ¬ state.PrefixMayAdvance cutoff) :
    state.NothingAdvances cutoff maxCandidateRuns ↔ state.CutoffCounts cutoff := by
  have keys := reachable.uniqueKeys
  have chosen := reachable.chosen cutoff maxCandidateRuns
  constructor
  · intro stays
    by_contra uncounted
    obtain ⟨-, evaluation, member, newly⟩ := @covered_of_not_counts _ _ maxCandidateRuns keys uncounted
    have covered := newly.2
    rw [stays.evaluation] at covered
    exact absurd covered (not_le.mpr newly.1)
  · intro counts
    have evaluationStays := @evaluationFloor_stays _ _ _ maxCandidateRuns reachable probe counts
    have reportStays := @reportFloor_stays _ _ _ maxCandidateRuns reachable probe
    have intakeStays := @intakeFloor_stays _ _ _ maxCandidateRuns reachable probe
    constructor
    case evaluation => exact evaluationStays
    case report => exact reportStays
    case intake => exact intakeStays
    case run =>
      intro runId dead
      obtain ⟨evaluations, reports, intakes, statuses⟩ := chosen.within runId ((chosen.dead runId).mp dead).1
      rw [evaluationStays] at evaluations
      rw [reportStays] at reports
      rw [intakeStays] at intakes
      exact ⟨evaluations, reports, intakes, fun status owned =>
        statuses_stay reachable probe owned (statuses status owned)⟩
    case evaluations =>
      intro evaluation member affected
      have candidate := ((affected_iff keys chosen.toSpec member).mp affected).1
      have covered := candidate.2.1
      rwa [evaluationStays] at covered

end Reached

end StoreState

open StoreState

/-- A finding opens, its lineage is evaluated again, an expiry keeps both evaluations, and
the finding resolves. -/
private def releasingOperations : List Operation :=
  [Sample.opens, Sample.evaluates ["repeats"] 101, Sample.expires, Sample.resolves]

private def releasedStore : StoreState := StoreState.executed (fun _ => "") releasingOperations

private theorem reachable_releasedStore : Reachable (fun _ => "") releasedStore :=
  reachable_executed (by decide +kernel)

/-- chrono takes a lower-case `t` in a time, SQLite does not. -/
private def unreadableCutoff : Timestamp where
  text := "1970-01-01t00:02:30Z"
  instant := some 150
  julianday := none

/-- The released evaluation lets an expiry begin at a cutoff that SQLite cannot read, and
the floor then passes an evaluation made after it. -/
theorem floor_passes_unreadable_cutoff : Reachable (fun _ => "") releasedStore ∧
    unreadableCutoff.instant.isSome ∧ releasedStore.PrefixMayAdvance unreadableCutoff ∧
    (∃ evaluation ∈ releasedStore.evaluationRuns, evaluation.evaluationSequence = 3 ∧
      evaluation.evaluatedAt.instant = some 200) ∧
    releasedStore.retention.evaluationFloor = 2 ∧
    (releasedStore.planExpiry unreadableCutoff none).floors.evaluation = 3 ∧
    ¬ releasedStore.FloorFixpoint unreadableCutoff none := by
  refine ⟨reachable_releasedStore, rfl, by decide +kernel, by decide +kernel, by decide +kernel, by decide +kernel, ?_⟩
  intro fixpoint
  have fresh : ∃ evaluation ∈ releasedStore.evaluationRuns,
      (releasedStore.retention.evaluationFloor < evaluation.evaluationSequence ∧ evaluation.evaluationSequence ≤
        (releasedStore.planExpiry unreadableCutoff none).floors.evaluation) ∧
      evaluation.evaluatedAt.lt unreadableCutoff = false := by
    decide +kernel
  obtain ⟨evaluation, member, newly, young⟩ := fresh
  rw [fixpoint.unstraddled.older evaluation member newly] at young
  cases young

/-- A cutoff that SQLite reads counts. -/
theorem floor_fixpoint_readable_cutoff : releasedStore.FloorFixpoint (Sample.time 150) none :=
  (floor_fixpoint_iff_counts reachable_releasedStore).mpr (by decide +kernel)

private def singleStore : StoreState := StoreState.executed (fun _ => "") [Sample.evaluates ["single"] 200]

/-- At a cutoff that SQLite cannot read the probe finds nothing, yet the plan would advance
the floor. -/
theorem probe_misses_unreadable_cutoff : Reachable (fun _ => "") singleStore ∧ unreadableCutoff.instant.isSome ∧
    ¬ singleStore.PrefixMayAdvance unreadableCutoff ∧ ¬ singleStore.NothingAdvances unreadableCutoff none := by
  refine ⟨reachable_executed (by decide +kernel), rfl, by decide +kernel, fun stays => ?_⟩
  have moved : (singleStore.planExpiry unreadableCutoff none).floors.evaluation ≠
      singleStore.retention.evaluationFloor := by
    decide +kernel
  exact moved stays.evaluation

/-- At a readable cutoff before the evaluation the plan advances nothing. -/
theorem probe_sound_readable_cutoff : singleStore.NothingAdvances (Sample.time 150) none :=
  (probe_sound_iff_counts (reachable_executed (by decide +kernel)) (by decide +kernel)).mpr (by decide +kernel)

end ConstellationNq.Store
