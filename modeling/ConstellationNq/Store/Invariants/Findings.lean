import ConstellationNq.Store.Invariants.Numbers

/-!
# The history of a finding

The events of a finding are numbered from one in the order of their insertion, the
first one opens it, and each later one follows the event before it: the same
lineage under a later evaluation, with the condition kept when that evaluation was
refused.
-/

set_option autoImplicit false

namespace ConstellationNq.Store

open Library.Sequence StoreState

/-- The immutable lineage of a finding. -/
structure FindingEvent.SameIdentity (prior event : FindingEvent) : Prop where
  instanceId : prior.instanceId = event.instanceId
  detectorId : prior.detectorId = event.detectorId
  detectorVersion : prior.detectorVersion = event.detectorVersion
  detectorDigest : prior.detectorDigest = event.detectorDigest
  profile : prior.profile = event.profile
  subjectJson : prior.subjectJson = event.subjectJson
  conditionName : prior.conditionName = event.conditionName
  basisJson : prior.basisJson = event.basisJson

/-- What an event has in common with its evaluation. -/
structure EventEvaluated (event : FindingEvent) (evaluation : EvaluationRun) : Prop where
  evaluationId : evaluation.evaluationId = event.evaluationId
  detectorId : event.detectorId = evaluation.detectorId
  detectorVersion : event.detectorVersion = evaluation.detectorVersion
  detectorDigest : event.detectorDigest = evaluation.detectorDigest
  evaluatorArtifactDigest : event.evaluatorArtifactDigest = evaluation.evaluatorArtifactDigest
  evaluationRevision : event.evaluationRevision = evaluation.evaluationRevision
  profile : event.profile = evaluation.profile
  evaluatedAt : event.evaluatedAt = evaluation.evaluatedAt
  present : evaluation.outcome = .conditionPresent → event.conditionState = .present
  absent : evaluation.outcome = .conditionExplicitlyAbsent → event.conditionState = .explicitlyAbsent
  visible : evaluation.outcome = .cannotEvaluate → event.visibilityState ≠ .sufficient

namespace StoreState

variable {state after : StoreState}

def eventsOf (state : StoreState) (findingId : String) : List FindingEvent :=
  state.findingEvents.filter fun event => event.findingId = findingId

theorem mem_eventsOf {findingId : String} {event : FindingEvent} :
    event ∈ state.eventsOf findingId ↔ event ∈ state.findingEvents ∧ event.findingId = findingId := by
  simp [eventsOf]

/-- `event` is the next event of the finding of `prior`. -/
structure Follows (state : StoreState) (prior event : FindingEvent) : Prop where
  findingId : prior.findingId = event.findingId
  revision : event.eventRevision = prior.eventRevision + 1
  identity : prior.SameIdentity event
  evaluations : ∃ priorEvaluation ∈ state.evaluationRuns, ∃ evaluation ∈ state.evaluationRuns,
    priorEvaluation.evaluationId = prior.evaluationId ∧ evaluation.evaluationId = event.evaluationId ∧
    priorEvaluation.profileSemanticId = evaluation.profileSemanticId ∧
    priorEvaluation.evaluationRevision < evaluation.evaluationRevision ∧
    (evaluation.outcome = .cannotEvaluate → event.conditionState = prior.conditionState)

theorem Follows.mono {prior event : FindingEvent} (link : state.Follows prior event)
    (kept : ∀ evaluation ∈ state.evaluationRuns, evaluation ∈ after.evaluationRuns) :
    after.Follows prior event := by
  obtain ⟨priorEvaluation, first, evaluation, second, rest⟩ := link.evaluations
  exact ⟨link.findingId, link.revision, link.identity,
    priorEvaluation, kept _ first, evaluation, kept _ second, rest⟩

structure FindingHistory (state : StoreState) : Prop where
  evaluated : ∀ event ∈ state.findingEvents, ∃ evaluation ∈ state.evaluationRuns,
    EventEvaluated event evaluation
  once : (state.findingEvents.map FindingEvent.evaluationId).Nodup
  revisions : ∀ findingId, (state.eventsOf findingId).map FindingEvent.eventRevision =
    consecutive 0 (state.eventsOf findingId).length
  current : ∀ findingId, state.currentEvent findingId = (state.eventsOf findingId).getLast?
  pointed : ∀ current ∈ state.findingCurrent, ∃ event ∈ state.findingEvents,
    event.eventId = current.latestEventId
  opened : ∀ event ∈ state.findingEvents, event.eventKind = .opened ↔ event.eventRevision = 1
  first : ∀ event ∈ state.findingEvents, event.eventRevision = 1 → ∀ evaluation ∈ state.evaluationRuns,
    evaluation.evaluationId = event.evaluationId → evaluation.outcome ≠ .cannotEvaluate
  follows : ∀ event ∈ state.findingEvents, event.eventRevision ≠ 1 → ∃ prior ∈ state.findingEvents,
    state.Follows prior event

theorem FindingHistory.revisionPositive (history : FindingHistory state) {event : FindingEvent}
    (member : event ∈ state.findingEvents) : 0 < event.eventRevision := by
  have numbered : event.eventRevision ∈ (state.eventsOf event.findingId).map FindingEvent.eventRevision :=
    List.mem_map_of_mem (mem_eventsOf.mpr ⟨member, rfl⟩)
  rw [history.revisions] at numbered
  exact (mem_consecutive.mp numbered).1

theorem findingHistory_empty : FindingHistory StoreState.empty := by
  constructor
  case once => exact List.nodup_nil
  case revisions => exact fun _ => rfl
  case current => exact fun _ => rfl
  all_goals
    intro row member
    cases member

/-! ## Other tables -/

/-- Only the evaluations, the events and their pointers matter. -/
theorem FindingHistory.congr (history : FindingHistory state)
    (evaluationRuns : after.evaluationRuns = state.evaluationRuns)
    (events : after.findingEvents = state.findingEvents)
    (pointers : after.findingCurrent = state.findingCurrent) : FindingHistory after := by
  have ofFinding : ∀ findingId, after.eventsOf findingId = state.eventsOf findingId := by
    intro findingId
    unfold eventsOf
    rw [events]
  have currentEvents : ∀ findingId, after.currentEvent findingId = state.currentEvent findingId := by
    intro findingId
    unfold currentEvent
    rw [events, pointers]
  constructor
  case evaluated => rw [events, evaluationRuns]; exact history.evaluated
  case once => rw [events]; exact history.once
  case revisions => simpa only [ofFinding] using history.revisions
  case current => simpa only [ofFinding, currentEvents] using history.current
  case pointed => rw [events, pointers]; exact history.pointed
  case opened => rw [events]; exact history.opened
  case first => rw [events, evaluationRuns]; exact history.first
  case follows =>
    intro event member later
    rw [events] at member
    obtain ⟨prior, stored, link⟩ := history.follows event member later
    exact ⟨prior, events ▸ stored, link.mono fun evaluation old => evaluationRuns ▸ old⟩

/-! ## One more evaluation -/

theorem findingHistory_appendEvaluation (history : FindingHistory state) {row : EvaluationRun}
    {watermarks : List EvaluationWatermark}
    (fresh : ∀ old ∈ state.evaluationRuns, old.evaluationId ≠ row.evaluationId) :
    FindingHistory (state.appendEvaluation row watermarks) := by
  constructor
  case once => exact history.once
  case revisions => exact history.revisions
  case current => exact history.current
  case pointed => exact history.pointed
  case opened => exact history.opened
  case evaluated =>
    intro event member
    obtain ⟨evaluation, stored, agrees⟩ := history.evaluated event member
    exact ⟨evaluation, List.mem_append_left _ stored, agrees⟩
  case first =>
    intro event member one evaluation stored named
    rcases List.mem_append.mp stored with old | new
    · exact history.first event member one evaluation old named
    · obtain ⟨owner, ownerStored, agrees⟩ := history.evaluated event member
      rw [List.mem_singleton.mp new] at named
      exact absurd (agrees.evaluationId.trans named.symm) (fresh owner ownerStored)
  case follows =>
    intro event member later
    obtain ⟨prior, priorStored, link⟩ := history.follows event member later
    exact ⟨prior, priorStored, link.mono fun _ old => List.mem_append_left _ old⟩

/-! ## One more event -/

section Event

variable {event : FindingEvent} {evidence : List FindingEvidence}

private theorem eventsOf_appendFindingEvent (findingId : String) :
    (state.appendFindingEvent event evidence).eventsOf findingId =
      state.eventsOf findingId ++ if event.findingId = findingId then [event] else [] := by
  unfold eventsOf appendFindingEvent
  rw [List.filter_append]
  split
  · rename_i same
    rw [List.filter_cons_of_pos (by simpa using same), List.filter_nil]
  · rename_i other
    rw [List.filter_cons_of_neg (by simpa using other), List.filter_nil]

private theorem find_pointFinding (pointers : List FindingCurrent) (findingId : String) :
    ((pointFinding pointers event).find? fun current => current.findingId = findingId) =
      if event.findingId = findingId then some { findingId := event.findingId, latestEventId := event.eventId }
      else pointers.find? fun current => current.findingId = findingId := by
  unfold pointFinding
  rw [List.find?_append]
  split
  · rename_i same
    rw [find?_filter_eq_none (by simp [same])]
    simp [same]
  · rename_i other
    have keeps : ∀ current : FindingCurrent, decide (current.findingId = findingId) →
        decide (current.findingId ≠ event.findingId) := by
      intro current chosen
      rw [decide_eq_true_eq] at chosen ⊢
      exact fun equal => other (equal ▸ chosen)
    rw [find?_filter_of_imp keeps]
    simp [other]

private theorem currentEvent_appendFindingEvent
    (distinct : ((state.findingEvents ++ [event]).map FindingEvent.eventId).Nodup)
    (pointed : ∀ current ∈ state.findingCurrent, ∃ event ∈ state.findingEvents,
      event.eventId = current.latestEventId) (findingId : String) :
    (state.appendFindingEvent event evidence).currentEvent findingId =
      if event.findingId = findingId then some event else state.currentEvent findingId := by
  unfold currentEvent appendFindingEvent
  simp only [find_pointFinding, List.find?_append]
  split
  · have absent : (state.findingEvents.find? fun other => decide (other.eventId = event.eventId)) = none := by
      refine List.find?_eq_none.mpr fun other member => ?_
      rw [decide_eq_true_eq]
      exact key_ne_of_append distinct member (List.mem_singleton_self event)
    simp [absent]
  · cases found : state.findingCurrent.find? fun current => decide (current.findingId = findingId) with
    | none => rfl
    | some current =>
        obtain ⟨target, stored, same⟩ := pointed current (List.mem_of_find?_eq_some found)
        have present : (state.findingEvents.find? fun other =>
            decide (other.eventId = current.latestEventId)).isSome := by
          rw [List.find?_isSome]
          exact ⟨target, stored, by simpa using same⟩
        obtain ⟨selected, chosen⟩ := Option.isSome_iff_exists.mp present
        simp [chosen]

theorem nextEventRevision_eq (history : FindingHistory state) (findingId : String) :
    state.nextEventRevision findingId = (state.eventsOf findingId).length + 1 := by
  unfold nextEventRevision
  rw [history.current]
  have numbered := history.revisions findingId
  rcases List.eq_nil_or_concat (state.eventsOf findingId) with none_ | ⟨earlier, last, some_⟩
  · simp [none_]
  · rw [some_, List.concat_eq_append] at numbered ⊢
    rw [List.map_append, List.length_append] at numbered
    have highest := (consecutive_succ_eq numbered).2
    simp only [List.getLast?_append, List.getLast?_singleton, Option.some_or, List.length_append,
      List.length_singleton]
    omega

theorem findingHistory_appendFindingEvent (history : FindingHistory state) {evaluation : EvaluationRun}
    (stored : evaluation ∈ state.evaluationRuns) (agrees : EventEvaluated event evaluation)
    (only : ∀ other ∈ state.evaluationRuns, other.evaluationId = event.evaluationId → other = evaluation)
    (unnamed : ∀ old ∈ state.findingEvents, old.evaluationId ≠ event.evaluationId)
    (distinct : ((state.findingEvents ++ [event]).map FindingEvent.eventId).Nodup)
    (revision : event.eventRevision = state.nextEventRevision event.findingId)
    (opening : event.eventKind = .opened ↔ state.currentEvent event.findingId = none)
    (opens : state.currentEvent event.findingId = none → evaluation.outcome ≠ .cannotEvaluate)
    (follows : ∀ prior ∈ state.currentEvent event.findingId, state.Follows prior event) :
    FindingHistory (state.appendFindingEvent event evidence) := by
  have events := @eventsOf_appendFindingEvent state event evidence
  have pointer := @currentEvent_appendFindingEvent state event evidence distinct history.pointed
  have numbered : event.eventRevision = (state.eventsOf event.findingId).length + 1 :=
    revision.trans (nextEventRevision_eq history event.findingId)
  have begins : state.currentEvent event.findingId = none ↔ event.eventRevision = 1 := by
    rw [history.current, List.getLast?_eq_none_iff, ← List.length_eq_zero_iff, numbered]
    omega
  have member : ∀ old, old ∈ (state.appendFindingEvent event evidence).findingEvents ↔
      old ∈ state.findingEvents ∨ old = event := by
    intro old
    simp [appendFindingEvent]
  constructor
  case evaluated =>
    intro old given
    rcases (member old).mp given with earlier | rfl
    · exact history.evaluated old earlier
    · exact ⟨evaluation, stored, agrees⟩
  case once =>
    change ((state.findingEvents ++ [event]).map FindingEvent.evaluationId).Nodup
    rw [List.map_append]
    refine List.nodup_append.mpr ⟨history.once, List.nodup_singleton _, fun first old second new same => ?_⟩
    obtain ⟨earlier, given, rfl⟩ := List.mem_map.mp old
    rw [List.map_cons, List.map_nil, List.mem_singleton] at new
    exact unnamed earlier given (same.trans new)
  case revisions =>
    intro findingId
    rw [events]
    split
    · rename_i same
      subst same
      rw [List.map_append, history.revisions, List.length_append, List.length_singleton, consecutive_succ,
        List.map_cons, List.map_nil, numbered]
      simp
    · rw [List.append_nil]
      exact history.revisions findingId
  case current =>
    intro findingId
    rw [pointer, events]
    split
    · simp
    · rw [List.append_nil]
      exact history.current findingId
  case pointed =>
    intro current given
    change current ∈ pointFinding state.findingCurrent event at given
    unfold pointFinding at given
    rcases List.mem_append.mp given with old | new
    · obtain ⟨target, earlier, same⟩ := history.pointed current (List.mem_filter.mp old).1
      exact ⟨target, (member target).mpr (.inl earlier), same⟩
    · rw [List.mem_singleton.mp new]
      exact ⟨event, (member event).mpr (.inr rfl), rfl⟩
  case opened =>
    intro old given
    rcases (member old).mp given with earlier | rfl
    · exact history.opened old earlier
    · exact opening.trans begins
  case first =>
    intro old given one other otherStored named
    rcases (member old).mp given with earlier | rfl
    · exact history.first old earlier one other otherStored named
    · rw [only other otherStored named]
      exact opens (begins.mpr one)
  case follows =>
    intro old given later
    rcases (member old).mp given with earlier | rfl
    · obtain ⟨prior, priorStored, link⟩ := history.follows old earlier later
      exact ⟨prior, (member prior).mpr (.inl priorStored), link.mono fun _ kept => kept⟩
    · have pending : state.currentEvent old.findingId ≠ none := fun none_ => later (begins.mp none_)
      obtain ⟨prior, found⟩ := Option.ne_none_iff_exists'.mp pending
      have last := history.current old.findingId
      rw [found] at last
      have priorStored := (mem_eventsOf.mp (List.mem_of_getLast? last.symm)).1
      exact ⟨prior, (member prior).mpr (.inl priorStored), (follows prior found).mono fun _ kept => kept⟩

end Event

/-! ## Growth -/

private theorem follows_of_accepted (history : FindingHistory state) {evaluation : EvaluationInput}
    {finding : FindingEventInput} {watermarks : List EvaluationWatermark}
    (distinct : ((state.evaluationRuns ++ [state.newEvaluation evaluation]).map EvaluationRun.evaluationId).Nodup)
    (accepted : FindingAccepted (state.appendEvaluation (state.newEvaluation evaluation) watermarks)
      evaluation finding) {prior : FindingEvent} (current : state.currentEvent finding.findingId = some prior) :
    (state.appendEvaluation (state.newEvaluation evaluation) watermarks).Follows prior
      (findingEventRow evaluation (state.newEvaluation evaluation).evaluationRevision finding
        (state.nextEventRevision finding.findingId)) := by
  have last := history.current finding.findingId
  rw [current] at last
  obtain ⟨stored, owner⟩ := mem_eventsOf.mp (List.mem_of_getLast? last.symm)
  obtain ⟨instanceId, detectorId, detectorVersion, detectorDigest, profile, subject, condition, basis,
    other, otherStored, otherId, semantic⟩ := accepted.lineage prior current
  obtain ⟨priorEvaluation, priorStored, agrees⟩ := history.evaluated prior stored
  have same : other = priorEvaluation :=
    eq_of_key distinct otherStored (List.mem_append_left _ priorStored) (otherId.trans agrees.evaluationId.symm)
  have of : priorEvaluation.Of evaluation.detectorId evaluation.detectorVersion :=
    ⟨agrees.detectorId.symm.trans detectorId, agrees.detectorVersion.symm.trans detectorVersion⟩
  refine ⟨owner, ?_, ⟨instanceId, detectorId, detectorVersion, detectorDigest, profile, subject, condition,
    basis⟩, priorEvaluation, List.mem_append_left _ priorStored, state.newEvaluation evaluation,
    List.mem_append_right _ (List.mem_singleton_self _), agrees.evaluationId, rfl, same ▸ semantic,
    Int.lt_add_one_of_le (le_currentRevision priorStored of), fun refused => ?_⟩
  · change state.nextEventRevision finding.findingId = _
    unfold nextEventRevision
    rw [current]
  · obtain ⟨_, retained, found, equal⟩ := accepted.retained refused
    have : some retained = some prior := found.symm.trans current
    rw [Option.some.inj this] at equal
    exact equal

theorem findingHistory_step {input : EvaluationCommitInput} (step : EvaluationStep state input after)
    (evaluationIds : (after.evaluationRuns.map EvaluationRun.evaluationId).Nodup)
    (eventIds : (after.findingEvents.map FindingEvent.eventId).Nodup) (history : FindingHistory state) :
    FindingHistory after := by
  rw [step.evaluationRuns] at evaluationIds
  have fresh : ∀ old ∈ state.evaluationRuns,
      old.evaluationId ≠ (state.newEvaluation input.evaluation).evaluationId := fun old member =>
    key_ne_of_append evaluationIds member (List.mem_singleton_self _)
  have extended := @findingHistory_appendEvaluation state history _ (newWatermarks input.evaluation) fresh
  have events := step.findingEvents
  have pointers := step.findingCurrent
  cases given : input.finding with
  | none =>
      simp only [newEvents, given, Option.toList_none, List.map_nil, List.append_nil, List.foldl_nil]
        at events pointers
      exact extended.congr step.evaluationRuns events pointers
  | some finding =>
      simp only [newEvents, given, Option.toList_some, List.map_cons, List.map_nil, List.foldl_cons,
        List.foldl_nil] at events pointers
      have agrees := step.agrees finding given
      have accepted := step.accepted finding given
      have opening := accepted.opening
      change finding.eventKind = .opened ↔ state.currentEvent finding.findingId = none at opening
      rw [events] at eventIds
      have evaluated : EventEvaluated (findingEventRow input.evaluation
          (state.newEvaluation input.evaluation).evaluationRevision finding
          (state.nextEventRevision finding.findingId)) (state.newEvaluation input.evaluation) :=
        ⟨rfl, rfl, rfl, rfl, rfl, rfl, agrees.profile, rfl, agrees.present, agrees.absent,
          fun refused => (accepted.retained refused).1⟩
      have unnamed : ∀ old ∈ state.findingEvents, old.evaluationId ≠ input.evaluation.evaluationId := by
        intro old member same
        obtain ⟨owner, stored, link⟩ := history.evaluated old member
        exact fresh owner stored (link.evaluationId.trans same)
      have opens : state.currentEvent finding.findingId = none → input.evaluation.outcome ≠ .cannotEvaluate := by
        intro none_ refused
        obtain ⟨_, prior, found, _⟩ := accepted.retained refused
        have current : state.currentEvent finding.findingId = some prior := found
        rw [none_] at current
        cases current
      have appended := @findingHistory_appendFindingEvent _ _ (newEvidence input) extended _
        (List.mem_append_right _ (List.mem_singleton_self _)) evaluated
        (fun other stored same => eq_of_key evaluationIds stored
          (List.mem_append_right _ (List.mem_singleton_self _)) same)
        unnamed eventIds rfl opening opens
        (fun prior found => follows_of_accepted history evaluationIds accepted found)
      exact appended.congr step.evaluationRuns events pointers

theorem findingHistory_grown {rows : NewRows} (growth : Growth state rows after) (keys : UniqueKeys after)
    (history : FindingHistory state) : FindingHistory after := by
  have preserved : (after.evaluationRuns.map EvaluationRun.evaluationId).Nodup →
      (after.findingEvents.map FindingEvent.eventId).Nodup → FindingHistory after := by
    -- the keys of an unfinished transaction are distinct because those of its end are
    refine @Evaluates.invariant (fun reached => (reached.evaluationRuns.map EvaluationRun.evaluationId).Nodup →
      (reached.findingEvents.map FindingEvent.eventId).Nodup → FindingHistory reached) ?_ ?_ _ _ _
      growth.evaluates fun _ _ => history
    · intro before reached same earlier evaluationIds eventIds
      have events : reached.findingEvents = before.findingEvents := by rw [same.finding]
      have pointers : reached.findingCurrent = before.findingCurrent := by rw [same.finding]
      rw [same.evaluationRuns] at evaluationIds
      rw [events] at eventIds
      exact (earlier evaluationIds eventIds).congr same.evaluationRuns events pointers
    · intro before input reached step earlier evaluationIds eventIds
      refine findingHistory_step step evaluationIds eventIds (earlier ?_ ?_)
      · rw [step.evaluationRuns] at evaluationIds
        exact nodup_key_append_left evaluationIds
      · rw [step.findingEvents] at eventIds
        exact nodup_key_append_left eventIds
  exact preserved keys.evaluation.evaluationId keys.finding.eventId

/-! ## Expiry -/

section Expiry

variable {identityDigest : IdentityDigest} {cutoff : Timestamp} {plan : ExpiryPlan}

/-- The evaluation of an event is never deleted, and a compact record keeps what the
event says. -/
private theorem image_of_event (spec : plan.Spec state) {event : FindingEvent}
    (member : event ∈ state.findingEvents) {evaluation : EvaluationRun}
    (stored : evaluation ∈ state.evaluationRuns) (named : evaluation.evaluationId = event.evaluationId) :
    ∃ image ∈ (state.applyPlan identityDigest cutoff plan).evaluationRuns,
      image = { evaluation with sourceExpired := image.sourceExpired, detailJson := image.detailJson } := by
  have kept : ¬ plan.Disposed .delete evaluation.evaluationId := by
    intro deleted
    obtain ⟨_, _, free⟩ := (spec.delete _).mp deleted
    exact free (.inl ⟨event, member, named.symm⟩)
  exact ⟨_, mem_applyPlan_evaluationRuns.mpr ⟨evaluation, stored, kept, rfl⟩, compactEvaluation_eq evaluation⟩

theorem findingHistory_applyPlan (spec : plan.Spec state) (history : FindingHistory state) :
    FindingHistory (state.applyPlan identityDigest cutoff plan) := by
  constructor
  case once => exact history.once
  case revisions => exact history.revisions
  case current => exact history.current
  case pointed => exact history.pointed
  case opened => exact history.opened
  case evaluated =>
    intro event member
    obtain ⟨evaluation, stored, agrees⟩ := history.evaluated event member
    obtain ⟨image, kept, same⟩ :=
      @image_of_event state identityDigest cutoff plan spec event member evaluation stored agrees.evaluationId
    refine ⟨image, kept, ?_⟩
    rw [same]
    exact ⟨agrees.evaluationId, agrees.detectorId, agrees.detectorVersion, agrees.detectorDigest,
      agrees.evaluatorArtifactDigest, agrees.evaluationRevision, agrees.profile, agrees.evaluatedAt,
      agrees.present, agrees.absent, agrees.visible⟩
  case first =>
    intro event member one image kept named
    obtain ⟨evaluation, stored, _, same⟩ := origin_of_mem_applyPlan kept
    rw [same] at named ⊢
    exact history.first event member one evaluation stored named
  case follows =>
    intro event member later
    obtain ⟨prior, priorMember, link⟩ := history.follows event member later
    obtain ⟨priorEvaluation, priorStored, evaluation, stored, priorNamed, named, rest⟩ := link.evaluations
    obtain ⟨priorImage, priorKept, priorSame⟩ :=
      @image_of_event state identityDigest cutoff plan spec prior priorMember priorEvaluation priorStored priorNamed
    obtain ⟨image, kept, same⟩ :=
      @image_of_event state identityDigest cutoff plan spec event member evaluation stored named
    refine ⟨prior, priorMember, link.findingId, link.revision, link.identity,
      priorImage, priorKept, image, kept, ?_⟩
    rw [priorSame, same]
    exact ⟨priorNamed, named, rest⟩

end Expiry

end StoreState

theorem Reachable.findingHistory {identityDigest : IdentityDigest} {state : StoreState}
    (reachable : Reachable identityDigest state) : FindingHistory state := by
  refine Reachable.induct findingHistory_empty ?_ ?_ reachable
  · exact fun _ _ _ _ history committed => findingHistory_grown committed.growth committed.unique history
  · intro before bounds cutoff limit after earlier history expired
    rw [expired.applied]
    exact findingHistory_applyPlan (earlier.chosen cutoff limit).toSpec history

end ConstellationNq.Store
