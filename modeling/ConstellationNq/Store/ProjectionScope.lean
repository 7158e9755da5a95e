import ConstellationNq.Library.LatestPointer
import ConstellationNq.Store.EvaluationShapeProperties
import ConstellationNq.Store.HistoryChecks
import ConstellationNq.Store.HistoryScope

/-!
# Current pointers beyond a certified frontier

The full validation asks of every event that a pointer of its component or
finding selects an event at least as late. Beyond a frontier the validation asks
of every pointer that it selects the latest event of its own component or
finding, and of every new event that there is a pointer at all. Both ask it of
the pointers of what has events; the second refuses a pointer of what has none,
and does not miss a pointer to earlier events that is gone.
-/

set_option autoImplicit false

namespace ConstellationNq.Store

open Library.Loop Library.LatestPointer StoreState

def statusNaming : Naming StatusEvent StatusCurrent (ComponentKind × String) String where
  identity := StatusEvent.statusEventId
  key := fun event => (event.componentKind, event.componentId)
  order := StatusEvent.statusSequence
  owner := fun current => (current.componentKind, current.componentId)
  target := StatusCurrent.latestStatusEventId

def findingNaming : Naming FindingEvent FindingCurrent String String where
  identity := FindingEvent.eventId
  key := FindingEvent.findingId
  order := FindingEvent.eventRevision
  owner := FindingCurrent.findingId
  target := FindingCurrent.latestEventId

/-- The first row of a `UNION ALL` of misled pointers and new events without a pointer. -/
def firstStale {Event Pointer Key Id : Type} [DecidableEq Key] [DecidableEq Id]
    (naming : Naming Event Pointer Key Id) (events : List Event) (pointers : List Pointer) (rowid : Event → Int)
    (bound : Int) : Option Key :=
  ((pointers.find? (naming.misled events)).map naming.owner).or
    ((events.find? fun event => bound < rowid event && naming.unpointed pointers event).map naming.key)

namespace StoreState

/-- `validate_projection_invariants_since`. The rowid of a status event is its
sequence; a finding event has one of its own. -/
def validateProjectionInvariantsSince (state : StoreState) (findingRowid : FindingEvent → Int)
    (frontier : HistoryFrontier) : Except StoreError Unit := do
  let statusBound := (frontier.maxRowid "status_events").getD (-2 ^ 63)
  let findingBound := (frontier.maxRowid "finding_events").getD (-2 ^ 63)
  match firstStale statusNaming state.statusEvents state.statusCurrent StatusEvent.statusSequence statusBound with
  | some (_, component) =>
      .error (.integrity ("status_current is stale or inconsistent for component " ++ component))
  | none =>
      match firstStale findingNaming state.findingEvents state.findingCurrent findingRowid findingBound with
      | some finding => .error (.integrity ("finding_current is stale or inconsistent for finding " ++ finding))
      | none => .ok ()

/-- The checks of the bindings, which are made in full in either scope. -/
def validateBindingInvariants (state : StoreState) : Except StoreError Unit := do
  refuseCount state.instanceBindingEvents (fun binding => state.BindingWithoutIntent binding) fun count =>
    s!"{count} binding events lack a recovery intent"
  refuseCount state.bindingMaterializationEvents (fun completed => state.InvalidCompletion completed)
    fun count => s!"{count} binding materialization completions lack an exact intent"
  refuseCount (state.pendingIntents.map BindingMaterializationEvent.instanceId).dedup
    (fun instanceId => 1 < state.pendingCount instanceId) fun count =>
      s!"{count} instances have multiple pending binding materializations"

/-- The full checks of `finding_current` and `status_current`. -/
def validateCurrentPointers (state : StoreState) : Except StoreError Unit := do
  refuseCount state.findingEvents (fun event => state.StaleFinding event) fun count =>
    s!"finding_current is stale or inconsistent for {count} events"
  refuseCount state.statusEvents (fun event => state.StaleStatus event) fun count =>
    s!"status_current is stale or inconsistent for {count} events"

/-- `validate_projection_invariants` in a scope. -/
def validateProjectionInvariantsWithin (state : StoreState) (findingRowid : FindingEvent → Int)
    (scope : Option HistoryFrontier) : Except StoreError Unit := do
  state.validateBindingInvariants
  match scope with
  | some frontier => state.validateProjectionInvariantsSince findingRowid frontier
  | none => state.validateCurrentPointers

end StoreState

/-! ## One table -/

section Table

variable {Event Pointer Key Id : Type} [DecidableEq Key] [DecidableEq Id] {naming : Naming Event Pointer Key Id}

/-- What had events and a pointer still has a pointer. -/
def Kept (naming : Naming Event Pointer Key Id) (events : List Event) (earlier later : List Pointer) : Prop :=
  ∀ pointer ∈ earlier, naming.Owned events pointer → ∃ other ∈ later, naming.owner other = naming.owner pointer

/-- Pointers of what has events select its latest event, and new events have a pointer. -/
def Current (naming : Naming Event Pointer Key Id) (events : List Event) (pointers : List Pointer)
    (rowid : Event → Int) (bound : Int) : Prop :=
  (∀ pointer ∈ pointers, naming.Owned events pointer → naming.misled events pointer = false) ∧
    ∀ event ∈ events, bound < rowid event → ∃ pointer ∈ pointers, naming.owner pointer = naming.key event

structure AppendedEvents (rowid : Event → Int) (earlier later : List Event) (bound : Option Int) : Prop where
  captured : bound = (earlier.map rowid).max?
  appended : ∃ more, later = earlier ++ more ∧
    ∀ event ∈ more, -2 ^ 63 < rowid event ∧ ∀ old ∈ earlier, rowid old < rowid event

theorem AppendedEvents.beyond_iff {rowid : Event → Int} {earlier later : List Event} {bound : Option Int}
    (append : AppendedEvents rowid earlier later bound) {event : Event} (stored : event ∈ later) :
    event ∈ earlier ∨ bound.getD (-2 ^ 63) < rowid event := by
  obtain ⟨more, rfl, beyond⟩ := append.appended
  rcases List.mem_append.mp stored with old | new
  · exact Or.inl old
  · refine Or.inr ?_
    obtain ⟨low, above⟩ := beyond event new
    cases top : bound with
    | none => exact low
    | some last =>
        obtain ⟨attained, _⟩ := List.max?_eq_some_iff.mp (append.captured.symm.trans top)
        obtain ⟨old, oldStored, rfl⟩ := List.mem_map.mp attained
        exact above old oldStored

variable {events : List Event} {pointers : List Pointer} {rowid : Event → Int}

theorem firstStale_eq_none {bound : Int} : firstStale naming events pointers rowid bound = none ↔
    Current naming events pointers rowid bound ∧ ∀ pointer ∈ pointers, naming.Owned events pointer := by
  simp only [firstStale, Option.or_eq_none_iff, Option.map_eq_none_iff, List.find?_eq_none, Bool.not_eq_true,
    Bool.and_eq_false_imp, decide_eq_true_eq, Naming.unpointed_eq_false]
  constructor
  · rintro ⟨correct, covered⟩
    exact ⟨⟨fun pointer member _ => correct pointer member, covered⟩,
      fun pointer member => Naming.owned_of_misled (correct pointer member)⟩
  · rintro ⟨⟨correct, covered⟩, owned⟩
    exact ⟨fun pointer member => correct pointer member (owned pointer member), covered⟩

theorem selected_iff {earlier : List Event} {before : List Pointer} {bound : Option Int}
    (identities : (events.map naming.identity).Nodup) (owners : (pointers.map naming.owner).Nodup)
    (append : AppendedEvents rowid earlier events bound)
    (passed : ∀ event ∈ earlier, naming.Selected earlier before event) :
    (∀ event ∈ events, naming.Selected events pointers event) ↔
      Current naming events pointers rowid (bound.getD (-2 ^ 63)) ∧ Kept naming earlier before pointers := by
  rw [Naming.forall_selected_iff identities owners, Current, and_assoc]
  refine and_congr_right fun _ => ?_
  constructor
  · intro pointed
    refine ⟨fun event stored _ => pointed event stored, ?_⟩
    rintro pointer _ ⟨event, old, own⟩
    obtain ⟨more, rfl, _⟩ := append.appended
    obtain ⟨other, member, owner⟩ := pointed event (List.mem_append_left more old)
    exact ⟨other, member, owner.trans own⟩
  · rintro ⟨covered, kept⟩ event stored
    rcases append.beyond_iff stored with old | new
    · obtain ⟨pointer, member, owner, _⟩ := passed event old
      obtain ⟨other, otherMember, same⟩ := kept pointer member ⟨event, old, owner.symm⟩
      exact ⟨other, otherMember, same.trans owner⟩
    · exact covered event stored new

end Table

/-! ## Both tables -/

/-- A frontier captured on a state, and a later state with more events. Its
pointers may be any. -/
structure Appended (findingRowid : FindingEvent → Int) (before after : StoreState) (frontier : HistoryFrontier) : Prop where
  statuses : AppendedEvents StatusEvent.statusSequence before.statusEvents after.statusEvents
    (frontier.maxRowid "status_events")
  findings : AppendedEvents findingRowid before.findingEvents after.findingEvents (frontier.maxRowid "finding_events")

/-- The pointers of components and findings with events select the latest ones, and those
with events beyond the frontier have a pointer. -/
def PointersCurrent (findingRowid : FindingEvent → Int) (frontier : HistoryFrontier) (state : StoreState) : Prop :=
  Current statusNaming state.statusEvents state.statusCurrent StatusEvent.statusSequence
      ((frontier.maxRowid "status_events").getD (-2 ^ 63)) ∧
    Current findingNaming state.findingEvents state.findingCurrent findingRowid
      ((frontier.maxRowid "finding_events").getD (-2 ^ 63))

/-- Every pointer belongs to a component or finding that has an event. -/
def PointersOwned (state : StoreState) : Prop :=
  (∀ pointer ∈ state.statusCurrent, statusNaming.Owned state.statusEvents pointer) ∧
    ∀ pointer ∈ state.findingCurrent, findingNaming.Owned state.findingEvents pointer

/-- No pointer of an earlier state to a component or finding with events is gone. -/
def PointersKept (before after : StoreState) : Prop :=
  Kept statusNaming before.statusEvents before.statusCurrent after.statusCurrent ∧
    Kept findingNaming before.findingEvents before.findingCurrent after.findingCurrent

variable {before after : StoreState} {findingRowid : FindingEvent → Int} {frontier : HistoryFrontier}

theorem validateCurrentPointers_eq_ok :
    after.validateCurrentPointers = .ok () ↔
      (∀ event ∈ after.statusEvents, statusNaming.Selected after.statusEvents after.statusCurrent event) ∧
        ∀ event ∈ after.findingEvents, findingNaming.Selected after.findingEvents after.findingCurrent event := by
  simp only [validateCurrentPointers, check_bind_eq_ok, refuseCount_eq_ok, decide_eq_false_iff_not]
  simp only [StaleFinding, StaleStatus, not_not]
  rw [and_comm]
  refine and_congr (forall₂_congr fun event _ => ?_) Iff.rfl
  simp only [Naming.Selected, statusNaming, Prod.mk.injEq, and_assoc]

theorem validateProjectionInvariantsSince_eq_ok :
    after.validateProjectionInvariantsSince findingRowid frontier = .ok () ↔
      PointersCurrent findingRowid frontier after ∧ PointersOwned after := by
  have both : after.validateProjectionInvariantsSince findingRowid frontier = .ok () ↔
      firstStale statusNaming after.statusEvents after.statusCurrent StatusEvent.statusSequence
          ((frontier.maxRowid "status_events").getD (-2 ^ 63)) = none ∧
        firstStale findingNaming after.findingEvents after.findingCurrent findingRowid
          ((frontier.maxRowid "finding_events").getD (-2 ^ 63)) = none := by
    unfold validateProjectionInvariantsSince
    dsimp only
    split
    next found =>
      refine iff_of_false (by simp) ?_
      rintro ⟨nothing, _⟩
      cases found.symm.trans nothing
    next statuses =>
      split
      next found =>
        refine iff_of_false (by simp) ?_
        rintro ⟨_, nothing⟩
        cases found.symm.trans nothing
      next findings => exact iff_of_true rfl ⟨statuses, findings⟩
  rw [both, firstStale_eq_none, firstStale_eq_none, PointersCurrent, PointersOwned]
  exact and_and_and_comm

theorem validateCurrentPointers_iff (keys : UniqueKeys after) (passed : before.validateCurrentPointers = .ok ())
    (append : Appended findingRowid before after frontier) :
    after.validateCurrentPointers = .ok () ↔
      PointersCurrent findingRowid frontier after ∧ PointersKept before after := by
  obtain ⟨passedStatuses, passedFindings⟩ := validateCurrentPointers_eq_ok.mp passed
  rw [validateCurrentPointers_eq_ok,
    selected_iff keys.collection.statusEventId keys.collection.statusComponent append.statuses passedStatuses,
    selected_iff keys.finding.eventId keys.finding.currentFindingId append.findings passedFindings, PointersCurrent,
    PointersKept]
  exact and_and_and_comm

/-- The validation within the frontier and the full one agree exactly if, once the bindings
pass and the pointers are current, every pointer is owned exactly if none is gone. The
check since the frontier alone makes no check of the bindings. -/
theorem projection_scopes_agree (keys : UniqueKeys after) (passed : before.validateCurrentPointers = .ok ())
    (append : Appended findingRowid before after frontier) :
    ((after.validateProjectionInvariantsWithin findingRowid (some frontier) = .ok () ↔
        after.validateProjectionInvariantsWithin findingRowid none = .ok ()) ↔
      (after.validateBindingInvariants = .ok () → PointersCurrent findingRowid frontier after →
        (PointersOwned after ↔ PointersKept before after))) ∧
    ((after.validateProjectionInvariantsSince findingRowid frontier = .ok () ↔
        after.validateProjectionInvariantsWithin findingRowid none = .ok ()) ↔
      (PointersCurrent findingRowid frontier after →
        (PointersOwned after ↔ after.validateBindingInvariants = .ok () ∧ PointersKept before after))) := by
  have full : after.validateProjectionInvariantsWithin findingRowid none = .ok () ↔
      after.validateBindingInvariants = .ok () ∧
        PointersCurrent findingRowid frontier after ∧ PointersKept before after := by
    rw [← validateCurrentPointers_iff keys passed append]
    exact check_bind_eq_ok
  have since : after.validateProjectionInvariantsWithin findingRowid (some frontier) = .ok () ↔
      after.validateBindingInvariants = .ok () ∧
        PointersCurrent findingRowid frontier after ∧ PointersOwned after := by
    rw [← validateProjectionInvariantsSince_eq_ok]
    exact check_bind_eq_ok
  rw [full, since, validateProjectionInvariantsSince_eq_ok]
  constructor
  · simp only [and_congr_right_iff]
  · rw [and_left_comm, and_congr_right_iff]

namespace PointerSample

def status (sequence : Int) (eventId : String) : StatusEvent where
  statusSequence := sequence
  statusEventId := eventId
  componentKind := .scheduler
  componentId := "main"
  runId := none

def pointer (componentId eventId : String) : StatusCurrent where
  componentKind := .scheduler
  componentId := componentId
  latestStatusEventId := eventId

def statuses (events : List StatusEvent) (pointers : List StatusCurrent) : StoreState :=
  { StoreState.empty with statusEvents := events, statusCurrent := pointers }

/-- Two events and the pointer to the second. -/
def earlier : StoreState := statuses [status 1 "first", status 2 "second"] [pointer "main" "second"]

/-- A third event, to which the pointer moves. -/
def later : StoreState :=
  statuses [status 1 "first", status 2 "second", status 3 "third"] [pointer "main" "third"]

/-- A pointer of a component without events. -/
def stray : StoreState :=
  statuses [status 1 "first", status 2 "second"] [pointer "main" "second", pointer "other" "first"]

def pointerless : StoreState := statuses [status 1 "first", status 2 "second"] []

def statusFrontier : HistoryFrontier where
  tables := (∅ : Std.TreeMap String TableFrontier).insert "status_events"
    { maxRowid := some 2, rows := 0, accumulator := "", boundary := none }
  evaluationSequence := 0

theorem appended (more : List StatusEvent) (above : ∀ event ∈ more, 2 < event.statusSequence)
    (before after : List StatusCurrent) :
    Appended (fun _ => 0) (statuses [status 1 "first", status 2 "second"] before)
      (statuses ([status 1 "first", status 2 "second"] ++ more) after) statusFrontier := by
  have statusBound : statusFrontier.maxRowid "status_events" = some 2 := by decide +kernel
  have findingBound : statusFrontier.maxRowid "finding_events" = none := by decide +kernel
  refine ⟨⟨statusBound, more, rfl, fun event member => ⟨?_, ?_⟩⟩, ⟨findingBound, [], rfl, by simp⟩⟩
  · have := above event member
    omega
  · have := above event member
    intro old listed
    simp only [statuses, List.mem_cons, List.not_mem_nil, or_false] at listed
    rcases listed with rfl | rfl <;> simp only [status] <;> omega

end PointerSample

theorem projection_scopes_agree_statuses :
    PointerSample.later.validateProjectionInvariantsWithin (fun _ => 0) (some PointerSample.statusFrontier) = .ok () ∧
      PointerSample.later.validateProjectionInvariantsWithin (fun _ => 0) none = .ok () := by
  have append := PointerSample.appended [PointerSample.status 3 "third"] (by decide)
    [PointerSample.pointer "main" "second"] [PointerSample.pointer "main" "third"]
  have keys : UniqueKeys PointerSample.later := by decide +kernel
  have passed : PointerSample.earlier.validateCurrentPointers = .ok () := by decide +kernel
  have since : PointerSample.later.validateProjectionInvariantsWithin (fun _ => 0)
      (some PointerSample.statusFrontier) = .ok () := by
    decide +kernel
  have owned : PointersOwned PointerSample.later :=
    ⟨fun pointer member => ⟨PointerSample.status 1 "first", List.mem_cons_self, by
      rw [List.mem_singleton.mp member]; rfl⟩, nofun⟩
  have kept : PointersKept PointerSample.earlier PointerSample.later :=
    ⟨fun pointer member _ => ⟨_, List.mem_singleton.mpr rfl, by rw [List.mem_singleton.mp member]; rfl⟩, nofun⟩
  exact ⟨since, ((projection_scopes_agree keys passed append).1.mpr fun _ _ => iff_of_true owned kept).mp since⟩

/-- The full form accepts a pointer of a component without events, and the scoped form a
state whose pointer is gone. -/
theorem projection_scopes_disagree :
    (∃ state frontier, UniqueKeys state ∧ ForeignKeys state ∧ state.validateCurrentPointers = .ok () ∧
      Appended (fun _ => 0) state state frontier ∧
      state.validateProjectionInvariantsWithin (fun _ => 0) none = .ok () ∧
      state.validateProjectionInvariantsWithin (fun _ => 0) (some frontier) ≠ .ok ()) ∧
    ∃ before after frontier, UniqueKeys before ∧ ForeignKeys before ∧ before.validateCurrentPointers = .ok () ∧
      Appended (fun _ => 0) before after frontier ∧ UniqueKeys after ∧ ForeignKeys after ∧
      after.validateProjectionInvariantsWithin (fun _ => 0) (some frontier) = .ok () ∧
      after.validateProjectionInvariantsWithin (fun _ => 0) none ≠ .ok () := by
  constructor
  · refine ⟨PointerSample.stray, PointerSample.statusFrontier, ?_, ?_, ?_, PointerSample.appended [] nofun _ _, ?_, ?_⟩
    all_goals decide +kernel
  · refine ⟨PointerSample.earlier, PointerSample.pointerless, PointerSample.statusFrontier, ?_, ?_, ?_,
      PointerSample.appended [] nofun _ _, ?_, ?_, ?_, ?_⟩
    all_goals decide +kernel

end ConstellationNq.Store
