import ConstellationNq.Library.Sequence
import ConstellationNq.Store.Custody

/-!
# The log of saved checks

Installations, claims and outcomes of saved checks over whole sequences of calls. Calls are
told apart by what they are about; a call that was accepted once is answered from its record
ever after, and another about the same thing is refused.
-/

set_option autoImplicit false

namespace ConstellationNq.Store.SavedCheckLog

open Library.Loop Library.Sequence Library.Text
open StoreState

-- The canonical text of the member `binding` of a detail, if it is a nonempty object.
variable (bindingOf : String → Option String)

/-! ## Calls -/

inductive SavedCheckCall where
  | install (definition : SavedCheckDefinition)
  | claim (definitionId evaluationId detailJson : String)
  | append (outcome : SavedCheckOutcome) (evaluationId : Option String) (definitionId detailJson : String)

def validateBoundedIdentity (label value : String) : Except StoreError Unit :=
  ensure (!value.isEmpty && value.utf8ByteSize ≤ 256 && value.toList.all fun character =>
      !isControl character)
    (.invariant (label ++ " must contain 1..=256 non-control bytes"))

/-- What a call checks before it opens a transaction. -/
def SavedCheckCall.validate : SavedCheckCall → Except StoreError Unit
  | .install definition => do
      validateBoundedIdentity "saved check definition_id" definition.definitionId
      validateBoundedIdentity "saved check stable_reference" definition.stableReference
      validateDigest "saved check definition_digest" definition.definitionDigest
  | .claim definitionId evaluationId _ => do
      validateBoundedIdentity "saved check definition_id" definitionId
      validateBoundedIdentity "saved check evaluation_id" evaluationId
  | .append outcome evaluationId definitionId _ => do
      ensure outcome.terminal (.invariant "saved check event outcome is unsupported")
      match evaluationId with
      | none => .error (.invariant "saved check terminal event requires an evaluation claim")
      | some evaluationId => do
          validateBoundedIdentity "saved check definition_id" definitionId
          validateBoundedIdentity "saved check evaluation_id" evaluationId

/-- The column checks of the two tables that the keys do not carry. -/
def ColumnChecks (state : StoreState) : Prop :=
  (∀ definition ∈ state.savedCheckDefinitions, definition.definitionJson.utf8ByteSize ≤ 32768) ∧
    ∀ event ∈ state.savedCheckEvents, event.detailJson.utf8ByteSize ≤ 32768

instance (state : StoreState) : Decidable (ColumnChecks state) := by
  unfold ColumnChecks
  infer_instance

/-- `install_saved_check`, `claim_saved_check_evaluation` and `append_saved_check_event`. -/
def transact (state : StoreState) : SavedCheckCall → Except StoreError StoreState
  | .install definition => state.installSavedCheck definition
  | .claim definitionId evaluationId detailJson =>
      state.claimSavedCheckEvaluation
        { definitionId, evaluationId, binding := bindingOf detailJson, detailJson }
  | .append _ none _ _ => .error (.invariant "saved check terminal event requires an evaluation claim")
  | .append outcome (some evaluationId) definitionId detailJson =>
      state.appendSavedCheckEvent outcome
        { definitionId, evaluationId, binding := bindingOf detailJson, detailJson }

def perform (state : StoreState) (call : SavedCheckCall) : Except StoreError StoreState := do
  call.validate
  let after ← transact bindingOf state call
  ensure (ColumnChecks after) (.sqlite "CHECK constraint failed")
  return after

/-- What a call is about. -/
inductive SavedCheckIdentity where
  | definition (stableReference : String)
  | claim (evaluationId : String)
  | terminal (evaluationId : Option String)
deriving DecidableEq

def SavedCheckCall.identity : SavedCheckCall → SavedCheckIdentity
  | .install definition => .definition definition.stableReference
  | .claim _ evaluationId _ => .claim evaluationId
  | .append _ evaluationId _ _ => .terminal evaluationId

/-- What a call says about it. -/
def SavedCheckCall.material : SavedCheckCall → String × String × Option SavedCheckOutcome
  | .install definition => (definition.definitionDigest, definition.definitionJson, none)
  | .claim definitionId _ detailJson => (definitionId, detailJson, none)
  | .append outcome _ definitionId detailJson => (definitionId, detailJson, some outcome)

/-! ## What an accepted call does -/

/-- A claim or an outcome, with what the store held before it. -/
structure Follows (state : StoreState) (event : SavedCheckEvent) : Prop where
  number : event.eventNumber = state.nextEventNumber event.definitionId
  later : event.outcome ≠ .installed
  identified : event.evaluationId.isSome = true
  claimed : event.outcome.terminal = true → ∃ claim ∈ state.savedCheckEvents, claim.outcome = .claimed ∧
    claim.evaluationId = event.evaluationId ∧ claim.definitionId = event.definitionId ∧ claim.binding = event.binding

/-- The record that answers a call. -/
def Recorded (state : StoreState) : SavedCheckCall → Prop
  | .install definition => ∃ existing ∈ state.savedCheckDefinitions,
      existing.stableReference = definition.stableReference ∧ existing.definitionDigest = definition.definitionDigest ∧
        existing.definitionJson = definition.definitionJson
  | .claim definitionId evaluationId detailJson => ∃ event ∈ state.savedCheckEvents,
      event.evaluationId = some evaluationId ∧ event.outcome = .claimed ∧ event.definitionId = definitionId ∧
        event.detailJson = detailJson
  | .append outcome evaluationId definitionId detailJson => outcome.terminal = true ∧ evaluationId.isSome = true ∧
      ∃ event ∈ state.savedCheckEvents, event.evaluationId = evaluationId ∧ event.outcome = outcome ∧
        event.definitionId = definitionId ∧ event.detailJson = detailJson

/-- The ways in which a call can be accepted. -/
inductive Accepted (state : StoreState) (call : SavedCheckCall) : StoreState → Prop where
  | recorded (record : Recorded state call) : Accepted state call state
  | installed {definition : SavedCheckDefinition} (isInstall : call = .install definition)
      (unique : UniqueKeys ((state.appendDefinition definition).appendCheckEvent (installedEvent definition)))
      (foreign : ForeignKeys ((state.appendDefinition definition).appendCheckEvent (installedEvent definition))) :
      Accepted state call ((state.appendDefinition definition).appendCheckEvent (installedEvent definition))
  | followed {event : SavedCheckEvent} (follows : Follows state event)
      (unique : UniqueKeys (state.appendCheckEvent event)) (foreign : ForeignKeys (state.appendCheckEvent event))
      (record : Recorded (state.appendCheckEvent event) call) : Accepted state call (state.appendCheckEvent event)

variable {state after : StoreState}

theorem install_accepted {definition : SavedCheckDefinition} (performed : state.installSavedCheck definition = .ok after) :
    Accepted state (.install definition) after := by
  unfold installSavedCheck at performed
  split at performed
  · rename_i existing found
    obtain ⟨material, rfl⟩ := ensure_pure_eq_ok.mp performed
    exact .recorded ⟨existing, List.mem_of_find?_eq_some found, of_decide_eq_true (List.find?_some found :), material⟩
  · obtain ⟨rfl, unique, foreign⟩ := commit_eq_ok performed
    exact .installed rfl unique foreign

variable {evaluationId definitionId : String}

variable {detailJson : String}

theorem claim_accepted
    (performed : state.claimSavedCheckEvaluation
      { definitionId, evaluationId, binding := bindingOf detailJson, detailJson } = .ok after) :
    Accepted state (.claim definitionId evaluationId detailJson) after := by
  unfold claimSavedCheckEvaluation at performed
  obtain ⟨_, -, performed⟩ := bind_eq_ok.mp performed
  split at performed
  · rename_i existing found
    obtain ⟨material, rfl⟩ := ensure_pure_eq_ok.mp performed
    have matched : existing.evaluationId = some evaluationId ∧ existing.outcome = .claimed :=
      of_decide_eq_true (List.find?_some found :)
    exact .recorded ⟨existing, List.mem_of_find?_eq_some found, matched.1, matched.2, material⟩
  · obtain ⟨rfl, unique, foreign⟩ := commit_eq_ok performed
    refine .followed ⟨rfl, by simp, rfl, fun terminal => by cases terminal⟩ unique foreign
      ⟨_, List.mem_append_right _ (List.mem_singleton_self _), rfl, rfl, rfl, rfl⟩

theorem append_accepted {outcome : SavedCheckOutcome}
    (performed : state.appendSavedCheckEvent outcome
      { definitionId, evaluationId, binding := bindingOf detailJson, detailJson } = .ok after) :
    Accepted state (.append outcome (some evaluationId) definitionId detailJson) after := by
  unfold appendSavedCheckEvent at performed
  obtain ⟨_, isTerminal, performed⟩ := bind_eq_ok.mp performed
  have isTerminal := ensure_eq_ok.mp isTerminal
  split at performed
  · rename_i existing found
    obtain ⟨⟨sameDefinition, sameOutcome, sameDetail⟩, rfl⟩ := ensure_pure_eq_ok.mp performed
    have matched : existing.evaluationId = some evaluationId ∧ existing.outcome.terminal = true :=
      of_decide_eq_true (List.find?_some found :)
    exact .recorded ⟨isTerminal, rfl, existing, List.mem_of_find?_eq_some found, matched.1, sameOutcome,
      sameDefinition, sameDetail⟩
  · split at performed
    · cases performed
    · rename_i claim found
      obtain ⟨_, required, performed⟩ := bind_eq_ok.mp performed
      obtain ⟨rfl, unique, foreign⟩ := commit_eq_ok performed
      have matched : claim.evaluationId = some evaluationId ∧ claim.outcome = .claimed :=
        of_decide_eq_true (List.find?_some found :)
      obtain ⟨sameDefinition, -, sameBinding⟩ := ensure_eq_ok.mp required
      refine .followed ⟨rfl, ?_, rfl, fun _ => ⟨claim, List.mem_of_find?_eq_some found, matched.2, matched.1,
        sameDefinition, sameBinding⟩⟩ unique foreign
        ⟨isTerminal, rfl, _, List.mem_append_right _ (List.mem_singleton_self _), rfl, rfl, rfl, rfl⟩
      rintro rfl
      cases isTerminal

variable {call : SavedCheckCall}

/-- Everything that an accepted call can do. -/
theorem transact_accepted (performed : transact bindingOf state call = .ok after) :
    Accepted state call after := by
  cases call with
  | install definition => exact install_accepted performed
  | claim definitionId evaluationId detailJson => exact claim_accepted bindingOf performed
  | append outcome evaluationId definitionId detailJson =>
      cases evaluationId with
      | none => cases performed
      | some evaluationId => exact append_accepted bindingOf performed

theorem perform_eq_ok : perform bindingOf state call = .ok after ↔
    call.validate = .ok () ∧ transact bindingOf state call = .ok after ∧ ColumnChecks after := by
  unfold perform
  constructor
  · intro performed
    obtain ⟨valid, performed⟩ := check_bind_eq_ok.mp performed
    obtain ⟨result, transacted, performed⟩ := bind_eq_ok.mp performed
    obtain ⟨checked, rfl⟩ := ensure_pure_eq_ok.mp performed
    exact ⟨valid, transacted, checked⟩
  · rintro ⟨valid, transacted, checked⟩
    exact check_bind_eq_ok.mpr ⟨valid, bind_eq_ok.mpr ⟨after, transacted, ensure_pure_eq_ok.mpr ⟨checked, rfl⟩⟩⟩

/-! ## Records -/

theorem Accepted.unique (accepted : Accepted state call after) (unique : UniqueKeys state) :
    UniqueKeys after := by
  cases accepted with
  | recorded _ => exact unique
  | installed _ unique _ => exact unique
  | followed _ unique _ _ => exact unique

theorem Accepted.grows (accepted : Accepted state call after) :
    state.savedCheckDefinitions ⊆ after.savedCheckDefinitions ∧ state.savedCheckEvents ⊆ after.savedCheckEvents := by
  cases accepted with
  | recorded _ => exact ⟨fun _ member => member, fun _ member => member⟩
  | installed _ _ _ => exact ⟨fun _ member => List.mem_append_left _ member, fun _ member => List.mem_append_left _ member⟩
  | followed _ _ _ _ => exact ⟨fun _ member => member, fun _ member => List.mem_append_left _ member⟩

theorem Accepted.record (accepted : Accepted state call after) : Recorded after call := by
  cases accepted with
  | recorded record => exact record
  | installed isInstall _ _ =>
      subst isInstall
      exact ⟨_, List.mem_append_right _ (List.mem_singleton_self _), rfl, rfl, rfl⟩
  | followed _ _ _ record => exact record

variable {other : SavedCheckCall}

theorem Recorded.mono (record : Recorded state call) (accepted : Accepted state other after) :
    Recorded after call := by
  obtain ⟨definitions, events⟩ := accepted.grows
  cases call with
  | install definition =>
      obtain ⟨existing, member, same⟩ := record
      exact ⟨existing, definitions member, same⟩
  | claim definitionId evaluationId detailJson =>
      obtain ⟨event, member, same⟩ := record
      exact ⟨event, events member, same⟩
  | append outcome evaluationId definitionId detailJson =>
      obtain ⟨terminal, identified, event, member, same⟩ := record
      exact ⟨terminal, identified, event, events member, same⟩

section Unique

variable (unique : UniqueKeys state)

include unique

theorem claim_unique {left right : SavedCheckEvent} (leftMember : left ∈ state.savedCheckEvents)
    (rightMember : right ∈ state.savedCheckEvents) (leftClaimed : left.outcome = .claimed)
    (rightClaimed : right.outcome = .claimed) (leftId : left.evaluationId = some evaluationId)
    (rightId : right.evaluationId = some evaluationId) : left = right :=
  eq_of_optional_key unique.savedCheck.claim (List.mem_filter.mpr ⟨leftMember, decide_eq_true leftClaimed⟩)
    (List.mem_filter.mpr ⟨rightMember, decide_eq_true rightClaimed⟩) leftId rightId

theorem terminal_unique {left right : SavedCheckEvent} (leftMember : left ∈ state.savedCheckEvents)
    (rightMember : right ∈ state.savedCheckEvents) (leftTerminal : left.outcome.terminal = true)
    (rightTerminal : right.outcome.terminal = true) (leftId : left.evaluationId = some evaluationId)
    (rightId : right.evaluationId = some evaluationId) : left = right :=
  eq_of_optional_key unique.savedCheck.terminal (List.mem_filter.mpr ⟨leftMember, leftTerminal⟩)
    (List.mem_filter.mpr ⟨rightMember, rightTerminal⟩) leftId rightId

theorem definition_unique {left right : SavedCheckDefinition} (leftMember : left ∈ state.savedCheckDefinitions)
    (rightMember : right ∈ state.savedCheckDefinitions) (same : left.stableReference = right.stableReference) :
    left = right :=
  eq_of_key unique.savedCheck.stableReference leftMember rightMember same

theorem Recorded.material_eq (record : Recorded state call) (also : Recorded state other)
    (same : other.identity = call.identity) : other.material = call.material := by
  cases call with
  | install definition =>
      cases other with
      | install otherDefinition =>
          obtain ⟨left, leftMember, leftReference, leftDigest, leftJson⟩ := record
          obtain ⟨right, rightMember, rightReference, rightDigest, rightJson⟩ := also
          have reference : right.stableReference = left.stableReference := by
            rw [rightReference, leftReference]
            exact SavedCheckIdentity.definition.inj same
          obtain rfl := definition_unique unique rightMember leftMember reference
          simp only [SavedCheckCall.material, ← leftDigest, ← leftJson, ← rightDigest, ← rightJson]
      | claim _ _ _ => cases same
      | append _ _ _ _ => cases same
  | claim definitionId evaluationId detailJson =>
      cases other with
      | install _ => cases same
      | claim otherDefinition otherId otherDetail =>
          obtain ⟨left, leftMember, leftId, leftClaimed, leftDefinition, leftDetail⟩ := record
          obtain ⟨right, rightMember, rightId, rightClaimed, rightDefinition, rightDetail⟩ := also
          rw [SavedCheckIdentity.claim.inj same] at rightId
          obtain rfl := claim_unique unique rightMember leftMember rightClaimed leftClaimed rightId leftId
          simp only [SavedCheckCall.material, ← leftDefinition, ← leftDetail, ← rightDefinition, ← rightDetail]
      | append _ _ _ _ => cases same
  | append outcome evaluationId definitionId detailJson =>
      cases other with
      | install _ => cases same
      | claim _ _ _ => cases same
      | append otherOutcome otherId otherDefinition otherDetail =>
          obtain ⟨terminal, identified, left, leftMember, leftId, leftOutcome, leftDefinition, leftDetail⟩ := record
          obtain ⟨otherTerminal, -, right, rightMember, rightId, rightOutcome, rightDefinition, rightDetail⟩ := also
          obtain ⟨value, isValue⟩ := Option.isSome_iff_exists.mp identified
          rw [SavedCheckIdentity.terminal.inj same] at rightId
          obtain rfl := terminal_unique unique rightMember leftMember (rightOutcome ▸ otherTerminal)
            (leftOutcome ▸ terminal) (rightId.trans isValue) (leftId.trans isValue)
          simp only [SavedCheckCall.material, ← leftDefinition, ← leftDetail, ← leftOutcome, ← rightDefinition,
            ← rightDetail, ← rightOutcome]

/-! ## Answers from the record -/

theorem transact_recorded (valid : call.validate = .ok ())
    (bound : ∀ definitionId evaluationId detailJson, call = .claim definitionId evaluationId detailJson →
      (bindingOf detailJson).isSome = true) (record : Recorded state call) :
    transact bindingOf state call = .ok state := by
  cases call with
  | install definition =>
      obtain ⟨existing, member, reference, material⟩ := record
      have found : (state.savedCheckDefinitions.find? fun existing =>
          existing.stableReference = definition.stableReference) = some existing := by
        refine find?_eq_some_of_unique member (decide_eq_true reference) fun other otherMember same => ?_
        exact definition_unique unique otherMember member ((of_decide_eq_true same).trans reference.symm)
      change state.installSavedCheck definition = .ok state
      unfold installSavedCheck
      rw [found]
      exact check_bind_eq_ok.mpr ⟨ensure_eq_ok.mpr material, rfl⟩
  | claim definitionId evaluationId detailJson =>
      obtain ⟨event, member, isId, isClaimed, material⟩ := record
      have found : state.claimOf evaluationId = some event := by
        refine find?_eq_some_of_unique member (decide_eq_true ⟨isId, isClaimed⟩) fun other otherMember same => ?_
        obtain ⟨otherId, otherClaimed⟩ := of_decide_eq_true same
        exact claim_unique unique otherMember member otherClaimed isClaimed otherId isId
      refine check_bind_eq_ok.mpr ⟨ensure_eq_ok.mpr (bound _ _ _ rfl), ?_⟩
      rw [found]
      exact check_bind_eq_ok.mpr ⟨ensure_eq_ok.mpr material, rfl⟩
  | append outcome evaluationId definitionId detailJson =>
      obtain ⟨isTerminal, identified, event, member, isId, isOutcome, sameDefinition, sameDetail⟩ := record
      obtain ⟨evaluationId, rfl⟩ := Option.isSome_iff_exists.mp identified
      have eventTerminal : event.outcome.terminal = true := isOutcome ▸ isTerminal
      have found : (state.savedCheckEvents.find? fun event =>
          event.evaluationId = some evaluationId ∧ event.outcome.terminal) = some event := by
        refine find?_eq_some_of_unique member (decide_eq_true ⟨isId, eventTerminal⟩) fun other otherMember same => ?_
        obtain ⟨otherId, otherTerminal⟩ := of_decide_eq_true same
        exact terminal_unique unique otherMember member otherTerminal eventTerminal otherId isId
      change state.appendSavedCheckEvent outcome _ = .ok state
      refine check_bind_eq_ok.mpr ⟨ensure_eq_ok.mpr isTerminal, ?_⟩
      rw [found]
      exact check_bind_eq_ok.mpr ⟨ensure_eq_ok.mpr ⟨sameDefinition, isOutcome, sameDetail⟩, rfl⟩

end Unique

theorem transact_bound
    (performed : transact bindingOf state (.claim definitionId evaluationId detailJson) = .ok after) :
    (bindingOf detailJson).isSome = true :=
  ensure_eq_ok.mp (check_bind_eq_ok.mp performed).1

theorem recorded_congr (record : Recorded state call) (identity : other.identity = call.identity)
    (material : other.material = call.material) : Recorded state other := by
  cases call with
  | install definition =>
      cases other with
      | install otherDefinition =>
          obtain ⟨sameDigest, sameRest⟩ := Prod.mk.inj material
          obtain ⟨existing, member, reference, digest, json⟩ := record
          exact ⟨existing, member, reference.trans (SavedCheckIdentity.definition.inj identity).symm,
            digest.trans sameDigest.symm, json.trans (Prod.mk.inj sameRest).1.symm⟩
      | claim _ _ _ => cases identity
      | append _ _ _ _ => cases identity
  | claim definitionId evaluationId detailJson =>
      cases other with
      | install _ => cases identity
      | claim _ _ _ => cases identity; cases material; exact record
      | append _ _ _ _ => cases identity
  | append outcome evaluationId definitionId detailJson =>
      cases other with
      | install _ => cases identity
      | claim _ _ _ => cases identity
      | append _ _ _ _ => cases identity; cases material; exact record

/-! ## The shape of the log -/

def eventsOf (state : StoreState) (definitionId : String) : List SavedCheckEvent :=
  state.savedCheckEvents.filter fun event => event.definitionId = definitionId

/-- A terminal event stands after a claim of its definition with the same binding. -/
def Claimed (events : List SavedCheckEvent) : Prop :=
  ∀ before event later, events = before ++ event :: later → event.outcome.terminal = true →
    ∃ claim ∈ before, claim.outcome = .claimed ∧ claim.evaluationId = event.evaluationId ∧
      claim.definitionId = event.definitionId ∧ claim.binding = event.binding

structure Log (state : StoreState) : Prop where
  defined : ∀ event ∈ state.savedCheckEvents, ∃ definition ∈ state.savedCheckDefinitions,
    definition.definitionId = event.definitionId
  numbered : ∀ definitionId, (eventsOf state definitionId).map SavedCheckEvent.eventNumber =
    consecutive 0 (eventsOf state definitionId).length
  installedFirst : ∀ definition ∈ state.savedCheckDefinitions, ∃ rest,
    eventsOf state definition.definitionId = installedEvent definition :: rest ∧
      ∀ event ∈ rest, event.outcome ≠ .installed
  identified : ∀ event ∈ state.savedCheckEvents, event.outcome ≠ .installed → event.evaluationId.isSome = true
  oneClaim : state.savedCheckEvents.Pairwise fun left right =>
    left.outcome = .claimed → right.outcome = .claimed → left.evaluationId ≠ right.evaluationId
  oneTerminal : state.savedCheckEvents.Pairwise fun left right =>
    left.outcome.terminal = true → right.outcome.terminal = true → left.evaluationId ≠ right.evaluationId
  claimed : Claimed state.savedCheckEvents

@[simp] theorem eventsOf_appendCheckEvent (event : SavedCheckEvent) (definitionId : String) :
    eventsOf (state.appendCheckEvent event) definitionId =
      eventsOf state definitionId ++ if event.definitionId = definitionId then [event] else [] := by
  simp only [eventsOf, appendCheckEvent, List.filter_append, List.filter_cons, List.filter_nil, decide_eq_true_eq]

@[simp] theorem eventsOf_appendDefinition (definition : SavedCheckDefinition) (definitionId : String) :
    eventsOf (state.appendDefinition definition) definitionId = eventsOf state definitionId :=
  rfl

variable {events : List SavedCheckEvent} {event : SavedCheckEvent}

/-- What is said about each event of a log is said about the events of a longer one. -/
theorem Claimed.append (claimed : Claimed events)
    (added : event.outcome.terminal = true → ∃ claim ∈ events, claim.outcome = .claimed ∧
      claim.evaluationId = event.evaluationId ∧ claim.definitionId = event.definitionId ∧
        claim.binding = event.binding) : Claimed (events ++ [event]) := by
  intro before middle later split isTerminal
  rcases List.eq_nil_or_concat later with rfl | ⟨later, last, rfl⟩
  · obtain ⟨rfl, isEvent⟩ := List.append_inj' split rfl
    cases isEvent
    exact added isTerminal
  · rw [List.concat_eq_append, ← List.cons_append, ← List.append_assoc] at split
    obtain ⟨isEvents, -⟩ := List.append_inj' split rfl
    exact claimed before middle later isEvents isTerminal

theorem Log.next (log : Log state) (definitionId : String) :
    state.nextEventNumber definitionId = (eventsOf state definitionId).length + 1 := by
  change ((eventsOf state definitionId).map SavedCheckEvent.eventNumber).max?.getD 0 + 1 = _
  rw [log.numbered, max_getD_consecutive]

theorem eventsOf_eq_nil (log : Log state)
    (fresh : definitionId ∉ state.savedCheckDefinitions.map SavedCheckDefinition.definitionId) :
    eventsOf state definitionId = [] := by
  refine List.filter_eq_nil_iff.mpr fun event member same => fresh ?_
  obtain ⟨definition, definitionMember, isDefinition⟩ := log.defined event member
  exact List.mem_map.mpr ⟨definition, definitionMember, isDefinition.trans (of_decide_eq_true same)⟩

private theorem evaluationId_pairwise_ne {selects : SavedCheckEvent → Bool}
    (unique : ((events.filter selects).filterMap SavedCheckEvent.evaluationId).Nodup)
    (identified : ∀ event ∈ events, selects event = true → event.evaluationId.isSome = true) :
    events.Pairwise fun left right =>
      selects left = true → selects right = true → left.evaluationId ≠ right.evaluationId := by
  have distinct := List.pairwise_filter.mp (List.pairwise_filterMap.mp unique)
  refine distinct.imp_of_mem fun {left right} leftMember _ apart leftSelected rightSelected same => ?_
  obtain ⟨value, isValue⟩ := Option.isSome_iff_exists.mp (identified left leftMember leftSelected)
  exact apart leftSelected rightSelected value isValue value (same ▸ isValue) rfl

theorem oneClaim_of_unique (unique : UniqueKeys state) (identified : ∀ event ∈ state.savedCheckEvents,
    event.outcome ≠ .installed → event.evaluationId.isSome = true) :
    state.savedCheckEvents.Pairwise fun left right =>
      left.outcome = .claimed → right.outcome = .claimed → left.evaluationId ≠ right.evaluationId := by
  have apart := evaluationId_pairwise_ne unique.savedCheck.claim fun event member selected =>
    identified event member (by simp [of_decide_eq_true selected])
  exact apart.imp fun distinct leftClaimed rightClaimed =>
    distinct (decide_eq_true leftClaimed) (decide_eq_true rightClaimed)

theorem oneTerminal_of_unique (unique : UniqueKeys state) (identified : ∀ event ∈ state.savedCheckEvents,
    event.outcome ≠ .installed → event.evaluationId.isSome = true) :
    state.savedCheckEvents.Pairwise fun left right => left.outcome.terminal = true →
      right.outcome.terminal = true → left.evaluationId ≠ right.evaluationId := by
  refine evaluationId_pairwise_ne unique.savedCheck.terminal fun event member terminal => ?_
  have isLater : event.outcome ≠ .installed := by
    intro isInstalled
    rw [isInstalled] at terminal
    cases terminal
  exact identified event member isLater

theorem numbered_append (numbered : events.map SavedCheckEvent.eventNumber = consecutive 0 events.length)
    (number : event.eventNumber = events.length + 1) :
    (events ++ [event]).map SavedCheckEvent.eventNumber = consecutive 0 (events ++ [event]).length := by
  rw [List.map_append, numbered, List.length_append, List.length_singleton, consecutive_succ]
  simp only [List.map_cons, List.map_nil, number]
  push_cast
  rw [Int.zero_add]

theorem Log.installed (log : Log state) {definition : SavedCheckDefinition}
    (unique : UniqueKeys ((state.appendDefinition definition).appendCheckEvent (installedEvent definition))) :
    Log ((state.appendDefinition definition).appendCheckEvent (installedEvent definition)) := by
  have fresh : definition.definitionId ∉ state.savedCheckDefinitions.map SavedCheckDefinition.definitionId := by
    intro member
    obtain ⟨existing, existingMember, same⟩ := List.mem_map.mp member
    have distinct : ((state.savedCheckDefinitions ++ [definition]).map SavedCheckDefinition.definitionId).Nodup :=
      unique.savedCheck.definitionId
    exact key_ne_of_append distinct existingMember (List.mem_singleton_self _) same
  have empty := eventsOf_eq_nil log fresh
  have identified : ∀ event ∈ state.savedCheckEvents ++ [installedEvent definition],
      event.outcome ≠ .installed → event.evaluationId.isSome = true := by
    intro event member isLater
    rcases List.mem_append.mp member with member | member
    · exact log.identified event member isLater
    · cases List.mem_singleton.mp member
      exact absurd rfl isLater
  refine ⟨?_, ?_, ?_, identified, oneClaim_of_unique unique identified, oneTerminal_of_unique unique identified,
    log.claimed.append fun isTerminal => by cases isTerminal⟩
  · intro event member
    rcases List.mem_append.mp member with member | member
    · obtain ⟨existing, existingMember, same⟩ := log.defined event member
      exact ⟨existing, List.mem_append_left _ existingMember, same⟩
    · cases List.mem_singleton.mp member
      exact ⟨definition, List.mem_append_right _ (List.mem_singleton_self _), rfl⟩
  · intro definitionId
    rw [eventsOf_appendCheckEvent, eventsOf_appendDefinition]
    split
    · rename_i same
      obtain rfl : definition.definitionId = definitionId := same
      rw [empty]
      rfl
    · rw [List.append_nil]
      exact log.numbered definitionId
  · intro existing member
    rw [eventsOf_appendCheckEvent, eventsOf_appendDefinition]
    rcases List.mem_append.mp member with member | member
    · obtain ⟨rest, isRest, laters⟩ := log.installedFirst existing member
      have apart : (installedEvent definition).definitionId ≠ existing.definitionId := by
        intro same
        exact fresh (List.mem_map.mpr ⟨existing, member, same.symm⟩)
      rw [if_neg apart, List.append_nil]
      exact ⟨rest, isRest, laters⟩
    · cases List.mem_singleton.mp member
      have own : (installedEvent definition).definitionId = definition.definitionId := rfl
      rw [if_pos own, empty]
      exact ⟨[], rfl, by simp⟩

theorem Log.followed (log : Log state) (follows : Follows state event)
    (unique : UniqueKeys (state.appendCheckEvent event)) (foreign : ForeignKeys (state.appendCheckEvent event)) :
    Log (state.appendCheckEvent event) := by
  have identified : ∀ other ∈ state.savedCheckEvents ++ [event],
      other.outcome ≠ .installed → other.evaluationId.isSome = true := by
    intro other member isLater
    rcases List.mem_append.mp member with member | member
    · exact log.identified other member isLater
    · cases List.mem_singleton.mp member
      exact follows.identified
  refine ⟨foreign.savedCheck.savedCheckDefinition, ?_, ?_, identified, oneClaim_of_unique unique identified,
    oneTerminal_of_unique unique identified, log.claimed.append follows.claimed⟩
  · intro definitionId
    rw [eventsOf_appendCheckEvent]
    split
    · rename_i same
      refine numbered_append (log.numbered definitionId) ?_
      rw [follows.number, same, log.next]
    · rw [List.append_nil]
      exact log.numbered definitionId
  · intro definition member
    obtain ⟨rest, isRest, laters⟩ := log.installedFirst definition member
    rw [eventsOf_appendCheckEvent, isRest]
    refine ⟨rest ++ if event.definitionId = definition.definitionId then [event] else [], rfl, ?_⟩
    intro other otherMember
    rcases List.mem_append.mp otherMember with otherMember | otherMember
    · exact laters other otherMember
    · split at otherMember
      · cases List.mem_singleton.mp otherMember
        exact follows.later
      · cases otherMember

/-! ## Sequences of calls -/

/-- A refused call leaves the store as it was, so only the accepted ones are steps. -/
inductive Reaches (start : StoreState) : StoreState → Prop where
  | refl : Reaches start start
  | step {state after : StoreState} {call : SavedCheckCall} (reached : Reaches start state)
      (performed : perform bindingOf state call = .ok after) : Reaches start after

theorem Accepted.log (accepted : Accepted state call after) (log : Log state) : Log after := by
  cases accepted with
  | recorded _ => exact log
  | installed _ unique _ => exact log.installed unique
  | followed follows unique foreign _ => exact log.followed follows unique foreign

structure Sound (state : StoreState) : Prop where
  unique : UniqueKeys state
  log : Log state

theorem Sound.step (sound : Sound state) (performed : perform bindingOf state call = .ok after) :
    Sound after := by
  have accepted := transact_accepted bindingOf (perform_eq_ok bindingOf |>.mp performed).2.1
  exact ⟨accepted.unique sound.unique, accepted.log sound.log⟩

theorem Sound.reaches (sound : Sound state) (reached : Reaches bindingOf state after) : Sound after := by
  induction reached with
  | refl => exact sound
  | step _ performed ih => exact ih.step bindingOf performed

theorem Recorded.reaches (record : Recorded state call) (reached : Reaches bindingOf state after) :
    Recorded after call := by
  induction reached with
  | refl => exact record
  | step _ performed ih => exact ih.mono (transact_accepted bindingOf (perform_eq_ok bindingOf |>.mp performed).2.1)

theorem ColumnChecks.reaches (checks : ColumnChecks state) (reached : Reaches bindingOf state after) :
    ColumnChecks after := by
  cases reached with
  | refl => exact checks
  | step _ performed => exact (perform_eq_ok bindingOf |>.mp performed).2.2

/-- How a store answers every call about what an accepted call was about. -/
structure Answered (state : StoreState) (call : SavedCheckCall) : Prop where
  again : perform bindingOf state call = .ok state
  same : ∀ other : SavedCheckCall, other.identity = call.identity → other.material = call.material →
    other.validate = .ok () → perform bindingOf state other = .ok state
  different : ∀ other : SavedCheckCall, other.identity = call.identity → other.material ≠ call.material →
    ∃ error, perform bindingOf state other = .error error

theorem bound_congr (performed : transact bindingOf state call = .ok after)
    (identity : other.identity = call.identity) (material : other.material = call.material) :
    ∀ definitionId evaluationId detailJson, other = .claim definitionId evaluationId detailJson →
      (bindingOf detailJson).isSome = true := by
  rintro definitionId evaluationId detailJson rfl
  cases call with
  | install _ => cases identity
  | claim _ _ _ =>
      cases material
      exact transact_bound bindingOf performed
  | append _ _ _ _ => cases identity

theorem answered {later : StoreState} (sound : Sound state) (performed : perform bindingOf state call = .ok after)
    (reached : Reaches bindingOf after later) :
    Answered bindingOf later call := by
  obtain ⟨valid, transacted, checks⟩ := perform_eq_ok bindingOf |>.mp performed
  have soundLater := (sound.step bindingOf performed).reaches bindingOf reached
  have record := (transact_accepted bindingOf transacted).record.reaches bindingOf reached
  have same : ∀ other : SavedCheckCall, other.identity = call.identity → other.material = call.material →
      other.validate = .ok () → perform bindingOf later other = .ok later := by
    intro other identity material otherValid
    exact (perform_eq_ok bindingOf).mpr ⟨otherValid, transact_recorded bindingOf soundLater.unique otherValid
      (bound_congr bindingOf transacted identity material) (recorded_congr record identity material),
      checks.reaches bindingOf reached⟩
  refine ⟨same call rfl rfl valid, same, ?_⟩
  intro other identity differs
  cases result : perform bindingOf later other with
  | error error => exact ⟨error, rfl⟩
  | ok final =>
      have accepted := transact_accepted bindingOf (perform_eq_ok bindingOf |>.mp result).2.1
      exact absurd ((record.mono accepted).material_eq (accepted.unique soundLater.unique) accepted.record identity)
        differs

theorem savedCheckLog_exact {start state : StoreState} (unique : UniqueKeys start)
    (noDefinitions : start.savedCheckDefinitions = []) (noEvents : start.savedCheckEvents = [])
    (reached : Reaches bindingOf start state) :
    Log state ∧ ∀ call after later, perform bindingOf state call = .ok after → Reaches bindingOf after later →
      Answered bindingOf later call := by
  have empty : Log start := by
    have noneOf : ∀ definitionId, eventsOf start definitionId = [] := by
      intro definitionId
      rw [eventsOf, noEvents]
      rfl
    refine ⟨?_, ?_, ?_, ?_, ?_, ?_, ?_⟩
    · simp [noEvents]
    · intro definitionId
      rw [noneOf]
      rfl
    · simp [noDefinitions]
    · simp [noEvents]
    · simp [noEvents]
    · simp [noEvents]
    · intro before event later split
      rw [noEvents] at split
      exact absurd split (by simp)
  have sound := Sound.reaches bindingOf ⟨unique, empty⟩ reached
  exact ⟨sound.log, fun call after later => answered bindingOf sound⟩

namespace LogSample

/-- The member `binding` of a canonical detail in which it comes first and holds texts only. -/
def readBinding (detail : String) : Option String :=
  let opening := "\x7b\"binding\":".toList
  let members := (detail.toList.drop opening.length).takeWhile (· != '\x7d')
  if opening.isPrefixOf detail.toList ∧ 1 < members.length then some (String.ofList (members ++ ['\x7d'])) else none

def definition : SavedCheckDefinition where
  definitionId := "check-a"
  stableReference := "disk-space"
  definitionDigest := "sha256:" ++ String.ofList (List.replicate 64 'a')
  definitionJson := "\x7b\x7d"

def claimDetail : String := "\x7b\"binding\":\x7b\"observation\":\"one\"\x7d\x7d"

def passedDetail : String := "\x7b\"binding\":\x7b\"observation\":\"one\"\x7d,\"result\":\"passed\"\x7d"

def eventAt (eventNumber : Int) (outcome : SavedCheckOutcome) (detailJson : String) : SavedCheckEvent where
  definitionId := "check-a"
  eventNumber := eventNumber
  outcome := outcome
  binding := some "\x7b\"observation\":\"one\"\x7d"
  detailJson := detailJson
  evaluationId := some "eval-a"

def installed : StoreState :=
  (StoreState.empty.appendDefinition definition).appendCheckEvent (installedEvent definition)

def claimed : StoreState := installed.appendCheckEvent (eventAt 2 .claimed claimDetail)

def evaluated : StoreState := claimed.appendCheckEvent (eventAt 3 .passed passedDetail)

end LogSample

open LogSample in
theorem savedCheckLog_exact_evaluated :
    Log evaluated ∧ Answered readBinding evaluated (.install definition) ∧
      Answered readBinding evaluated (.claim "check-a" "eval-a" claimDetail) ∧
      Answered readBinding evaluated (.append .passed (some "eval-a") "check-a" passedDetail) := by
  have install : perform readBinding StoreState.empty (.install definition) = .ok installed := rfl
  have claim : perform readBinding installed (.claim "check-a" "eval-a" claimDetail) = .ok claimed := rfl
  have append : perform readBinding claimed (.append .passed (some "eval-a") "check-a" passedDetail) = .ok evaluated :=
    rfl
  have exact {state : StoreState} := @savedCheckLog_exact readBinding _ state uniqueKeys_empty rfl rfl
  have toInstalled := Reaches.step .refl install
  have toClaimed := toInstalled.step claim
  refine ⟨(exact (toClaimed.step append)).1, ?_, ?_, ?_⟩
  · exact (exact .refl).2 _ _ _ install ((Reaches.step .refl claim).step append)
  · exact (exact toInstalled).2 _ _ _ claim (.step .refl append)
  · exact (exact toClaimed).2 _ _ _ append .refl

end ConstellationNq.Store.SavedCheckLog
