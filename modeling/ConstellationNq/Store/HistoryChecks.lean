import ConstellationNq.Store.Custody
import ConstellationNq.Store.EvaluationShape

/-!
# Checks over bindings and current pointers

The laws that opening a store and committing to it check over the bindings and their
materialisations, and over the pointers that select the current rows.
-/

set_option autoImplicit false

namespace ConstellationNq.Store

open Library.Loop

namespace StoreState

variable (state : StoreState)

/-- Refuse if any row violates a law, with the number of rows that do. -/
def refuseCount {α : Type} (rows : List α) (violates : α → Bool) (message : Nat → String) :
    Except StoreError Unit :=
  ensure (rows.countP violates = 0) (.integrity (message (rows.countP violates)))

def BindingWithoutIntent (binding : InstanceBindingEvent) : Prop :=
  ¬ ∃ intent ∈ state.bindingMaterializationEvents, intent.bindingEventId = binding.bindingEventId ∧
    intent.instanceId = binding.instanceId ∧ intent.phase = .intent

instance (binding : InstanceBindingEvent) : Decidable (state.BindingWithoutIntent binding) := by
  delta BindingWithoutIntent; infer_instance

def InvalidCompletion (completed : BindingMaterializationEvent) : Prop :=
  completed.phase = .completed ∧ ¬ ∃ intent ∈ state.bindingMaterializationEvents,
    intent.operationId = completed.operationId ∧ intent.instanceId = completed.instanceId ∧
    intent.bindingEventId = completed.bindingEventId ∧ intent.phase = .intent

instance (completed : BindingMaterializationEvent) : Decidable (state.InvalidCompletion completed) := by
  delta InvalidCompletion; infer_instance

def pendingIntents : List BindingMaterializationEvent :=
  state.bindingMaterializationEvents.filter fun intent => state.PendingIntent intent

def pendingCount (instanceId : String) : Nat :=
  state.pendingIntents.countP fun intent => intent.instanceId = instanceId

def StaleFinding (event : FindingEvent) : Prop :=
  ¬ ∃ current ∈ state.findingCurrent, current.findingId = event.findingId ∧
    ∃ selected ∈ state.findingEvents, selected.eventId = current.latestEventId ∧
      selected.findingId = event.findingId ∧ event.eventRevision ≤ selected.eventRevision

instance (event : FindingEvent) : Decidable (state.StaleFinding event) := by
  delta StaleFinding; infer_instance

def StaleStatus (event : StatusEvent) : Prop :=
  ¬ ∃ current ∈ state.statusCurrent, current.componentKind = event.componentKind ∧
    current.componentId = event.componentId ∧
    ∃ selected ∈ state.statusEvents, selected.statusEventId = current.latestStatusEventId ∧
      selected.componentKind = event.componentKind ∧ selected.componentId = event.componentId ∧
      event.statusSequence ≤ selected.statusSequence

instance (event : StatusEvent) : Decidable (state.StaleStatus event) := by
  delta StaleStatus; infer_instance

theorem refuseCount_eq_ok {α : Type} {rows : List α} {violates : α → Bool} {message : Nat → String} :
    refuseCount rows violates message = .ok () ↔ ∀ row ∈ rows, violates row = false := by
  unfold refuseCount
  rw [ensure_eq_ok, List.countP_eq_zero]
  simp

end StoreState

end ConstellationNq.Store
