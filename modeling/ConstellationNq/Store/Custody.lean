import ConstellationNq.Protocol.Canonical
import ConstellationNq.Store.Append

/-!
# Notification custody, saved checks, successor intents and binding transitions

Transactions over the tables that hold roots. They change no row of a collection,
an evaluation or a finding.
-/

set_option autoImplicit false

namespace ConstellationNq.Store.StoreState

open Library.Loop Protocol

def validateDigest (field digest : String) : Except StoreError Unit :=
  ensure (isSha256Digest digest)
    (.invariant (field ++ " must be an algorithm-qualified lowercase SHA-256 digest"))

variable (state : StoreState)

/-! ## Notifications -/

variable (notification : NotificationInput)

def outboxRow : NotificationOutbox where
  notificationId := notification.notificationId
  idempotencyKey := notification.idempotencyKey
  findingEventId := notification.findingEventId
  maxAttempts := notification.maxAttempts

def appendOutbox : StoreState :=
  { state with notificationOutbox := state.notificationOutbox ++ [outboxRow notification] }

def requireMaxAttempts : Except StoreError Unit :=
  ensure (0 < notification.maxAttempts) (.sqlite "CHECK constraint failed: max_attempts > 0")

def enqueueNotification : Except StoreError StoreState := do
  requireMaxAttempts notification
  (state.appendOutbox notification).commit

def appendAttempt (attempt : NotificationAttempt) : StoreState :=
  { state with notificationAttempts := state.notificationAttempts ++ [attempt] }

def appendNotificationAttempt (attempt : NotificationAttempt) : Except StoreError StoreState := do
  ensure (0 < attempt.attemptNumber) (.sqlite "CHECK constraint failed: attempt_number > 0")
  (state.appendAttempt attempt).commit

def appendIntent (intent : NotificationDeliveryIntent) : StoreState :=
  { state with notificationDeliveryIntents := state.notificationDeliveryIntents ++ [intent] }

/-- An exact repetition of a retained intent changes nothing. -/
def retainNotificationDelivery (intent : NotificationDeliveryIntent) :
    Except StoreError StoreState :=
  match state.notificationDeliveryIntents.find? fun existing =>
      existing.stableEventId = intent.stableEventId ∧
      existing.destinationIdentity = intent.destinationIdentity with
  | some existing => do
      ensure (existing.contentDigest = intent.contentDigest ∧ existing.intentJson = intent.intentJson)
        (.invariant "notification identity is already retained with different canonical intent")
      return state
  | none => do
      requireMaxAttempts notification
      ((state.appendOutbox notification).appendIntent intent).commit

variable (event : NotificationDeliveryEvent)

def appendDeliveryEvent : StoreState :=
  { state with notificationDeliveryEvents := state.notificationDeliveryEvents ++ [event] }

/-- The triggers on `notification_delivery_events`: one claim or refusal, then one
outcome of the claim, and nothing after an outcome. -/
def DeliveryEventAllowed : Prop :=
  let earlier := state.notificationDeliveryEvents.filter fun prior =>
    prior.notificationId = event.notificationId
  0 < event.eventNumber ∧
  (event.eventNumber = 1 → event.outcome ∈ [DeliveryOutcome.claimed, .refused]) ∧
  (1 < event.eventNumber → event.eventNumber = earlier.length + 1 ∧
    (∀ prior ∈ earlier, prior.eventNumber = event.eventNumber - 1 → prior.outcome = .claimed) ∧
    event.outcome ∈ [DeliveryOutcome.failed, .unknown, .accepted]) ∧
  ∀ prior ∈ earlier, prior.outcome = .claimed

instance (event : NotificationDeliveryEvent) : Decidable (state.DeliveryEventAllowed event) := by
  delta DeliveryEventAllowed; infer_instance

def appendNotificationDeliveryEvent : Except StoreError StoreState := do
  ensure (state.DeliveryEventAllowed event)
    (.sqlite "notification delivery requires one claim followed by one terminal outcome")
  (state.appendDeliveryEvent event).commit

/-! ## Saved checks -/

def appendCheckEvent (event : SavedCheckEvent) : StoreState :=
  { state with savedCheckEvents := state.savedCheckEvents ++ [event] }

def nextEventNumber (definitionId : String) : Int :=
  ((state.savedCheckEvents.filter fun event => event.definitionId = definitionId).map
    SavedCheckEvent.eventNumber).max?.getD 0 + 1

def appendDefinition (definition : SavedCheckDefinition) : StoreState :=
  { state with savedCheckDefinitions := state.savedCheckDefinitions ++ [definition] }

def installedEvent (definition : SavedCheckDefinition) : SavedCheckEvent where
  definitionId := definition.definitionId
  eventNumber := 1
  outcome := .installed
  binding := none
  detailJson := definition.definitionDigest
  evaluationId := none

def installSavedCheck (definition : SavedCheckDefinition) : Except StoreError StoreState :=
  match state.savedCheckDefinitions.find? fun existing =>
      existing.stableReference = definition.stableReference with
  | some existing => do
      ensure (existing.definitionDigest = definition.definitionDigest ∧
          existing.definitionJson = definition.definitionJson)
        (.invariant "saved check stable reference is already bound to different material")
      return state
  | none =>
      ((state.appendDefinition definition).appendCheckEvent (installedEvent definition)).commit

def claimOf (evaluationId : String) : Option SavedCheckEvent :=
  state.savedCheckEvents.find? fun event =>
    event.evaluationId = some evaluationId ∧ event.outcome = .claimed

def claimSavedCheckEvaluation (claim : SavedCheckClaimInput) : Except StoreError StoreState := do
  ensure claim.binding.isSome (.invariant "saved check claim requires an explicit nonempty binding")
  match state.claimOf claim.evaluationId with
  | some existing =>
      ensure (existing.definitionId = claim.definitionId ∧ existing.detailJson = claim.detailJson)
        (.invariant "saved check evaluation id is already bound to different material")
      return state
  | none =>
      (state.appendCheckEvent {
        definitionId := claim.definitionId
        eventNumber := state.nextEventNumber claim.definitionId
        outcome := .claimed
        binding := claim.binding
        detailJson := claim.detailJson
        evaluationId := some claim.evaluationId }).commit

def appendSavedCheckEvent (outcome : SavedCheckOutcome) (terminal : SavedCheckClaimInput) :
    Except StoreError StoreState := do
  ensure outcome.terminal (.invariant "saved check event outcome is unsupported")
  match state.savedCheckEvents.find? fun event =>
      event.evaluationId = some terminal.evaluationId ∧ event.outcome.terminal with
  | some existing =>
      ensure (existing.definitionId = terminal.definitionId ∧ existing.outcome = outcome ∧
          existing.detailJson = terminal.detailJson)
        (.invariant "saved check evaluation id is already bound to different terminal material")
      return state
  | none =>
      match state.claimOf terminal.evaluationId with
      | none => .error (.invariant "saved check terminal event has no retained claim")
      | some claim =>
          ensure (claim.definitionId = terminal.definitionId ∧ claim.binding.isSome ∧
              claim.binding = terminal.binding)
            (.invariant "saved check terminal binding differs from its exact claim")
          (state.appendCheckEvent {
            definitionId := terminal.definitionId
            eventNumber := state.nextEventNumber terminal.definitionId
            outcome := outcome
            binding := terminal.binding
            detailJson := terminal.detailJson
            evaluationId := some terminal.evaluationId }).commit

/-! ## Successor intents -/

def appendSuccessorIntent (intent : LocalSuccessorAcquisitionIntent) : StoreState :=
  { state with
    localSuccessorAcquisitionIntents := state.localSuccessorAcquisitionIntents ++ [intent] }

def commitLocalSuccessorDispatch (intent : LocalSuccessorAcquisitionIntent) : Except StoreError StoreState :=
  match state.localSuccessorAcquisitionIntents.find? fun existing =>
      existing.acquisitionId = intent.acquisitionId with
  | some existing => do
      ensure (existing = intent)
        (.replayConflict "local successor acquisition identity was reused for different bytes")
      return state
  | none => (state.appendSuccessorIntent intent).commit

/-! ## Binding transitions -/

def PendingIntent (event : BindingMaterializationEvent) : Prop :=
  event.phase = .intent ∧ ¬ ∃ completed ∈ state.bindingMaterializationEvents,
    completed.operationId = event.operationId ∧ completed.phase = .completed

instance (event : BindingMaterializationEvent) : Decidable (state.PendingIntent event) := by
  delta PendingIntent; infer_instance

def appendMaterialization (event : BindingMaterializationEvent) : StoreState :=
  { state with bindingMaterializationEvents := state.bindingMaterializationEvents ++ [event] }

def appendBinding (event : InstanceBindingEvent) : StoreState :=
  { state with instanceBindingEvents := state.instanceBindingEvents ++ [event] }

def beginBindingTransition (event : InstanceBindingEvent) (intent : BindingMaterializationEvent) :
    Except StoreError StoreState := do
  ensure (intent.phase = .intent) (.invariant "malformed intent binding materialization event")
  ensure (intent.instanceId = event.instanceId ∧ intent.bindingEventId = event.bindingEventId)
    (.invariant "binding materialization intent must identify its binding event and instance")
  ensure (¬ ∃ earlier ∈ state.bindingMaterializationEvents,
      earlier.instanceId = intent.instanceId ∧ state.PendingIntent earlier)
    (.invariant "instance already has a pending binding materialization")
  ((state.appendBinding event).appendMaterialization intent).commit

def completeBindingMaterialization (completion : BindingMaterializationEvent) :
    Except StoreError StoreState := do
  ensure (completion.phase = .completed)
    (.invariant "malformed completed binding materialization event")
  ensure ((state.bindingMaterializationEvents.countP fun intent =>
      intent.operationId = completion.operationId ∧ intent.instanceId = completion.instanceId ∧
      intent.bindingEventId = completion.bindingEventId ∧ intent.phase = .intent) = 1)
    (.invariant "binding materialization completion has no exact intent")
  (state.appendMaterialization completion).commit

end ConstellationNq.Store.StoreState
