import ConstellationNq.Store.Custody
import ConstellationNq.Store.Retention.Expire
import Mathlib.Data.List.Induction

/-!
# Runs of a store

Every transaction as one operation, the state an accepted operation leaves, and
the states that a store reaches from an empty one.
-/

set_option autoImplicit false

namespace ConstellationNq.Store

open Library.Loop

inductive Operation where
  | commitAdmittedCollection (collection : CollectionInput) (completion : AdmittedCollectionCompletion)
  | commitNonSuccessCollection (collection : CollectionInput) (result : RunResultStatusInput)
      (artifact : Option DiagnosticArtifactCommitInput)
  | commitEvaluations (inputs : List EvaluationCommitInput)
  | recordStatus (status : StatusEventInput)
  | enqueueNotification (notification : NotificationInput)
  | appendNotificationAttempt (attempt : NotificationAttempt)
  | retainNotificationDelivery (notification : NotificationInput) (intent : NotificationDeliveryIntent)
  | appendNotificationDeliveryEvent (event : NotificationDeliveryEvent)
  | installSavedCheck (definition : SavedCheckDefinition)
  | claimSavedCheckEvaluation (claim : SavedCheckClaimInput)
  | appendSavedCheckEvent (outcome : SavedCheckOutcome) (terminal : SavedCheckClaimInput)
  | commitLocalSuccessorDispatch (intent : LocalSuccessorAcquisitionIntent)
  | beginBindingTransition (event : InstanceBindingEvent) (intent : BindingMaterializationEvent)
  | completeBindingMaterialization (completion : BindingMaterializationEvent)
  | expire (bounds : Option StoreState.HistoryBounds) (cutoff : Timestamp) (maxCandidateRuns : Option Nat)

/-- The operations on the tables of deliveries. -/
def delivers : Operation → Bool
  | .retainNotificationDelivery _ _ => true
  | .appendNotificationDeliveryEvent _ => true
  | _ => false

def StoreState.apply (identityDigest : IdentityDigest) (state : StoreState) :
    Operation → Except StoreError StoreState
  | .commitAdmittedCollection collection completion => state.commitAdmittedCollection collection completion
  | .commitNonSuccessCollection collection result artifact =>
      state.commitNonSuccessCollection collection result artifact
  | .commitEvaluations inputs => state.commitEvaluations inputs
  | .recordStatus status => state.recordStatus status
  | .enqueueNotification notification => state.enqueueNotification notification
  | .appendNotificationAttempt attempt => state.appendNotificationAttempt attempt
  | .retainNotificationDelivery notification intent => state.retainNotificationDelivery notification intent
  | .appendNotificationDeliveryEvent event => state.appendNotificationDeliveryEvent event
  | .installSavedCheck definition => state.installSavedCheck definition
  | .claimSavedCheckEvaluation claim => state.claimSavedCheckEvaluation claim
  | .appendSavedCheckEvent outcome terminal => state.appendSavedCheckEvent outcome terminal
  | .commitLocalSuccessorDispatch intent => state.commitLocalSuccessorDispatch intent
  | .beginBindingTransition event intent => state.beginBindingTransition event intent
  | .completeBindingMaterialization completion => state.completeBindingMaterialization completion
  | .expire bounds cutoff maxCandidateRuns => do
      let outcome ← state.expireOrdinaryBefore identityDigest bounds cutoff maxCandidateRuns
      return outcome.stateAfter state

/-- `after` is reached from `before` by accepted operations. -/
inductive Reaches (identityDigest : IdentityDigest) (before : StoreState) : StoreState → Prop where
  | refl : Reaches identityDigest before before
  | step {middle after : StoreState} (operation : Operation)
      (earlier : Reaches identityDigest before middle)
      (accepted : middle.apply identityDigest operation = .ok after) :
      Reaches identityDigest before after

def Reachable (identityDigest : IdentityDigest) (state : StoreState) : Prop :=
  Reaches identityDigest StoreState.empty state

/-- The state after an operation, which is the same one if the operation is refused. -/
def StoreState.after (identityDigest : IdentityDigest) (state : StoreState) (operation : Operation) :
    StoreState :=
  match state.apply identityDigest operation with
  | .ok next => next
  | .error _ => state

variable {identityDigest : IdentityDigest} {state : StoreState}

theorem StoreState.apply_eq_of_isOk {operation : Operation} (accepted : (state.apply identityDigest operation).isOk) :
    state.apply identityDigest operation = .ok (state.after identityDigest operation) := by
  unfold StoreState.after
  cases applied : state.apply identityDigest operation with
  | ok next => rfl
  | error _ =>
      rw [applied] at accepted
      cases accepted

theorem Reaches.after {before middle : StoreState} {operation : Operation}
    (earlier : Reaches identityDigest before middle) (accepted : (middle.apply identityDigest operation).isOk) :
    Reaches identityDigest before (middle.after identityDigest operation) :=
  .step operation earlier (StoreState.apply_eq_of_isOk accepted)

/-- A whole run of operations, refused with the first one that is. -/
def StoreState.execute (identityDigest : IdentityDigest) (state : StoreState) (operations : List Operation) :
    Except StoreError StoreState :=
  operations.foldlM (StoreState.apply identityDigest) state

theorem StoreState.reaches_of_execute {operations : List Operation} {after : StoreState}
    (accepted : state.execute identityDigest operations = .ok after) :
    Reaches identityDigest state after := by
  unfold StoreState.execute at accepted
  induction operations using List.reverseRecOn generalizing after with
  | nil =>
      obtain rfl := Except.ok.inj accepted
      exact .refl
  | append_singleton earlier operation ih =>
      rw [List.foldlM_append] at accepted
      obtain ⟨middle, first, last⟩ := bind_eq_ok.mp accepted
      obtain ⟨final, applied, done⟩ := bind_eq_ok.mp last
      obtain rfl := Except.ok.inj done
      exact .step operation (ih first) applied

/-- The store after a run of operations that are all accepted. -/
def StoreState.executed (identityDigest : IdentityDigest) (operations : List Operation) : StoreState :=
  (StoreState.empty.execute identityDigest operations).toOption.getD StoreState.empty

theorem StoreState.reachable_executed {operations : List Operation}
    (accepted : (StoreState.empty.execute identityDigest operations).isOk = true) :
    Reachable identityDigest (StoreState.executed identityDigest operations) := by
  have ran : StoreState.empty.execute identityDigest operations =
      .ok (StoreState.executed identityDigest operations) := by
    unfold StoreState.executed
    cases result : StoreState.empty.execute identityDigest operations with
    | ok after => rfl
    | error refused =>
        rw [result] at accepted
        cases accepted
  exact StoreState.reaches_of_execute ran

/-- A property of the empty store that every accepted operation keeps. -/
theorem Reachable.invariant {property : StoreState → Prop} (initial : property StoreState.empty)
    (preserved : ∀ before after operation, Reachable identityDigest before → property before →
      before.apply identityDigest operation = .ok after → property after) (reachable : Reachable identityDigest state) :
    property state := by
  induction reachable with
  | refl => exact initial
  | step operation earlier accepted ih => exact preserved _ _ operation earlier ih accepted

/-! ## Operations for concrete runs -/

namespace Sample

/-- Evaluations of one lineage, without findings. -/
def evaluates (evaluationIds : List String) (evaluated : Int) : Operation :=
  .commitEvaluations (evaluationIds.map fun evaluationId => {
    evaluation := evaluation evaluationId none "instance" evaluated 0 none .conditionPresent
    finding := none })

def finding (eventId : String) (kind : FindingEventKind) (condition : ConditionState) : FindingEventInput where
  eventId := eventId
  findingId := "finding"
  eventKind := kind
  instanceId := "instance"
  profile := profile
  subjectJson := "subject"
  conditionName := "condition"
  conditionState := condition
  visibilityState := .sufficient
  basisJson := "basis"
  refusalJson := none
  evidence := []

def opens : Operation := .commitEvaluations [{
  evaluation := evaluation "opens" none "instance" 100 0 none .conditionPresent
  finding := some (finding "opened" .opened .present) }]

def resolves : Operation := .commitEvaluations [{
  evaluation := evaluation "resolves" none "instance" 200 0 none .conditionExplicitlyAbsent
  finding := some (finding "resolved" .resolved .explicitlyAbsent) }]

def expires : Operation := .expire none (time 110) none

def evaluated : StoreState := StoreState.empty.after (fun _ => "") (evaluates ["first", "second"] 100)

/-- The first evaluation is gone. -/
def expired : StoreState := evaluated.after (fun _ => "") expires

theorem apply_evaluates :
    StoreState.empty.apply (fun _ => "") (evaluates ["first", "second"] 100) = .ok evaluated :=
  StoreState.apply_eq_of_isOk (by decide +kernel)

theorem apply_expires : evaluated.apply (fun _ => "") expires = .ok expired :=
  StoreState.apply_eq_of_isOk (by decide +kernel)

theorem reachable_evaluated : Reachable (fun _ => "") evaluated := .step _ .refl apply_evaluates

theorem reachable_expired : Reachable (fun _ => "") expired := .step _ reachable_evaluated apply_expires

end Sample

end ConstellationNq.Store
