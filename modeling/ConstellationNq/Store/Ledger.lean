import ConstellationNq.Store.Invariants.Findings

/-!
# What a run never takes back

The tables that an expiry leaves alone only grow along a run, and an intake keeps its
identities when its collection expires, so what was recorded once under an identity is
not recorded again.
-/

set_option autoImplicit false

namespace ConstellationNq.Store

open Library.Loop Library.Sequence StoreState

variable {identityDigest : IdentityDigest} {before after later : StoreState}

theorem Reaches.trans (first : Reaches identityDigest before after) (second : Reaches identityDigest after later) :
    Reaches identityDigest before later := by
  induction second with
  | refl => exact first
  | step operation _ accepted ih => exact .step operation ih accepted

/-- A table that growth extends and an expiry leaves alone is extended by every run. -/
theorem Reaches.extended {α : Type} (since : Reaches identityDigest before after) (table : StoreState → List α)
    (grown : ∀ {first second rows}, Growth first rows second → table first <+: table second)
    (expired : ∀ {first cutoff plan}, table (first.applyPlan identityDigest cutoff plan) = table first) :
    table before <+: table after := by
  induction since with
  | refl => exact List.prefix_rfl
  | step operation _ accepted ih =>
      refine ih.trans ?_
      rcases apply_step accepted with same | ⟨committed, _⟩ | ⟨_, expiry⟩
      · rw [same]
      · exact grown committed.growth
      · rw [expiry.applied, expired]

/-! ## Intakes -/

def ProviderIntakeAttempt.identities (intake : ProviderIntakeAttempt) : String × String × String :=
  (intake.idempotencyKey, intake.attemptId, intake.requestId)

theorem Reaches.intakes_extended (since : Reaches identityDigest before after) :
    before.providerIntakeAttempts.map ProviderIntakeAttempt.identities <+:
      after.providerIntakeAttempts.map ProviderIntakeAttempt.identities := by
  refine since.extended (·.providerIntakeAttempts.map ProviderIntakeAttempt.identities) (fun growth => ?_) ?_
  · rw [growth.providerIntakeAttempts, List.map_append]
    exact List.prefix_append _ _
  · intro first cutoff plan
    refine (List.map_map ..).trans (List.map_congr_left fun intake _ => ?_)
    unfold Function.comp retireIntake
    split <;> rfl

def Operation.intake : Operation → Option ProviderIntakeInput
  | .commitAdmittedCollection collection _ => some collection.intake
  | .commitNonSuccessCollection collection _ _ => some collection.intake
  | _ => none

private theorem preflight_existing {intake : ProviderIntakeInput} {row : ProviderIntakeAttempt}
    (stored : row ∈ before.providerIntakeAttempts) (shared : row.idempotencyKey = intake.idempotencyKey ∨
      row.attemptId = intake.attemptId ∨ row.requestId = intake.requestId)
    {preflight : ProviderIntakePreflight} (passed : before.providerIntakePreflight intake = .ok preflight) :
    ∃ intakeId, preflight = .existing intakeId := by
  unfold providerIntakePreflight at passed
  split at passed
  · rename_i absent
    exact absurd (decide_eq_true shared) (List.find?_eq_none.mp absent row stored)
  · obtain ⟨_, _, passed⟩ := bind_eq_ok.mp passed
    obtain ⟨_, _, passed⟩ := bind_eq_ok.mp passed
    obtain ⟨_, _, final⟩ := bind_eq_ok.mp passed
    exact ⟨_, (Except.ok.inj final).symm⟩

/-- An intake is committed at most once. After any run since, expiries included, a
collection that shares its key, its attempt or its request is refused or changes nothing. -/
theorem intake_identity_final {row : ProviderIntakeAttempt} (stored : row ∈ before.providerIntakeAttempts)
    (since : Reaches identityDigest before later) {operation : Operation} {intake : ProviderIntakeInput}
    (collects : operation.intake = some intake) (shared : row.idempotencyKey = intake.idempotencyKey ∨
      row.attemptId = intake.attemptId ∨ row.requestId = intake.requestId)
    (accepted : later.apply identityDigest operation = .ok after) : after = later := by
  obtain ⟨kept, keptStored, same⟩ := List.mem_map.mp (since.intakes_extended.subset (List.mem_map_of_mem stored))
  simp only [ProviderIntakeAttempt.identities, Prod.mk.injEq] at same
  rw [← same.1, ← same.2.1, ← same.2.2] at shared
  cases operation with
  | commitAdmittedCollection collection completion =>
      obtain rfl := Option.some.inj collects
      obtain ⟨_, _, accepted⟩ := bind_eq_ok.mp accepted
      obtain ⟨_, _, accepted⟩ := bind_eq_ok.mp accepted
      obtain ⟨preflight, passed, final⟩ := bind_eq_ok.mp accepted
      obtain ⟨_, rfl⟩ := preflight_existing keptStored shared passed
      exact (Except.ok.inj final).symm
  | commitNonSuccessCollection collection result artifact =>
      obtain rfl := Option.some.inj collects
      obtain ⟨_, _, accepted⟩ := bind_eq_ok.mp accepted
      obtain ⟨_, _, accepted⟩ := bind_eq_ok.mp accepted
      obtain ⟨_, _, accepted⟩ := bind_eq_ok.mp accepted
      obtain ⟨_, _, accepted⟩ := bind_eq_ok.mp accepted
      obtain ⟨_, _, accepted⟩ := bind_eq_ok.mp accepted
      obtain ⟨preflight, passed, final⟩ := bind_eq_ok.mp accepted
      obtain ⟨_, rfl⟩ := preflight_existing keptStored shared passed
      exact (Except.ok.inj final).symm
  | _ => cases collects

private def failedIntake : ProviderIntakeInput where
  intakeId := "intake"
  idempotencyKey := "key"
  attemptId := "attempt"
  requestId := "request"
  replayDigest := "digest"
  binding := ""
  receivedAt := Sample.time 100
  rawBytes := []
  contextJson := ""
  interpretationJson := ""
  nativeOutcomeJson := ""

private def failedRun : RunInput where
  runId := "run"
  instanceId := "instance"
  profile := Sample.profile
  checkpointContractDigest := ""
  finishedAt := Sample.time 100
  response := false

private def failedCollection : Operation :=
  .commitNonSuccessCollection { intake := failedIntake, run := failedRun, submission := none }
    { runId := "run", status := ⟨"status", .instanceComponent, "instance"⟩ } none

private def collectedStore : StoreState := StoreState.executed (fun _ => "") [failedCollection]

/-- A collection that is committed again, after a status was recorded. -/
theorem intake_identity_final_repeated :
    let later := collectedStore.after (fun _ => "") (.recordStatus ⟨"other", .daemon, "main"⟩)
    (later.apply (fun _ => "") failedCollection).isOk ∧ later.after (fun _ => "") failedCollection = later := by
  have stored : providerIntakeRow failedIntake 1 ∈ collectedStore.providerIntakeAttempts := by decide +kernel
  have collects : failedCollection.intake = some failedIntake := rfl
  refine ⟨by decide +kernel, intake_identity_final stored (Reaches.after .refl (by decide +kernel)) collects (.inl rfl) ?_⟩
  exact apply_eq_of_isOk (by decide +kernel)

/-! ## Repeated operations -/

/-- The operations that answer a repetition from what they recorded. -/
def Operation.Repeatable : Operation → Prop
  | .retainNotificationDelivery .. | .claimSavedCheckEvaluation .. | .appendSavedCheckEvent ..
  | .commitLocalSuccessorDispatch .. => True
  | _ => False

private theorem find?_recorded {α : Type} {rows : List α} {row : α} {names : α → Bool}
    (absent : rows.find? names = none) (named : names row = true) : (rows ++ [row]).find? names = some row := by
  rw [List.find?_append, absent, Option.none_or, List.find?_singleton, if_pos named]

/-- An operation that was accepted can be repeated after any run since: it is accepted
and changes nothing. -/
theorem repeated_operation_unchanged {operation : Operation} (repeatable : operation.Repeatable)
    (accepted : before.apply identityDigest operation = .ok after) (since : Reaches identityDigest after later) :
    later.apply identityDigest operation = .ok later := by
  cases operation with
  | retainNotificationDelivery notification intent =>
      have intents := since.extended (·.notificationDeliveryIntents) (fun growth => ⟨_, growth.notificationDeliveryIntents.symm⟩) rfl
      dsimp only [StoreState.apply, retainNotificationDelivery] at accepted ⊢
      split at accepted
      · rename_i existing found
        obtain ⟨same, rfl⟩ := ensure_pure_eq_ok.mp accepted
        rw [intents.find?_eq_some found]
        exact ensure_pure_eq_ok.mpr ⟨same, rfl⟩
      · rename_i absent
        obtain ⟨_, _, committed⟩ := bind_eq_ok.mp accepted
        obtain ⟨rfl, _⟩ := commit_eq_ok committed
        rw [intents.find?_eq_some (find?_recorded absent (by simp))]
        exact ensure_pure_eq_ok.mpr ⟨⟨rfl, rfl⟩, rfl⟩
  | claimSavedCheckEvaluation claim =>
      have checks := since.extended (·.savedCheckEvents) (fun growth => ⟨_, growth.savedCheckEvents.symm⟩) rfl
      dsimp only [StoreState.apply, claimSavedCheckEvaluation, claimOf] at accepted ⊢
      obtain ⟨_, bound, accepted⟩ := bind_eq_ok.mp accepted
      rw [bound]
      split at accepted
      · rename_i existing found
        obtain ⟨same, rfl⟩ := ensure_pure_eq_ok.mp accepted
        rw [checks.find?_eq_some found]
        exact ensure_pure_eq_ok.mpr ⟨same, rfl⟩
      · rename_i absent
        obtain ⟨rfl, _⟩ := commit_eq_ok accepted
        rw [checks.find?_eq_some (find?_recorded absent (by simp))]
        exact ensure_pure_eq_ok.mpr ⟨⟨rfl, rfl⟩, rfl⟩
  | appendSavedCheckEvent outcome terminal =>
      have checks := since.extended (·.savedCheckEvents) (fun growth => ⟨_, growth.savedCheckEvents.symm⟩) rfl
      dsimp only [StoreState.apply, appendSavedCheckEvent] at accepted ⊢
      obtain ⟨_, ends, accepted⟩ := bind_eq_ok.mp accepted
      rw [ends]
      split at accepted
      · rename_i existing found
        obtain ⟨same, rfl⟩ := ensure_pure_eq_ok.mp accepted
        rw [checks.find?_eq_some found]
        exact ensure_pure_eq_ok.mpr ⟨same, rfl⟩
      · rename_i absent
        split at accepted
        · cases accepted
        · obtain ⟨_, _, committed⟩ := bind_eq_ok.mp accepted
          obtain ⟨rfl, _⟩ := commit_eq_ok committed
          rw [checks.find?_eq_some (find?_recorded absent (decide_eq_true ⟨rfl, ensure_eq_ok.mp ends⟩))]
          exact ensure_pure_eq_ok.mpr ⟨⟨rfl, rfl, rfl⟩, rfl⟩
  | commitLocalSuccessorDispatch intent =>
      have successors := since.extended (·.localSuccessorAcquisitionIntents) (fun growth => ⟨_, growth.localSuccessorAcquisitionIntents.symm⟩) rfl
      dsimp only [StoreState.apply, commitLocalSuccessorDispatch] at accepted ⊢
      split at accepted
      · rename_i existing found
        obtain ⟨same, rfl⟩ := ensure_pure_eq_ok.mp accepted
        rw [successors.find?_eq_some found]
        exact ensure_pure_eq_ok.mpr ⟨same, rfl⟩
      · rename_i absent
        obtain ⟨rfl, _⟩ := commit_eq_ok accepted
        rw [successors.find?_eq_some (find?_recorded absent (by simp))]
        exact ensure_pure_eq_ok.mpr ⟨rfl, rfl⟩
  | _ => cases repeatable

private def successorDispatch : Operation :=
  .commitLocalSuccessorDispatch { acquisitionId := "acquisition", runId := "next", intakeId := "next", intentJson := "" }

private def dispatchedStore : StoreState := StoreState.empty.after (fun _ => "") successorDispatch

/-- A dispatch that is repeated after a collection was committed. -/
theorem repeated_operation_unchanged_dispatch :
    let later := dispatchedStore.after (fun _ => "") failedCollection
    later.watcherRuns.map WatcherRun.runId = ["run"] ∧ later.apply (fun _ => "") successorDispatch = .ok later := by
  have accepted : StoreState.empty.apply (fun _ => "") successorDispatch = .ok dispatchedStore :=
    apply_eq_of_isOk (by decide +kernel)
  exact ⟨by decide +kernel, repeated_operation_unchanged trivial accepted (Reaches.after .refl (by decide +kernel))⟩

/-! ## Findings -/

/-- The events of a finding over any run: earlier ones stay in place, they are numbered
from one, the first alone opens it, each other one follows its predecessor, and the current
one is the last. -/
theorem finding_history_over_runs (reachable : Reachable identityDigest before)
    (since : Reaches identityDigest before after) (findingId : String) :
    before.eventsOf findingId <+: after.eventsOf findingId ∧
    (after.eventsOf findingId).map FindingEvent.eventRevision =
      consecutive 0 (after.eventsOf findingId).length ∧
    after.currentEvent findingId = (after.eventsOf findingId).getLast? ∧
    ∀ event ∈ after.eventsOf findingId, (event.eventKind = .opened ↔ event.eventRevision = 1) ∧
      (event.eventRevision ≠ 1 → ∃ prior ∈ after.eventsOf findingId, after.Follows prior event) := by
  have history := Reachable.findingHistory (reachable.trans since)
  have events := since.extended (·.findingEvents) (fun growth => ⟨_, growth.findingEvents.symm⟩) rfl
  refine ⟨events.filter _, history.revisions findingId, history.current findingId, ?_⟩
  intro event listed
  obtain ⟨stored, sameFinding⟩ := mem_eventsOf.mp listed
  refine ⟨history.opened event stored, fun later => ?_⟩
  obtain ⟨prior, member, link⟩ := history.follows event stored later
  exact ⟨prior, mem_eventsOf.mpr ⟨member, link.findingId.trans sameFinding⟩, link⟩

private def openedStore : StoreState := StoreState.executed (fun _ => "") [Sample.opens]

private def resolvedStore : StoreState := openedStore.after (fun _ => "") Sample.resolves

theorem finding_history_over_runs_resolved :
    (resolvedStore.eventsOf "finding").length = 2 ∧ openedStore.eventsOf "finding" <+: resolvedStore.eventsOf "finding" := by
  have since : Reaches (fun _ => "") openedStore resolvedStore := Reaches.after .refl (by decide +kernel)
  exact ⟨by decide +kernel, (finding_history_over_runs (reachable_executed (by decide +kernel)) since "finding").1⟩

end ConstellationNq.Store
