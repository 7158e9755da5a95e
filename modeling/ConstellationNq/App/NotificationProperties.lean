import ConstellationNq.App.Condition
import ConstellationNq.App.Notification
import ConstellationNq.Store.Invariants.Keys

/-!
# At most one dispatch for an identity

A call dispatches only after it has inserted the intent of its identity itself and
claimed it. The store keeps intents distinct by identity and by notification, so no
other call holds the same custody, and what a call finds retained it never dispatches.
-/

set_option autoImplicit false

namespace ConstellationNq.App

open Library.Loop Protocol Store StoreState

variable {setting : Setting} {effect : Effect} {store after : StoreState}

/-! ## Changes of the delivery tables -/

structure SameDeliveries (before after : StoreState) : Prop where
  intents : after.notificationDeliveryIntents = before.notificationDeliveryIntents
  events : after.notificationDeliveryEvents = before.notificationDeliveryEvents

theorem apply_sameDeliveries {identityDigest : IdentityDigest} {operation : Operation}
    (unrelated : delivers operation = false) (accepted : store.apply identityDigest operation = .ok after) :
    SameDeliveries store after := by
  rcases apply_step accepted with rfl | ⟨committed, undelivered⟩ | ⟨rfl, expired⟩
  · exact ⟨rfl, rfl⟩
  · obtain ⟨intents, deliveries⟩ := undelivered unrelated
    constructor
    · rw [committed.growth.notificationDeliveryIntents, intents, List.append_nil]
    · rw [committed.growth.notificationDeliveryEvents, deliveries, List.append_nil]
  · rw [expired.applied]
    exact ⟨rfl, rfl⟩

/-- An intent that was not there before, neither under its identity nor under its
notification. -/
structure Inserted (before : StoreState) (intent : NotificationDeliveryIntent) (after : StoreState) : Prop where
  intents : after.notificationDeliveryIntents = before.notificationDeliveryIntents ++ [intent]
  events : after.notificationDeliveryEvents = before.notificationDeliveryEvents
  newId : ∀ existing ∈ before.notificationDeliveryIntents, existing.notificationId ≠ intent.notificationId
  newIdentity : ∀ existing ∈ before.notificationDeliveryIntents,
    ¬ (existing.stableEventId = intent.stableEventId ∧
      existing.destinationIdentity = intent.destinationIdentity)

theorem retain_inserted {notification : NotificationInput} {intent : NotificationDeliveryIntent}
    (retained : store.retainNotificationDelivery notification intent = .ok after)
    (absent : deliveryIntentByIdentity store intent.stableEventId intent.destinationIdentity = none) :
    Inserted store intent after := by
  unfold deliveryIntentByIdentity at absent
  unfold retainNotificationDelivery at retained
  rw [absent] at retained
  obtain ⟨_, _, committed⟩ := bind_eq_ok.mp retained
  obtain ⟨rfl, unique, _⟩ := commit_eq_ok committed
  have distinct := unique.notification.intentNotificationId
  refine ⟨rfl, rfl, ?_, ?_⟩
  · intro existing member same
    change (List.map _ (store.notificationDeliveryIntents ++ [intent])).Nodup at distinct
    rw [List.map_append, List.nodup_append] at distinct
    exact distinct.2.2 _ (List.mem_map_of_mem member) _ (List.mem_singleton_self _) same
  · intro existing member same
    exact List.find?_eq_none.mp absent existing member (decide_eq_true same)

theorem retain_existing {notification : NotificationInput} {intent existing : NotificationDeliveryIntent}
    (retained : store.retainNotificationDelivery notification intent = .ok after)
    (found : deliveryIntentByIdentity store intent.stableEventId intent.destinationIdentity = some existing) :
    after = store := by
  unfold deliveryIntentByIdentity at found
  unfold retainNotificationDelivery at retained
  rw [found] at retained
  exact (ensure_pure_eq_ok.mp retained).2.symm

structure Appended (before : StoreState) (event : NotificationDeliveryEvent) (after : StoreState) : Prop where
  intents : after.notificationDeliveryIntents = before.notificationDeliveryIntents
  events : after.notificationDeliveryEvents = before.notificationDeliveryEvents ++ [event]
  allowed : before.DeliveryEventAllowed event

variable {event : NotificationDeliveryEvent}

theorem append_appended (appended : store.appendNotificationDeliveryEvent event = .ok after) :
    Appended store event after := by
  unfold appendNotificationDeliveryEvent at appended
  obtain ⟨_, allowed, committed⟩ := bind_eq_ok.mp appended
  obtain ⟨rfl, _, _⟩ := commit_eq_ok committed
  exact ⟨rfl, rfl, ensure_eq_ok.mp allowed⟩

/-! ## What a step of a call can do -/

/-- The notification whose custody a call holds. -/
def Phase.owner : Phase → Option String
  | .retained _ _ notificationId _ => some notificationId
  | .claimed _ _ notificationId _ _ => some notificationId
  | .dispatched _ notificationId => some notificationId
  | _ => none

/-- The identity that a call may still dispatch. -/
def Phase.pending : Phase → Option (String × String)
  | .retained call _ _ _ => some call.identity
  | .claimed call _ _ _ _ => some call.identity
  | _ => none

/-- A page on a route that pages, over an enabled network, for an event that was current
when it was checked. -/
structure Eligible (setting : Setting) (call : Call) (route : Route) (checkedAt : Int) : Prop where
  page : route.transport = .pagerDuty → call.submission.intent.isPage = true
  current : savedCheckDeliveryIsCurrent setting call.submission.intent.ownerReceipt checkedAt = .ok true
  network : call.enableNetwork = true

def claimEvent (notificationId : String) : NotificationDeliveryEvent where
  notificationId := notificationId
  eventNumber := 1
  outcome := .claimed

/-- The record whose resubmission stands between its check and its commit. -/
def Phase.origin : Phase → Option String
  | .entered call _ | .unretained call _ | .prepared call _ _ _ => call.resubmittedFrom
  | _ => none

def Phase.reopening : Phase → Option String
  | .reopened notificationId _ _ _ | .reexamined notificationId _ _ _ => some notificationId
  | _ => none

/-- What a step says about the record that a call resubmits. -/
structure Traced (effect : Effect) (store : StoreState) (phase next : Phase) : Prop where
  reopening : ∀ notificationId, next.reopening = some notificationId →
    phase.reopening = some notificationId ∨
      notificationId ∈ store.notificationDeliveryIntents.map NotificationDeliveryIntent.notificationId
  origin : ∀ notificationId, next.origin = some notificationId →
    phase.origin = some notificationId ∨ ∃ stableEventId enableNetwork members,
      phase = .reexamined notificationId stableEventId enableNetwork members ∧ effect.newerSameCondition = none

variable {next phase : Phase}

theorem Traced.elsewhere (reopening : next.reopening = none) (origin : next.origin = none) :
    Traced effect store phase next where
  reopening := by
    rw [reopening]
    exact nofun
  origin := by
    rw [origin]
    exact nofun

/-- What one step of a call can do. -/
inductive AdvanceCase (setting : Setting) (effect : Effect) (store : StoreState) : Phase → Advance → Prop where
  | computes {phase next : Phase} (released : next.owner = none) (traced : Traced effect store phase next) :
      AdvanceCase setting effect store phase { store := store, phase := next }
  | retains {call : Call} {route : Route} {notificationId payload : String} {after : StoreState}
      (accepted : store.retainNotificationDelivery (notificationInput call notificationId)
        (deliveryIntent setting call notificationId payload) = .ok after)
      (inserted : Inserted store (deliveryIntent setting call notificationId payload) after) :
      AdvanceCase setting effect store (.prepared call route notificationId payload)
        { store := after, phase := .retained call route notificationId payload }
  | refuses {call : Call} {route : Route} {notificationId payload : String} {result : Except Failure Receipt}
      {after : StoreState}
      (accepted : store.appendNotificationDeliveryEvent
        { notificationId := notificationId, eventNumber := 1, outcome := .refused } = .ok after) :
      AdvanceCase setting effect store (.retained call route notificationId payload)
        { store := after, phase := .returned result }
  | claims {call : Call} {route : Route} {notificationId payload : String} {checkedAt : Int} {after : StoreState}
      (eligible : Eligible setting call route checkedAt)
      (accepted : store.appendNotificationDeliveryEvent (claimEvent notificationId) = .ok after) :
      AdvanceCase setting effect store (.retained call route notificationId payload)
        { store := after, phase := .claimed call route notificationId payload checkedAt }
  | dispatches {call : Call} {route : Route} {notificationId payload : String} {checkedAt : Int} :
      AdvanceCase setting effect store (.claimed call route notificationId payload checkedAt) {
        store := store
        phase := .dispatched call notificationId
        dispatch := some {
          call := call
          route := route
          notificationId := notificationId
          payload := payload
          checkedAt := checkedAt
          store := store } }
  | records {call : Call} {notificationId : String} {outcome : DeliveryOutcome} {result : Except Failure Receipt}
      {after : StoreState}
      (accepted : store.appendNotificationDeliveryEvent
        { notificationId := notificationId, eventNumber := 2, outcome := outcome } = .ok after) :
      AdvanceCase setting effect store (.dispatched call notificationId) { store := after, phase := .returned result }

theorem AdvanceCase.elsewhere (released : next.owner = none) (reopening : next.reopening = none)
    (origin : next.origin = none) : AdvanceCase setting effect store phase { store := store, phase := next } :=
  .computes released (.elsewhere reopening origin)

theorem AdvanceCase.settle {result : Except String Phase}
    (settled : ∀ next, result = .ok next → AdvanceCase setting effect store phase { store := store, phase := next }) :
    AdvanceCase setting effect store phase { store := store, phase := settle result } := by
  cases result with
  | ok next => exact settled next rfl
  | error message => exact .elsewhere rfl rfl rfl

variable {call : Call}

theorem enter_entered (entered : enter setting call = .ok next) :
    ∃ route, next = .entered call route := by
  unfold enter at entered
  obtain ⟨_, entered⟩ := check_bind_eq_ok.mp entered
  split at entered
  · cases entered
  · rename_i route _
    obtain ⟨_, entered⟩ := check_bind_eq_ok.mp entered
    obtain ⟨_, entered⟩ := check_bind_eq_ok.mp entered
    cases entered
    exact ⟨route, rfl⟩

variable {route : Route}

theorem compareRetained_duplicate {text : String} (compared : compareRetained setting call route text = .ok next) :
    next = .duplicate call := by
  unfold compareRetained at compared
  obtain ⟨_, _, compared⟩ := bind_eq_ok.mp compared
  obtain ⟨_, _, compared⟩ := bind_eq_ok.mp compared
  obtain ⟨_, compared⟩ := check_bind_eq_ok.mp compared
  split at compared
  · cases compared
    rfl
  · cases compared
  · obtain ⟨_, compared⟩ := check_bind_eq_ok.mp compared
    cases compared
    rfl

theorem prepare_prepared (prepared : prepare setting effect call route = .ok next) :
    ∃ notificationId payload, next = .prepared call route notificationId payload := by
  obtain ⟨_, prepared⟩ := check_bind_eq_ok.mp prepared
  obtain ⟨payload, _, prepared⟩ := bind_eq_ok.mp prepared
  cases prepared
  exact ⟨_, payload, rfl⟩

variable {notificationId : String}

/-- A resubmission goes on only if the query found nothing. -/
theorem renew_entered {stableEventId : String} {enableNetwork : Bool} {members : List (String × Json)}
    (renewed : renew setting effect notificationId stableEventId enableNetwork members = .ok next) :
    effect.newerSameCondition = none ∧
      ∃ call route, next = .entered call route ∧ call.resubmittedFrom = some notificationId := by
  unfold renew at renewed
  split at renewed
  · cases renewed
  · rename_i absent
    obtain ⟨_, renewed⟩ := check_bind_eq_ok.mp renewed
    obtain ⟨_, _, renewed⟩ := bind_eq_ok.mp renewed
    obtain ⟨_, renewed⟩ := check_bind_eq_ok.mp renewed
    obtain ⟨⟨intent, pager⟩, _, renewed⟩ := bind_eq_ok.mp renewed
    obtain ⟨route, entered⟩ := enter_entered renewed
    exact ⟨absent, _, route, entered, rfl⟩

private theorem deliveryVerdict_claim (claimed : deliveryVerdict setting effect call route = .claim) :
    Eligible setting call route effect.now := by
  unfold deliveryVerdict at claimed
  split at claimed
  case isTrue => cases claimed
  case isFalse eligible =>
    split at claimed
    case h_1 => cases claimed
    case h_2 => cases claimed
    case h_3 current =>
      split at claimed
      case isTrue => cases claimed
      case isFalse network =>
        refine ⟨fun pages => ?_, current, by simpa using network⟩
        simpa [Call.notPage, pages] using eligible

theorem advance_case (phase : Phase) :
    AdvanceCase setting effect store phase (phase.advance setting effect store) := by
  cases phase with
  | idle => exact .elsewhere rfl rfl rfl
  | asked request =>
      cases request with
      | submit text routeReference enableNetwork =>
          refine .settle fun next entered => ?_
          obtain ⟨_, _, entered⟩ := bind_eq_ok.mp entered
          obtain ⟨route, rfl⟩ := enter_entered entered
          exact .elsewhere rfl rfl rfl
      | resubmit notificationId stableEventId enableNetwork =>
          refine .settle fun next reopened => ?_
          obtain ⟨_, reopened⟩ := check_bind_eq_ok.mp reopened
          split at reopened
          · cases reopened
          · rename_i existing found
            cases reopened
            refine .computes rfl ⟨fun other same => .inr ?_, nofun⟩
            cases same
            have named : existing.notificationId = notificationId := by simpa using List.find?_some found
            exact List.mem_map.mpr ⟨existing, List.mem_of_find?_eq_some found, named⟩
  | reopened notificationId stableEventId enableNetwork text =>
      refine .settle fun next reexamined => ?_
      obtain ⟨_, _, reexamined⟩ := bind_eq_ok.mp reexamined
      obtain ⟨_, reexamined⟩ := check_bind_eq_ok.mp reexamined
      obtain ⟨_, reexamined⟩ := check_bind_eq_ok.mp reexamined
      cases reexamined
      exact .computes rfl ⟨fun other same => .inl same, nofun⟩
  | reexamined notificationId stableEventId enableNetwork members =>
      refine .settle fun next renewed => ?_
      obtain ⟨absent, call, route, rfl, resubmits⟩ := renew_entered renewed
      refine .computes rfl ⟨nofun, fun other same => .inr ⟨stableEventId, enableNetwork, members, ?_, absent⟩⟩
      rw [Phase.origin, resubmits] at same
      cases same
      rfl
  | entered call route =>
      unfold Phase.advance
      dsimp only
      split
      · exact .computes rfl ⟨nofun, fun other same => .inl same⟩
      · refine .settle fun next compared => ?_
        rw [compareRetained_duplicate compared]
        exact .elsewhere rfl rfl rfl
  | duplicate call =>
      unfold Phase.advance
      dsimp only
      split <;> exact .elsewhere rfl rfl rfl
  | unretained call route =>
      refine .settle fun next prepared => ?_
      obtain ⟨notificationId, payload, rfl⟩ := prepare_prepared prepared
      exact .computes rfl ⟨nofun, fun other same => .inl same⟩
  | prepared call route notificationId payload =>
      unfold Phase.advance
      dsimp only
      split
      next error failed => exact .elsewhere rfl rfl rfl
      next after accepted =>
        split
        next absent => exact .retains accepted (retain_inserted accepted absent)
        next existing found =>
          rw [retain_existing accepted found]
          exact .elsewhere rfl rfl rfl
  | retained call route notificationId payload =>
      unfold Phase.advance appendEvent
      dsimp only
      split
      next reason refused =>
        split
        next after accepted => exact .refuses accepted
        next error failed => exact .elsewhere rfl rfl rfl
      next message failed => exact .elsewhere rfl rfl rfl
      next claimed =>
        split
        next after accepted => exact .claims (deliveryVerdict_claim claimed) accepted
        next error failed => exact .elsewhere rfl rfl rfl
  | claimed call route notificationId payload checkedAt => exact .dispatches
  | dispatched call notificationId =>
      unfold Phase.advance appendEvent
      dsimp only
      split
      next message failed => exact .elsewhere rfl rfl rfl
      next result answered =>
        split
        next after accepted => exact .records accepted
        next error failed => exact .elsewhere rfl rfl rfl
  | returned result => exact .elsewhere rfl rfl rfl
  | stopped => exact .elsewhere rfl rfl rfl

/-! ## Custody -/

/-- The intent of the call is retained under its notification. -/
def Held (store : StoreState) (call : Call) (notificationId : String) : Prop :=
  ∃ intent ∈ store.notificationDeliveryIntents, intent.notificationId = notificationId ∧
    intent.stableEventId = call.identity.1 ∧ intent.destinationIdentity = call.identity.2

theorem Held.mono (held : Held store call notificationId)
    (grows : ∀ intent ∈ store.notificationDeliveryIntents, intent ∈ after.notificationDeliveryIntents) :
    Held after call notificationId := by
  obtain ⟨intent, member, named⟩ := held
  exact ⟨intent, grows intent member, named⟩

section Unique

variable {left right : Call} {leftId rightId : String}

theorem Held.notificationId_eq (unique : store.toNotificationTables.UniqueKeys) (first : Held store left leftId)
    (second : Held store right rightId) (same : left.identity = right.identity) : leftId = rightId := by
  obtain ⟨earlier, firstMember, rfl, firstEvent, firstDestination⟩ := first
  obtain ⟨later, secondMember, rfl, secondEvent, secondDestination⟩ := second
  have equal := List.inj_on_of_nodup_map unique.intentIdentity firstMember secondMember (by
    rw [firstEvent, firstDestination, secondEvent, secondDestination, same])
  rw [equal]

theorem Held.identity_eq (unique : store.toNotificationTables.UniqueKeys) (first : Held store left leftId)
    (second : Held store right rightId) (same : leftId = rightId) : left.identity = right.identity := by
  obtain ⟨earlier, firstMember, rfl, firstEvent, firstDestination⟩ := first
  obtain ⟨later, secondMember, rfl, secondEvent, secondDestination⟩ := second
  obtain rfl := List.inj_on_of_nodup_map unique.intentNotificationId firstMember secondMember same
  exact Prod.ext (firstEvent.symm.trans secondEvent) (firstDestination.symm.trans secondDestination)

end Unique

def eventsOf (store : StoreState) (notificationId : String) : List NotificationDeliveryEvent :=
  store.notificationDeliveryEvents.filter fun event => event.notificationId = notificationId

theorem mem_eventsOf :
    event ∈ eventsOf store notificationId ↔
      event ∈ store.notificationDeliveryEvents ∧ event.notificationId = notificationId := by
  simp [eventsOf]

theorem Appended.eventsOf_self (appended : Appended store event after) :
    eventsOf after event.notificationId = eventsOf store event.notificationId ++ [event] := by
  simp [eventsOf, appended.events]

theorem Appended.eventsOf_other (appended : Appended store event after)
    (other : event.notificationId ≠ notificationId) :
    eventsOf after notificationId = eventsOf store notificationId := by
  simp [eventsOf, appended.events, other]

/-- What the store holds for a call that has custody. -/
def Phase.Holds (setting : Setting) (store : StoreState) (dispatched : List (String × String)) : Phase → Prop
  | .retained call _ notificationId _ =>
      Held store call notificationId ∧ eventsOf store notificationId = [] ∧ call.identity ∉ dispatched
  | .claimed call route notificationId _ checkedAt =>
      Held store call notificationId ∧ eventsOf store notificationId = [claimEvent notificationId] ∧
        call.identity ∉ dispatched ∧ Eligible setting call route checkedAt
  | .dispatched call notificationId =>
      Held store call notificationId ∧ eventsOf store notificationId = [claimEvent notificationId]
  | _ => True

theorem Phase.holds_of_released {dispatched : List (String × String)} (released : phase.owner = none) :
    phase.Holds setting store dispatched := by
  cases phase with
  | retained call route notificationId payload => cases released
  | claimed call route notificationId payload checkedAt => cases released
  | dispatched call notificationId => cases released
  | _ => trivial

theorem Phase.Holds.held {dispatched : List (String × String)} (holds : phase.Holds setting store dispatched)
    (owner : phase.owner = some notificationId) :
    ∃ call, Held store call notificationId ∧ ∀ identity ∈ phase.pending, identity = call.identity := by
  cases phase with
  | retained call route own payload =>
      obtain rfl := Option.some.inj owner
      exact ⟨call, holds.1, fun identity pending => (Option.some.inj pending).symm⟩
  | claimed call route own payload checkedAt =>
      obtain rfl := Option.some.inj owner
      exact ⟨call, holds.1, fun identity pending => (Option.some.inj pending).symm⟩
  | dispatched call own =>
      obtain rfl := Option.some.inj owner
      exact ⟨call, holds.1, nofun⟩
  | _ => cases owner

/-- A call keeps its custody while nothing is written under its notification and nothing
is dispatched under its identity. -/
theorem Phase.Holds.frame {before now : List (String × String)} (holds : phase.Holds setting store before)
    (grows : ∀ intent ∈ store.notificationDeliveryIntents, intent ∈ after.notificationDeliveryIntents)
    (same : ∀ notificationId ∈ phase.owner, eventsOf after notificationId = eventsOf store notificationId)
    (undispatched : ∀ identity ∈ phase.pending, identity ∈ now → identity ∈ before) :
    phase.Holds setting after now := by
  cases phase with
  | retained call route notificationId payload =>
      obtain ⟨held, events, fresh⟩ := holds
      exact ⟨held.mono grows, (same _ rfl).trans events, fun found => fresh (undispatched _ rfl found)⟩
  | claimed call route notificationId payload checkedAt =>
      obtain ⟨held, events, fresh, eligible⟩ := holds
      exact ⟨held.mono grows, (same _ rfl).trans events, fun found => fresh (undispatched _ rfl found), eligible⟩
  | dispatched call notificationId =>
      obtain ⟨held, events⟩ := holds
      exact ⟨held.mono grows, (same _ rfl).trans events⟩
  | _ => trivial

def Dispatch.identity (dispatch : Dispatch) : String × String := dispatch.call.identity

/-- The transport was invoked for a claimed notification without an outcome, and none of
its events is a refusal. -/
structure Dispatch.Holds (setting : Setting) (store : StoreState) (dispatch : Dispatch) : Prop where
  held : Held store dispatch.call dispatch.notificationId
  claimed : claimEvent dispatch.notificationId ∈ dispatch.store.notificationDeliveryEvents
  unsettled : ∀ event ∈ dispatch.store.notificationDeliveryEvents,
    event.notificationId = dispatch.notificationId → event.outcome = .claimed
  eligible : Eligible setting dispatch.call dispatch.route dispatch.checkedAt
  unrefused : ∀ event ∈ eventsOf store dispatch.notificationId, event.outcome ≠ .refused

theorem Dispatch.Holds.frame {dispatch : Dispatch} (holds : dispatch.Holds setting store)
    (grows : ∀ intent ∈ store.notificationDeliveryIntents, intent ∈ after.notificationDeliveryIntents)
    (unrefused : ∀ event ∈ eventsOf after dispatch.notificationId,
      event ∈ eventsOf store dispatch.notificationId ∨ event.outcome ≠ .refused) :
    dispatch.Holds setting after :=
  { holds with
    held := holds.held.mono grows
    unrefused := fun event member => (unrefused event member).elim (holds.unrefused event) id }

/-! ## The invariant -/

structure System.Sound (setting : Setting) (system : System) : Prop where
  reachable : Reachable setting.identityDigest system.store
  phase : ∀ process, (system.calls process).Holds setting system.store (system.dispatches.map Dispatch.identity)
  owners : ∀ left right notificationId, (system.calls left).owner = some notificationId →
    (system.calls right).owner = some notificationId → left = right
  dispatch : ∀ dispatch ∈ system.dispatches, dispatch.Holds setting system.store
  identities : (system.dispatches.map Dispatch.identity).Nodup

namespace System.Sound

variable {system : System} (sound : system.Sound setting)

include sound

private theorem unique : system.store.toNotificationTables.UniqueKeys := sound.reachable.uniqueKeys.notification

variable {process : Nat}

private theorem update {dispatches : List Dispatch} (reachable : Reachable setting.identityDigest after)
    (own : next.Holds setting after (dispatches.map Dispatch.identity))
    (others : ∀ other, other ≠ process → (system.calls other).Holds setting after (dispatches.map Dispatch.identity))
    (owner : ∀ notificationId ∈ next.owner, ∀ other, other ≠ process →
      (system.calls other).owner ≠ some notificationId)
    (dispatch : ∀ dispatch ∈ dispatches, dispatch.Holds setting after)
    (identities : (dispatches.map Dispatch.identity).Nodup) :
    System.Sound setting {
      store := after
      calls := Function.update system.calls process next
      dispatches := dispatches } where
  reachable := reachable
  phase := by
    intro other
    by_cases same : other = process
    · subst same
      simpa using own
    · simpa [Function.update_of_ne same] using others other same
  owners := by
    intro left right notificationId first second
    by_cases leftSame : left = process <;> by_cases rightSame : right = process
    · rw [leftSame, rightSame]
    · subst leftSame
      simp only [Function.update_self, Function.update_of_ne rightSame] at first second
      exact absurd second (owner notificationId first right rightSame)
    · subst rightSame
      simp only [Function.update_self, Function.update_of_ne leftSame] at first second
      exact absurd first (owner notificationId second left leftSame)
    · simp only [Function.update_of_ne leftSame, Function.update_of_ne rightSame] at first second
      exact sound.owners left right notificationId first second
  dispatch := dispatch
  identities := identities

theorem release (released : next.owner = none) :
    System.Sound setting { system with calls := Function.update system.calls process next } :=
  sound.update sound.reachable (Phase.holds_of_released released) (fun other _ => sound.phase other)
    (by simp [released]) sound.dispatch sound.identities

theorem write {operation : Operation} (unrelated : delivers operation = false)
    (accepted : system.store.apply setting.identityDigest operation = .ok after) :
    System.Sound setting { system with store := after } := by
  have same := apply_sameDeliveries unrelated accepted
  have grows : ∀ intent ∈ system.store.notificationDeliveryIntents, intent ∈ after.notificationDeliveryIntents := by
    rw [same.intents]
    exact fun _ member => member
  have events : ∀ notificationId, eventsOf after notificationId = eventsOf system.store notificationId := by
    intro notificationId
    unfold eventsOf
    rw [same.events]
  constructor
  case reachable => exact .step operation sound.reachable accepted
  case phase => exact fun process => (sound.phase process).frame grows (fun _ _ => events _) (fun _ _ found => found)
  case owners => exact sound.owners
  case dispatch =>
    intro dispatch member
    refine (sound.dispatch dispatch member).frame grows fun event found => .inl ?_
    rw [← events]
    exact found
  case identities => exact sound.identities

variable {payload : String}

theorem retain
    (accepted : system.store.retainNotificationDelivery (notificationInput call notificationId)
      (deliveryIntent setting call notificationId payload) = .ok after)
    (inserted : Inserted system.store (deliveryIntent setting call notificationId payload) after) :
    System.Sound setting { system with
      store := after
      calls := Function.update system.calls process (.retained call route notificationId payload) } := by
  have grows : ∀ intent ∈ system.store.notificationDeliveryIntents, intent ∈ after.notificationDeliveryIntents := by
    rw [inserted.intents]
    exact fun _ member => List.mem_append_left _ member
  have events : ∀ id, eventsOf after id = eventsOf system.store id := by
    intro id
    unfold eventsOf
    rw [inserted.events]
  have reachable : Reachable setting.identityDigest after :=
    .step (.retainNotificationDelivery _ _) sound.reachable accepted
  refine sound.update reachable ⟨?_, ?_, ?_⟩ ?_ ?_ ?_ sound.identities
  · refine ⟨deliveryIntent setting call notificationId payload, ?_, rfl, rfl, rfl⟩
    rw [inserted.intents]
    exact List.mem_append_right _ (List.mem_singleton_self _)
  · -- An event needs its intent, and there was none under this notification.
    rw [events, List.eq_nil_iff_forall_not_mem]
    intro event member
    obtain ⟨member, named⟩ := mem_eventsOf.mp member
    obtain ⟨intent, retained, same⟩ := sound.reachable.foreignKeys.notification.deliveryIntent event member
    exact inserted.newId intent retained (same.trans named)
  · intro found
    obtain ⟨dispatch, member, same⟩ := List.mem_map.mp found
    obtain ⟨intent, retained, _, event, destination⟩ := (sound.dispatch dispatch member).held
    exact inserted.newIdentity intent retained
      ⟨event.trans (congrArg Prod.fst same), destination.trans (congrArg Prod.snd same)⟩
  · exact fun other _ => (sound.phase other).frame grows (fun _ _ => events _) (fun _ _ found => found)
  · intro id owned other _ clash
    obtain rfl := Option.some.inj owned
    obtain ⟨_, ⟨intent, retained, same, _⟩, _⟩ := (sound.phase other).held clash
    exact inserted.newId intent retained same
  · intro dispatch member
    refine (sound.dispatch dispatch member).frame grows fun event found => .inl ?_
    rw [← events]
    exact found

private theorem append (owned : (system.calls process).owner = some event.notificationId)
    (accepted : system.store.appendNotificationDeliveryEvent event = .ok after)
    (own : next.Holds setting after (system.dispatches.map Dispatch.identity))
    (keeps : ∀ notificationId ∈ next.owner, notificationId = event.notificationId)
    (refuses : event.outcome = .refused → (system.calls process).pending ≠ none) :
    System.Sound setting { system with
      store := after
      calls := Function.update system.calls process next } := by
  have appended := append_appended accepted
  have grows : ∀ intent ∈ system.store.notificationDeliveryIntents, intent ∈ after.notificationDeliveryIntents := by
    rw [appended.intents]
    exact fun _ member => member
  have reachable : Reachable setting.identityDigest after :=
    .step (.appendNotificationDeliveryEvent _) sound.reachable accepted
  refine sound.update reachable own ?_ ?_ ?_ sound.identities
  · intro other different
    refine (sound.phase other).frame grows (fun id clash => appended.eventsOf_other ?_) (fun _ _ found => found)
    rintro rfl
    exact different (sound.owners other process _ clash owned)
  · intro id held other different clash
    rw [keeps id held] at clash
    exact different (sound.owners other process _ clash owned)
  · intro dispatch member
    refine (sound.dispatch dispatch member).frame grows fun found foundMember => ?_
    by_cases same : event.notificationId = dispatch.notificationId
    · rw [← same, appended.eventsOf_self, List.mem_append, List.mem_singleton] at foundMember
      cases foundMember with
      | inl earlier => exact .inl (same ▸ earlier)
      | inr latest =>
          -- A call that may still refuse has not dispatched, and no other has its notification.
          refine .inr fun refused => ?_
          rw [latest] at refused
          obtain ⟨identity, pending⟩ := Option.ne_none_iff_exists'.mp (refuses refused)
          obtain ⟨call, held, named⟩ := (sound.phase process).held owned
          have dispatched := Held.identity_eq sound.unique (sound.dispatch dispatch member).held held same.symm
          have fresh : identity ∉ system.dispatches.map Dispatch.identity := by
            have holds := sound.phase process
            cases current : system.calls process <;> rw [current] at pending holds
            case retained => exact Option.some.inj pending ▸ holds.2.2
            case claimed => exact Option.some.inj pending ▸ holds.2.2.1
            all_goals cases pending
          rw [named identity pending, ← dispatched] at fresh
          exact fresh (List.mem_map_of_mem member)
    · rw [appended.eventsOf_other same] at foundMember
      exact .inl foundMember

theorem refuse {result : Except Failure Receipt}
    (current : system.calls process = .retained call route notificationId payload)
    (accepted : system.store.appendNotificationDeliveryEvent
      { notificationId := notificationId, eventNumber := 1, outcome := .refused } = .ok after) :
    System.Sound setting { system with
      store := after
      calls := Function.update system.calls process (.returned result) } :=
  sound.append (by rw [current]; rfl) accepted trivial nofun (by rw [current]; exact fun _ => nofun)

theorem claim {checkedAt : Int} (current : system.calls process = .retained call route notificationId payload)
    (eligible : Eligible setting call route checkedAt)
    (accepted : system.store.appendNotificationDeliveryEvent (claimEvent notificationId) = .ok after) :
    System.Sound setting { system with
      store := after
      calls := Function.update system.calls process (.claimed call route notificationId payload checkedAt) } := by
  have appended := append_appended accepted
  have holds := sound.phase process
  rw [current] at holds
  obtain ⟨held, events, fresh⟩ := holds
  refine sound.append (by rw [current]; rfl) accepted ⟨held.mono ?_, ?_, fresh, eligible⟩ ?_ nofun
  · rw [appended.intents]
    exact fun _ member => member
  · have own := appended.eventsOf_self
    change eventsOf after notificationId = eventsOf system.store notificationId ++ _ at own
    rw [own, events]
    rfl
  · exact fun id owned => (Option.some.inj owned).symm

/-- The outcome of a dispatch is recorded; the triggers of the table let no refusal pass. -/
theorem record {outcome : DeliveryOutcome} {result : Except Failure Receipt}
    (current : system.calls process = .dispatched call notificationId)
    (accepted : system.store.appendNotificationDeliveryEvent
      { notificationId := notificationId, eventNumber := 2, outcome := outcome } = .ok after) :
    System.Sound setting { system with
      store := after
      calls := Function.update system.calls process (.returned result) } := by
  refine sound.append (by rw [current]; rfl) accepted trivial nofun fun refused => ?_
  have terminal := ((append_appended accepted).allowed.2.2.1 one_lt_two).2.2
  change outcome ∈ _ at terminal
  rw [show outcome = .refused from refused] at terminal
  simp at terminal

theorem invoke {checkedAt : Int}
    (current : system.calls process = .claimed call route notificationId payload checkedAt) :
    System.Sound setting {
      store := system.store
      calls := Function.update system.calls process (.dispatched call notificationId)
      dispatches := system.dispatches ++ [{
        call := call
        route := route
        notificationId := notificationId
        payload := payload
        checkedAt := checkedAt
        store := system.store }] } := by
  have holds := sound.phase process
  rw [current] at holds
  obtain ⟨held, events, fresh, eligible⟩ := holds
  have owned : (system.calls process).owner = some notificationId := by
    rw [current]
    rfl
  refine sound.update sound.reachable ⟨held, events⟩ ?_ ?_ ?_ ?_
  · intro other different
    refine (sound.phase other).frame (fun _ member => member) (fun _ _ => rfl) fun identity pending found => ?_
    rw [List.map_append, List.mem_append] at found
    cases found with
    | inl earlier => exact earlier
    | inr latest =>
        -- Two calls with one identity would hold one notification.
        exfalso
        obtain ⟨id, otherOwned⟩ : ∃ id, (system.calls other).owner = some id := by
          cases phase : system.calls other <;> rw [phase] at pending
          case retained => exact ⟨_, rfl⟩
          case claimed => exact ⟨_, rfl⟩
          all_goals cases pending
        obtain ⟨otherCall, otherHeld, named⟩ := (sound.phase other).held otherOwned
        have same : otherCall.identity = call.identity :=
          (named identity pending).symm.trans (List.mem_singleton.mp latest)
        rw [Held.notificationId_eq sound.unique otherHeld held same] at otherOwned
        exact different (sound.owners other process _ otherOwned owned)
  · intro id held other different clash
    obtain rfl := Option.some.inj held
    exact different (sound.owners other process _ clash owned)
  · intro dispatch member
    rw [List.mem_append, List.mem_singleton] at member
    cases member with
    | inl earlier => exact sound.dispatch dispatch earlier
    | inr latest =>
        subst latest
        refine ⟨held, ?_, ?_, eligible, ?_⟩
        · exact (mem_eventsOf.mp (by rw [events]; exact List.mem_singleton_self _)).1
        · intro event member named
          have found := mem_eventsOf.mpr ⟨member, named⟩
          change event ∈ eventsOf system.store notificationId at found
          rw [events, List.mem_singleton] at found
          rw [found]
          rfl
        · intro event member
          change event ∈ eventsOf system.store notificationId at member
          rw [events, List.mem_singleton] at member
          rw [member]
          nofun
  · rw [List.map_append, List.nodup_append]
    refine ⟨sound.identities, List.nodup_singleton _, ?_⟩
    intro identity member other found same
    rw [List.map_singleton, List.mem_singleton] at found
    exact fresh (by rw [same, found] at member; exact member)

theorem step {next : System} (taken : SystemStep setting system next) : next.Sound setting := by
  cases taken with
  | advances process effect advanced =>
      have moved := @advance_case setting effect system.store (system.calls process)
      rw [advanced] at moved
      generalize current : system.calls process = phase at moved
      cases moved with
      | computes released _ =>
          rw [Option.toList_none, List.append_nil]
          exact sound.release released
      | retains accepted inserted =>
          rw [Option.toList_none, List.append_nil]
          exact sound.retain accepted inserted
      | refuses accepted =>
          rw [Option.toList_none, List.append_nil]
          exact sound.refuse current accepted
      | claims eligible accepted =>
          rw [Option.toList_none, List.append_nil]
          exact sound.claim current eligible accepted
      | dispatches => exact sound.invoke current
      | records accepted =>
          rw [Option.toList_none, List.append_nil]
          exact sound.record current accepted
  | stops process => exact sound.release rfl
  | writes operation unrelated accepted => exact sound.write unrelated accepted

end System.Sound

theorem SystemRuns.sound {system : System} (runs : SystemRuns setting system) : system.Sound setting := by
  induction runs with
  | start reachable =>
      constructor
      case reachable => exact reachable
      case phase => exact fun _ => trivial
      case owners =>
        intro left right notificationId owned _
        change Phase.idle.owner = _ at owned
        cases owned
      case dispatch =>
        intro dispatch member
        cases member
      case identities => exact List.nodup_nil
  | step earlier taken ih => exact ih.step taken

/-! ## Dispatches -/

/-- The transport was invoked between the claim of the notification and its outcome, for
an intent that was eligible; and no notification of the same identity was ever refused. -/
structure Dispatch.Proper (setting : Setting) (store : StoreState) (dispatch : Dispatch) : Prop where
  claimed : ∃ event ∈ dispatch.store.notificationDeliveryEvents,
    event.notificationId = dispatch.notificationId ∧ event.outcome = .claimed
  unsettled : ∀ event ∈ dispatch.store.notificationDeliveryEvents,
    event.notificationId = dispatch.notificationId →
      event.outcome ∉ [DeliveryOutcome.refused, .failed, .unknown, .accepted]
  eligible : Eligible setting dispatch.call dispatch.route dispatch.checkedAt
  unrefused : ∀ intent ∈ store.notificationDeliveryIntents,
    (intent.stableEventId, intent.destinationIdentity) = dispatch.identity →
      ∀ event ∈ store.notificationDeliveryEvents, event.notificationId = intent.notificationId →
        event.outcome ≠ .refused

/-- Whatever the interleaving of the calls and of other operations, and wherever a call
stops, the transport is invoked at most once for an identity, and properly. -/
theorem dispatch_at_most_once {setting : Setting} {system : System} (runs : SystemRuns setting system) :
    (∀ identity, (system.dispatches.map Dispatch.identity).count identity ≤ 1) ∧
      ∀ dispatch ∈ system.dispatches, dispatch.Proper setting system.store := by
  have sound := runs.sound
  refine ⟨List.nodup_iff_count_le_one.mp sound.identities, fun dispatch member => ?_⟩
  have holds := sound.dispatch dispatch member
  constructor
  case claimed => exact ⟨_, holds.claimed, rfl, rfl⟩
  case unsettled =>
    intro event found named
    rw [holds.unsettled event found named]
    decide
  case eligible => exact holds.eligible
  case unrefused =>
    intro intent retained same event found named
    have unique := sound.reachable.uniqueKeys.notification
    have held : Held system.store dispatch.call intent.notificationId :=
      ⟨intent, retained, rfl, congrArg Prod.fst same, congrArg Prod.snd same⟩
    rw [Held.notificationId_eq unique held holds.held rfl] at named
    exact holds.unrefused event (mem_eventsOf.mpr ⟨found, named⟩)

namespace Sample

/-- A host whose documents are told apart, and are written, by their event identity. -/
def host (values : List Json) : Setting where
  canonical := fun value => .ok ((stringMember value "stable_event_id").getD "event")
  undecodable := documents.undecodable
  identityDigest := fun _ => ""
  notificationRoutes := [{
    reference := "pager"
    transport := .pagerDuty
    endpointSecretLocator := none
    routingKeyEnv := some "KEY"
    approvedPolicyDigest := none }]
  parse := fun text =>
    (values.find? fun value => stringMember value "stable_event_id" = some text).elim (.error "expected value") .ok
  otherText := Json.text
  digest := id
  instant := fun _ => none

def world (request : Request) (notificationId : String) : Effect where
  request := request
  newerSameCondition := none
  replayed := .ok ()
  notificationId := notificationId
  now := 0
  resolveEndpoint := fun _ => .ok "0123456789abcdef0123456789abcdef"
  prepareDispatch := .ok ()
  transport := .ok (.accepted 202)

def trigger : Json := intent "trigger" "e1" (asObject [])

/-- Two processes submit one trigger and take their steps in the given order. -/
def submitted : List Bool → System
  | [] => .start .empty
  | process :: earlier =>
      let system := submitted earlier
      let next := (system.calls process.toNat).advance (host [trigger])
        (world (.submit "e1" "pager" true) (if process then "second" else "first")) system.store
      { store := next.store
        calls := Function.update system.calls process.toNat next.phase
        dispatches := system.dispatches ++ next.dispatch.toList }

theorem runs_submitted (schedule : List Bool) : SystemRuns (host [trigger]) (submitted schedule) := by
  induction schedule with
  | nil => exact .start .refl
  | cons process earlier ih => exact ih.step (.advances process.toNat _ rfl)

/-- Both calls look for a duplicate before either of them commits. -/
def racing : List Bool := [true, true, false, false, false, false, true, true, true, false, false, false]

def receiptId : Phase → Option String
  | .returned (.ok receipt) => some receipt.notificationId
  | _ => none

end Sample

theorem dispatch_at_most_once_submitted :
    ∃ setting system, SystemRuns setting system ∧ Sample.receiptId (system.calls 1) = some "first" ∧
      system.dispatches.length = 1 ∧ ∀ dispatch ∈ system.dispatches, dispatch.Proper setting system.store :=
  ⟨Sample.host [Sample.trigger], Sample.submitted Sample.racing, Sample.runs_submitted Sample.racing,
    by decide +kernel, by decide +kernel, (dispatch_at_most_once (Sample.runs_submitted Sample.racing)).2⟩

end ConstellationNq.App
