import ConstellationNq.App.NotificationProperties
import ConstellationNq.Library.Sorting
import ConstellationNq.Store.Ledger
import Mathlib.Algebra.BigOperators.Group.List.Basic
import Mathlib.Algebra.Order.Group.Nat
import Mathlib.Order.WithBot

/-!
# The summary of deliveries

Retained deliveries are counted by one query that groups them by their state, and claims
that were never concluded are moved by a second query over the events. That the two agree
rests on the shape of each delivery's log.

The tables are those of the current schema: the early return for a store that has no
delivery custody yet is left out.
-/

set_option autoImplicit false

namespace ConstellationNq.App.DeliverySummary

open Library.Loop Library.Sequence Library.Sorting Protocol Store

/-! ## The status view -/

/-- What the queries read besides the tables. The columns that the tables leave out are
functions of the primary key, since rows are never changed or deleted. -/
structure Reading (Instant : Type) where
  routeReference : String → String
  occurredAt : String → Int → String
  detailJson : String → Int → String
  document : String → Json
  otherText : Json → String
  parseRfc3339 : String → Option Instant

/-- The place of an outcome's text among the texts. -/
def outcomeRank : DeliveryOutcome → Nat
  | .accepted => 0
  | .claimed => 1
  | .failed => 2
  | .refused => 3
  | .unknown => 4

def maxOutcome : List DeliveryOutcome → Option DeliveryOutcome
  | [] => none
  | outcome :: outcomes =>
      match maxOutcome outcomes with
      | none => some outcome
      | some greatest => some (if outcomeRank greatest ≤ outcomeRank outcome then outcome else greatest)

/-- The greatest of the terminal outcomes; none of them stands for `pending`. -/
def deliveryState (log : List NotificationDeliveryEvent) : Option DeliveryOutcome :=
  maxOutcome ((log.map NotificationDeliveryEvent.outcome).filter (· != .claimed))

structure StatusRow where
  routeReference : String
  eventCount : Nat
  deliveryState : Option DeliveryOutcome
deriving DecidableEq

section Source

variable {Instant : Type} [LinearOrder Instant] (reading : Reading Instant) (staleBefore : Instant) (store : StoreState)

/-- `public_notification_delivery_status_v1`. -/
def statusRow (intent : NotificationDeliveryIntent) : StatusRow where
  routeReference := reading.routeReference intent.notificationId
  eventCount := (eventsOf store intent.notificationId).length
  deliveryState := deliveryState (eventsOf store intent.notificationId)

def statusRows : List StatusRow := store.notificationDeliveryIntents.map (statusRow reading store)

/-- The rows of the first query: a group, and how many deliveries it has. -/
def statusGroups : List (StatusRow × Nat) :=
  (statusRows reading store).dedup.map fun row => (row, (statusRows reading store).count row)

/-! ## The summary -/

inductive Slot where
  | pending
  | claimedWithoutOutcome
  | refused
  | failed
  | unknown
  | accepted
deriving DecidableEq

structure DeliveryFailure where
  notificationId : String
  condition : Option String
  outcome : DeliveryOutcome
  occurredAt : String
  detailJson : String

/-- `NotificationRouteDeliverySummary`, its six counts under one name. -/
structure RouteSummary where
  counts : Slot → Nat
  newestAcceptedAt : Option String
  unresolved : List DeliveryFailure

def RouteSummary.initial : RouteSummary where
  counts := fun _ => 0
  newestAcceptedAt := none
  unresolved := []

def RouteSummary.total (summary : RouteSummary) : Nat :=
  summary.counts .pending + summary.counts .claimedWithoutOutcome + summary.counts .refused +
    summary.counts .failed + summary.counts .unknown + summary.counts .accepted

def RouteSummary.setCount (summary : RouteSummary) (slot : Slot) (value : Nat) : RouteSummary :=
  { summary with counts := fun other => if other = slot then value else summary.counts other }

/-- The map of routes; a route without an entry reads as a new entry. -/
abbrev Summary := String → RouteSummary

def Summary.modify (summary : Summary) (route : String) (change : RouteSummary → RouteSummary) : Summary :=
  fun other => if other = route then change (summary other) else summary other

def slotOf (row : StatusRow) : Option Slot :=
  match row.deliveryState, row.eventCount with
  | none, 0 => some .pending
  | none, _ + 1 => some .claimedWithoutOutcome
  | some .refused, _ => some .refused
  | some .failed, _ => some .failed
  | some .unknown, _ => some .unknown
  | some .accepted, _ => some .accepted
  | some .claimed, _ => none

def countGroup (summary : Summary) (group : StatusRow × Nat) : Except StoreError Summary :=
  match slotOf group.1 with
  | none => .error (.invariant "unsupported notification delivery state claimed")
  | some slot => .ok (summary.modify group.1.routeReference fun route =>
      route.setCount slot (route.counts slot + group.2))

/-- The first loop. -/
def deliveryCounts : Except StoreError Summary :=
  (statusGroups reading store).foldlM countGroup fun _ => RouteSummary.initial

def quietReasons : List String :=
  ["network_dispatch_not_explicitly_enabled", "saved_check_attention_event_not_current",
    "saved_check_attention_event_time_invalid"]

/-- The condition of the second query on an event. -/
def isSelected (event : NotificationDeliveryEvent) : Bool :=
  match event.outcome with
  | .failed => true
  | .unknown => true
  | .accepted => true
  | .refused =>
      let detail := reading.document (reading.detailJson event.notificationId event.eventNumber)
      !quietReasons.contains ((extractMember reading.otherText detail "reason").getD "")
  | .claimed => !(eventsOf store event.notificationId).any fun later => event.eventNumber < later.eventNumber

def failureRow (intent : NotificationDeliveryIntent) (event : NotificationDeliveryEvent) : String × DeliveryFailure :=
  (reading.routeReference intent.notificationId, {
    notificationId := intent.notificationId
    condition := summaryCondition reading.otherText (reading.document intent.intentJson)
    outcome := event.outcome
    occurredAt := reading.occurredAt event.notificationId event.eventNumber
    detailJson := reading.detailJson event.notificationId event.eventNumber })

/-- The rows of the second query: events with their intents, by time and then as inserted. -/
def failureRows : List (String × DeliveryFailure) :=
  (sortBy (fun event => reading.occurredAt event.notificationId event.eventNumber)
    (store.notificationDeliveryEvents.filter (isSelected reading store))).flatMap fun event =>
      (store.notificationDeliveryIntents.filter fun intent => intent.notificationId = event.notificationId).map
        fun intent => failureRow reading intent event

abbrev Newest := List ((String × Option String) × DeliveryFailure)

def Newest.insert (newest : Newest) (key : String × Option String) (failure : DeliveryFailure) : Newest :=
  newest.filter (fun entry => entry.1 ≠ key) ++ [(key, failure)]

/-- A claim made before the instant, or at a time that cannot be read. -/
def isStale (occurredAt : String) : Bool :=
  match reading.parseRfc3339 occurredAt with
  | none => true
  | some claimed => claimed < staleBefore

def RouteSummary.moveClaim (summary : RouteSummary) : RouteSummary :=
  (summary.setCount .claimedWithoutOutcome (summary.counts .claimedWithoutOutcome - 1)).setCount .unknown
    (summary.counts .unknown + 1)

def DeliveryFailure.stale (failure : DeliveryFailure) : DeliveryFailure :=
  { failure with outcome := .unknown, detailJson := "\x7b\"reason\":\"claim_stale\"\x7d" }

/-- The rest of a round, for a row that is no claim or no longer one. -/
def keepRow (state : Summary × Newest) (route : String) (failure : DeliveryFailure) : Summary × Newest :=
  (if failure.outcome = .accepted then
      state.1.modify route fun summary => { summary with newestAcceptedAt := some failure.occurredAt }
    else state.1,
    state.2.insert (route, failure.condition) failure)

/-- A round of the second loop; a claim in flight is passed over. -/
def foldRow (state : Summary × Newest) (row : String × DeliveryFailure) : Summary × Newest :=
  if row.2.outcome = .claimed then
    if isStale reading staleBefore row.2.occurredAt then
      keepRow (state.1.modify row.1 RouteSummary.moveClaim, state.2) row.1 row.2.stale
    else state
  else keepRow state row.1 row.2

/-- The order of the keys, where no condition comes first. -/
def conditionKey : Option String → WithBot String
  | none => ⊥
  | some condition => (condition : WithBot String)

/-- The failures of a route in the order of the map, then by time. -/
def unresolvedOf (newest : Newest) (route : String) : List DeliveryFailure :=
  sortBy DeliveryFailure.occurredAt
    (sortBy (fun failure => conditionKey failure.condition)
      ((newest.filter fun entry => entry.1.1 = route ∧ entry.2.outcome ≠ .accepted).map Prod.snd))

def foldFailures (counted : Summary) : Summary :=
  let folded := (failureRows reading store).foldl (foldRow reading staleBefore) (counted, [])
  fun route => { folded.1 route with unresolved := unresolvedOf folded.2 route }

def notificationDeliverySummary : Except StoreError Summary := do
  let counted ← deliveryCounts reading store
  return foldFailures reading staleBefore store counted

end Source

/-! ## The shape of a log -/

/-- Nothing yet, a refusal, a claim, or a claim with its outcome. -/
inductive Shape : List NotificationDeliveryEvent → Prop where
  | empty : Shape []
  | refused {event : NotificationDeliveryEvent} (outcome : event.outcome = .refused) : Shape [event]
  | claimed {event : NotificationDeliveryEvent} (first : event.eventNumber = 1) (outcome : event.outcome = .claimed) :
      Shape [event]
  | concluded {claim event : NotificationDeliveryEvent} (first : claim.eventNumber = 1)
      (claimed : claim.outcome = .claimed) (second : event.eventNumber = 2)
      (outcome : event.outcome ∈ [DeliveryOutcome.failed, .unknown, .accepted]) : Shape [claim, event]

variable {event : NotificationDeliveryEvent}

section Invariant

variable {identityDigest : IdentityDigest} {store after : StoreState}

theorem Shape.append (shape : Shape (eventsOf store event.notificationId))
    (allowed : store.DeliveryEventAllowed event)
    (fresh : ∀ prior ∈ eventsOf store event.notificationId, prior.eventNumber ≠ event.eventNumber) :
    Shape (eventsOf store event.notificationId ++ [event]) := by
  obtain ⟨positive, first, later, unended⟩ := allowed
  change 1 < _ → event.eventNumber = (eventsOf store event.notificationId).length + 1 ∧ _ at later
  change ∀ prior ∈ eventsOf store event.notificationId, _ at unended
  generalize eventsOf store event.notificationId = log at *
  cases shape with
  | empty =>
      by_cases isFirst : event.eventNumber = 1
      · rcases List.mem_pair.mp (first isFirst) with claimed | refused
        · exact .claimed isFirst claimed
        · exact .refused refused
      · have number := (later (by omega)).1
        rw [List.length_nil] at number
        omega
  | @refused prior outcome =>
      have claimed := unended prior (List.mem_singleton_self _)
      rw [outcome] at claimed
      cases claimed
  | @claimed claim isFirst outcome =>
      have apart := fresh claim (List.mem_singleton_self _)
      obtain ⟨number, -, isOutcome⟩ := later (by omega)
      exact .concluded isFirst outcome (by simpa using number) isOutcome
  | @concluded claim prior _ _ _ outcome =>
      have claimed := unended prior (by simp)
      rw [claimed] at outcome
      simp at outcome

theorem shape_of_appended (appended : Appended store event after) (unique : after.toNotificationTables.UniqueKeys)
    (shape : ∀ notificationId, Shape (eventsOf store notificationId)) (notificationId : String) :
    Shape (eventsOf after notificationId) := by
  by_cases same : event.notificationId = notificationId
  · subst same
    rw [appended.eventsOf_self]
    refine (shape _).append appended.allowed fun prior member sameNumber => ?_
    obtain ⟨retained, sameId⟩ := mem_eventsOf.mp member
    have distinct := unique.deliveryEvent
    rw [appended.events] at distinct
    exact key_ne_of_append distinct retained (List.mem_singleton_self _) (by rw [sameId, sameNumber])
  · rw [appended.eventsOf_other same]
    exact shape notificationId

theorem shape_of_sameEvents (same : after.notificationDeliveryEvents = store.notificationDeliveryEvents)
    (shape : ∀ notificationId, Shape (eventsOf store notificationId)) (notificationId : String) :
    Shape (eventsOf after notificationId) := by
  unfold eventsOf
  rw [same]
  exact shape notificationId

theorem shape_of_reachable (reachable : Reachable identityDigest store) (notificationId : String) :
    Shape (eventsOf store notificationId) := by
  refine @Reachable.invariant identityDigest store (fun state => ∀ id, Shape (eventsOf state id)) (fun _ => .empty) ?_
    reachable notificationId
  intro before after operation reached shape accepted
  cases related : delivers operation with
  | false => exact shape_of_sameEvents (apply_sameDeliveries related accepted).events shape
  | true =>
      cases operation with
      | retainNotificationDelivery notification intent =>
          cases found : deliveryIntentByIdentity before intent.stableEventId intent.destinationIdentity with
          | none => exact shape_of_sameEvents (retain_inserted accepted found).events shape
          | some existing => rwa [retain_existing accepted found]
      | appendNotificationDeliveryEvent event =>
          have unique := Reachable.uniqueKeys (.step _ reached accepted)
          exact shape_of_appended (append_appended accepted) unique.notification shape
      | _ => cases related

end Invariant

/-! ## What the logs say -/

/-- The slot of a delivery by the last event of its log. -/
def loggedSlot (log : List NotificationDeliveryEvent) : Slot :=
  match log.getLast? with
  | none => .pending
  | some event =>
      match event.outcome with
      | .claimed => .claimedWithoutOutcome
      | .refused => .refused
      | .failed => .failed
      | .unknown => .unknown
      | .accepted => .accepted

section Logs

variable {Instant : Type} [LinearOrder Instant] (reading : Reading Instant) (staleBefore : Instant) (store : StoreState)

def retainedOn (route : String) : List NotificationDeliveryIntent :=
  store.notificationDeliveryIntents.filter fun intent => reading.routeReference intent.notificationId = route

def isStaleEvent (event : NotificationDeliveryEvent) : Bool :=
  event.outcome = .claimed && isStale reading staleBefore (reading.occurredAt event.notificationId event.eventNumber)

/-- Whether the last thing that happened to a delivery is a claim that is stale. -/
def isStaleClaim (intent : NotificationDeliveryIntent) : Bool :=
  (eventsOf store intent.notificationId).getLast?.any (isStaleEvent reading staleBefore)

/-- The slot that a delivery is to be reported in. -/
def reportedSlot (intent : NotificationDeliveryIntent) : Slot :=
  if isStaleClaim reading staleBefore store intent then .unknown
  else loggedSlot (eventsOf store intent.notificationId)

end Logs

section Counting

variable {Instant : Type} {reading : Reading Instant} {store : StoreState}

@[simp] theorem statusRow_routeReference (intent : NotificationDeliveryIntent) :
    (statusRow reading store intent).routeReference = reading.routeReference intent.notificationId := rfl

variable {intent : NotificationDeliveryIntent}

theorem slotOf_statusRow (shape : Shape (eventsOf store intent.notificationId)) :
    slotOf (statusRow reading store intent) = some (loggedSlot (eventsOf store intent.notificationId)) := by
  unfold slotOf statusRow deliveryState loggedSlot
  generalize eventsOf store intent.notificationId = log at *
  cases shape with
  | empty => rfl
  | refused outcome => simp [outcome, maxOutcome]
  | claimed _ outcome => simp [outcome, maxOutcome]
  | concluded _ claimed _ outcome =>
      simp only [List.mem_cons, List.not_mem_nil, or_false] at outcome
      rcases outcome with outcome | outcome | outcome <;> simp [claimed, outcome, maxOutcome]

/-! ### The first query -/

theorem countGroups_counts {groups : List (StatusRow × Nat)} (supported : ∀ group ∈ groups, slotOf group.1 ≠ none)
    (start : Summary) :
    ∃ counted, groups.foldlM countGroup start = .ok counted ∧ ∀ route slot,
      (counted route).counts slot = (start route).counts slot +
        ((groups.filter fun group => group.1.routeReference = route ∧ slotOf group.1 = some slot).map Prod.snd).sum := by
  induction groups generalizing start with
  | nil => exact ⟨start, rfl, fun _ _ => rfl⟩
  | cons group groups ih =>
      obtain ⟨found, isSlot⟩ := Option.ne_none_iff_exists'.mp (supported group List.mem_cons_self)
      obtain ⟨counted, ran, counts⟩ := ih (fun other member => supported other (List.mem_cons_of_mem _ member))
        (start.modify group.1.routeReference fun route => route.setCount found (route.counts found + group.2))
      refine ⟨counted, ?_, fun route slot => ?_⟩
      · rw [List.foldlM_cons]
        refine bind_eq_ok.mpr ⟨_, ?_, ran⟩
        unfold countGroup
        rw [isSlot]
      · rw [counts, List.filter_cons, isSlot]
        by_cases sameRoute : route = group.1.routeReference
        · by_cases sameSlot : slot = found
          · simp [Summary.modify, RouteSummary.setCount, sameRoute, sameSlot, Nat.add_assoc]
          · have other : found ≠ slot := fun same => sameSlot same.symm
            simp [Summary.modify, RouteSummary.setCount, sameRoute, sameSlot, other]
        · have other : group.1.routeReference ≠ route := fun same => sameRoute same.symm
          simp [Summary.modify, sameRoute, other]

variable (reading) in
/-- Every delivery is counted once, in the slot of its log. -/
theorem deliveryCounts_exact (shape : ∀ notificationId, Shape (eventsOf store notificationId)) :
    ∃ counted, deliveryCounts reading store = .ok counted ∧ ∀ route slot,
      (counted route).counts slot = (retainedOn reading store route).countP fun intent =>
        loggedSlot (eventsOf store intent.notificationId) = slot := by
  have supported : ∀ group ∈ statusGroups reading store, slotOf group.1 ≠ none := by
    intro group member
    obtain ⟨row, present, rfl⟩ := List.mem_map.mp member
    obtain ⟨intent, -, rfl⟩ := List.mem_map.mp (List.mem_dedup.mp present)
    rw [slotOf_statusRow (shape _)]
    exact Option.some_ne_none _
  obtain ⟨counted, ran, counts⟩ := countGroups_counts supported fun _ => RouteSummary.initial
  refine ⟨counted, ran, fun route slot => ?_⟩
  rw [counts]
  unfold statusGroups
  rw [List.filter_map, List.map_map]
  have grouped := List.sum_map_count_dedup_filter_eq_countP
    (fun row => row.routeReference = route ∧ slotOf row = some slot) (statusRows reading store)
  refine (Nat.zero_add _).trans (Eq.trans grouped ?_)
  unfold statusRows retainedOn
  rw [List.countP_map, List.countP_filter]
  refine List.countP_congr fun intent _ => ?_
  rw [Function.comp_apply, decide_eq_true_iff, Bool.and_eq_true, decide_eq_true_iff, decide_eq_true_iff,
    statusRow_routeReference, slotOf_statusRow (shape intent.notificationId), Option.some_inj, and_comm]

/-! ### The second query -/

theorem isSelected_claimed (claimed : event.outcome = .claimed) :
    isSelected reading store event =
      !(eventsOf store event.notificationId).any fun later => event.eventNumber < later.eventNumber := by
  unfold isSelected
  rw [claimed]

variable [LinearOrder Instant] {staleBefore : Instant}

theorem loggedSlot_of_staleClaim (stale : isStaleClaim reading staleBefore store intent = true) :
    loggedSlot (eventsOf store intent.notificationId) = .claimedWithoutOutcome := by
  unfold isStaleClaim at stale
  unfold loggedSlot
  cases last : (eventsOf store intent.notificationId).getLast? with
  | none =>
      rw [last] at stale
      cases stale
  | some event =>
      rw [last, Option.any_some] at stale
      obtain ⟨claimed, -⟩ := Bool.and_eq_true_iff.mp stale
      simp only [of_decide_eq_true claimed]

/-- Counts after some claims have moved. -/
def moved (counts : Slot → Nat) (claims : Nat) : Slot → Nat
  | .claimedWithoutOutcome => counts .claimedWithoutOutcome - claims
  | .unknown => counts .unknown + claims
  | slot => counts slot

theorem moved_zero (counts : Slot → Nat) : moved counts 0 = counts := by
  funext slot
  cases slot <;> rfl

theorem moved_moved (counts : Slot → Nat) (first second : Nat) :
    moved (moved counts first) second = moved counts (first + second) := by
  funext slot
  cases slot <;> simp only [moved] <;> omega

theorem moveClaim_counts (summary : RouteSummary) : summary.moveClaim.counts = moved summary.counts 1 := by
  funext slot
  cases slot <;> rfl

def isStaleRow (reading : Reading Instant) (staleBefore : Instant) (row : String × DeliveryFailure) : Bool :=
  row.2.outcome = .claimed && isStale reading staleBefore row.2.occurredAt

def isStaleOn (reading : Reading Instant) (staleBefore : Instant) (route : String) (row : String × DeliveryFailure) :
    Bool :=
  row.1 = route && isStaleRow reading staleBefore row

@[simp] theorem keepRow_counts (state : Summary × Newest) (route other : String) (failure : DeliveryFailure) :
    ((keepRow state route failure).1 other).counts = (state.1 other).counts := by
  by_cases accepted : failure.outcome = .accepted
  · by_cases same : other = route <;> simp [keepRow, accepted, Summary.modify, same]
  · simp [keepRow, accepted]

theorem foldRow_counts (state : Summary × Newest) (row : String × DeliveryFailure) (route : String) :
    ((foldRow reading staleBefore state row).1 route).counts =
      moved (state.1 route).counts (if isStaleOn reading staleBefore route row then 1 else 0) := by
  unfold foldRow isStaleOn isStaleRow
  by_cases claimed : row.2.outcome = .claimed
  · by_cases stale : isStale reading staleBefore row.2.occurredAt = true
    · by_cases same : route = row.1
      · simp [claimed, stale, same, Summary.modify, moveClaim_counts]
      · have other : row.1 ≠ route := fun equal => same equal.symm
        simp [claimed, stale, same, other, Summary.modify, moved_zero]
    · simp [claimed, stale, moved_zero]
  · simp [claimed, moved_zero]

variable (reading staleBefore) in
theorem foldRows_counts (rows : List (String × DeliveryFailure)) (state : Summary × Newest) (route : String) :
    ((rows.foldl (foldRow reading staleBefore) state).1 route).counts =
      moved (state.1 route).counts (rows.countP (isStaleOn reading staleBefore route)) := by
  induction rows generalizing state with
  | nil => exact (moved_zero _).symm
  | cons row rows ih =>
      rw [List.foldl_cons, ih, foldRow_counts, moved_moved, List.countP_cons, Nat.add_comm]

/-- A log has one event that the query selects as a stale claim exactly if it ends in one. -/
theorem countP_log {log : List NotificationDeliveryEvent} (shape : Shape log)
    (selects : ∀ event ∈ log, event.outcome = .claimed →
      isSelected reading store event = !log.any fun later => event.eventNumber < later.eventNumber) :
    (log.countP fun event => isSelected reading store event && isStaleEvent reading staleBefore event) =
      if log.getLast?.any (isStaleEvent reading staleBefore) then 1 else 0 := by
  cases shape with
  | empty => rfl
  | refused outcome => simp [isStaleEvent, outcome]
  | @claimed event _ outcome =>
      have selected := selects event (List.mem_singleton_self _) outcome
      by_cases stale : isStaleEvent reading staleBefore event = true <;> simp [selected, stale]
  | @concluded claim event first claimed second outcome =>
      have unselected := selects claim List.mem_cons_self claimed
      have ended : event.outcome ≠ .claimed := by
        intro same
        rw [same] at outcome
        simp at outcome
      simp [unselected, first, second, isStaleEvent, ended]

/-- Whether an event and an intent are joined to a stale claim on a route. -/
def isStalePair (reading : Reading Instant) (staleBefore : Instant) (route : String)
    (event : NotificationDeliveryEvent) (intent : NotificationDeliveryIntent) : Bool :=
  isStaleOn reading staleBefore route (failureRow reading intent event) && intent.notificationId = event.notificationId

theorem countP_isStalePair (shape : ∀ notificationId, Shape (eventsOf store notificationId)) (route : String)
    (intent : NotificationDeliveryIntent) :
    ((store.notificationDeliveryEvents.filter (isSelected reading store)).countP
        (isStalePair reading staleBefore route · intent)) =
      if isStaleClaim reading staleBefore store intent && reading.routeReference intent.notificationId = route then 1
      else 0 := by
  have ended : (store.notificationDeliveryEvents.countP fun event =>
      (isSelected reading store event && isStaleEvent reading staleBefore event) &&
        event.notificationId = intent.notificationId) =
      if isStaleClaim reading staleBefore store intent then 1 else 0 := by
    rw [← List.countP_filter]
    refine countP_log (shape intent.notificationId) fun event member claimed => ?_
    rw [isSelected_claimed claimed, (mem_eventsOf.mp member).2]
    rfl
  rw [List.countP_filter]
  by_cases onRoute : reading.routeReference intent.notificationId = route
  · rw [decide_eq_true onRoute, Bool.and_true, ← ended]
    refine List.countP_congr fun event _ => ?_
    simp only [isStalePair, isStaleOn, isStaleRow, failureRow, isStaleEvent, onRoute, decide_true, Bool.true_and,
      Bool.and_eq_true, decide_eq_true_eq]
    tauto
  · simp [isStalePair, isStaleOn, failureRow, onRoute]

variable (reading staleBefore) in
theorem countP_failureRows (shape : ∀ notificationId, Shape (eventsOf store notificationId)) (route : String) :
    (failureRows reading store).countP (isStaleOn reading staleBefore route) =
      (retainedOn reading store route).countP (isStaleClaim reading staleBefore store) := by
  unfold failureRows retainedOn
  rw [((sortBy_perm _ _).flatMap_right _).countP_eq, List.countP_flatMap, List.countP_filter]
  rw [← sum_countP_eq_countP fun intent _ => countP_isStalePair shape route intent]
  refine congrArg List.sum (List.map_congr_left fun event _ => ?_)
  rw [Function.comp_apply, List.countP_map, List.countP_filter]
  rfl

/-! ### The counts reported -/

theorem sum_countP_slot {α : Type} (slot : α → Slot) (rows : List α) :
    rows.countP (slot · = .pending) + rows.countP (slot · = .claimedWithoutOutcome) + rows.countP (slot · = .refused) +
      rows.countP (slot · = .failed) + rows.countP (slot · = .unknown) + rows.countP (slot · = .accepted) =
        rows.length := by
  induction rows with
  | nil => rfl
  | cons row rows ih =>
      rw [List.length_cons, ← ih]
      cases isSlot : slot row <;> simp [isSlot] <;> omega

variable (reading staleBefore store) in
theorem countP_claimed (intents : List NotificationDeliveryIntent) :
    (intents.countP fun intent => loggedSlot (eventsOf store intent.notificationId) = .claimedWithoutOutcome) =
      intents.countP (isStaleClaim reading staleBefore store) +
        intents.countP fun intent => reportedSlot reading staleBefore store intent = .claimedWithoutOutcome := by
  refine countP_add (fun intent _ => ?_) fun intent _ stale => ?_
  · cases stale : isStaleClaim reading staleBefore store intent with
    | false => simp [reportedSlot, stale]
    | true => simp [loggedSlot_of_staleClaim stale]
  · simp [reportedSlot, stale]

theorem countP_unknown (intents : List NotificationDeliveryIntent) :
    (intents.countP fun intent => reportedSlot reading staleBefore store intent = .unknown) =
      (intents.countP fun intent => loggedSlot (eventsOf store intent.notificationId) = .unknown) +
        intents.countP (isStaleClaim reading staleBefore store) := by
  refine countP_add (fun intent _ => ?_) fun intent _ unknown => ?_
  · cases stale : isStaleClaim reading staleBefore store intent <;> simp [reportedSlot, stale]
  · rw [← Bool.not_eq_true]
    intro stale
    rw [loggedSlot_of_staleClaim stale] at unknown
    cases unknown

theorem reportedSlot_eq_iff {slot : Slot} (unclaimed : slot ≠ .claimedWithoutOutcome) (known : slot ≠ .unknown) :
    reportedSlot reading staleBefore store intent = slot ↔ loggedSlot (eventsOf store intent.notificationId) = slot := by
  unfold reportedSlot
  split
  · rename_i stale
    rw [loggedSlot_of_staleClaim stale]
    exact iff_of_false known.symm unclaimed.symm
  · rfl

theorem moved_countP (intents : List NotificationDeliveryIntent) :
    moved (fun slot => intents.countP fun intent => loggedSlot (eventsOf store intent.notificationId) = slot)
        (intents.countP (isStaleClaim reading staleBefore store)) =
      fun slot => intents.countP fun intent => reportedSlot reading staleBefore store intent = slot := by
  funext slot
  by_cases claimed : slot = .claimedWithoutOutcome
  · subst claimed
    simp only [moved]
    rw [countP_claimed reading store staleBefore, Nat.add_sub_cancel_left]
  · by_cases unknown : slot = .unknown
    · subst unknown
      exact (countP_unknown intents).symm
    · have kept : ∀ counts claims, moved counts claims slot = counts slot := by
        cases slot <;> first | contradiction | exact fun _ _ => rfl
      rw [kept]
      refine List.countP_congr fun intent _ => ?_
      rw [decide_eq_true_iff, decide_eq_true_iff, reportedSlot_eq_iff claimed unknown]

/-! ### The unresolved failures -/

/-- The entries of the map of newest rows. -/
structure Newest.Keyed (newest : Newest) : Prop where
  distinct : (newest.map Prod.fst).Nodup
  condition : ∀ entry ∈ newest, entry.2.condition = entry.1.2

variable {newest : Newest}

theorem Newest.Keyed.insert (keyed : newest.Keyed) (route : String) (failure : DeliveryFailure) :
    (newest.insert (route, failure.condition) failure).Keyed where
  distinct := by
    unfold Newest.insert
    rw [List.map_append, List.nodup_append]
    refine ⟨keyed.distinct.sublist (List.filter_sublist.map _), List.nodup_singleton _, ?_⟩
    intro left leftMember right rightMember
    obtain ⟨entry, member, rfl⟩ := List.mem_map.mp leftMember
    cases List.mem_singleton.mp rightMember
    exact of_decide_eq_true (List.mem_filter.mp member).2
  condition := by
    intro entry member
    rcases List.mem_append.mp member with earlier | last
    · exact keyed.condition entry (List.mem_filter.mp earlier).1
    · cases List.mem_singleton.mp last
      rfl

theorem foldRow_keyed {state : Summary × Newest} (keyed : state.2.Keyed) (row : String × DeliveryFailure) :
    (foldRow reading staleBefore state row).2.Keyed := by
  unfold foldRow
  split
  · split
    · exact keyed.insert row.1 row.2.stale
    · exact keyed
  · exact keyed.insert row.1 row.2

theorem foldRows_keyed (rows : List (String × DeliveryFailure)) {state : Summary × Newest} (keyed : state.2.Keyed) :
    (rows.foldl (foldRow reading staleBefore) state).2.Keyed := by
  induction rows generalizing state with
  | nil => exact keyed
  | cons row rows ih => exact ih (foldRow_keyed keyed row)

theorem unresolvedOf_perm (newest : Newest) (route : String) :
    (unresolvedOf newest route).Perm
      ((newest.filter fun entry => entry.1.1 = route ∧ entry.2.outcome ≠ .accepted).map Prod.snd) :=
  (sortBy_perm _ _).trans (sortBy_perm _ _)

theorem Newest.Keyed.unresolvedOf_condition (keyed : newest.Keyed) (route : String) :
    ((unresolvedOf newest route).map DeliveryFailure.condition).Nodup := by
  rw [((unresolvedOf_perm newest route).map _).nodup_iff, List.map_map]
  refine List.Nodup.map_on ?_ ((List.Nodup.of_map _ keyed.distinct).filter _)
  intro left leftMember right rightMember same
  obtain ⟨leftMember, leftKept⟩ := List.mem_filter.mp leftMember
  obtain ⟨rightMember, rightKept⟩ := List.mem_filter.mp rightMember
  refine eq_of_key keyed.distinct leftMember rightMember (Prod.ext ?_ ?_)
  · rw [(of_decide_eq_true leftKept).1, (of_decide_eq_true rightKept).1]
  · rw [← keyed.condition left leftMember, ← keyed.condition right rightMember]
    exact same

theorem unresolvedOf_outcome {route : String} {failure : DeliveryFailure}
    (member : failure ∈ unresolvedOf newest route) : failure.outcome ≠ .accepted := by
  obtain ⟨entry, kept, rfl⟩ := List.mem_map.mp ((unresolvedOf_perm newest route).mem_iff.mp member)
  exact (of_decide_eq_true (List.mem_filter.mp kept).2).2

end Counting

/-! ## Conservation -/

section Conservation

variable {Instant : Type} [LinearOrder Instant] (reading : Reading Instant) (staleBefore : Instant) (store : StoreState)

/-- What relates the counts of the first query and the summary to the retained deliveries. -/
structure Conserves (counted summary : Summary) : Prop where
  total : ∀ route, (summary route).total = (retainedOn reading store route).length
  logged : ∀ route slot, (counted route).counts slot =
    (retainedOn reading store route).countP fun intent => loggedSlot (eventsOf store intent.notificationId) = slot
  reported : ∀ route slot, (summary route).counts slot =
    (retainedOn reading store route).countP fun intent => reportedSlot reading staleBefore store intent = slot
  unsaturated : ∀ earlier row later, failureRows reading store = earlier ++ row :: later →
    isStaleRow reading staleBefore row = true →
      0 < ((earlier.foldl (foldRow reading staleBefore) (counted, [])).1 row.1).counts .claimedWithoutOutcome
  oneOfCondition : ∀ route, ((summary route).unresolved.map DeliveryFailure.condition).Nodup
  unaccepted : ∀ route, ∀ failure ∈ (summary route).unresolved, failure.outcome ≠ .accepted

variable {reading staleBefore store}

theorem foldFailures_conserves (shape : ∀ notificationId, Shape (eventsOf store notificationId)) {counted : Summary}
    (logged : ∀ route slot, (counted route).counts slot =
      (retainedOn reading store route).countP fun intent => loggedSlot (eventsOf store intent.notificationId) = slot) :
    Conserves reading staleBefore store counted (foldFailures reading staleBefore store counted) := by
  have counts : ∀ route, (counted route).counts = fun slot =>
      (retainedOn reading store route).countP fun intent => loggedSlot (eventsOf store intent.notificationId) = slot :=
    fun route => funext (logged route)
  have reported : ∀ route slot, (foldFailures reading staleBefore store counted route).counts slot =
      (retainedOn reading store route).countP fun intent => reportedSlot reading staleBefore store intent = slot := by
    intro route slot
    have folded := foldRows_counts reading staleBefore (failureRows reading store) (counted, []) route
    rw [countP_failureRows reading staleBefore shape, counts, moved_countP] at folded
    exact congrFun folded slot
  have keyed : ((failureRows reading store).foldl (foldRow reading staleBefore) (counted, [])).2.Keyed :=
    foldRows_keyed _ ⟨List.nodup_nil, fun _ member => absurd member List.not_mem_nil⟩
  refine ⟨fun route => ?_, logged, reported, ?_, fun route => keyed.unresolvedOf_condition route,
    fun route failure member => unresolvedOf_outcome member⟩
  · unfold RouteSummary.total
    rw [reported, reported, reported, reported, reported, reported]
    exact sum_countP_slot _ _
  · intro earlier row later split stale
    -- The claims that move earlier, this one and those that move later are all among those counted.
    have found := countP_failureRows reading staleBefore shape row.1
    have onRoute : isStaleOn reading staleBefore row.1 row = true := by
      unfold isStaleOn
      rw [stale, decide_eq_true rfl, Bool.and_true]
    rw [split, List.countP_append, List.countP_cons, if_pos onRoute] at found
    have claims := logged row.1 .claimedWithoutOutcome
    rw [countP_claimed reading store staleBefore] at claims
    rw [foldRows_counts]
    simp only [moved]
    omega

/-- Whatever is retained on a route is counted once, and claims are moved as they are
stale, without a subtraction ever stopping at zero. -/
theorem deliverySummary_conserves {identityDigest : IdentityDigest} (reachable : Reachable identityDigest store)
    (reading : Reading Instant) (staleBefore : Instant) :
    ∃ counted summary, deliveryCounts reading store = .ok counted ∧
      notificationDeliverySummary reading staleBefore store = .ok summary ∧
      Conserves reading staleBefore store counted summary := by
  have shape := shape_of_reachable reachable
  obtain ⟨counted, ran, logged⟩ := deliveryCounts_exact reading shape
  refine ⟨counted, _, ran, ?_, foldFailures_conserves shape logged⟩
  unfold notificationDeliverySummary
  rw [ran]
  rfl

/-- A delivery on `ops` that was claimed and never concluded. -/
def interruptedOperations : List Operation := [
  .retainNotificationDelivery
    { notificationId := "notification", idempotencyKey := "key", findingEventId := none, maxAttempts := 1 }
    { notificationId := "notification", stableEventId := "event", destinationIdentity := "destination",
      contentDigest := "digest", intentJson := "\x7b\x7d" },
  .appendNotificationDeliveryEvent { notificationId := "notification", eventNumber := 1, outcome := .claimed }]

/-- Every delivery is on `ops`, and no time can be read. -/
def unreadableTimes : Reading Int where
  routeReference := fun _ => "ops"
  occurredAt := fun _ _ => "yesterday"
  detailJson := fun _ _ => "\x7b\x7d"
  document := fun _ => .object []
  otherText := fun _ => ""
  parseRfc3339 := fun _ => none

theorem deliverySummary_conserves_interrupted :
    ∃ summary,
      notificationDeliverySummary unreadableTimes 0 (.executed (fun _ => "") interruptedOperations) = .ok summary ∧
      (summary "ops").counts .claimedWithoutOutcome = 0 ∧ (summary "ops").counts .unknown = 1 ∧
      (summary "ops").total = 1 := by
  have reachable : Reachable (fun _ => "") (.executed (fun _ => "") interruptedOperations) :=
    StoreState.reachable_executed (by decide +kernel)
  obtain ⟨_, summary, _, ran, conserves⟩ := deliverySummary_conserves reachable unreadableTimes 0
  refine ⟨summary, ran, ?_, ?_, ?_⟩
  · rw [conserves.reported]
    decide +kernel
  · rw [conserves.reported]
    decide +kernel
  · rw [conserves.total]
    decide +kernel

end Conservation

/-! ## What a run adds to a log -/

section Runs

variable {identityDigest : IdentityDigest} {store after : StoreState}

theorem Shape.of_extended {log added : List NotificationDeliveryEvent} (earlier : Shape log)
    (later : Shape (log ++ added)) : (∀ event ∈ log, event.outcome ≠ .claimed → added = []) ∧
      ∀ claim, log = [claim] → added = [] ∨ ∃ event, added = [event] ∧
        event.outcome ∈ [DeliveryOutcome.failed, .unknown, .accepted] := by
  cases earlier with
  | empty => simp
  | refused outcome =>
      cases later with
      | refused => simp
      | claimed => simp
      | concluded _ claimed => simp [claimed] at outcome
  | claimed first outcome =>
      cases later with
      | refused => simp
      | claimed => simp
      | concluded _ _ _ ended => simpa [outcome] using ended
  | concluded =>
      cases later
      simp

/-- Over any run the log of a delivery only grows, nothing is added behind an outcome, and
a claim gains at most one. -/
theorem delivery_outcome_final (reachable : Reachable identityDigest store)
    (since : Reaches identityDigest store after) (notificationId : String) :
    ∃ added, eventsOf after notificationId = eventsOf store notificationId ++ added ∧
      (∀ event ∈ eventsOf store notificationId, event.outcome ≠ .claimed → added = []) ∧
      ∀ claim, eventsOf store notificationId = [claim] → added = [] ∨
        ∃ event, added = [event] ∧ event.outcome ∈ [DeliveryOutcome.failed, .unknown, .accepted] := by
  obtain ⟨added, extended⟩ := (since.extended (·.notificationDeliveryEvents)
    (fun growth => ⟨_, growth.notificationDeliveryEvents.symm⟩) rfl).filter
      fun event => event.notificationId = notificationId
  have shape := shape_of_reachable reachable notificationId
  have later := shape_of_reachable (reachable.trans since) notificationId
  unfold eventsOf at shape later ⊢
  rw [← extended] at later
  exact ⟨added, extended.symm, shape.of_extended later⟩

private def interruptedStore : StoreState := .executed (fun _ => "") interruptedOperations

private def concludedStore : StoreState :=
  interruptedStore.after (fun _ => "") (.appendNotificationDeliveryEvent ⟨"notification", 2, .unknown⟩)

theorem delivery_outcome_final_interrupted :
    ∃ added, eventsOf concludedStore "notification" = eventsOf interruptedStore "notification" ++ added ∧
      added.map NotificationDeliveryEvent.outcome = [.unknown] := by
  have reachable : Reachable (fun _ => "") interruptedStore := StoreState.reachable_executed (by decide +kernel)
  have since : Reaches (fun _ => "") interruptedStore concludedStore := Reaches.after .refl (by decide +kernel)
  obtain ⟨added, extended, _⟩ := delivery_outcome_final reachable since "notification"
  have outcomes : (eventsOf concludedStore "notification").map NotificationDeliveryEvent.outcome =
      (eventsOf interruptedStore "notification").map NotificationDeliveryEvent.outcome ++ [.unknown] := by
    decide +kernel
  rw [extended, List.map_append] at outcomes
  exact ⟨added, extended, List.append_cancel_left outcomes⟩

end Runs

end ConstellationNq.App.DeliverySummary
