import ConstellationNq.App.Intent
import ConstellationNq.Protocol.Value
import ConstellationNq.Store.Operation

/-!
# Submission of notifications

The calls `submit` and `resubmit` of separate processes over one store. A call is cut
where it reads or writes the store and where it hands a payload to the transport, since
between those points it only computes. What the world answers (the owner's replay, the
clock, the secret, the transport) is an input of each step.
-/

set_option autoImplicit false

namespace ConstellationNq.App

open Library.Loop Protocol Store

/-! ## Routes and settings -/

inductive TransportKind where
  | slack
  | discord
  | pagerDuty
  | localFile
deriving DecidableEq

/-- Of the replay that a route configures only the approved policy is read here. -/
structure Route where
  reference : String
  transport : TransportKind
  endpointSecretLocator : Option String
  routingKeyEnv : Option String
  approvedPolicyDigest : Option String

structure Submission where
  intent : Intent
  pager : Option PagerDutyFields
  document : String

/-- The configuration of a process, and what other crates compute for it. -/
structure Setting extends Documents where
  identityDigest : IdentityDigest
  notificationRoutes : List Route
  parse : String → Except String Json
  /-- How SQLite reads a value that is neither text nor null. -/
  otherText : Json → String
  digest : String → String
  instant : String → Option Int

def maxIntentBytes : Nat := 32768

def setMember (members : List (String × Json)) (key : String) (value : Json) : List (String × Json) :=
  (members.filter fun member => member.1 ≠ key) ++ [(key, value)]

section Payload

variable (setting : Setting)

def readIntent (text : String) : Except String Submission := do
  ensure (text.utf8ByteSize ≤ maxIntentBytes) ("notification intent exceeds " ++ toString maxIntentBytes ++ " bytes")
  let value ← setting.parse text
  let document ← setting.canonical value
  ensure (document = text) "notification intent must be canonical JSON"
  let (intent, pager) ← parseSubmitted setting.toDocuments value
  return { intent := intent, pager := pager, document := document }

def render (route : Route) (intent : Intent) : Except String String :=
  let text := "[" ++ (intent.responseClass.getD .attention).name ++ "] Attention required: " ++ intent.summary ++
    "\nInspect: " ++ intent.inspectionReference
  match route.transport with
  | .slack => setting.canonical (.object [("text", .string text)])
  | .discord => setting.canonical (.object [("content", .string text)])
  | .localFile => .error "local inbox uses its own bounded message envelope"
  | .pagerDuty => .error "pagerduty uses its own event envelope"

/-- The event without its routing key, which is added to the request only. -/
def renderPagerduty (intent : Intent) (pager : PagerDutyFields) (document : String) : Except String String :=
  let key := dedupKey pager.condition
  if pager.action = "resolve" then
    setting.canonical (.object [("event_action", .string "resolve"), ("dedup_key", .string key)])
  else
    let details := (pager.details.map objectMembers).getD []
    let origin := Json.object [
      ("schema", .string intent.schema),
      ("stable_event_id", .string intent.stableEventId),
      ("transition_id", .string intent.transitionId),
      ("intent_digest", .string (setting.digest document)),
      ("inspection_reference", .string intent.inspectionReference)]
    let payload := [
      ("summary", Json.string intent.summary),
      ("source", .string pager.condition.site),
      ("severity", .string pager.severity),
      ("component", .string pager.condition.component),
      ("group", .string pager.condition.rule),
      ("custom_details", .object (setMember details "constellation" origin))] ++
      pager.condition.targetClass.toList.map fun targetClass => ("class", .string targetClass)
    setting.canonical (.object ([
      ("event_action", .string "trigger"),
      ("dedup_key", .string key),
      ("payload", .object payload)] ++
      pager.runbookUrl.toList.map fun url =>
        ("links", .array [.object [("href", .string url), ("text", .string "Runbook")]])))

def requiredJsonString (value : Json) (field : String) : Except String String :=
  match stringMember value field with
  | some text => .ok text
  | none => .error ("Nightshift " ++ field ++ " is missing")

def requiredInstant (receipt : Json) (field : String) : Except String Int := do
  let text ← requiredJsonString receipt field
  match setting.instant text with
  | some instant => return instant
  | none => throw "input contains invalid characters"

/-- Instants count nanoseconds; an event is current for 300 seconds at most. -/
def savedCheckDeliveryIsCurrent (owner : Option Json) (now : Int) : Except String Bool :=
  match owner with
  | none => .ok true
  | some bundle =>
      if stringMember bundle "schema" ≠ some "nightshift.saved-check-attention-replay-bundle/v1" then .ok true
      else do
        let receipt ← (bundle.get "receipt").elim (throw "saved-check receipt missing") pure
        let projected ← requiredInstant setting receipt "projection_at"
        let evaluated ← requiredInstant setting receipt "evaluated_at"
        let currentUntil ← requiredInstant setting receipt "event_current_until"
        return decide (projected ≤ evaluated ∧ evaluated ≤ now ∧ now ≤ currentUntil ∧
          currentUntil - projected ≤ 300 * 10 ^ 9)

def validRoutingKey (key : String) : Bool :=
  key.utf8ByteSize == 32 && key.toList.all fun character =>
    character.isDigit || (character.toLower.isLower && character.toLower.toNat ≤ 'f'.toNat)

end Payload

/-! ## What a call reads from the store -/

inductive DeliveryState where
  | pending
  | accepted
  | failed
  | refused
  | unknown
deriving DecidableEq

def DeliveryState.ofOutcome : DeliveryOutcome → DeliveryState
  | .claimed => .pending
  | .accepted => .accepted
  | .failed => .failed
  | .refused => .refused
  | .unknown => .unknown

/-- States in the order of their names, with the default first. -/
def DeliveryState.rank : DeliveryState → Nat
  | .pending => 0
  | .accepted => 1
  | .failed => 2
  | .refused => 3
  | .unknown => 4

/-- The column `delivery_state` of `public_notification_delivery_status_v1`. -/
def deliveryState (store : StoreState) (notificationId : String) : DeliveryState :=
  ((store.notificationDeliveryEvents.filter fun event => event.notificationId = notificationId).map fun event =>
    DeliveryState.ofOutcome event.outcome).foldl
      (fun greatest state => if greatest.rank < state.rank then state else greatest) .pending

def deliveryIntentByIdentity (store : StoreState) (stableEventId destinationIdentity : String) :
    Option NotificationDeliveryIntent :=
  store.notificationDeliveryIntents.find? fun intent =>
    intent.stableEventId = stableEventId ∧ intent.destinationIdentity = destinationIdentity

def deliveryIntentById (store : StoreState) (notificationId : String) : Option NotificationDeliveryIntent :=
  store.notificationDeliveryIntents.find? fun intent => intent.notificationId = notificationId

/-! ## Calls -/

inductive Request where
  | submit (text routeReference : String) (enableNetwork : Bool)
  | resubmit (notificationId stableEventId : String) (enableNetwork : Bool)

structure Call where
  submission : Submission
  routeReference : String
  enableNetwork : Bool
  resubmittedFrom : Option String

def Call.identity (call : Call) : String × String :=
  (call.submission.intent.stableEventId, call.submission.intent.destinationIdentity)

/-- On a route that pages, an intent that is no page. -/
def Call.notPage (call : Call) (route : Route) : Bool :=
  route.transport == .pagerDuty && !call.submission.intent.isPage

structure Receipt where
  notificationId : String
  deliveryState : DeliveryState
  dedupKey : Option String
  resubmittedFrom : Option String

def Call.receipt (call : Call) (notificationId : String) (state : DeliveryState) : Receipt where
  notificationId := notificationId
  deliveryState := state
  dedupKey := call.submission.pager.map fun pager => App.dedupKey pager.condition
  resubmittedFrom := call.resubmittedFrom

inductive Failure where
  | application (message : String)
  | store (error : StoreError)

/-- Where a call stands, with the local values it still needs. -/
inductive Phase where
  | idle
  | asked (request : Request)
  | reopened (notificationId stableEventId : String) (enableNetwork : Bool) (retained : String)
  | reexamined (notificationId stableEventId : String) (enableNetwork : Bool) (members : List (String × Json))
  | entered (call : Call) (route : Route)
  | duplicate (call : Call)
  | unretained (call : Call) (route : Route)
  | prepared (call : Call) (route : Route) (notificationId payload : String)
  | retained (call : Call) (route : Route) (notificationId payload : String)
  | claimed (call : Call) (route : Route) (notificationId payload : String) (checkedAt : Int)
  | dispatched (call : Call) (notificationId : String)
  | returned (result : Except Failure Receipt)
  | stopped

inductive TransportResult where
  | accepted (status : UInt16)
  | failed (status : UInt16)
  | unknown
  | reported (outcome : DeliveryOutcome)

def TransportResult.outcome : TransportResult → DeliveryOutcome
  | .accepted _ => .accepted
  | .failed _ => .failed
  | .unknown => .unknown
  | .reported outcome => outcome

/-- What the world answers in one step. -/
structure Effect where
  request : Request
  newerSameCondition : Option String
  replayed : Except String Unit
  notificationId : String
  now : Int
  resolveEndpoint : String → Except String String
  prepareDispatch : Except String Unit
  transport : Except String TransportResult

/-- An invocation of the transport, and the store at that moment. -/
structure Dispatch where
  call : Call
  route : Route
  notificationId : String
  payload : String
  checkedAt : Int
  store : StoreState

structure Advance where
  store : StoreState
  phase : Phase
  dispatch : Option Dispatch := none

def settle : Except String Phase → Phase
  | .ok phase => phase
  | .error message => .returned (.error (.application message))

/-- What follows the retention of an intent: a retained refusal, an error, or a claim. -/
inductive Verdict where
  | refuse (reason : String)
  | fail (message : String)
  | claim
deriving DecidableEq

section Steps

variable (setting : Setting) (effect : Effect)

/-- The checks of `submit_custody` before it looks for a duplicate. -/
def enter (call : Call) : Except String Phase := do
  ensure (call.submission.intent.routeReference = call.routeReference)
    "CLI route does not match intent route reference"
  match setting.notificationRoutes.find? fun route => route.reference = call.routeReference with
  | none => throw "route reference is not configured"
  | some route =>
      ensure (route.transport ≠ .localFile) "local_file routes require notification deliver-local"
      ensure ((route.transport == .pagerDuty) = call.submission.pager.isSome)
        "pagerduty routes accept only nq.notification_delivery_intent.v2, which other routes refuse"
      return .entered call route

/-- The comparison of `retained_duplicate` with a retained document. -/
def compareRetained (call : Call) (route : Route) (retained : String) : Except String Phase := do
  let retained ← setting.parse retained
  let submitted ← setting.parse call.submission.document
  ensure (retained.same submitted) "notification identity is already retained with different canonical intent"
  match call.submission.intent.attentionKind, route.approvedPolicyDigest with
  | .operatorAssertion, _ => return .duplicate call
  | .nightshiftReceipt, none => throw "Nightshift replay is not configured for this route"
  | .nightshiftReceipt, some approved =>
      ensure (approved = call.submission.intent.attentionPolicyDigest)
        "retained notification differs from the route's approved policy"
      return .duplicate call

/-- Replay runs only for intents that could be sent. -/
def replay (call : Call) (route : Route) : Except String Unit :=
  if call.notPage route || call.submission.intent.attentionKind != .nightshiftReceipt then .ok ()
  else effect.replayed

def payloadOf (call : Call) (route : Route) : Except String String :=
  match call.submission.pager with
  | some pager => renderPagerduty setting call.submission.intent pager call.submission.document
  | none => render setting route call.submission.intent

/-- The replay of the owner's receipt and the payload, for an intent that is not retained. -/
def prepare (call : Call) (route : Route) : Except String Phase := do
  replay effect call route
  let payload ← payloadOf setting call route
  return .prepared call route effect.notificationId payload

def notificationInput (call : Call) (notificationId : String) : NotificationInput where
  notificationId := notificationId
  idempotencyKey := call.submission.intent.stableEventId ++ ":" ++ call.submission.intent.destinationIdentity
  findingEventId := none
  maxAttempts := 1

def deliveryIntent (call : Call) (notificationId payload : String) : NotificationDeliveryIntent where
  notificationId := notificationId
  stableEventId := call.submission.intent.stableEventId
  destinationIdentity := call.submission.intent.destinationIdentity
  contentDigest := setting.digest payload
  intentJson := call.submission.document

def deliveryVerdict (call : Call) (route : Route) : Verdict :=
  if call.notPage route then .refuse "response_class_not_page"
  else
    match savedCheckDeliveryIsCurrent setting call.submission.intent.ownerReceipt effect.now with
    | .ok false => .refuse "saved_check_attention_event_not_current"
    | .error _ => .refuse "saved_check_attention_event_time_invalid"
    | .ok true =>
        if !call.enableNetwork then .refuse "network_dispatch_not_explicitly_enabled"
        else
          let pagerduty := route.transport == .pagerDuty
          match if pagerduty then route.routingKeyEnv else route.endpointSecretLocator with
          | none =>
              .fail (if pagerduty then "pagerduty route has no routing key locator"
                else "HTTPS route has no endpoint secret locator")
          | some locator =>
              match effect.resolveEndpoint locator with
              | .error _ =>
                  .refuse (if pagerduty then "routing_key_unavailable" else "endpoint_resolution_unavailable")
              | .ok secret =>
                  if !pagerduty || validRoutingKey secret then
                    match effect.prepareDispatch with
                    | .ok () => .claim
                    | .error _ => .refuse "transport_client_unavailable"
                  else .refuse "routing_key_malformed"

/-- A transaction that appends one delivery event. -/
def appendEvent (store : StoreState) (notificationId : String) (number : Int) (outcome : DeliveryOutcome)
    (next : Phase) : Advance :=
  match store.appendNotificationDeliveryEvent
      { notificationId := notificationId, eventNumber := number, outcome := outcome } with
  | .ok after => { store := after, phase := next }
  | .error error => { store := store, phase := .returned (.error (.store error)) }

def renew (notificationId stableEventId : String) (enableNetwork : Bool) (members : List (String × Json)) :
    Except String Phase := do
  match effect.newerSameCondition with
  | some newer =>
      throw ("notification " ++ newer ++ " is a later record for the same condition on this route; " ++
        "only the newest record for a condition may be resubmitted")
  | none =>
      ensure (stringMember (.object members) "stable_event_id" ≠ some stableEventId)
        "resubmit requires a new stable_event_id"
      let value := Json.object (setMember members "stable_event_id" (.string stableEventId))
      let document ← setting.canonical value
      ensure (document.utf8ByteSize ≤ maxIntentBytes)
        ("notification intent exceeds " ++ toString maxIntentBytes ++ " bytes")
      let (intent, pager) ← parseSubmitted setting.toDocuments value
      enter setting {
        submission := { intent := intent, pager := pager, document := document }
        routeReference := intent.routeReference
        enableNetwork := enableNetwork
        resubmittedFrom := some notificationId }

/-- One step of a call. -/
def Phase.advance (store : StoreState) : Phase → Advance
  | .idle => { store := store, phase := .asked effect.request }
  | .asked (.submit text routeReference enableNetwork) =>
      { store := store
        phase := settle do
          let submission ← readIntent setting text
          enter setting {
            submission := submission
            routeReference := routeReference
            enableNetwork := enableNetwork
            resubmittedFrom := none } }
  | .asked (.resubmit notificationId stableEventId enableNetwork) =>
      { store := store
        phase := settle do
          bounded "stable_event_id" stableEventId 256
          match deliveryIntentById store notificationId with
          | none => throw "notification is not retained"
          | some existing => return .reopened notificationId stableEventId enableNetwork existing.intentJson }
  | .reopened notificationId stableEventId enableNetwork text =>
      { store := store
        phase := settle do
          let value ← setting.parse text
          ensure (stringMember value "schema" = some intentV2)
            "resubmit is defined only for nq.notification_delivery_intent.v2 (pagerduty) records"
          ensure (deliveryState store notificationId ≠ .accepted)
            "notification was accepted by its destination; resubmit is refused"
          return .reexamined notificationId stableEventId enableNetwork (objectMembers value) }
  | .reexamined notificationId stableEventId enableNetwork members =>
      { store := store, phase := settle (renew setting effect notificationId stableEventId enableNetwork members) }
  | .entered call route =>
      { store := store
        phase :=
          match deliveryIntentByIdentity store call.identity.1 call.identity.2 with
          | none => .unretained call route
          | some existing => settle (compareRetained setting call route existing.intentJson) }
  | .duplicate call =>
      { store := store
        phase :=
          match deliveryIntentByIdentity store call.identity.1 call.identity.2 with
          | none => .returned (.error (.application "retained notification custody is incomplete"))
          | some existing =>
              .returned (.ok (call.receipt existing.notificationId (deliveryState store existing.notificationId))) }
  | .unretained call route => { store := store, phase := settle (prepare setting effect call route) }
  | .prepared call route notificationId payload =>
      match store.retainNotificationDelivery (notificationInput call notificationId)
          (deliveryIntent setting call notificationId payload) with
      | .error error => { store := store, phase := .returned (.error (.store error)) }
      | .ok after =>
          { store := after
            phase :=
              match deliveryIntentByIdentity store call.identity.1 call.identity.2 with
              | none => .retained call route notificationId payload
              | some existing =>
                  .returned (.ok (call.receipt existing.notificationId
                    (deliveryState store existing.notificationId))) }
  | .retained call route notificationId payload =>
      match deliveryVerdict setting effect call route with
      | .refuse _ =>
          appendEvent store notificationId 1 .refused (.returned (.ok (call.receipt notificationId .refused)))
      | .fail message => { store := store, phase := .returned (.error (.application message)) }
      | .claim => appendEvent store notificationId 1 .claimed (.claimed call route notificationId payload effect.now)
  | .claimed call route notificationId payload checkedAt =>
      { store := store
        phase := .dispatched call notificationId
        dispatch := some {
          call := call
          route := route
          notificationId := notificationId
          payload := payload
          checkedAt := checkedAt
          store := store } }
  | .dispatched call notificationId =>
      match effect.transport with
      | .error message => { store := store, phase := .returned (.error (.application message)) }
      | .ok result =>
          appendEvent store notificationId 2 result.outcome
            (.returned (.ok (call.receipt notificationId (.ofOutcome result.outcome))))
  | .returned result => { store := store, phase := .returned result }
  | .stopped => { store := store, phase := .stopped }

end Steps

/-! ## Interleavings -/

/-- Any number of processes over one store, and what they have dispatched so far. -/
structure System where
  store : StoreState
  calls : Nat → Phase
  dispatches : List Dispatch

def System.start (store : StoreState) : System where
  store := store
  calls := fun _ => .idle
  dispatches := []

inductive SystemStep (setting : Setting) : System → System → Prop where
  | advances {system : System} (process : Nat) (effect : Effect) {next : Advance}
      (advanced : (system.calls process).advance setting effect system.store = next) :
      SystemStep setting system {
        store := next.store
        calls := Function.update system.calls process next.phase
        dispatches := system.dispatches ++ next.dispatch.toList }
  | stops {system : System} (process : Nat) :
      SystemStep setting system { system with calls := Function.update system.calls process .stopped }
  | writes {system : System} (operation : Operation) (unrelated : delivers operation = false) {after : StoreState}
      (accepted : system.store.apply setting.identityDigest operation = .ok after) :
      SystemStep setting system { system with store := after }

/-- The systems that some interleaving reaches, whatever the store held before the calls. -/
inductive SystemRuns (setting : Setting) : System → Prop where
  | start {store : StoreState} (reachable : Reachable setting.identityDigest store) :
      SystemRuns setting (.start store)
  | step {system next : System} (earlier : SystemRuns setting system) (taken : SystemStep setting system next) :
      SystemRuns setting next

end ConstellationNq.App
