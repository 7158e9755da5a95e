import ConstellationNq.Library.Loop
import ConstellationNq.Library.Text
import ConstellationNq.Protocol.Canonical

/-!
# Intents

A v1 intent, and a v2 intent that adds the fields of a page. A submission is held to the
closed sets and to the heuristics against identities and credentials; an intent that is
read back from custody is checked for its structure only.
-/

set_option autoImplicit false

namespace ConstellationNq.App

open Library.Loop Library.Text Protocol

inductive AttentionKind where
  | operatorAssertion
  | nightshiftReceipt
deriving DecidableEq

inductive ResponseClass where
  | informational
  | attention
  | page
deriving DecidableEq

def ResponseClass.name : ResponseClass → String
  | .informational => "informational"
  | .attention => "attention"
  | .page => "page"

/-- The policy's id and the receipt's digest are only checked, so they are not kept. -/
structure Intent where
  schema : String
  attentionKind : AttentionKind
  stableEventId : String
  attentionPolicyDigest : String
  transitionId : String
  routeReference : String
  destinationIdentity : String
  summary : String
  inspectionReference : String
  ownerReceipt : Option Json
  responseClass : Option ResponseClass

def Intent.isPage (intent : Intent) : Bool := intent.responseClass == some .page

structure Condition where
  site : String
  component : String
  rule : String
  targetClass : Option String
deriving DecidableEq

structure PagerDutyFields where
  action : String
  condition : Condition
  severity : String
  runbookUrl : Option String
  details : Option Json

def dedupKey (condition : Condition) : String :=
  let key := "constellation:" ++ condition.site ++ ":" ++ condition.component ++ ":" ++ condition.rule
  match condition.targetClass with
  | none => key
  | some targetClass => key ++ ":" ++ targetClass

def intentV1 : String := "nq.notification_delivery_intent.v1"

def intentV2 : String := "nq.notification_delivery_intent.v2"

/-- Canonical documents, and the text with which a value that does not decode is refused. -/
structure Documents where
  canonical : Json → Except String String
  undecodable : Json → String

def bounded (label value : String) (maximum : Nat) : Except String Unit :=
  ensure (!value.isEmpty ∧ value.utf8ByteSize ≤ maximum ∧ value.toList.all fun character => !isControl character)
    ("notification " ++ label ++ " must be 1..=" ++ toString maximum ++ " non-control bytes")

/-- `value.get(key).and_then(Value::as_str)`. -/
def stringMember (value : Json) (key : String) : Option String :=
  match value.get key with
  | some (.string text) => some text
  | _ => none

def objectMembers : Json → List (String × Json)
  | .object members => members
  | _ => []

/-! ## Conditions -/

/-- Whether an intent is submitted or read back from custody. -/
inductive Validation where
  | submission
  | retained
deriving DecidableEq

def isHexDigit (character : Char) : Bool :=
  character.isDigit || ('a' ≤ character && character ≤ 'f')

def windows (size : Nat) (text : List Char) : List (List Char) :=
  (text.tails.map fun tail => tail.take size).filter fun window => window.length == size

def isUuidWindow (window : List Char) : Bool :=
  window.zipIdx.all fun (character, index) =>
    if [8, 13, 18, 23].contains index then character == '-' else isHexDigit character

def isDateWindow (window : List Char) : Bool :=
  window.zipIdx.all fun (character, index) =>
    if [4, 7].contains index then character == '-' else character.isDigit

/-- The loop over the runs of digits. -/
def runIdentity : Nat → Nat → List Char → Option String
  | _, _, [] => none
  | hexRun, digitRun, character :: text =>
      let hexRun := if isHexDigit character then hexRun + 1 else 0
      let digitRun := if character.isDigit then digitRun + 1 else 0
      if 32 ≤ hexRun then some "a hexadecimal identifier"
      else if 8 ≤ digitRun then some "a numeric timestamp or identifier"
      else runIdentity hexRun digitRun text

def holdsText (text : List Char) (part : String) : Bool := text.tails.any part.toList.isPrefixOf

def perEventIdentity (value : String) : Option String :=
  let lower := value.toList.map Char.toLower
  if holdsText lower "sha256" then some "a digest"
  else if (windows 36 lower).any isUuidWindow then some "a UUID"
  else if (windows 10 lower).any isDateWindow then some "a date"
  else match runIdentity 0 0 lower with
    | some kind => some kind
    | none => if lower.all Char.isDigit then some "a numeric identifier" else none

def isTokenCharacter (character : Char) : Bool :=
  character.isLower || character.isDigit || ['.', '_', '-'].contains character

/-- The check that only a submission makes. -/
def refusePerEvent (label value : String) (validation : Validation) : Except String Unit :=
  match validation, perEventIdentity value with
  | .submission, some kind =>
      .error ("notification condition " ++ label ++ " is refused: it looks like " ++ kind ++
        "; a condition names a stable class, not an event")
  | _, _ => .ok ()

def conditionToken (label value : String) (maximum : Nat) (validation : Validation) : Except String Unit := do
  refusePerEvent label value validation
  ensure (!value.isEmpty ∧ value.utf8ByteSize ≤ maximum ∧ (value.toList.head?.all Char.isAlphanum) = true ∧
      value.toList.all isTokenCharacter = true)
    ("notification condition " ++ label ++ " must be 1..=" ++ toString maximum ++ " characters of [a-z0-9._-]")

def pagerdutyComponents : List String := ["nq", "host_posture", "nightshift", "docket", "ag", "service"]

def pagerdutyRules : List String :=
  ["nq-no-fresh-acquisition", "host-posture-unknown", "nightshift-recurrence-missing", "docket-unsettled",
    "ag-executor-unavailable", "service-down", "host-disk", "nq-latency-near-bound", "nq-open-cost-growing",
    "nq-pending-acquisition", "host-posture-refusals", "host-posture-retention", "nightshift-evidence-stale",
    "nightshift-cycle-slow", "docket-reconciliation-lag", "ag-repeated-refusals", "build-identity"]

def checkOptional {α : Type} (value : Option α) (check : α → Except String Unit) : Except String Unit :=
  match value with
  | some value => check value
  | none => .ok ()

def validateCondition (condition : Condition) (validation : Validation) : Except String Unit := do
  conditionToken "site" condition.site 64 validation
  conditionToken "component" condition.component 64 validation
  conditionToken "rule" condition.rule 64 validation
  ensure (validation = .submission → condition.component ∈ pagerdutyComponents)
    "notification condition component is not in the closed component set"
  ensure (validation = .submission → condition.rule ∈ pagerdutyRules)
    "notification condition rule is not a beta alert registry anchor"
  checkOptional condition.targetClass fun targetClass => conditionToken "target_class" targetClass 48 validation

/-! ## The fields of a page -/

def secretLikeKey (key : String) : Bool :=
  ["routing_key", "token", "secret", "password", "api_key", "authorization", "credential"].any
    (holdsText (key.toList.map Char.toLower))

mutual

def rejectSecretLikeKeys : Json → Except String Unit
  | .object members => rejectSecretLikeMembers members
  | .array items => rejectSecretLikeItems items
  | _ => .ok ()

def rejectSecretLikeItems : List Json → Except String Unit
  | [] => .ok ()
  | item :: items => do
      rejectSecretLikeKeys item
      rejectSecretLikeItems items

def rejectSecretLikeMembers : List (String × Json) → Except String Unit
  | [] => .ok ()
  | (key, nested) :: members => do
      ensure (!secretLikeKey key)
        ("notification details must not carry credential-like field " ++ debugText key)
      rejectSecretLikeKeys nested
      rejectSecretLikeMembers members

end

def validateRunbookUrl (url : String) : Except String Unit :=
  ensure ("https://".toList.isPrefixOf url.toList ∧ url.utf8ByteSize ≤ 1024 ∧
      url.toList.all fun character => !isControl character && !isWhitespace character)
    "notification runbook_url must be an https URL of at most 1024 bytes"

section Parsing

variable (documents : Documents)

def validateDetails (details : Json) (validation : Validation) : Except String Unit :=
  match details with
  | .object members => do
      ensure (members.all fun member => member.1 != "constellation")
        "notification details must not use the reserved constellation key"
      let document ← documents.canonical details
      ensure (document.utf8ByteSize ≤ 4096) "notification details exceed 4096 bytes"
      if validation = .submission then rejectSecretLikeKeys details else .ok ()
  | _ => .error "notification details must be a JSON object"

def validatePagerdutyFields (fields : PagerDutyFields) (validation : Validation) : Except String Unit := do
  ensure (fields.action ∈ ["trigger", "resolve"]) "notification action must be trigger or resolve"
  ensure (fields.severity ∈ ["critical", "error", "warning", "info"])
    "notification severity must be critical, error, warning or info"
  validateCondition fields.condition validation
  checkOptional fields.runbookUrl validateRunbookUrl
  checkOptional fields.details fun details => validateDetails documents details validation

/-! ## Decoding -/

def decodeOptionalString : Option Json → Option (Option String)
  | none => some none
  | some .null => some none
  | some (.string text) => some (some text)
  | some _ => none

def decodeOptional : Option Json → Option Json
  | some .null => none
  | value => value

def hasOnly (keys : List String) (value : Json) : Bool :=
  (objectMembers value).all fun member => keys.contains member.1

/-- A derived decoder takes an object, or the array of the fields in their order. -/
def decodeCondition : Json → Option Condition
  | .array items =>
      match items with
      | [.string site, .string component, .string rule, target] => do
          let targetClass ← decodeOptionalString (some target)
          some { site, component, rule, targetClass }
      | _ => none
  | value =>
      if hasOnly ["site", "component", "rule", "target_class"] value then do
        let site ← stringMember value "site"
        let component ← stringMember value "component"
        let rule ← stringMember value "rule"
        let targetClass ← decodeOptionalString (value.get "target_class")
        some { site, component, rule, targetClass }
      else none

def decodePagerDutyFields (added : Json) : Option PagerDutyFields := do
  let action ← stringMember added "action"
  let condition ← (added.get "condition").bind decodeCondition
  let severity ← stringMember added "severity"
  let runbookUrl ← decodeOptionalString (added.get "runbook_url")
  some { action, condition, severity, runbookUrl, details := decodeOptional (added.get "details") }

def intentFields : List String :=
  ["schema", "attention_kind", "stable_event_id", "attention_receipt_digest", "attention_policy_id",
    "attention_policy_digest", "transition_id", "route_reference", "destination_identity", "summary",
    "inspection_reference", "owner_receipt", "response_class"]

def decoded {α : Type} (value : Json) : Option α → Except String α
  | some decoded => .ok decoded
  | none => .error (documents.undecodable value)

def parseResponseClass : Option String → Except String (Option ResponseClass)
  | none => .ok none
  | some "informational" => .ok (some .informational)
  | some "attention" => .ok (some .attention)
  | some "page" => .ok (some .page)
  | some _ => .error "notification response_class must be informational, attention or page"

def parseAttentionKind (kind : String) (receiptDigest : Option String) (ownerReceipt : Option Json) :
    Except String AttentionKind :=
  if kind = "operator_assertion" ∧ receiptDigest.isNone ∧ ownerReceipt.isNone then .ok .operatorAssertion
  else if kind = "nightshift_receipt" ∧ receiptDigest.isSome ∧ ownerReceipt.isSome then .ok .nightshiftReceipt
  else .error "unsupported or ambiguous notification attention kind"

def parseIntentFields (value : Json) (summaryMaximum : Nat) : Except String Intent := do
  ensure (hasOnly intentFields value) (documents.undecodable value)
  let required := fun key => decoded documents value (stringMember value key)
  let optional := fun key => decoded documents value (decodeOptionalString (value.get key))
  let schema ← required "schema"
  let kind ← required "attention_kind"
  let stableEventId ← required "stable_event_id"
  let receiptDigest ← optional "attention_receipt_digest"
  let attentionPolicyId ← required "attention_policy_id"
  let attentionPolicyDigest ← required "attention_policy_digest"
  let transitionId ← required "transition_id"
  let routeReference ← required "route_reference"
  let destinationIdentity ← required "destination_identity"
  let summary ← required "summary"
  let inspectionReference ← required "inspection_reference"
  let ownerReceipt := decodeOptional (value.get "owner_receipt")
  let response ← optional "response_class"
  [("stable_event_id", stableEventId, 256), ("attention_policy_id", attentionPolicyId, 256),
    ("transition_id", transitionId, 256), ("route_reference", routeReference, 256),
    ("destination_identity", destinationIdentity, 256), ("summary", summary, summaryMaximum),
    ("inspection_reference", inspectionReference, 1024)].forM fun (name, value, maximum) => bounded name value maximum
  let responseClass ← parseResponseClass response
  let attentionKind ← parseAttentionKind kind receiptDigest ownerReceipt
  return {
    schema, attentionKind, stableEventId, attentionPolicyDigest, transitionId, routeReference, destinationIdentity
    summary, inspectionReference, ownerReceipt, responseClass }

def v2Fields : List String := ["action", "condition", "severity", "runbook_url", "details"]

def parseIntentValue (value : Json) (validation : Validation) : Except String (Intent × Option PagerDutyFields) :=
  if stringMember value "schema" = some intentV1 then do
    let intent ← parseIntentFields documents value 512
    return (intent, none)
  else if stringMember value "schema" = some intentV2 then do
    let added := Json.object ((objectMembers value).filter fun member => v2Fields.contains member.1)
    let common := Json.object ((objectMembers value).filter fun member => !v2Fields.contains member.1)
    let pager ← decoded documents added (decodePagerDutyFields added)
    validatePagerdutyFields documents pager validation
    let intent ← parseIntentFields documents common 1024
    return (intent, some pager)
  else .error "unsupported notification intent schema"

def parseSubmitted (value : Json) : Except String (Intent × Option PagerDutyFields) :=
  parseIntentValue documents value .submission

end Parsing

end ConstellationNq.App
