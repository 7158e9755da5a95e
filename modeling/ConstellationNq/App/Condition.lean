import Mathlib.Data.List.TFAE
import ConstellationNq.App.Intent
import ConstellationNq.Protocol.Value

/-!
# The condition of a page

Alerts about one condition are told together in three places: by the dedup key sent to
PagerDuty, by the text that the delivery summary groups on, and by the comparison that
looks for a newer record. Condition tokens hold no colon, so the three agree on conditions
that are written as objects. A condition that is written as the array of its fields is
decoded too, but the queries find no member in it.

SQL values are options, with none for NULL.
-/

set_option autoImplicit false

namespace ConstellationNq.App

open Library.Loop Protocol

/-- A v2 intent with these fields, accepted as a submission or as a retained one. -/
def Accepted (documents : Documents) (intent : Json) (fields : PagerDutyFields) : Prop :=
  ∃ validation common, parseIntentValue documents intent validation = .ok (common, some fields)

/-! ## The two queries -/

/-- `json_extract`; how a value that is neither text nor null reads is a parameter. -/
def jsonExtractValue (otherText : Json → String) : Option Json → Option String
  | none => none
  | some .null => none
  | some (.string text) => some text
  | some value => some (otherText value)

structure IntentRow where
  rowid : Int
  notificationId : String
  routeReference : String
  createdAt : String
  intent : Json

def IntentRow.createdBefore (old new : IntentRow) : Bool :=
  decide (old.createdAt < new.createdAt) || (new.createdAt == old.createdAt && decide (old.rowid < new.rowid))

/-- Equality in SQL, which NULL never satisfies. -/
def sqlEqual (left right : Option String) : Bool :=
  left.isSome && left == right

section Queries

variable (otherText : Json → String)

def extractMember (intent : Json) (key : String) : Option String :=
  jsonExtractValue otherText (intent.get key)

def extractCondition (intent : Json) (key : String) : Option String :=
  jsonExtractValue otherText ((intent.get "condition").bind fun condition => condition.get key)

def summaryCondition (intent : Json) : Option String :=
  if extractMember otherText intent "schema" = some intentV2 then do
    let site ← extractCondition otherText intent "site"
    let component ← extractCondition otherText intent "component"
    let rule ← extractCondition otherText intent "rule"
    let targetClass := (extractCondition otherText intent "target_class").map fun text => ":" ++ text
    some (site ++ ":" ++ component ++ ":" ++ rule ++ targetClass.getD "")
  else none

def sameExtracted (old new : Json) : Bool :=
  sqlEqual (extractMember otherText new "schema") (some intentV2) &&
    sqlEqual (extractCondition otherText new "site") (extractCondition otherText old "site") &&
    sqlEqual (extractCondition otherText new "component") (extractCondition otherText old "component") &&
    sqlEqual (extractCondition otherText new "rule") (extractCondition otherText old "rule") &&
    extractCondition otherText new "target_class" == extractCondition otherText old "target_class"

/-- The row condition of `notification_delivery_newer_same_condition`. -/
def newerSameCondition (old new : IntentRow) : Bool :=
  new.routeReference == old.routeReference && new.notificationId != old.notificationId && old.createdBefore new &&
    sameExtracted otherText old.intent new.intent

end Queries

/-! ## Joined tokens -/

def Condition.parts (condition : Condition) : List (List Char) :=
  [condition.site.toList, condition.component.toList, condition.rule.toList] ++
    (condition.targetClass.map String.toList).toList

def Condition.text (condition : Condition) : String :=
  condition.site ++ ":" ++ condition.component ++ ":" ++ condition.rule ++
    (condition.targetClass.map fun targetClass => ":" ++ targetClass).getD ""

theorem Condition.toList_text (condition : Condition) :
    condition.text.toList = [':'].intercalate condition.parts := by
  cases target : condition.targetClass with
  | none => simp [Condition.text, Condition.parts, target, List.intercalate]
  | some targetClass => simp [Condition.text, Condition.parts, target, List.intercalate]

theorem colon_not_token : isTokenCharacter ':' = false := by decide

theorem conditionToken_free {label value : String} {maximum : Nat} {validation : Validation}
    (passed : conditionToken label value maximum validation = .ok ()) : ':' ∉ value.toList := by
  obtain ⟨-, passed⟩ := check_bind_eq_ok.mp passed
  obtain ⟨-, -, -, characters⟩ := ensure_eq_ok.mp passed
  intro member
  have token := List.all_eq_true.mp characters ':' member
  rw [colon_not_token] at token
  cases token

theorem validateCondition_free {condition : Condition} {validation : Validation}
    (valid : validateCondition condition validation = .ok ()) : ∀ part ∈ condition.parts, ':' ∉ part := by
  obtain ⟨site, valid⟩ := check_bind_eq_ok.mp valid
  obtain ⟨component, valid⟩ := check_bind_eq_ok.mp valid
  obtain ⟨rule, valid⟩ := check_bind_eq_ok.mp valid
  obtain ⟨-, valid⟩ := check_bind_eq_ok.mp valid
  obtain ⟨-, valid⟩ := check_bind_eq_ok.mp valid
  have target : ∀ part ∈ (condition.targetClass.map String.toList).toList, ':' ∉ part := by
    cases found : condition.targetClass with
    | none => simp
    | some targetClass =>
        rw [found] at valid
        simpa using conditionToken_free valid
  simp only [Condition.parts, List.cons_append, List.nil_append, List.forall_mem_cons]
  exact ⟨conditionToken_free site, conditionToken_free component, conditionToken_free rule, target⟩

theorem Condition.eq_of_parts {left right : Condition} (same : left.parts = right.parts) : left = right := by
  obtain ⟨leftSite, leftComponent, leftRule, leftTarget⟩ := left
  obtain ⟨rightSite, rightComponent, rightRule, rightTarget⟩ := right
  simp only [Condition.parts, List.cons_append, List.nil_append, List.cons.injEq, String.toList_inj] at same
  obtain ⟨rfl, rfl, rfl, targets⟩ := same
  have equal : leftTarget = rightTarget := by
    cases leftTarget <;> cases rightTarget <;> simp_all [String.toList_inj]
  rw [equal]

/-- Valid conditions are read back from their joined text. -/
theorem Condition.text_injective {left right : Condition} {leftValidation rightValidation : Validation}
    (leftValid : validateCondition left leftValidation = .ok ())
    (rightValid : validateCondition right rightValidation = .ok ()) (same : left.text = right.text) : left = right := by
  have split : ∀ (condition : Condition) (validation : Validation), validateCondition condition validation = .ok () →
      condition.text.toList.splitOn ':' = condition.parts := by
    intro condition validation valid
    rw [condition.toList_text]
    exact List.splitOn_intercalate ':' (validateCondition_free valid) (by simp [Condition.parts])
  exact Condition.eq_of_parts (by rw [← split left _ leftValid, ← split right _ rightValid, same])

/-! ## What the queries find -/

/-- The condition of an intent is written as an object. -/
def writtenAsObject (intent : Json) : Bool :=
  match intent.get "condition" with
  | some (.object _) => true
  | _ => false

section Extracted

variable {otherText : Json → String} {intent value : Json} {condition : Condition}

theorem jsonExtractValue_string {key text : String} (found : stringMember value key = some text) :
    jsonExtractValue otherText (value.get key) = some text := by
  unfold stringMember at found
  split at found
  · rename_i member
    rw [member]
    exact found
  · cases found

theorem jsonExtractValue_optional {value : Option Json} {text : Option String}
    (decoded : decodeOptionalString value = some text) : jsonExtractValue otherText value = text := by
  unfold decodeOptionalString at decoded
  split at decoded
  · exact Option.some.inj decoded
  · exact Option.some.inj decoded
  · exact Option.some.inj decoded
  · cases decoded

/-- The member-wise reading of an object is its condition, with none for both an absent
and a null target class. -/
theorem extractCondition_object (present : intent.get "condition" = some value)
    (decoded : decodeCondition value = some condition) (written : writtenAsObject intent = true) :
    extractCondition otherText intent "site" = some condition.site ∧
    extractCondition otherText intent "component" = some condition.component ∧
    extractCondition otherText intent "rule" = some condition.rule ∧
    extractCondition otherText intent "target_class" = condition.targetClass := by
  rw [writtenAsObject, present] at written
  cases value with
  | object members =>
      simp only [decodeCondition, Option.ite_none_right_eq_some, bind, Option.bind_eq_some_iff, Option.some.injEq]
        at decoded
      obtain ⟨-, site, isSite, component, isComponent, rule, isRule, target, isTarget, rfl⟩ := decoded
      simp only [extractCondition, present, Option.bind_some]
      exact ⟨jsonExtractValue_string isSite, jsonExtractValue_string isComponent, jsonExtractValue_string isRule,
        jsonExtractValue_optional isTarget⟩
  | _ => cases written

variable {old new : Json} {oldCondition newCondition : Condition} {oldValue newValue : Json}

/-- Two v2 intents whose conditions are objects are compared by their conditions. -/
theorem sameExtracted_iff (schema : stringMember new "schema" = some intentV2)
    (oldPresent : old.get "condition" = some oldValue) (oldDecoded : decodeCondition oldValue = some oldCondition)
    (newPresent : new.get "condition" = some newValue) (newDecoded : decodeCondition newValue = some newCondition)
    (oldWritten : writtenAsObject old = true) (newWritten : writtenAsObject new = true) :
    sameExtracted otherText old new = true ↔ newCondition = oldCondition := by
  obtain ⟨oldSite, oldComponent, oldRule, oldTarget⟩ :=
    @extractCondition_object otherText _ _ _ oldPresent oldDecoded oldWritten
  obtain ⟨newSite, newComponent, newRule, newTarget⟩ :=
    @extractCondition_object otherText _ _ _ newPresent newDecoded newWritten
  have isV2 : extractMember otherText new "schema" = some intentV2 := jsonExtractValue_string schema
  unfold sameExtracted
  rw [isV2, oldSite, oldComponent, oldRule, oldTarget, newSite, newComponent, newRule, newTarget]
  simp only [sqlEqual, Option.isSome_some, beq_self_eq_true, Bool.true_and, Bool.and_eq_true, beq_iff_eq,
    Option.some.injEq]
  cases newCondition
  cases oldCondition
  simp only [Condition.mk.injEq, and_assoc]

end Extracted

/-! ## Agreement -/

theorem get_filter (members : List (String × Json)) {keep : String → Bool} {key : String} (kept : keep key = true) :
    (Json.object (members.filter fun member => keep member.1)).get key = (Json.object members).get key := by
  simp only [Json.get, ← List.filter_reverse, List.find?_filter]
  congr 2
  funext member
  by_cases same : member.1 = key
  · simp [same, kept]
  · simp [same]

theorem get_objectMembers (value : Json) (key : String) : (Json.object (objectMembers value)).get key = value.get key := by
  cases value <;> rfl

section Agreement

variable {documents : Documents} {otherText : Json → String} {intent : Json} {fields : PagerDutyFields}

/-- What acceptance says about the condition. -/
theorem Accepted.parts (accepted : Accepted documents intent fields) :
    stringMember intent "schema" = some intentV2 ∧
    (∃ value, intent.get "condition" = some value ∧ decodeCondition value = some fields.condition) ∧
    ∃ validation, validateCondition fields.condition validation = .ok () := by
  obtain ⟨validation, common, parsed⟩ := accepted
  unfold parseIntentValue at parsed
  split at parsed
  · obtain ⟨_, _, parsed⟩ := bind_eq_ok.mp parsed
    cases parsed
  split at parsed
  · rename_i schema
    obtain ⟨pager, isPager, parsed⟩ := bind_eq_ok.mp parsed
    obtain ⟨valid, parsed⟩ := check_bind_eq_ok.mp parsed
    obtain ⟨_, _, parsed⟩ := bind_eq_ok.mp parsed
    cases parsed
    refine ⟨schema, ?_, ?_⟩
    · cases found : decodePagerDutyFields (.object ((objectMembers intent).filter fun member =>
          v2Fields.contains member.1)) with
      | none =>
          rw [found] at isPager
          cases isPager
      | some pager =>
          rw [found] at isPager
          cases isPager
          simp only [decodePagerDutyFields, bind, Option.bind_eq_some_iff, Option.some.injEq] at found
          obtain ⟨_, -, condition, ⟨value, present, isCondition⟩, _, -, _, -, rfl⟩ := found
          rw [get_filter _ (by decide), get_objectMembers] at present
          exact ⟨value, present, isCondition⟩
    · obtain ⟨-, valid⟩ := check_bind_eq_ok.mp valid
      obtain ⟨-, valid⟩ := check_bind_eq_ok.mp valid
      exact ⟨validation, (check_bind_eq_ok.mp valid).1⟩
  · cases parsed

/-- The records are on one route, and the second one was created after the first. -/
def IntentRow.Comparable (old new : IntentRow) : Prop :=
  new.routeReference = old.routeReference ∧ new.notificationId ≠ old.notificationId ∧ old.createdBefore new = true

theorem Comparable.newerSameCondition {old new : IntentRow} (comparable : old.Comparable new) :
    newerSameCondition otherText old new = sameExtracted otherText old.intent new.intent := by
  obtain ⟨route, distinct, later⟩ := comparable
  simp only [App.newerSameCondition, route, later, beq_self_eq_true, bne_iff_ne.mpr distinct, Bool.true_and]

section Accepted

variable {old new : IntentRow} {oldFields newFields : PagerDutyFields}
  (oldAccepted : Accepted documents old.intent oldFields) (newAccepted : Accepted documents new.intent newFields)

include oldAccepted newAccepted

end Accepted

end Agreement

namespace Sample

def documents : Documents where
  canonical := fun value => .ok value.text
  undecodable := fun _ => "invalid type"

/-- A page about a disk, with the condition as given. -/
def intent (action stableEventId : String) (condition : Json) : Json :=
  .object [
    ("action", .string action),
    ("attention_kind", .string "operator_assertion"),
    ("attention_policy_digest", .string "digest"),
    ("attention_policy_id", .string "policy"),
    ("condition", condition),
    ("destination_identity", .string "pagerduty"),
    ("inspection_reference", .string "record"),
    ("response_class", .string "page"),
    ("route_reference", .string "pager"),
    ("schema", .string intentV2),
    ("severity", .string "error"),
    ("stable_event_id", .string stableEventId),
    ("summary", .string "disk full"),
    ("transition_id", .string "transition")]

def condition : Condition := { site := "lab", component := "nq", rule := "host-disk", targetClass := none }

def asObject (target : List (String × Json)) : Json :=
  .object ([("component", .string "nq"), ("rule", .string "host-disk"), ("site", .string "lab")] ++ target)

def row (rowid : Int) (notificationId : String) (intent : Json) : IntentRow where
  rowid := rowid
  notificationId := notificationId
  routeReference := "pager"
  createdAt := "2026-09-14T00:00:00Z"
  intent := intent

end Sample

end ConstellationNq.App
