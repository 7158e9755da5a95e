import ConstellationNq.App.Notification
import ConstellationNq.Library.Runs

/-!
# Retained answers of PagerDuty

`pagerduty_post` keeps texts of the destination's answer. What is kept carries neither the
routing key nor anything of its shape: each text is cut at its runs of letters and digits,
and a run that could be a key is replaced as a whole.
-/

set_option autoImplicit false

namespace ConstellationNq.App

open Library.Loop Library.Runs Library.Text Protocol Store

/-! ## Redaction -/

def redacted : List Char := "<redacted>".toList

/-- `str::replace`, with the number of characters of the last match still to be passed over. -/
def replaceAll (needle replacement : List Char) : Nat → List Char → List Char
  | _, [] => []
  | passed + 1, _ :: text => replaceAll needle replacement passed text
  | 0, character :: text =>
      if needle.isPrefixOf (character :: text) then
        replacement ++ replaceAll needle replacement (needle.length - 1) text
      else character :: replaceAll needle replacement 0 text

/-- The output so far, and the run that is not yet part of it. -/
structure Redaction where
  output : List Char := []
  run : List Char := []

def Redaction.flush (redaction : Redaction) : Redaction where
  output := redaction.output ++ if 32 ≤ redaction.run.length then redacted else redaction.run

def Redaction.push (redaction : Redaction) (character : Char) : Redaction :=
  if character.isAlphanum then { redaction with run := redaction.run ++ [character] }
  else { output := redaction.flush.output ++ [character] }

def redactDestinationText (text routingKey : String) : String :=
  let replaced :=
    if routingKey.isEmpty then text.toList else replaceAll routingKey.toList redacted 0 text.toList
  let pushed := (replaced.filter fun character => !isControl character).foldl Redaction.push {}
  String.ofList (pushed.flush.output.take 256)

/-! ## The request -/

/-- How the request ended: the parts of a body are as they arrived, none where reading failed. -/
inductive Exchange where
  | connectFailed
  | timedOut
  | lost
  | responded (status : UInt16) (chunks : List (Option (List UInt8)))

def readBoundedBody (maximum : Nat) : List UInt8 → List (Option (List UInt8)) → Option (List UInt8)
  | body, [] => some body
  | body, some chunk :: chunks =>
      if maximum < body.length + chunk.length then none else readBoundedBody maximum (body ++ chunk) chunks
  | _, none :: _ => none

structure Reported where
  outcome : DeliveryOutcome
  detail : Json

def injectRoutingKey (parse : List UInt8 → Option Json) (retained : List UInt8) (routingKey : String) :
    Except String Json :=
  match parse retained with
  | some (.object members) => .ok (.object (setMember members "routing_key" (.string routingKey)))
  | _ => .error "retained PagerDuty event is not an object"

def optionalMember (key : String) : Option Json → List (String × Json)
  | some value => [(key, value)]
  | none => []

def errorTexts (errors : List Json) : List String :=
  (errors.filterMap fun error => match error with
    | .string text => some text
    | _ => none).take 5

/-- What is kept of a parsed body. -/
def responseMembers (routingKey : String) (body : Json) : List (String × Json) :=
  let redact := fun text => Json.string (redactDestinationText text routingKey)
  optionalMember "pagerduty_status" ((stringMember body "status").map redact) ++
  optionalMember "pagerduty_message" ((stringMember body "message").map redact) ++
  match body.get "errors" with
  | some (.array errors) => [("pagerduty_errors", .array ((errorTexts errors).map redact))]
  | _ => []

def pagerdutyOutcome (status : Nat) (pagerdutyStatus : Option String) : DeliveryOutcome × Option String × Option String :=
  if status = 202 ∧ pagerdutyStatus = some "success" then (.accepted, none, none)
  else if 200 ≤ status ∧ status ≤ 299 then (.unknown, some "success_not_confirmed", some "resubmit_safe")
  else if status = 429 then (.failed, some "rate_limited", some "retryable")
  else if 500 ≤ status ∧ status ≤ 599 then (.failed, some "server_error", some "retryable")
  else if 400 ≤ status ∧ status ≤ 499 then (.failed, some "rejected", some "permanent")
  else (.failed, some "unexpected_status", some "permanent")

def reportedReason (outcome : DeliveryOutcome) (reason retryClass : String) : Reported where
  outcome := outcome
  detail := .object [("reason", .string reason), ("retry_class", .string retryClass)]

/-- `pagerduty_post`, given how the request ended. -/
def pagerdutyPost (parse : List UInt8 → Option Json) (routingKey : String) (retained : List UInt8)
    (maxResponseBytes : Nat) (exchange : Exchange) : Except String Reported := do
  let _ ← injectRoutingKey parse retained routingKey
  match exchange with
  | .connectFailed => return reportedReason .failed "connect_failed" "retryable"
  | .timedOut => return reportedReason .unknown "timeout_after_dispatch" "resubmit_safe"
  | .lost => return reportedReason .unknown "transport_error_or_response_loss" "resubmit_safe"
  | .responded status chunks =>
      let parsed := (readBoundedBody maxResponseBytes [] chunks).bind parse
      let (outcome, reason, retryClass) := pagerdutyOutcome status.toNat (parsed.bind fun body => stringMember body "status")
      let members := match parsed with
        | some body => responseMembers routingKey body
        | none => [("response_body", Json.string "unparsed_or_over_limit")]
      return {
        outcome
        detail := .object (("http_status", .integer status.toNat) :: members ++
          optionalMember "reason" (reason.map .string) ++ optionalMember "retry_class" (retryClass.map .string)) }

/-! ## The loop over the characters -/

abbrev ShortRuns (text : List Char) : Prop := RunsBelow Char.isAlphanum 32 text

/-- What is written out ends where no run can be continued. -/
def Redaction.Separate (redaction : Redaction) : Prop :=
  ∀ run, ShortRuns run → ShortRuns (redaction.output ++ run)

variable {redaction : Redaction}

theorem Redaction.Separate.flush (separate : redaction.Separate) :
    ShortRuns redaction.flush.output := by
  apply separate
  by_cases long : 32 ≤ redaction.run.length
  · rw [if_pos long]
    decide
  · rw [if_neg long]
    exact .of_length (Nat.lt_of_not_le long)

theorem Redaction.Separate.push (separate : redaction.Separate) (character : Char) :
    (redaction.push character).Separate := by
  unfold Redaction.push
  by_cases inRun : character.isAlphanum = true
  · rw [if_pos inRun]
    exact separate
  · rw [if_neg inRun]
    intro run short
    rw [List.append_assoc, List.singleton_append]
    exact (runsBelow_separated (Bool.eq_false_iff.mpr inRun)).mpr ⟨separate.flush, short⟩

theorem Redaction.Separate.foldl (separate : redaction.Separate) (text : List Char) :
    (text.foldl Redaction.push redaction).Separate := by
  induction text generalizing redaction with
  | nil => exact separate
  | cons character text ih => exact ih (separate.push character)

theorem redactDestinationText_short (text routingKey : String) :
    ShortRuns (redactDestinationText text routingKey).toList := by
  unfold redactDestinationText
  rw [String.toList_ofList]
  have start : Redaction.Separate {} := fun run short => short
  exact (start.foldl _).flush.of_part (List.take_prefix ..).isInfix

theorem redactDestinationText_length (text routingKey : String) :
    (redactDestinationText text routingKey).toList.length ≤ 256 := by
  unfold redactDestinationText
  rw [String.toList_ofList]
  exact List.length_take_le ..

/-! ## Texts that are kept as they are -/

variable {text : List Char}

theorem replaceAll_of_absent {needle : List Char} (replacement : List Char) (absent : ¬ needle <:+: text) :
    replaceAll needle replacement 0 text = text := by
  induction text with
  | nil => rfl
  | cons character text ih =>
      have unmatched : ¬ needle.isPrefixOf (character :: text) = true := by
        rw [List.isPrefixOf_iff_prefix]
        exact fun starts => absent starts.isInfix
      rw [replaceAll, if_neg unmatched, ih fun later => absent (List.infix_cons later)]

theorem flush_of_short (runs : redaction.run.all Char.isAlphanum = true) (short : ShortRuns (redaction.run ++ text)) :
    redaction.flush.output = redaction.output ++ redaction.run := by
  have below := short redaction.run (List.prefix_append ..).isInfix runs
  rw [Redaction.flush, if_neg (Nat.not_le.mpr below)]

/-- Nothing of the rest is lost while its runs, the open one included, are short. -/
theorem foldl_push_of_short (runs : redaction.run.all Char.isAlphanum = true)
    (short : ShortRuns (redaction.run ++ text)) :
    (text.foldl Redaction.push redaction).flush.output = redaction.output ++ redaction.run ++ text := by
  have flushed := flush_of_short runs short
  induction text generalizing redaction with
  | nil => simpa using flushed
  | cons character text ih =>
      rw [List.foldl_cons]
      by_cases inRun : character.isAlphanum = true
      · have longer : redaction.push character = { redaction with run := redaction.run ++ [character] } := if_pos inRun
        have shortRun : ShortRuns (redaction.run ++ [character] ++ text) := by simpa using short
        have allRun : (redaction.run ++ [character]).all Char.isAlphanum = true := by simp [runs, inRun]
        rw [longer]
        refine (ih allRun shortRun (flush_of_short allRun shortRun)).trans ?_
        simp
      · have written : redaction.push character = { output := redaction.output ++ redaction.run ++ [character] } := by
          rw [Redaction.push, if_neg inRun, flushed]
        have rest : ShortRuns ([] ++ text) := ((runsBelow_separated (Bool.eq_false_iff.mpr inRun)).mp short).2
        rw [written]
        refine (ih rfl rest (flush_of_short rfl rest)).trans ?_
        simp

variable {routingKey : String}

theorem redactDestinationText_of_short {text : String} (key : routingKey.toList.all Char.isAlphanum = true)
    (long : 32 ≤ routingKey.toList.length) (bounded : text.toList.length ≤ 256)
    (plain : text.toList.all (fun character => !isControl character) = true) (short : ShortRuns text.toList) :
    redactDestinationText text routingKey = text := by
  have absent : ¬ routingKey.toList <:+: text.toList := by
    intro within
    have below := short _ within key
    omega
  have replaced : (if routingKey.isEmpty = true then text.toList
      else replaceAll routingKey.toList redacted 0 text.toList) = text.toList := by
    rw [replaceAll_of_absent redacted absent, ite_self]
  have start : (({} : Redaction).run).all Char.isAlphanum = true := rfl
  unfold redactDestinationText
  simp only [replaced, List.filter_eq_self.mpr (List.all_eq_true.mp plain)]
  rw [show (text.toList.foldl Redaction.push {}).flush.output = text.toList from foldl_push_of_short start short,
    List.take_of_length_le bounded, String.ofList_toList]

/-! ## The routing key -/

theorem toLower_cases (character : Char) :
    character.toLower = character ∨ character.isAlpha = true ∧ character.toLower.isAlpha = true := by
  unfold Char.toLower
  split
  · rename_i upper
    refine .inr ⟨?_, ?_⟩
    · have isUpper : character.isUpper = true := decide_eq_true upper
      exact Bool.or_eq_true_iff.mpr (.inl isUpper)
    · have low : 65 ≤ character.val.toNat := upper.1
      have high : character.val.toNat ≤ 90 := upper.2
      have moved : (character.val + ('a'.val - 'A'.val)).toNat = character.val.toNat + 32 := by
        have offset : ('a'.val - 'A'.val).toNat = 32 := by decide
        rw [UInt32.toNat_add, offset]
        exact Nat.mod_eq_of_lt (by omega)
      refine Bool.or_eq_true_iff.mpr (.inr (Bool.and_eq_true_iff.mpr ⟨decide_eq_true ?_, decide_eq_true ?_⟩))
      all_goals
        simp only [UInt32.le_iff_toNat_le, ge_iff_le, moved]
      · exact show 97 ≤ _ by omega
      · exact show _ ≤ 122 by omega
  · exact .inl rfl

theorem isAlphanum_toLower (character : Char) : character.toLower.isAlphanum = character.isAlphanum := by
  rcases toLower_cases character with same | ⟨alpha, lowered⟩
  · rw [same]
  · rw [Char.isAlphanum, Char.isAlphanum, alpha, lowered, Bool.true_or, Bool.true_or]

theorem utf8Size_of_isAlphanum {character : Char} (alphanum : character.isAlphanum = true) :
    character.utf8Size = 1 := by
  rw [Char.utf8Size_eq_one_iff, UInt32.le_iff_toNat_le]
  change _ ≤ 127
  rcases Bool.or_eq_true_iff.mp alphanum with alpha | digit
  · rcases Bool.or_eq_true_iff.mp alpha with upper | lower
    · have bound : character.val ≤ 'Z'.val := (of_decide_eq_true upper).2
      exact le_trans (UInt32.le_iff_toNat_le.mp bound) (by decide)
    · have bound : character.val ≤ 'z'.val := of_decide_eq_true (Bool.and_eq_true_iff.mp lower).2
      exact le_trans (UInt32.le_iff_toNat_le.mp bound) (by decide)
  · have bound : character.val ≤ '9'.val := of_decide_eq_true (Bool.and_eq_true_iff.mp digit).2
    exact le_trans (UInt32.le_iff_toNat_le.mp bound) (by decide)

theorem validRoutingKey_run {key : String} (valid : validRoutingKey key = true) :
    key.toList.length = 32 ∧ key.toList.all Char.isAlphanum = true := by
  rw [validRoutingKey, Bool.and_eq_true, beq_iff_eq, List.all_eq_true] at valid
  have alphanum : ∀ character ∈ key.toList, character.isAlphanum = true := by
    intro character member
    have hexadecimal := valid.2 character member
    rw [Bool.or_eq_true, Bool.and_eq_true] at hexadecimal
    rcases hexadecimal with digit | ⟨lower, -⟩
    · rw [Char.isAlphanum, digit, Bool.or_true]
    · have alpha : character.toLower.isAlpha = true := Bool.or_eq_true_iff.mpr (.inr lower)
      rw [← isAlphanum_toLower, Char.isAlphanum, alpha, Bool.true_or]
  refine ⟨?_, List.all_eq_true.mpr alphanum⟩
  have encoded : (key.toList.flatMap String.utf8EncodeChar).length = key.utf8ByteSize := by
    rw [← List.size_toByteArray]
    change (List.utf8Encode key.toList).size = _
    rw [String.utf8Encode_toList]
    rfl
  have single : ∀ character ∈ key.toList, (String.utf8EncodeChar character).length = 1 := by
    intro character member
    rw [String.length_utf8EncodeChar, utf8Size_of_isAlphanum (alphanum character member)]
  rw [← valid.1, ← encoded, List.length_flatMap, List.map_congr_left single]
  simp

/-- The text is bounded and holds neither the key in any letter case nor a run that long. -/
structure Clean (routingKey text : String) : Prop where
  bounded : text.toList.length ≤ 256
  short : ShortRuns text.toList
  keyless : ∀ part, part <:+: text.toList → part.map Char.toLower ≠ routingKey.toList.map Char.toLower

theorem Clean.of_short {text : String} (valid : validRoutingKey routingKey = true)
    (bounded : text.toList.length ≤ 256) (short : ShortRuns text.toList) : Clean routingKey text := by
  refine ⟨bounded, short, fun part within same => ?_⟩
  obtain ⟨length, alphanum⟩ := validRoutingKey_run valid
  have partLength : part.length = 32 := by
    rw [← List.length_map Char.toLower, same, List.length_map, length]
  have partRun : part.all Char.isAlphanum = true := by
    rw [List.all_eq_true]
    intro character member
    have lowered : character.toLower ∈ routingKey.toList.map Char.toLower := same ▸ List.mem_map_of_mem member
    obtain ⟨other, otherMember, equal⟩ := List.mem_map.mp lowered
    rw [← isAlphanum_toLower, ← equal, isAlphanum_toLower]
    exact List.all_eq_true.mp alphanum other otherMember
  have below := short part within partRun
  omega

/-! ## What is retained -/

/-- The detail holds the redacted status, message and first errors of the answer. -/
structure Retains (routingKey : String) (body detail : Json) : Prop where
  status : detail.get "pagerduty_status" =
    (stringMember body "status").map fun text => .string (redactDestinationText text routingKey)
  message : detail.get "pagerduty_message" =
    (stringMember body "message").map fun text => .string (redactDestinationText text routingKey)
  errors : ∀ errors, body.get "errors" = some (.array errors) →
    detail.get "pagerduty_errors" =
      some (.array ((errorTexts errors).map fun text => .string (redactDestinationText text routingKey)))

theorem get_append (left right : List (String × Json)) (key : String) :
    (Json.object (left ++ right)).get key = ((Json.object right).get key).or ((Json.object left).get key) := by
  simp [Json.get, List.find?_append, Option.map_or]

theorem get_nil (key : String) : (Json.object []).get key = none := rfl

theorem get_cons (name : String) (value : Json) (members : List (String × Json)) (key : String) :
    (Json.object ((name, value) :: members)).get key =
      ((Json.object members).get key).or (if name = key then some value else none) := by
  rw [← List.singleton_append, get_append]
  by_cases same : name = key <;> simp [Json.get, same]

theorem get_optionalMember (name : String) (value : Option Json) (key : String) :
    (Json.object (optionalMember name value)).get key = if name = key then value else none := by
  cases value with
  | none => simp [optionalMember, get_nil]
  | some value => simp [optionalMember, get_cons, get_nil]

theorem pagerdutyPost_retains {parse : List UInt8 → Option Json} {retained : List UInt8} {maxResponseBytes : Nat}
    {status : UInt16} {chunks : List (Option (List UInt8))} {body : Json} {reported : Reported}
    (answered : (readBoundedBody maxResponseBytes [] chunks).bind parse = some body)
    (posted : pagerdutyPost parse routingKey retained maxResponseBytes (.responded status chunks) = .ok reported) :
    Retains routingKey body reported.detail := by
  obtain ⟨_, -, posted⟩ := bind_eq_ok.mp posted
  simp only [answered] at posted
  cases posted
  constructor
  · unfold responseMembers
    split <;> simp [get_cons, get_append, get_optionalMember]
  · unfold responseMembers
    split <;> simp [get_cons, get_append, get_optionalMember]
  · intro errors listed
    simp [responseMembers, listed, get_cons, get_append, get_optionalMember]

mutual

/-- Every text of a document, member names included. -/
def jsonTexts : Json → List String
  | .string text => [text]
  | .array items => itemTexts items
  | .object members => memberTexts members
  | _ => []

def itemTexts : List Json → List String
  | [] => []
  | item :: items => jsonTexts item ++ itemTexts items

def memberTexts : List (String × Json) → List String
  | [] => []
  | (key, value) :: members => key :: jsonTexts value ++ memberTexts members

end

theorem memberTexts_append (left right : List (String × Json)) :
    memberTexts (left ++ right) = memberTexts left ++ memberTexts right := by
  induction left with
  | nil => rfl
  | cons member left ih => simp [memberTexts, ih]

theorem itemTexts_strings {α : Type} (items : List α) (text : α → String) :
    itemTexts (items.map fun item => .string (text item)) = items.map text := by
  induction items with
  | nil => rfl
  | cons item items ih => simp [itemTexts, jsonTexts, ih]

theorem Clean.of_redacted (valid : validRoutingKey routingKey = true) (text : String) :
    Clean routingKey (redactDestinationText text routingKey) :=
  .of_short valid (redactDestinationText_length text routingKey) (redactDestinationText_short text routingKey)

/-- The member names and the reasons, which are fixed. -/
def fixedTexts : List String :=
  ["http_status", "response_body", "pagerduty_status", "pagerduty_message", "pagerduty_errors", "reason", "retry_class",
    "unparsed_or_over_limit", "connect_failed", "timeout_after_dispatch", "transport_error_or_response_loss",
    "success_not_confirmed", "rate_limited", "server_error", "rejected", "unexpected_status", "retryable",
    "resubmit_safe", "permanent"]

section Retained

variable {routingKey : String} (valid : validRoutingKey routingKey = true)

include valid

theorem Clean.of_fixed {text : String} (fixed : text ∈ fixedTexts) : Clean routingKey text := by
  have short : ∀ text ∈ fixedTexts, text.toList.length ≤ 256 ∧ ShortRuns text.toList :=
    List.forall_iff_forall_mem.mp (by decide)
  exact .of_short valid (short text fixed).1 (short text fixed).2

theorem optionalMember_clean {key : String} (fixed : key ∈ fixedTexts) (value : Option String)
    (clean : ∀ text, value = some text → Clean routingKey text) :
    ∀ text ∈ memberTexts (optionalMember key (value.map .string)), Clean routingKey text := by
  cases value with
  | none => simp [optionalMember, memberTexts]
  | some value =>
      simp only [Option.map_some, optionalMember, memberTexts, jsonTexts, List.append_nil, List.forall_mem_cons]
      exact ⟨Clean.of_fixed valid fixed, clean value rfl, by simp⟩

theorem responseMembers_clean (body : Json) :
    ∀ text ∈ memberTexts (responseMembers routingKey body), Clean routingKey text := by
  have redactedMember : ∀ key ∈ fixedTexts, ∀ value : Option String, ∀ text ∈ memberTexts (optionalMember key
      (value.map fun text => Json.string (redactDestinationText text routingKey))), Clean routingKey text := by
    intro key fixed value
    have mapped := optionalMember_clean valid fixed (value.map (redactDestinationText · routingKey)) <| by
      intro text found
      obtain ⟨source, -, rfl⟩ := Option.map_eq_some_iff.mp found
      exact .of_redacted valid source
    rwa [Option.map_map] at mapped
  simp only [responseMembers, memberTexts_append, List.forall_mem_append]
  refine ⟨⟨redactedMember _ (by decide) _, redactedMember _ (by decide) _⟩, ?_⟩
  split
  · simp only [memberTexts, jsonTexts, List.append_nil, List.forall_mem_cons]
    refine ⟨Clean.of_fixed valid (by decide), ?_⟩
    rw [itemTexts_strings, List.forall_mem_map]
    exact fun text _ => .of_redacted valid text
  · simp [memberTexts]

theorem pagerdutyOutcome_clean (status : Nat) (pagerdutyStatus : Option String) :
    (∀ reason, (pagerdutyOutcome status pagerdutyStatus).2.1 = some reason → Clean routingKey reason) ∧
      ∀ retryClass, (pagerdutyOutcome status pagerdutyStatus).2.2 = some retryClass → Clean routingKey retryClass := by
  have fixed : (∀ reason, (pagerdutyOutcome status pagerdutyStatus).2.1 = some reason → reason ∈ fixedTexts) ∧
      ∀ retryClass, (pagerdutyOutcome status pagerdutyStatus).2.2 = some retryClass → retryClass ∈ fixedTexts := by
    unfold pagerdutyOutcome
    repeat' split
    all_goals simp [fixedTexts]
  exact ⟨fun reason found => .of_fixed valid (fixed.1 reason found),
    fun retryClass found => .of_fixed valid (fixed.2 retryClass found)⟩

theorem reportedReason_clean (outcome : DeliveryOutcome) {reason retryClass : String} (reasonFixed : reason ∈ fixedTexts)
    (classFixed : retryClass ∈ fixedTexts) :
    ∀ text ∈ jsonTexts (reportedReason outcome reason retryClass).detail, Clean routingKey text := by
  simp only [reportedReason, jsonTexts, memberTexts, List.append_nil, List.cons_append, List.nil_append,
    List.forall_mem_cons]
  exact ⟨.of_fixed valid (by decide), .of_fixed valid reasonFixed, .of_fixed valid (by decide),
    .of_fixed valid classFixed, by simp⟩

/-- No text that is retained of an exchange holds the key or a run of its shape; the texts
of an answer are retained redacted, and a text that needs no redaction as it is. -/
theorem pagerdutyPost_clean (parse : List UInt8 → Option Json) (retained : List UInt8) (maxResponseBytes : Nat)
    (exchange : Exchange) :
    (∀ reported, pagerdutyPost parse routingKey retained maxResponseBytes exchange = .ok reported →
      ∀ text ∈ jsonTexts reported.detail, Clean routingKey text) ∧
    (∀ status chunks body reported, exchange = .responded status chunks →
      (readBoundedBody maxResponseBytes [] chunks).bind parse = some body →
      pagerdutyPost parse routingKey retained maxResponseBytes exchange = .ok reported →
      Retains routingKey body reported.detail) ∧
    ∀ text : String, text.toList.length ≤ 256 → text.toList.all (fun character => !isControl character) = true →
      ShortRuns text.toList → redactDestinationText text routingKey = text := by
  refine ⟨?_, ?_, ?_⟩
  · intro reported posted
    obtain ⟨_, -, posted⟩ := bind_eq_ok.mp posted
    cases exchange with
    | connectFailed =>
        cases posted
        exact reportedReason_clean valid _ (by decide) (by decide)
    | timedOut =>
        cases posted
        exact reportedReason_clean valid _ (by decide) (by decide)
    | lost =>
        cases posted
        exact reportedReason_clean valid _ (by decide) (by decide)
    | responded status chunks =>
        cases posted
        have outcome := pagerdutyOutcome_clean valid status.toNat
          (((readBoundedBody maxResponseBytes [] chunks).bind parse).bind fun body => stringMember body "status")
        simp only [jsonTexts, memberTexts, memberTexts_append, List.cons_append, List.nil_append, List.forall_mem_cons,
          List.forall_mem_append]
        refine ⟨.of_fixed valid (by decide), ⟨?_, optionalMember_clean valid (by decide) _ outcome.1⟩,
          optionalMember_clean valid (by decide) _ outcome.2⟩
        split
        · exact responseMembers_clean valid _
        · simp only [memberTexts, jsonTexts, List.append_nil, List.forall_mem_cons]
          exact ⟨.of_fixed valid (by decide), .of_fixed valid (by decide), by simp⟩
  · rintro status chunks body reported rfl answered posted
    exact pagerdutyPost_retains answered posted
  · intro text bounded plain short
    obtain ⟨length, key⟩ := validRoutingKey_run valid
    exact redactDestinationText_of_short key length.ge bounded plain short

end Retained

namespace Sample

def heldKey : String := "0123456789abcdefABCDEF0123456789"

/-- An answer that repeats the key, broken by a line, and gives six errors. -/
def answer : Json := .object [("status", .string "invalid event"),
  ("message", .string "key 0123456789abcdef\nABCDEF0123456789 is wrong"),
  ("errors", .array (["1", "2", "3", "4", "5", "6"].map .string))]

/-- The empty body is the event, every other one the answer. -/
def parseAnswer (bytes : List UInt8) : Option Json := if bytes = [] then some (.object []) else some answer

end Sample

open Sample in
theorem pagerdutyPost_clean_echoed : ∃ reported,
    pagerdutyPost parseAnswer heldKey [] 64 (.responded 400 [some [1]]) = .ok reported ∧
    reported.detail.get "pagerduty_message" = some (.string "key <redacted> is wrong") ∧
    reported.detail.get "pagerduty_errors" = some (.array (["1", "2", "3", "4", "5"].map .string)) ∧
    (∀ text ∈ jsonTexts reported.detail, Clean heldKey text) ∧
    redactDestinationText "invalid event" heldKey = "invalid event" := by
  obtain ⟨clean, retains, unchanged⟩ :=
    pagerdutyPost_clean (by decide : validRoutingKey heldKey = true) parseAnswer [] 64 (.responded 400 [some [1]])
  have kept := retains 400 [some [1]] answer _ rfl rfl rfl
  have message : redactDestinationText "key 0123456789abcdef\nABCDEF0123456789 is wrong" heldKey =
      "key <redacted> is wrong" := by decide
  have errors : ["1", "2", "3", "4", "5"].map (redactDestinationText · heldKey) = ["1", "2", "3", "4", "5"] := by
    decide
  exact ⟨_, rfl, kept.message.trans (congrArg (fun text => some (Json.string text)) message),
    (kept.errors _ rfl).trans (congrArg (fun texts => some (Json.array (texts.map .string))) errors), clean _ rfl,
    unchanged "invalid event" (by decide) (by decide) (by decide)⟩

end ConstellationNq.App
