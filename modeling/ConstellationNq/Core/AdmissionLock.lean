import ConstellationNq.Library.Loop
import ConstellationNq.Library.Sorting
import ConstellationNq.Protocol.Canonical
import ConstellationNq.Library.Text
import Mathlib.Data.String.Basic
import Mathlib.Algebra.BigOperators.Group.List.Basic

/-!
# Admission locks on disk

An activated lock is one line of canonical JSON. The writer and the reader bound its size
on different sides of the line feed. Reading JSON, times, hashes and the text of doubles
are parameters.
-/

set_option autoImplicit false

namespace ConstellationNq.Core.Admission

open Library.Loop Library.Sorting
open Protocol (Json Sha256Digest isSha256Digest)
open Library.Text

/-! ## Locks -/

structure ExecutionAccount where
  configured : String
  name : String
  uid : Nat
  gid : Nat
  debugSameIdentity : Bool

/-- `others` are the fields that no check of a lock reads, as they are serialised. -/
structure ExecutionIdentity where
  executionAccount : Option ExecutionAccount
  sha256 : String
  fixedArgv : List String
  others : List (String × Json)

structure AdmittedProfile where
  id : String
  version : Nat
  digest : String

structure ThresholdPolicyInput where
  id : String
  version : String
  digest : Sha256Digest
  value : Json

structure ConformanceReceipt where
  toolVersion : String
  protocolPassed : Bool
  protocolCorpusDigest : String
  protocolFixturesChecked : Nat
  dryCollectionPassed : Bool
  dryReportDigest : Option String

structure OperatorIdentity where
  uid : Nat
  gid : Nat
  loginHint : Option String

/-- The time of admission is in nanoseconds since the epoch. -/
structure AdmissionLock where
  schema : String
  admissionId : String
  instanceId : String
  configDigest : String
  execution : ExecutionIdentity
  profile : AdmittedProfile
  thresholdPolicy : Option ThresholdPolicyInput
  protocolVersion : String
  grantedCapabilities : List String
  conformance : ConformanceReceipt
  admittedAt : Int
  operator : OperatorIdentity

inductive AdmissionError where
  | malformed (instanceId message : String)
deriving DecidableEq

def admissionSchema : String := "nq.admission_lock.v1"

def maxAdmissionLockBytes : Nat := 1048576

/-- What the functions of a lock take from other crates. -/
structure Environment where
  isUuid : String → Bool
  policyBytes : Json → Except String (List UInt8)
  sha256 : List UInt8 → Sha256Digest
  dateText : Int → String
  floatBytes : UInt64 → List UInt8
  floatBytes_line : ∀ bits, 10 ∉ floatBytes bits
  debugAssertions : Bool

variable (environment : Environment)

/-! ## The canonical text -/

def hexByte (digit : Nat) : UInt8 := UInt8.ofNat (if digit < 10 then 48 + digit else 87 + digit)

/-- A byte of a string as `serde_json` writes it. -/
def writeByte (byte : UInt8) : List UInt8 :=
  if byte.toNat = 0x22 then [0x5c, 0x22]
  else if byte.toNat = 0x5c then [0x5c, 0x5c]
  else if byte.toNat = 0x08 then [0x5c, 0x62]
  else if byte.toNat = 0x09 then [0x5c, 0x74]
  else if byte.toNat = 0x0a then [0x5c, 0x6e]
  else if byte.toNat = 0x0c then [0x5c, 0x66]
  else if byte.toNat = 0x0d then [0x5c, 0x72]
  else if byte.toNat < 0x20 then [0x5c, 0x75, 0x30, 0x30, hexByte (byte.toNat / 16), hexByte (byte.toNat % 16)]
  else [byte]

def writeString (text : String) : List UInt8 := 0x22 :: ((utf8Bytes text).flatMap writeByte ++ [0x22])

def joinComma : List (List UInt8) → List UInt8
  | [] => []
  | [item] => item
  | item :: items => item ++ 0x2c :: joinComma items

mutual

/-- `write_canonical_value`. The members of an object are sorted by their keys. -/
def writeCanonicalValue : Json → List UInt8
  | .null => utf8Bytes "null"
  | .bool true => utf8Bytes "true"
  | .bool false => utf8Bytes "false"
  | .integer value => utf8Bytes (toString value)
  | .float bits => environment.floatBytes bits
  | .string text => writeString text
  | .array items => 0x5b :: (joinComma (writeItems items) ++ [0x5d])
  | .object members => 0x7b :: (joinComma ((sortBy Prod.fst (writeMembers members)).map Prod.snd) ++ [0x7d])

def writeItems : List Json → List (List UInt8)
  | [] => []
  | item :: items => writeCanonicalValue item :: writeItems items

def writeMembers : List (String × Json) → List (String × List UInt8)
  | [] => []
  | (key, value) :: members => (key, writeString key ++ 0x3a :: writeCanonicalValue value) :: writeMembers members

end

def optional {α : Type} (write : α → Json) : Option α → Json
  | none => .null
  | some value => write value

def accountValue (account : ExecutionAccount) : Json :=
  .object [("configured", .string account.configured), ("name", .string account.name),
    ("uid", .integer account.uid), ("gid", .integer account.gid),
    ("debug_same_identity", .bool account.debugSameIdentity)]

def executionValue (execution : ExecutionIdentity) : Json :=
  .object (("execution_account", optional accountValue execution.executionAccount) ::
    ("sha256", .string execution.sha256) :: ("fixed_argv", .array (execution.fixedArgv.map .string)) ::
      execution.others)

def profileValue (profile : AdmittedProfile) : Json :=
  .object [("id", .string profile.id), ("version", .integer profile.version), ("digest", .string profile.digest)]

def policyValue (policy : ThresholdPolicyInput) : Json :=
  .object [("id", .string policy.id), ("version", .string policy.version), ("digest", .string policy.digest.text),
    ("value", policy.value)]

def conformanceValue (conformance : ConformanceReceipt) : Json :=
  .object [("tool_version", .string conformance.toolVersion),
    ("protocol_passed", .bool conformance.protocolPassed),
    ("protocol_corpus_digest", .string conformance.protocolCorpusDigest),
    ("protocol_fixtures_checked", .integer conformance.protocolFixturesChecked),
    ("dry_collection_passed", .bool conformance.dryCollectionPassed),
    ("dry_report_digest", optional .string conformance.dryReportDigest)]

def operatorValue (operator : OperatorIdentity) : Json :=
  .object [("uid", .integer operator.uid), ("gid", .integer operator.gid),
    ("login_hint", optional .string operator.loginHint)]

/-- A policy that is absent is left out; every other absent value is null. -/
def lockValue (lock : AdmissionLock) : Json :=
  .object ([("schema", .string lock.schema), ("admission_id", .string lock.admissionId),
      ("instance_id", .string lock.instanceId), ("config_digest", .string lock.configDigest),
      ("execution", executionValue lock.execution), ("profile", profileValue lock.profile)] ++
    (lock.thresholdPolicy.toList.map fun policy => ("threshold_policy", policyValue policy)) ++
    [("protocol_version", .string lock.protocolVersion),
      ("granted_capabilities", .array (lock.grantedCapabilities.map .string)),
      ("conformance", conformanceValue lock.conformance),
      ("admitted_at", .string (environment.dateText lock.admittedAt)),
      ("operator", operatorValue lock.operator)])

def canonicalJson (lock : AdmissionLock) : List UInt8 :=
  writeCanonicalValue environment (lockValue environment lock)

/-! ## Checks -/

def accountPermitted (account : ExecutionAccount) : Bool :=
  account.configured ≠ "" && account.name ≠ "" && account.uid ≠ 0 && account.gid ≠ 0 &&
    (environment.debugAssertions || !account.debugSameIdentity)

def requiredIdentities (lock : AdmissionLock) : Bool :=
  environment.isUuid lock.admissionId && lock.instanceId ≠ "" && lock.profile.id ≠ "" && lock.profile.version ≠ 0 &&
    isSha256Digest lock.configDigest && isSha256Digest lock.profile.digest && isSha256Digest lock.execution.sha256 &&
    lock.execution.executionAccount.any (accountPermitted environment) &&
    isSha256Digest lock.conformance.protocolCorpusDigest && lock.conformance.protocolFixturesChecked ≠ 0 &&
    lock.conformance.dryReportDigest.any isSha256Digest && lock.conformance.toolVersion ≠ "" &&
    lock.conformance.toolVersion.utf8ByteSize ≤ 128

def ThresholdPolicyInput.verifyDigest (policy : ThresholdPolicyInput) : Except String Unit := do
  let bytes ← environment.policyBytes policy.value
  let actual := environment.sha256 bytes
  ensure (actual = policy.digest) ("threshold policy digest mismatch: expected " ++ policy.digest.text ++
    ", observed " ++ actual.text)

def validatePolicy (instanceId : String) (policy : ThresholdPolicyInput) : Except AdmissionError Unit := do
  (policy.verifyDigest environment).mapError (.malformed instanceId)
  let bytes ← (environment.policyBytes policy.value).mapError (.malformed instanceId)
  ensure (policy.id ≠ "" ∧ policy.id.utf8ByteSize ≤ 255 ∧ policy.version ≠ "" ∧ policy.version.utf8ByteSize ≤ 255 ∧
      bytes.length ≤ 65536)
    (.malformed instanceId "threshold policy identity or canonical bytes exceed admission bounds")

def validateShape (lock : AdmissionLock) : Except AdmissionError Unit := do
  ensure (lock.schema = admissionSchema) (.malformed lock.instanceId ("expected schema " ++ admissionSchema))
  ensure (requiredIdentities environment lock = true) (.malformed lock.instanceId "invalid required identity")
  lock.thresholdPolicy.toList.forM (validatePolicy environment lock.instanceId)
  ensure (lock.conformance.protocolPassed = true ∧ lock.conformance.dryCollectionPassed = true)
    (.malformed lock.instanceId "stored conformance result is not successful")

/-! ## Files -/

def bindingDigest (lock : AdmissionLock) : Except AdmissionError Sha256Digest := do
  validateShape environment lock
  return environment.sha256 (canonicalJson environment lock)

/-- The bytes of the file that takes the lock's place. -/
def activate (lock : AdmissionLock) : Except AdmissionError (List UInt8) := do
  validateShape environment lock
  let bytes := canonicalJson environment lock
  ensure (bytes.length ≤ maxAdmissionLockBytes)
    (.malformed lock.instanceId ("lock exceeds " ++ toString maxAdmissionLockBytes ++ " bytes"))
  return bytes ++ [0x0a]

/-- At most one byte beyond the limit is read; `fromSlice` is `serde_json::from_slice`. -/
def load (fromSlice : List UInt8 → Except String AdmissionLock) (file : List UInt8) : Except AdmissionError AdmissionLock := do
  let bytes := file.take (maxAdmissionLockBytes + 1)
  ensure (bytes.length ≠ 0 ∧ bytes.length ≤ maxAdmissionLockBytes)
    (.malformed "unknown" ("lock length " ++ toString bytes.length ++ " is outside 1..=" ++
      toString maxAdmissionLockBytes ++ " bytes"))
  ensure (bytes.getLast? = some 0x0a ∧ 0x0a ∉ bytes.dropLast)
    (.malformed "unknown" "lock must be one LF-terminated canonical JSON document")
  let lock ← (fromSlice bytes.dropLast).mapError (.malformed "unknown")
  validateShape environment lock
  ensure (canonicalJson environment lock = bytes.dropLast)
    (.malformed lock.instanceId "document is not canonical JSON")
  return lock

/-! ## One line -/

theorem hexByte_ne (digit : Nat) (small : digit < 16) : hexByte digit ≠ 10 := by
  have each : ∀ digit : Fin 16, hexByte digit.val ≠ 10 := by decide
  exact each ⟨digit, small⟩

theorem writeByte_line (byte : UInt8) : 10 ∉ writeByte byte := by
  have small := byte.toNat_lt
  have high := hexByte_ne (byte.toNat / 16) (by omega)
  have low := hexByte_ne (byte.toNat % 16) (by omega)
  by_cases isLine : byte = 10
  · subst isLine
    decide
  · unfold writeByte
    repeat' split
    all_goals simp [Ne.symm isLine, high.symm, low.symm]

theorem writeString_line (text : String) : 10 ∉ writeString text := by
  intro member
  rcases List.mem_cons.mp member with isQuote | member
  · cases isQuote
  · rcases List.mem_append.mp member with member | member
    · obtain ⟨byte, -, written⟩ := List.mem_flatMap.mp member
      exact writeByte_line byte written
    · cases List.mem_singleton.mp member

theorem joinComma_line {items : List (List UInt8)} (lines : ∀ item ∈ items, 10 ∉ item) : 10 ∉ joinComma items := by
  induction items using joinComma.induct with
  | case1 => exact List.not_mem_nil
  | case2 item => exact lines item List.mem_cons_self
  | case3 item items _ ih =>
      rw [joinComma]
      · intro member
        rcases List.mem_append.mp member with member | member
        · exact lines item List.mem_cons_self member
        · rcases List.mem_cons.mp member with isComma | member
          · cases isComma
          · exact ih (fun later inside => lines later (List.mem_cons_of_mem _ inside)) member
      · assumption

theorem digit_line {character : Char} (digit : character.isDigit = true) :
    10 ∉ String.utf8EncodeChar character := by
  have each : ∀ code : Fin 128, (Char.ofNat code.val).isDigit = true →
      10 ∉ String.utf8EncodeChar (Char.ofNat code.val) := by
    decide
  have bound : character.toNat < 128 := by
    simp only [Char.isDigit, Bool.and_eq_true, decide_eq_true_eq] at digit
    have upper := digit.2
    change character.toNat ≤ 57 at upper
    omega
  have same : Char.ofNat character.toNat = character := Char.ofNat_toNat character
  have line := each ⟨character.toNat, bound⟩
  rw [same] at line
  exact line digit

theorem natural_line (number : Nat) : 10 ∉ utf8Bytes number.repr := by
  intro member
  obtain ⟨character, inside, encoded⟩ := List.mem_flatMap.mp member
  rw [Nat.toList_repr] at inside
  exact digit_line (Nat.isDigit_of_mem_toDigits (by decide) (by decide) inside) encoded

theorem integer_line (value : Int) : 10 ∉ utf8Bytes (toString value) := by
  cases value with
  | ofNat number => exact natural_line number
  | negSucc number =>
      intro member
      have split : utf8Bytes (toString (Int.negSucc number)) = utf8Bytes "-" ++ utf8Bytes number.succ.repr := by
        change utf8Bytes ("-" ++ number.succ.repr) = _
        rw [utf8Bytes, utf8Bytes, utf8Bytes, String.toList_append, encodeText_append]
      rw [split] at member
      rcases List.mem_append.mp member with member | member
      · revert member
        decide
      · exact natural_line _ member

mutual

theorem writeCanonicalValue_line : ∀ value : Json, 10 ∉ writeCanonicalValue environment value
  | .null => by simp only [writeCanonicalValue]; decide
  | .bool true => by simp only [writeCanonicalValue]; decide
  | .bool false => by simp only [writeCanonicalValue]; decide
  | .integer value => by simp only [writeCanonicalValue]; exact integer_line value
  | .float bits => by simp only [writeCanonicalValue]; exact environment.floatBytes_line bits
  | .string text => by simp only [writeCanonicalValue]; exact writeString_line text
  | .array items => by
      have line := joinComma_line (writeItems_line items)
      simp [writeCanonicalValue, line]
  | .object members => by
      have line : 10 ∉ joinComma ((sortBy Prod.fst (writeMembers environment members)).map Prod.snd) := by
        refine joinComma_line fun item inside => ?_
        obtain ⟨member, sorted, rfl⟩ := List.mem_map.mp inside
        exact writeMembers_line members member (mem_sortBy.mp sorted)
      simp [writeCanonicalValue, line]

theorem writeItems_line : ∀ items : List Json, ∀ item ∈ writeItems environment items, 10 ∉ item
  | [], _, inside => by simp [writeItems] at inside
  | first :: items, item, inside => by
      rw [writeItems] at inside
      rcases List.mem_cons.mp inside with rfl | inside
      · exact writeCanonicalValue_line first
      · exact writeItems_line items item inside

theorem writeMembers_line : ∀ members : List (String × Json),
    ∀ member ∈ writeMembers environment members, 10 ∉ member.2
  | [], _, inside => by simp [writeMembers] at inside
  | (key, value) :: members, member, inside => by
      rw [writeMembers] at inside
      rcases List.mem_cons.mp inside with rfl | inside
      · have keyLine := writeString_line key
        have valueLine := writeCanonicalValue_line value
        simp [keyLine, valueLine]
      · exact writeMembers_line members member inside

end

/-! ## What the reader accepts -/

variable {environment} {fromSlice : List UInt8 → Except String AdmissionLock} {lock : AdmissionLock}
  {file : List UInt8}

/-- The reader accepts the canonical line of a sound lock that it can read, and nothing else. -/
theorem load_eq_ok_iff : load environment fromSlice file = .ok lock ↔
    file = canonicalJson environment lock ++ [0x0a] ∧ file.length ≤ maxAdmissionLockBytes ∧
      fromSlice (canonicalJson environment lock) = .ok lock ∧ validateShape environment lock = .ok () := by
  constructor
  · intro loaded
    obtain ⟨sized, loaded⟩ := check_bind_eq_ok.mp loaded
    obtain ⟨framed, loaded⟩ := check_bind_eq_ok.mp loaded
    obtain ⟨read, readEq, loaded⟩ := bind_eq_ok.mp loaded
    obtain ⟨shaped, loaded⟩ := check_bind_eq_ok.mp loaded
    obtain ⟨canonical, final⟩ := check_bind_eq_ok.mp loaded
    cases final
    have within := (ensure_eq_ok.mp sized).2
    have bounded : file.length ≤ maxAdmissionLockBytes := by
      rw [List.length_take] at within
      omega
    have whole : file.take (maxAdmissionLockBytes + 1) = file := List.take_of_length_le (by omega)
    rw [whole] at framed readEq canonical
    have isCanonical := ensure_eq_ok.mp canonical
    have line := List.dropLast_append_getLast? 0x0a (ensure_eq_ok.mp framed).1
    rw [← isCanonical] at line readEq
    exact ⟨line.symm, bounded, mapError_eq_ok.mp readEq, shaped⟩
  · rintro ⟨isLine, bounded, read, shaped⟩
    have whole : file.take (maxAdmissionLockBytes + 1) = file := List.take_of_length_le (by omega)
    have dropped : file.dropLast = canonicalJson environment lock := by
      rw [isLine, List.dropLast_concat]
    have ended : file.getLast? = some 0x0a := by
      rw [isLine, List.getLast?_concat]
    have nonempty : file.length ≠ 0 := by
      rw [isLine]
      simp
    unfold load
    rw [whole]
    refine check_bind_eq_ok.mpr ⟨ensure_eq_ok.mpr ⟨nonempty, bounded⟩, ?_⟩
    refine check_bind_eq_ok.mpr ⟨ensure_eq_ok.mpr ⟨ended, ?_⟩, ?_⟩
    · rw [dropped]
      exact writeCanonicalValue_line environment _
    rw [dropped]
    refine bind_eq_ok.mpr ⟨lock, mapError_eq_ok.mpr read, ?_⟩
    refine check_bind_eq_ok.mpr ⟨shaped, ?_⟩
    exact check_bind_eq_ok.mpr ⟨ensure_eq_ok.mpr rfl, rfl⟩

theorem activate_eq_ok_iff : activate environment lock = .ok file ↔
    validateShape environment lock = .ok () ∧ (canonicalJson environment lock).length ≤ maxAdmissionLockBytes ∧
      file = canonicalJson environment lock ++ [0x0a] := by
  constructor
  · intro activated
    obtain ⟨shaped, activated⟩ := check_bind_eq_ok.mp activated
    obtain ⟨bounded, rfl⟩ := ensure_pure_eq_ok.mp activated
    exact ⟨shaped, bounded, rfl⟩
  · rintro ⟨shaped, bounded, rfl⟩
    exact check_bind_eq_ok.mpr ⟨shaped, ensure_pure_eq_ok.mpr ⟨bounded, rfl⟩⟩

def LoadsBack (environment : Environment) (fromSlice : List UInt8 → Except String AdmissionLock)
    (lock : AdmissionLock) (file : List UInt8) : Prop :=
  (∃ loaded, load environment fromSlice file = .ok loaded ∧ loaded = lock ∧
    bindingDigest environment loaded = bindingDigest environment lock) ∧
      ∀ other, load environment fromSlice other = .ok lock ↔ other = file

theorem activated_loads_back_iff (roundTrips : fromSlice (canonicalJson environment lock) = .ok lock)
    (activated : activate environment lock = .ok file) :
    LoadsBack environment fromSlice lock file ↔ (canonicalJson environment lock).length < maxAdmissionLockBytes := by
  obtain ⟨shaped, -, isLine⟩ := activate_eq_ok_iff.mp activated
  have size : file.length = (canonicalJson environment lock).length + 1 := by
    rw [isLine, List.length_append, List.length_singleton]
  constructor
  · rintro ⟨⟨loaded, isLoaded, rfl, -⟩, -⟩
    have bounded := (load_eq_ok_iff.mp isLoaded).2.1
    omega
  · intro fits
    have isLoaded : load environment fromSlice file = .ok lock :=
      load_eq_ok_iff.mpr ⟨isLine, by omega, roundTrips, shaped⟩
    refine ⟨⟨lock, isLoaded, rfl, rfl⟩, fun other => ?_⟩
    constructor
    · intro otherLoaded
      rw [(load_eq_ok_iff.mp otherLoaded).1, isLine]
    · rintro rfl
      exact isLoaded

/-! ## A lock of the largest size -/

def zeroDigest : String := "sha256:0000000000000000000000000000000000000000000000000000000000000000"

/-- The startup of a statically linked helper. -/
def exampleRuntime : Json :=
  .object [("native_objects", .array [.object [("role", .string "root"), ("requester_path", .string "/opt/nq/disk"),
      ("machine", .string "x86_64"), ("linkage", .string "static"), ("loader", .null), ("objects", .array []),
      ("virtual_objects", .array [])]]),
    ("artifacts", .array []), ("directories", .array [])]

/-- A lock of an account `nq` whose helper takes the arguments. -/
def exampleLock (arguments : List String) : AdmissionLock where
  schema := admissionSchema
  admissionId := "6f1c1f2e-0000-4000-8000-000000000001"
  instanceId := "disk"
  configDigest := zeroDigest
  execution := {
    executionAccount := some { configured := "nq", name := "nq", uid := 1, gid := 1, debugSameIdentity := false }
    sha256 := zeroDigest
    fixedArgv := arguments
    others := [("configured_path", .string "/opt/nq/disk"), ("resolved_path", .string "/opt/nq/disk"),
      ("size", .integer 4096), ("device", .integer 1), ("inode", .integer 2), ("mode", .integer 493),
      ("modified_ns", .string "0"), ("working_directory", .null), ("working_directory_identity", .null),
      ("execution_chain", .array []), ("startup_runtime", exampleRuntime)] }
  profile := { id := "disk", version := 1, digest := zeroDigest }
  thresholdPolicy := none
  protocolVersion := "nq.helper.v1"
  grantedCapabilities := []
  conformance := {
    toolVersion := "1"
    protocolPassed := true
    protocolCorpusDigest := zeroDigest
    protocolFixturesChecked := 1
    dryCollectionPassed := true
    dryReportDigest := some zeroDigest }
  admittedAt := 0
  operator := { uid := 0, gid := 0, loginHint := none }

def exampleEnvironment : Environment where
  isUuid := fun text => text == "6f1c1f2e-0000-4000-8000-000000000001"
  policyBytes := fun _ => .ok []
  sha256 := fun _ => ⟨zeroDigest, by decide +kernel⟩
  dateText := fun _ => "1970-01-01T00:00:00Z"
  floatBytes := fun _ => []
  floatBytes_line := fun _ => List.not_mem_nil
  debugAssertions := false

theorem length_joinComma (items : List (List UInt8)) :
    (joinComma items).length = (items.map List.length).sum + (items.length - 1) := by
  induction items using joinComma.induct with
  | case1 => rfl
  | case2 item => simp [joinComma]
  | case3 item items nonempty ih =>
      have positive : 0 < items.length := List.length_pos_iff.mpr fun isNil => nonempty isNil
      rw [joinComma]
      · rw [List.length_append, List.length_cons, ih, List.map_cons, List.sum_cons, List.length_cons]
        omega
      · exact nonempty

variable (environment) in
mutual

/-- The length of the canonical text, for which the order of the members is nothing. -/
def valueLength : Json → Nat
  | .array items => (itemLengths items).sum + ((itemLengths items).length - 1) + 2
  | .object members => (memberLengths members).sum + ((memberLengths members).length - 1) + 2
  | value => (writeCanonicalValue environment value).length

def itemLengths : List Json → List Nat
  | [] => []
  | item :: items => valueLength item :: itemLengths items

def memberLengths : List (String × Json) → List Nat
  | [] => []
  | (key, value) :: members => ((writeString key).length + (valueLength value + 1)) :: memberLengths members

end

mutual

theorem length_writeCanonicalValue : ∀ value : Json,
    (writeCanonicalValue environment value).length = valueLength environment value
  | .null => by rw [valueLength] <;> simp
  | .bool _ => by rw [valueLength] <;> simp
  | .integer _ => by rw [valueLength] <;> simp
  | .float _ => by rw [valueLength] <;> simp
  | .string _ => by rw [valueLength] <;> simp
  | .array items => by
      rw [writeCanonicalValue, valueLength, List.length_cons, List.length_append, length_joinComma,
        map_length_writeItems items, ← map_length_writeItems items, List.length_map]
      rfl
  | .object members => by
      have perm := sortBy_perm Prod.fst (writeMembers environment members)
      rw [writeCanonicalValue, valueLength, List.length_cons, List.length_append, length_joinComma, List.map_map,
        (perm.map (List.length ∘ Prod.snd)).sum_eq, List.length_map, perm.length_eq,
        ← map_length_writeMembers members, List.length_map]
      rfl

theorem map_length_writeItems : ∀ items : List Json,
    (writeItems environment items).map List.length = itemLengths environment items
  | [] => by rw [writeItems, itemLengths, List.map_nil]
  | item :: items => by
      rw [writeItems, itemLengths, List.map_cons, length_writeCanonicalValue item, map_length_writeItems items]

theorem map_length_writeMembers : ∀ members : List (String × Json),
    (writeMembers environment members).map (List.length ∘ Prod.snd) = memberLengths environment members
  | [] => by rw [writeMembers, memberLengths, List.map_nil]
  | (key, value) :: members => by
      rw [writeMembers, memberLengths, List.map_cons, map_length_writeMembers members]
      simp only [Function.comp_apply, List.length_append, List.length_cons, length_writeCanonicalValue value]

end

theorem memberLengths_append (first second : List (String × Json)) :
    memberLengths environment (first ++ second) = memberLengths environment first ++ memberLengths environment second := by
  induction first with
  | nil => rw [List.nil_append, memberLengths, List.nil_append]
  | cons member first ih => rw [List.cons_append, memberLengths, memberLengths, ih, List.cons_append]

theorem lockLength_execution (lock : AdmissionLock) (execution : ExecutionIdentity) :
    valueLength environment (lockValue environment { lock with execution := execution }) +
        valueLength environment (executionValue lock.execution) =
      valueLength environment (lockValue environment lock) + valueLength environment (executionValue execution) := by
  simp only [lockValue, valueLength, memberLengths_append, memberLengths, List.sum_append, List.sum_cons, List.sum_nil,
    List.length_append, List.length_cons, List.length_nil]
  omega

def writtenLengths (arguments : List String) : Nat :=
  (arguments.map fun argument => (writeString argument).length).sum + (arguments.length - 1)

theorem length_itemLengths (arguments : List String) :
    itemLengths environment (arguments.map .string) = arguments.map fun argument => (writeString argument).length := by
  induction arguments with
  | nil => rw [List.map_nil, itemLengths, List.map_nil]
  | cons argument arguments ih => rw [List.map_cons, itemLengths, ih, valueLength, writeCanonicalValue, List.map_cons] <;> simp

theorem executionLength_arguments (execution : ExecutionIdentity) (arguments : List String) :
    valueLength environment (executionValue { execution with fixedArgv := arguments }) =
      valueLength environment (executionValue { execution with fixedArgv := [] }) + writtenLengths arguments := by
  simp only [executionValue, valueLength, memberLengths, length_itemLengths, itemLengths, List.sum_cons, List.length_cons,
    List.length_map, List.map_nil, List.sum_nil, List.length_nil, writtenLengths]
  omega

def exampleBase : Nat := valueLength exampleEnvironment (lockValue exampleEnvironment (exampleLock []))

theorem exampleBase_eq : exampleBase = 1391 := by
  have digest : (writeString zeroDigest).length = 73 := by decide +kernel
  simp only [exampleBase, lockValue, exampleLock, exampleRuntime, executionValue, profileValue, conformanceValue, optional,
    valueLength, memberLengths, memberLengths_append, writeCanonicalValue, digest]
  decide +kernel

theorem length_exampleLock (arguments : List String) :
    (canonicalJson exampleEnvironment (exampleLock arguments)).length = exampleBase + writtenLengths arguments := by
  have execution : valueLength exampleEnvironment (executionValue (exampleLock arguments).execution) =
      valueLength exampleEnvironment (executionValue (exampleLock []).execution) + writtenLengths arguments :=
    executionLength_arguments (exampleLock []).execution arguments
  have grown : valueLength exampleEnvironment (lockValue exampleEnvironment (exampleLock arguments)) +
      valueLength exampleEnvironment (executionValue (exampleLock []).execution) =
        valueLength exampleEnvironment (lockValue exampleEnvironment (exampleLock [])) +
          valueLength exampleEnvironment (executionValue (exampleLock arguments).execution) :=
    lockLength_execution (exampleLock []) (exampleLock arguments).execution
  rw [canonicalJson, length_writeCanonicalValue, exampleBase]
  omega

/-- A quotation mark is written as two bytes. -/
def quotes (count : Nat) : String := String.ofList (List.replicate count '"')

theorem utf8Bytes_quotes (count : Nat) : utf8Bytes (quotes count) = List.replicate count 34 := by
  rw [utf8Bytes, quotes, String.toList_ofList, encodeText_ascii, List.map_replicate]
  · rfl
  · intro character member
    rw [(List.mem_replicate.mp member).2]
    decide

theorem length_quotes (count : Nat) : (writeString (quotes count)).length = 2 * count + 2 := by
  have twice : (writeByte 34).length = 2 := rfl
  rw [writeString, utf8Bytes_quotes, List.length_cons, List.length_append, List.length_flatMap, List.map_replicate,
    List.sum_replicate_nat, twice, List.length_singleton, Nat.mul_comm]

/-- As many and, but for the last one, as long arguments as a configuration may give. -/
def longestArguments : List String := List.replicate 127 (quotes 4096) ++ [quotes 3209]

theorem longestArguments_configurable :
    longestArguments.length ≤ 128 ∧ ∀ argument ∈ longestArguments, (utf8Bytes argument).length ≤ 4096 := by
  refine ⟨by simp [longestArguments], fun argument member => ?_⟩
  rcases List.mem_append.mp member with member | member
  · rw [(List.mem_replicate.mp member).2, utf8Bytes_quotes, List.length_replicate]
  · rw [List.mem_singleton.mp member, utf8Bytes_quotes, List.length_replicate]
    decide

theorem writtenLengths_quotes (count size last : Nat) :
    writtenLengths (List.replicate count (quotes size) ++ [quotes last]) =
      count * (2 * size + 2) + (2 * last + 2) + count := by
  simp only [writtenLengths, List.map_append, List.map_replicate, List.map_cons, List.map_nil, List.sum_append,
    List.sum_replicate_nat, List.sum_cons, List.sum_nil, length_quotes, List.length_append, List.length_replicate,
    List.length_cons, List.length_nil]
  omega

theorem length_longestLock :
    (canonicalJson exampleEnvironment (exampleLock longestArguments)).length = maxAdmissionLockBytes := by
  rw [length_exampleLock, longestArguments, writtenLengths_quotes, exampleBase_eq, maxAdmissionLockBytes]

theorem validateShape_exampleLock (arguments : List String) :
    validateShape exampleEnvironment (exampleLock arguments) = .ok () := by
  have digest : isSha256Digest zeroDigest = true := by decide +kernel
  have identities : requiredIdentities exampleEnvironment (exampleLock arguments) = true := by
    simp only [requiredIdentities, exampleLock, Option.any_some, digest]
    rfl
  refine check_bind_eq_ok.mpr ⟨ensure_eq_ok.mpr rfl, ?_⟩
  refine check_bind_eq_ok.mpr ⟨ensure_eq_ok.mpr identities, ?_⟩
  refine check_bind_eq_ok.mpr ⟨rfl, ?_⟩
  exact ensure_eq_ok.mpr ⟨rfl, rfl⟩

/-- The reader that knows one lock. -/
def readerOf (lock : AdmissionLock) : List UInt8 → Except String AdmissionLock := fun _ => .ok lock

def longestFile : List UInt8 := canonicalJson exampleEnvironment (exampleLock longestArguments) ++ [0x0a]

theorem longestLock_not_loaded :
    (longestArguments.length ≤ 128 ∧ ∀ argument ∈ longestArguments, (utf8Bytes argument).length ≤ 4096) ∧
    activate exampleEnvironment (exampleLock longestArguments) = .ok longestFile ∧
      load exampleEnvironment (readerOf (exampleLock longestArguments)) longestFile =
        .error (.malformed "unknown" "lock length 1048577 is outside 1..=1048576 bytes") := by
  have size : longestFile.length = maxAdmissionLockBytes + 1 := by
    rw [longestFile, List.length_append, length_longestLock, List.length_singleton]
  have whole : longestFile.take (maxAdmissionLockBytes + 1) = longestFile := List.take_of_length_le (Nat.le_of_eq size)
  have written : "lock length " ++ toString (maxAdmissionLockBytes + 1) ++ " is outside 1..=" ++
      toString maxAdmissionLockBytes ++ " bytes" = "lock length 1048577 is outside 1..=1048576 bytes" := by
    decide +kernel
  refine ⟨longestArguments_configurable,
    activate_eq_ok_iff.mpr ⟨validateShape_exampleLock _, Nat.le_of_eq length_longestLock, rfl⟩, ?_⟩
  have tooLong : ¬ (longestFile.length ≠ 0 ∧ longestFile.length ≤ maxAdmissionLockBytes) := by
    rw [size]
    exact fun within => Nat.not_succ_le_self _ within.2
  unfold load
  rw [whole]
  simp only [ensure, size, written]
  rfl

theorem activated_loads_back_iff_small :
    LoadsBack exampleEnvironment (readerOf (exampleLock ["--all"])) (exampleLock ["--all"])
      (canonicalJson exampleEnvironment (exampleLock ["--all"]) ++ [0x0a]) := by
  have added : writtenLengths ["--all"] = 7 := by decide
  have fits : (canonicalJson exampleEnvironment (exampleLock ["--all"])).length < maxAdmissionLockBytes := by
    rw [length_exampleLock, added, exampleBase_eq]
    decide
  have activated := activate_eq_ok_iff.mpr ⟨validateShape_exampleLock ["--all"], Nat.le_of_lt fits, rfl⟩
  exact (activated_loads_back_iff rfl activated).mpr fits

end ConstellationNq.Core.Admission
