import ConstellationNq.Core.Runner
import ConstellationNq.Library.JsonDocument
import ConstellationNq.Library.Loop
import ConstellationNq.Library.Text

/-!
# Intake of a provider's capture

What becomes of a helper run after it was dispatched: the capture is bound to the attempt
and the record is audited before it is kept. A capture that fails the audit leaves no
record, so it matters which captures pass it. Canonical JSON, SHA-256 and the parser of
responses are parameters.
-/

set_option autoImplicit false

namespace ConstellationNq.Core.Intake

open Library.JsonDocument (hexCharacter hexOf hexOf_hexCharacter)
open Library.Loop Library.Text
open Protocol (Sha256Digest isSha256Digest)

/-- The errors of the source, and its panic on an instant that no date represents. -/
inductive ProviderIntakeError where
  | identity (message : String)
  | canonical (message : String)
  | invariant (message : String)
  | panicked (message : String)
deriving DecidableEq

/-! ## Provider identities -/

structure ConformanceReceipt where
  toolVersion : String
  protocolPassed : Bool
  protocolCorpusDigest : String
  protocolFixturesChecked : UInt16
  dryCollectionPassed : Bool
  dryReportDigest : Option String
deriving DecidableEq

inductive ProviderIdentitySchema where
  | v1
deriving DecidableEq

inductive ProviderKind where
  | localHelper
deriving DecidableEq

structure ProviderIdentity where
  schema : ProviderIdentitySchema
  kind : ProviderKind
  providerSemanticId : Sha256Digest
  providerAdmissionId : Sha256Digest
  sourceAdmissionId : String
  bindingDigest : Sha256Digest
  artifactDigest : Sha256Digest
  executionIdentityDigest : Sha256Digest
  configurationDigest : Sha256Digest
  protocolIdentity : String
  conformanceCorpusDigest : Sha256Digest
  conformanceToolVersion : String
  conformance : ConformanceReceipt
  profileSemanticId : Sha256Digest
  evaluatorArtifactDigest : Sha256Digest
  admissionContextDigest : Sha256Digest
deriving DecidableEq

inductive ProviderIntakeSchema where
  | v1
deriving DecidableEq

inductive RunResourceOutcomeSchema where
  | v1
deriving DecidableEq

/-- What NQ makes of a provider's bytes before any profile sees them. -/
inductive ProviderResponseInterpretation (Response Rejection : Type) where
  | notAvailable
  | protocolRejected (rejection : Rejection)
  | validated (response : Response)

structure ProviderIntakeContext (Request : Type) where
  intakeId : String
  attemptId : String
  runId : String
  request : Request
  provider : ProviderIdentity
  originCarrier : String
  deadlineAt : Int
  checkpointContractDigest : Sha256Digest

/-- The digests of canonical documents, the parser of responses, the texts of the errors of
`hex` and the last instant that a date represents. -/
structure Environment (Request Response Rejection : Type) where
  requestId : Request → String
  requestId_nonempty : ∀ request, requestId request ≠ ""
  requestDigest : Request → Except String Sha256Digest
  contextDigest : ProviderIntakeContext Request → Except String Sha256Digest
  semanticId : String → ConformanceReceipt → Except String Sha256Digest
  idempotencyDigest : Sha256Digest → String → Except String String
  parseResponse : Request → List UInt8 → Except Rejection Response
  isRefusal : Response → Bool
  interpretationBytes : ProviderResponseInterpretation Response Rejection → Except String (List UInt8)
  sha256 : List UInt8 → Sha256Digest
  hexError : String → String
  latest : Int

variable {Request Response Rejection : Type} (environment : Environment Request Response Rejection)

def helperProtocolVersion : String := "nq.helper.v1"

def localProviderSemanticId (protocolIdentity : String) (conformance : ConformanceReceipt) :
    Except String Sha256Digest := do
  ensure (protocolIdentity ≠ "" ∧ protocolIdentity.utf8ByteSize ≤ 128)
    "provider protocol identity must be nonempty and bounded"
  environment.semanticId protocolIdentity conformance

def verifyHistorical (identity : ProviderIdentity) : Except ProviderIntakeError Unit := do
  ensure (identity.schema = .v1 ∧ identity.kind = .localHelper ∧ identity.sourceAdmissionId ≠ "" ∧
      identity.protocolIdentity = helperProtocolVersion ∧ identity.conformanceToolVersion ≠ "" ∧
      identity.conformanceToolVersion = identity.conformance.toolVersion ∧
      identity.conformanceCorpusDigest.text = identity.conformance.protocolCorpusDigest)
    (.identity "provider identity has an unsupported schema, kind, admission, or protocol")
  let expected ← (localProviderSemanticId environment identity.protocolIdentity
    identity.conformance).mapError .canonical
  ensure (identity.providerSemanticId = expected)
    (.identity "provider semantic identity does not match its exact contract preimage")

/-- Only a checked identity authorises a provider. -/
structure VerifiedProvider where
  identity : ProviderIdentity
  verified : verifyHistorical environment identity = .ok ()

/-! ## Attempts -/

/-- The identities of an attempt as they are checked before dispatch. -/
structure ProviderAttempt where
  intakeId : String
  attemptId : String
  runId : String
  request : Request
  provider : VerifiedProvider environment
  originCarrier : String
  deadlineMs : Nat
  checkpointContractDigest : Sha256Digest
  nonempty : intakeId ≠ "" ∧ attemptId ≠ "" ∧ runId ≠ ""
  distinct : intakeId ≠ attemptId ∧ intakeId ≠ runId ∧ intakeId ≠ environment.requestId request ∧
    attemptId ≠ runId ∧ attemptId ≠ environment.requestId request ∧ runId ≠ environment.requestId request
  carrier : originCarrier = "stdio" ∨ originCarrier = "unix"
  deadline : deadlineMs ≠ 0

def ProviderAttempt.new (intakeId attemptId runId : String) (request : Request)
    (provider : VerifiedProvider environment) (originCarrier : String) (deadlineMs : Nat)
    (checkpointContractDigest : String) : Except ProviderIntakeError (ProviderAttempt environment) :=
  if identities : (intakeId ≠ "" ∧ attemptId ≠ "" ∧ runId ≠ "") ∧
      (intakeId ≠ attemptId ∧ intakeId ≠ runId ∧ intakeId ≠ environment.requestId request ∧ attemptId ≠ runId ∧
        attemptId ≠ environment.requestId request ∧ runId ≠ environment.requestId request) then
    if invocation : (originCarrier = "stdio" ∨ originCarrier = "unix") ∧ deadlineMs ≠ 0 then
      if valid : isSha256Digest checkpointContractDigest = true then
        .ok {
          intakeId, attemptId, runId, request, provider, originCarrier, deadlineMs
          checkpointContractDigest := ⟨checkpointContractDigest, valid⟩
          nonempty := identities.1
          distinct := identities.2
          carrier := invocation.1
          deadline := invocation.2 }
      else .error (.identity ("checkpoint_contract_digest is not a strict SHA-256 identity: digest must be " ++
        "\x60sha256:\x60 followed by 64 lowercase hexadecimal digits"))
    else .error (.identity "local provider carrier and deadline must be exact and bounded")
  else .error (.identity "attempt, watcher run, and request identities must be nonempty and distinct")

/-! ## Captures and records -/

/-- A capture of the runner with its clock readings, in nanoseconds since the epoch. -/
structure TimedCapture extends RunCapture where
  startedAt : Int
  finishedAt : Int
  durationMs : Nat

structure RunHardLimits where
  addressSpaceBytesPerProcess : Nat
  cpuSecondsPerProcess : Nat
  processesPerExecutionUid : Nat
  openFilesPerProcess : Nat
  fileBytesPerRegularFile : Nat
  coreBytes : Nat

/-- The limits of a watcher that a record names. -/
structure ExecutionLimits where
  maxAddressSpaceBytes : Nat
  maxCpuSeconds : Nat
  maxProcesses : Nat
  maxOpenFiles : Nat
  maxFileBytes : Nat

structure RunResourceOutcome where
  schema : RunResourceOutcomeSchema
  durationMs : Nat
  exitCode : Option Int32
  hardLimits : RunHardLimits
  stdoutBytesRetained : Nat
  stderrBytesRetained : Nat
  stderrHex : String
  outcome : AcquisitionOutcome

structure ProviderIntakeRecord (Request Response Rejection : Type) where
  schema : ProviderIntakeSchema
  intakeId : String
  attemptId : String
  idempotencyKey : String
  runId : String
  requestId : String
  request : Request
  provider : ProviderIdentity
  originCarrier : String
  deadlineAt : Int
  requestDigest : Sha256Digest
  contextDigest : Sha256Digest
  checkpointContractDigest : Sha256Digest
  startedAt : Int
  finishedAt : Int
  receivedAt : Int
  nativeOutcome : RunResourceOutcome
  rawLength : Nat
  rawSha256 : Sha256Digest
  providerSequence : Option String
  interpretation : ProviderResponseInterpretation Response Rejection

structure ProviderIntake (Request Response Rejection : Type) where
  record : ProviderIntakeRecord Request Response Rejection
  rawBytes : List UInt8

/-- An instant without what lies below its millisecond. -/
def millisecondTime (instant : Int) : Int := instant - instant % 1000000

/-- `DateTime + Duration`, which panics beyond the last date. -/
def deadlineAt (startedAt : Int) (deadlineMs : Nat) : Except ProviderIntakeError Int :=
  if startedAt + (min deadlineMs (2 ^ 63 - 1) : Nat) * 1000000 ≤ environment.latest then
    .ok (startedAt + (min deadlineMs (2 ^ 63 - 1) : Nat) * 1000000)
  else .error (.panicked "\x60DateTime + TimeDelta\x60 overflowed")

def providerIdempotencyKey (providerAdmissionId : Sha256Digest) (attemptId : String) : Except String String := do
  ensure (attemptId ≠ "" ∧ attemptId.utf8ByteSize ≤ 256 ∧ attemptId.toList.any isControl = false)
    "provider attempt identity must be nonempty, bounded, and printable"
  environment.idempotencyDigest providerAdmissionId attemptId

def hexEncode (bytes : List UInt8) : String :=
  String.ofList (bytes.flatMap fun byte => [hexCharacter (byte.toNat / 16), hexCharacter (byte.toNat % 16)])

def hexDecode : List Char → Option (List UInt8)
  | [] => some []
  | [_] => none
  | high :: low :: rest => do
      let upper ← hexOf high
      let lower ← hexOf low
      let bytes ← hexDecode rest
      return UInt8.ofNat (upper * 16 + lower) :: bytes

def interpretResponse (request : Request) (captured : RunCapture) :
    ProviderResponseInterpretation Response Rejection :=
  if captured.outcome ≠ .response then .notAvailable
  else match environment.parseResponse request captured.stdout with
    | .ok response => .validated response
    | .error rejection => .protocolRejected rejection

def interpretationKind : ProviderResponseInterpretation Response Rejection → String
  | .notAvailable => "unavailable"
  | .protocolRejected _ => "protocol_rejected"
  | .validated response => if environment.isRefusal response then "provider_refusal" else "candidate_report"

def maxStoredJsonBytes : Nat := 16 * 1048576

/-- `CanonicalDocument::from_serializable`. -/
def canonicalDocument (interpretation : ProviderResponseInterpretation Response Rejection) :
    Except String (List UInt8) := do
  let bytes ← environment.interpretationBytes interpretation
  ensure (bytes.length ≤ maxStoredJsonBytes) ("canonical document is " ++ toString bytes.length ++
    " bytes; limit is " ++ toString maxStoredJsonBytes)
  return bytes

/-! ## The audit -/

variable (intake : ProviderIntake Request Response Rejection)

def ProviderIntakeRecord.context (record : ProviderIntakeRecord Request Response Rejection) :
    ProviderIntakeContext Request where
  intakeId := record.intakeId
  attemptId := record.attemptId
  runId := record.runId
  request := record.request
  provider := record.provider
  originCarrier := record.originCarrier
  deadlineAt := record.deadlineAt
  checkpointContractDigest := record.checkpointContractDigest

/-- The relations of a record, each with whether it is broken. -/
def relations (requestDigest contextDigest : Sha256Digest) (idempotencyKey : String) (stderr : List UInt8) :
    List (String × Bool) :=
  [("schema", intake.record.schema != .v1),
    ("intake_id", intake.record.intakeId == ""),
    ("attempt_id", intake.record.attemptId == ""),
    ("idempotency_key", intake.record.idempotencyKey != idempotencyKey),
    ("run_id", intake.record.runId == ""),
    ("request_id_empty", intake.record.requestId == ""),
    ("request_id_binding", intake.record.requestId != environment.requestId intake.record.request),
    ("request_digest", intake.record.requestDigest != requestDigest),
    ("context_digest", intake.record.contextDigest != contextDigest),
    ("attempt_run_identity", intake.record.attemptId == intake.record.runId),
    ("origin_carrier", !(intake.record.originCarrier == "stdio" || intake.record.originCarrier == "unix")),
    ("provider_sequence", intake.record.providerSequence.isSome),
    ("deadline_order", decide (intake.record.deadlineAt < intake.record.startedAt)),
    ("raw_length", intake.record.rawLength != intake.rawBytes.length),
    ("raw_digest", intake.record.rawSha256 != environment.sha256 intake.rawBytes),
    ("stdout_length", intake.record.nativeOutcome.stdoutBytesRetained != intake.rawBytes.length),
    ("stderr_length", intake.record.nativeOutcome.stderrBytesRetained != stderr.length),
    ("native_schema", intake.record.nativeOutcome.schema != .v1),
    ("attempt_time_order", decide (intake.record.finishedAt < intake.record.startedAt)),
    ("receive_time_order", decide (intake.record.receivedAt < intake.record.finishedAt))]

def inconsistencies (relations : List (String × Bool)) : List String :=
  (relations.filter Prod.snd).map Prod.fst

def reconstructed (stderr : List UInt8) : RunCapture where
  exitCode := intake.record.nativeOutcome.exitCode
  stdout := intake.rawBytes
  stderr := stderr
  outcome := intake.record.nativeOutcome.outcome

def decodeStderr (stderrHex : String) : Except ProviderIntakeError (List UInt8) :=
  match hexDecode stderrHex.toList with
  | some stderr => .ok stderr
  | none => .error (.invariant ("native stderr is not exact lowercase hexadecimal: " ++ environment.hexError stderrHex))

/-- Only a response has been parsed. -/
def interpretationFits : AcquisitionOutcome → ProviderResponseInterpretation Response Rejection → Bool
  | .response, _ => true
  | _, .notAvailable => true
  | _, _ => false

def ProviderIntake.validate : Except ProviderIntakeError Unit := do
  verifyHistorical environment intake.record.provider
  let requestDigest ← (environment.requestDigest intake.record.request).mapError .canonical
  let contextDigest ← (environment.contextDigest intake.record.context).mapError .canonical
  let idempotencyKey ← (providerIdempotencyKey environment intake.record.provider.providerAdmissionId
    intake.record.attemptId).mapError .canonical
  let stderr ← decodeStderr environment intake.record.nativeOutcome.stderrHex
  ensure (hexEncode stderr = intake.record.nativeOutcome.stderrHex)
    (.invariant "native stderr hexadecimal is not canonical lowercase")
  let broken := inconsistencies (relations environment intake requestDigest contextDigest idempotencyKey stderr)
  ensure (broken = []) (.invariant
    ("provider intake identity, raw custody, or timing is inconsistent: " ++ ", ".intercalate broken))
  let expected := interpretResponse environment intake.record.request (reconstructed intake stderr)
  let storedDocument ← (canonicalDocument environment intake.record.interpretation).mapError .canonical
  let expectedDocument ← (canonicalDocument environment expected).mapError .canonical
  ensure (storedDocument = expectedDocument) (.invariant
    ("provider interpretation differs from reconstruction from exact raw custody on historical reopening: stored " ++
      interpretationKind environment intake.record.interpretation ++ " " ++
      (environment.sha256 storedDocument).text ++ " but reconstructed " ++
      interpretationKind environment expected ++ " " ++ (environment.sha256 expectedDocument).text))
  ensure (interpretationFits intake.record.nativeOutcome.outcome intake.record.interpretation = true)
    (.invariant "non-response acquisition cannot carry a parsed response interpretation")

/-! ## From a capture to an intake -/

section Capture

variable (attempt : ProviderAttempt environment) (captured : TimedCapture) (limits : ExecutionLimits)

def ProviderAttempt.context (deadlineAt : Int) : ProviderIntakeContext Request where
  intakeId := attempt.intakeId
  attemptId := attempt.attemptId
  runId := attempt.runId
  request := attempt.request
  provider := attempt.provider.identity
  originCarrier := attempt.originCarrier
  deadlineAt := deadlineAt
  checkpointContractDigest := attempt.checkpointContractDigest

def nativeOutcome : RunResourceOutcome where
  schema := .v1
  durationMs := captured.durationMs
  exitCode := captured.exitCode
  hardLimits := {
    addressSpaceBytesPerProcess := limits.maxAddressSpaceBytes
    cpuSecondsPerProcess := limits.maxCpuSeconds
    processesPerExecutionUid := limits.maxProcesses
    openFilesPerProcess := limits.maxOpenFiles
    fileBytesPerRegularFile := limits.maxFileBytes
    coreBytes := 0 }
  stdoutBytesRetained := captured.stdout.length
  stderrBytesRetained := captured.stderr.length
  stderrHex := hexEncode captured.stderr
  outcome := captured.outcome

/-- The record that binds a capture to its attempt. -/
def intakeOf (deadlineAt : Int) (requestDigest contextDigest : Sha256Digest) (idempotencyKey : String) :
    ProviderIntake Request Response Rejection where
  record := {
    schema := .v1
    intakeId := attempt.intakeId
    attemptId := attempt.attemptId
    idempotencyKey := idempotencyKey
    runId := attempt.runId
    requestId := environment.requestId attempt.request
    request := attempt.request
    provider := attempt.provider.identity
    originCarrier := attempt.originCarrier
    deadlineAt := deadlineAt
    requestDigest := requestDigest
    contextDigest := contextDigest
    checkpointContractDigest := attempt.checkpointContractDigest
    startedAt := millisecondTime captured.startedAt
    finishedAt := millisecondTime captured.finishedAt
    receivedAt := millisecondTime captured.finishedAt
    nativeOutcome := nativeOutcome captured limits
    rawLength := captured.stdout.length
    rawSha256 := environment.sha256 captured.stdout
    providerSequence := none
    interpretation := interpretResponse environment attempt.request captured.toRunCapture }
  rawBytes := captured.stdout

def fromCapture : Except ProviderIntakeError (ProviderIntake Request Response Rejection) := do
  let requestDigest ← (environment.requestDigest attempt.request).mapError .canonical
  let deadline ← deadlineAt environment (millisecondTime captured.startedAt) attempt.deadlineMs
  let contextDigest ← (environment.contextDigest (attempt.context environment deadline)).mapError .canonical
  let idempotencyKey ← (providerIdempotencyKey environment attempt.provider.identity.providerAdmissionId
    attempt.attemptId).mapError .canonical
  let intake := intakeOf environment attempt captured limits deadline requestDigest contextDigest idempotencyKey
  intake.validate environment
  return intake

/-! ## Which captures are recorded -/

/-- The deadline is a date, and the identities and the interpretation can be written down. -/
structure Storable : Prop where
  requestDigest : ∃ digest, environment.requestDigest attempt.request = .ok digest
  context : ∃ deadline digest,
    deadlineAt environment (millisecondTime captured.startedAt) attempt.deadlineMs = .ok deadline ∧
      environment.contextDigest (attempt.context environment deadline) = .ok digest
  idempotencyKey : ∃ key, providerIdempotencyKey environment attempt.provider.identity.providerAdmissionId
    attempt.attemptId = .ok key
  interpretation : ∃ document,
    canonicalDocument environment (interpretResponse environment attempt.request captured.toRunCapture) = .ok document

theorem hexDecode_flatMap (bytes : List UInt8) : hexDecode
    (bytes.flatMap fun byte => [hexCharacter (byte.toNat / 16), hexCharacter (byte.toNat % 16)]) = some bytes := by
  induction bytes with
  | nil => rfl
  | cons byte bytes ih =>
      have small := byte.toNat_lt
      have high := hexOf_hexCharacter (byte.toNat / 16) (by omega)
      have low := hexOf_hexCharacter (byte.toNat % 16) (by omega)
      have whole : UInt8.ofNat (byte.toNat / 16 * 16 + byte.toNat % 16) = byte := by
        rw [Nat.div_add_mod', UInt8.ofNat_toNat]
      simp only [List.flatMap_cons, List.cons_append, List.nil_append, hexDecode, high, low, ih]
      exact congrArg (fun first => some (first :: bytes)) whole

theorem decodeStderr_hexEncode (bytes : List UInt8) : decodeStderr environment (hexEncode bytes) = .ok bytes := by
  rw [decodeStderr, hexEncode, String.toList_ofList, hexDecode_flatMap]

theorem inconsistencies_eq_nil_iff {relations : List (String × Bool)} :
    inconsistencies relations = [] ↔ ∀ relation ∈ relations, relation.2 = false := by
  simp [inconsistencies, List.filter_eq_nil_iff]

theorem le_deadlineAt {startedAt deadline : Int} {deadlineMs : Nat}
    (isDeadline : deadlineAt environment startedAt deadlineMs = .ok deadline) : startedAt ≤ deadline := by
  unfold deadlineAt at isDeadline
  split at isDeadline
  · cases isDeadline
    omega
  · cases isDeadline

/-- A record made from a capture breaks at most the order of the two readings. -/
theorem relations_intakeOf {deadline : Int} (requestDigest contextDigest : Sha256Digest) (idempotencyKey : String)
    (order : millisecondTime captured.startedAt ≤ deadline) :
    inconsistencies (relations environment
      (intakeOf environment attempt captured limits deadline requestDigest contextDigest idempotencyKey)
      requestDigest contextDigest idempotencyKey captured.stderr) = [] ↔
      millisecondTime captured.startedAt ≤ millisecondTime captured.finishedAt := by
  obtain ⟨intakeId, attemptId, runId⟩ := attempt.nonempty
  have requestId := environment.requestId_nonempty attempt.request
  have apart := attempt.distinct.2.2.2.1
  have carrier : ¬ attempt.originCarrier = "stdio" → attempt.originCarrier = "unix" :=
    fun other => attempt.carrier.resolve_left other
  rw [inconsistencies_eq_nil_iff]
  simp only [relations, intakeOf, nativeOutcome, bne_self_eq_false, Bool.not_or, Option.isSome_none,
    lt_self_iff_false, decide_false, List.mem_cons, List.not_mem_nil, or_false, forall_eq_or_imp, beq_eq_false_iff_ne,
    ne_eq, intakeId, not_false_eq_true, attemptId, runId, requestId, apart, Bool.and_eq_false_imp,
    Bool.not_eq_eq_eq_not, Bool.not_true, Bool.not_false, beq_iff_eq, forall_eq, and_true, true_and]
  constructor
  · rintro ⟨-, -, inOrder⟩
    exact not_lt.mp (of_decide_eq_false inOrder)
  · intro inOrder
    exact ⟨carrier, decide_eq_false (not_lt.mpr order), decide_eq_false (not_lt.mpr inOrder)⟩

theorem interpretationFits_interpretResponse (request : Request) (captured : RunCapture) :
    interpretationFits captured.outcome (interpretResponse environment request captured) = true := by
  unfold interpretResponse
  split
  · cases captured.outcome <;> rfl
  · rename_i isResponse
    rw [not_not.mp isResponse]
    rfl

/-- The audit of a record made from a capture comes down to the clock. -/
theorem validate_intakeOf_iff {deadline : Int} {requestDigest contextDigest : Sha256Digest} {idempotencyKey : String}
    (isRequest : environment.requestDigest attempt.request = .ok requestDigest)
    (isDeadline : deadlineAt environment (millisecondTime captured.startedAt) attempt.deadlineMs = .ok deadline)
    (isContext : environment.contextDigest (attempt.context environment deadline) = .ok contextDigest)
    (isKey : providerIdempotencyKey environment attempt.provider.identity.providerAdmissionId attempt.attemptId =
      .ok idempotencyKey) :
    (intakeOf environment attempt captured limits deadline requestDigest contextDigest idempotencyKey).validate
        environment = .ok () ↔
      (∃ document, canonicalDocument environment
        (interpretResponse environment attempt.request captured.toRunCapture) = .ok document) ∧
        millisecondTime captured.startedAt ≤ millisecondTime captured.finishedAt := by
  have order := relations_intakeOf environment attempt captured limits requestDigest contextDigest
    idempotencyKey (le_deadlineAt environment isDeadline)
  constructor
  · intro validated
    obtain ⟨-, validated⟩ := check_bind_eq_ok.mp validated
    obtain ⟨request, requestEq, validated⟩ := bind_eq_ok.mp validated
    obtain ⟨context, contextEq, validated⟩ := bind_eq_ok.mp validated
    obtain ⟨key, keyEq, validated⟩ := bind_eq_ok.mp validated
    obtain ⟨stderr, stderrEq, validated⟩ := bind_eq_ok.mp validated
    obtain ⟨-, validated⟩ := check_bind_eq_ok.mp validated
    obtain ⟨consistent, validated⟩ := check_bind_eq_ok.mp validated
    obtain ⟨document, documentEq, -⟩ := bind_eq_ok.mp validated
    cases isRequest.symm.trans (mapError_eq_ok.mp requestEq)
    cases isContext.symm.trans (mapError_eq_ok.mp contextEq)
    cases isKey.symm.trans (mapError_eq_ok.mp keyEq)
    cases (decodeStderr_hexEncode environment captured.stderr).symm.trans stderrEq
    exact ⟨⟨document, mapError_eq_ok.mp documentEq⟩, order.mp (ensure_eq_ok.mp consistent)⟩
  · rintro ⟨⟨document, documentEq⟩, inOrder⟩
    refine check_bind_eq_ok.mpr ⟨attempt.provider.verified, ?_⟩
    refine bind_eq_ok.mpr ⟨requestDigest, mapError_eq_ok.mpr isRequest, ?_⟩
    refine bind_eq_ok.mpr ⟨contextDigest, mapError_eq_ok.mpr isContext, ?_⟩
    refine bind_eq_ok.mpr ⟨idempotencyKey, mapError_eq_ok.mpr isKey, ?_⟩
    refine bind_eq_ok.mpr ⟨captured.stderr, decodeStderr_hexEncode environment captured.stderr, ?_⟩
    refine check_bind_eq_ok.mpr ⟨ensure_eq_ok.mpr rfl, ?_⟩
    refine check_bind_eq_ok.mpr ⟨ensure_eq_ok.mpr (order.mpr inOrder), ?_⟩
    -- The record's interpretation and the one made anew from it are the same term.
    refine bind_eq_ok.mpr ⟨document, mapError_eq_ok.mpr documentEq, ?_⟩
    refine bind_eq_ok.mpr ⟨document, mapError_eq_ok.mpr documentEq, ?_⟩
    refine check_bind_eq_ok.mpr ⟨ensure_eq_ok.mpr rfl, ?_⟩
    exact ensure_eq_ok.mpr (interpretationFits_interpretResponse environment attempt.request captured.toRunCapture)

theorem fromCapture_records_iff :
    (∃ intake, fromCapture environment attempt captured limits = .ok intake ∧ intake.rawBytes = captured.stdout) ↔
      Storable environment attempt captured ∧
        millisecondTime captured.startedAt ≤ millisecondTime captured.finishedAt := by
  constructor
  · rintro ⟨intake, made, -⟩
    obtain ⟨requestDigest, requestEq, made⟩ := bind_eq_ok.mp made
    obtain ⟨deadline, deadlineEq, made⟩ := bind_eq_ok.mp made
    obtain ⟨contextDigest, contextEq, made⟩ := bind_eq_ok.mp made
    obtain ⟨key, keyEq, made⟩ := bind_eq_ok.mp made
    obtain ⟨validated, -⟩ := check_bind_eq_ok.mp made
    have isRequest := mapError_eq_ok.mp requestEq
    have isContext := mapError_eq_ok.mp contextEq
    have isKey := mapError_eq_ok.mp keyEq
    obtain ⟨document, inOrder⟩ :=
      (validate_intakeOf_iff environment attempt captured limits isRequest deadlineEq isContext isKey).mp validated
    exact ⟨⟨⟨requestDigest, isRequest⟩, ⟨deadline, contextDigest, deadlineEq, isContext⟩, ⟨key, isKey⟩, document⟩, inOrder⟩
  · rintro ⟨⟨⟨requestDigest, isRequest⟩, ⟨deadline, contextDigest, deadlineEq, isContext⟩, ⟨key, isKey⟩, document⟩, inOrder⟩
    have validated :=
      (validate_intakeOf_iff environment attempt captured limits isRequest deadlineEq isContext isKey).mpr
        ⟨document, inOrder⟩
    refine ⟨intakeOf environment attempt captured limits deadline requestDigest contextDigest key, ?_, rfl⟩
    refine bind_eq_ok.mpr ⟨requestDigest, mapError_eq_ok.mpr isRequest, ?_⟩
    refine bind_eq_ok.mpr ⟨deadline, deadlineEq, ?_⟩
    refine bind_eq_ok.mpr ⟨contextDigest, mapError_eq_ok.mpr isContext, ?_⟩
    refine bind_eq_ok.mpr ⟨key, mapError_eq_ok.mpr isKey, ?_⟩
    exact check_bind_eq_ok.mpr ⟨validated, rfl⟩

end Capture

/-! ## A clock that steps back -/

def zeroDigest : Sha256Digest := ⟨"sha256:" ++ String.ofList (List.replicate 64 '0'), by decide +kernel⟩

/-- Every request is the one `request-1`, and no document fails to be written. -/
def steadyEnvironment : Environment Unit Unit Unit where
  requestId := fun _ => "request-1"
  requestId_nonempty := fun _ => by decide
  requestDigest := fun _ => .ok zeroDigest
  contextDigest := fun _ => .ok zeroDigest
  semanticId := fun _ _ => .ok zeroDigest
  idempotencyDigest := fun _ _ => .ok "key-1"
  parseResponse := fun _ _ => .ok ()
  isRefusal := fun _ => false
  interpretationBytes := fun _ => .ok []
  sha256 := fun _ => zeroDigest
  hexError := fun _ => "Odd number of digits"
  latest := 8210266876799999999999

def steadyIdentity : ProviderIdentity where
  schema := .v1
  kind := .localHelper
  providerSemanticId := zeroDigest
  providerAdmissionId := zeroDigest
  sourceAdmissionId := "admission-1"
  bindingDigest := zeroDigest
  artifactDigest := zeroDigest
  executionIdentityDigest := zeroDigest
  configurationDigest := zeroDigest
  protocolIdentity := helperProtocolVersion
  conformanceCorpusDigest := zeroDigest
  conformanceToolVersion := "tool-1"
  conformance := {
    toolVersion := "tool-1"
    protocolPassed := true
    protocolCorpusDigest := zeroDigest.text
    protocolFixturesChecked := 1
    dryCollectionPassed := true
    dryReportDigest := none }
  profileSemanticId := zeroDigest
  evaluatorArtifactDigest := zeroDigest
  admissionContextDigest := zeroDigest

def steadyAttempt : ProviderAttempt steadyEnvironment where
  intakeId := "intake-1"
  attemptId := "attempt-1"
  runId := "run-1"
  request := ()
  provider := { identity := steadyIdentity, verified := rfl }
  originCarrier := "stdio"
  deadlineMs := 1000
  checkpointContractDigest := zeroDigest
  nonempty := by decide
  distinct := by decide
  carrier := .inl rfl
  deadline := by decide

/-- A response whose finish was read one millisecond before its start. -/
def steppedCapture : TimedCapture where
  exitCode := some 0
  stdout := [123, 125, 10]
  stderr := []
  outcome := .response
  startedAt := 1700000000001000000
  finishedAt := 1700000000000000000
  durationMs := 20

def unlimited : ExecutionLimits where
  maxAddressSpaceBytes := 0
  maxCpuSeconds := 0
  maxProcesses := 0
  maxOpenFiles := 0
  maxFileBytes := 0

theorem steppedCapture_lost : steadyAttempt.deadlineMs ≤ 3600000 ∧
    fromCapture steadyEnvironment steadyAttempt steppedCapture unlimited = .error (.invariant
      "provider intake identity, raw custody, or timing is inconsistent: attempt_time_order") := by
  refine ⟨by decide, ?_⟩
  rfl

end ConstellationNq.Core.Intake
