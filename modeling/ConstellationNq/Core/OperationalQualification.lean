import ConstellationNq.Library.JsonSyntax
import ConstellationNq.Protocol.Value

/-!
# Qualification of signed operational records

The entries that `qualify_operational_observations` keeps for its inputs, the pass over
them that finds contradictions, and the search that takes the bytes of a record's field.
-/

set_option autoImplicit false

namespace ConstellationNq.Core

open Library.JsonSyntax (quote backslash colon openBrace closeBrace)
open Library.Loop Protocol Library.Text

/-! ## Data -/

structure OperationalClaimSupportV1 where
  claimId : String
  valueDigest : Sha256Digest
deriving DecidableEq

/-- What the pass over the entries reads of them. -/
structure QualifiedOperationalInputV1 where
  inputId : String
  subjectIdentityDigest : Option String
  claimSupport : List OperationalClaimSupportV1
deriving DecidableEq

structure OperationalContradictionV1 where
  subjectIdentityDigest : String
  claimId : String
  firstInputId : String
  firstValueDigest : Sha256Digest
  secondInputId : String
  secondValueDigest : Sha256Digest
deriving DecidableEq

structure OperationalQualificationError where
  code : String
  detail : String
deriving DecidableEq

/-- A function of the source returns an error or panics. -/
inductive Fault where
  | refused (failure : OperationalQualificationError)
  | panicked (message : String)
deriving DecidableEq

def failure (code detail : String) : OperationalQualificationError := ⟨code, detail⟩

/-! ## Bytes -/

/-- What follows the first window that equals `needle`. -/
def afterFirst (needle : List UInt8) : List UInt8 → Option (List UInt8)
  | [] => none
  | byte :: bytes =>
      if needle.isPrefixOf (byte :: bytes) then some ((byte :: bytes).drop needle.length)
      else afterFirst needle bytes

/-- The bytes up to the brace that brings the depth back to zero; `none` when there is
none. A closing brace at depth zero underflows the counter. -/
def scanObject : Nat → Bool → Bool → List UInt8 → Except Fault (Option (List UInt8))
  | _, _, _, [] => .ok none
  | depth, true, true, byte :: bytes => (scanObject depth true false bytes).map (Option.map (byte :: ·))
  | depth, true, false, byte :: bytes =>
      if byte = backslash then (scanObject depth true true bytes).map (Option.map (byte :: ·))
      else if byte = quote then (scanObject depth false false bytes).map (Option.map (byte :: ·))
      else (scanObject depth true false bytes).map (Option.map (byte :: ·))
  | depth, false, escaped, byte :: bytes =>
      if byte = quote then (scanObject depth true escaped bytes).map (Option.map (byte :: ·))
      else if byte = openBrace then (scanObject (depth + 1) false escaped bytes).map (Option.map (byte :: ·))
      else if byte = closeBrace then
        match depth with
        | 0 => .error (.panicked "attempt to subtract with overflow")
        | 1 => .ok (some [byte])
        | depth + 1 => (scanObject depth false escaped bytes).map (Option.map (byte :: ·))
      else (scanObject depth false escaped bytes).map (Option.map (byte :: ·))

def fieldNeedle (key : String) : List UInt8 := quote :: (utf8Bytes key ++ [quote, colon])

def extractObjectField (bytes : List UInt8) (key : String) : Except Fault (List UInt8) :=
  match afterFirst (fieldNeedle key) bytes with
  | none => .error (.refused (failure "field_missing" ("missing exact field " ++ key)))
  | some found =>
      if found.head? ≠ some openBrace then
        .error (.refused (failure "field_type" ("field " ++ key ++ " is not an object")))
      else match scanObject 0 false false found with
        | .error fault => .error fault
        | .ok none => .error (.refused (failure "field_malformed" ("field " ++ key ++ " object is unterminated")))
        | .ok (some range) => .ok range

/-! ## Contradictions -/

/-- The values that were first supported, by subject and claim, with the input that did. -/
abbrev FirstValues := List ((String × String) × (String × Sha256Digest))

def contradict (subject : String) (inputId : String) (state : FirstValues × List OperationalContradictionV1)
    (claim : OperationalClaimSupportV1) : FirstValues × List OperationalContradictionV1 :=
  match state.1.find? fun entry => entry.1 = (subject, claim.claimId) with
  | some (_, priorInput, priorValue) =>
      if priorValue ≠ claim.valueDigest then
        (state.1, state.2 ++ [{
          subjectIdentityDigest := subject, claimId := claim.claimId, firstInputId := priorInput,
          firstValueDigest := priorValue, secondInputId := inputId, secondValueDigest := claim.valueDigest }])
      else state
  | none => (state.1 ++ [((subject, claim.claimId), (inputId, claim.valueDigest))], state.2)

def contradictions (inputs : List QualifiedOperationalInputV1) : List OperationalContradictionV1 :=
  (inputs.foldl (fun state input =>
    match input.subjectIdentityDigest with
    | none => state
    | some subject => input.claimSupport.foldl (contradict subject input.inputId) state) ([], [])).2

end ConstellationNq.Core
