import Mathlib.Data.List.Basic

/-!
# Canonical JSON and semantic digests

`canonical_json_bytes` refuses integers outside the exact I-JSON range and
then renders the value with JCS. The renderer and the hash come from other
crates; they enter as the fields of `Codec`.
-/

set_option autoImplicit false

namespace ConstellationNq.Protocol

/-- A `serde_json` value. Numbers are integers of 64 bits or finite doubles,
the latter kept as their bit pattern. -/
inductive Json where
  | null
  | bool (value : Bool)
  | integer (value : Int)
  | float (bits : UInt64)
  | string (text : String)
  | array (items : List Json)
  | object (members : List (String × Json))

/-- The member of an object under a key; of repeated members the last counts. -/
def Json.get (value : Json) (key : String) : Option Json :=
  match value with
  | .object members => (members.reverse.find? fun member => member.1 == key).map Prod.snd
  | _ => none

inductive CanonicalizationError where
  | serialization (message : String)
  | unsafeInteger (number : String)
deriving DecidableEq, Repr

def CanonicalizationError.message : CanonicalizationError → String
  | .serialization message => "cannot canonicalize JSON: " ++ message
  | .unsafeInteger number =>
      "integer " ++ number ++ " exceeds the exact I-JSON range; encode it as a decimal string"

/-- The largest integer a double represents together with its predecessors. -/
def maxSafeInteger : Int := 9007199254740991

mutual

def validateIJsonNumbers : Json → Except CanonicalizationError Unit
  | .integer value =>
      if -maxSafeInteger ≤ value ∧ value ≤ maxSafeInteger then .ok ()
      else .error (.unsafeInteger (toString value))
  | .array items => validateIJsonItems items
  | .object members => validateIJsonMembers members
  | .null | .bool _ | .float _ | .string _ => .ok ()

def validateIJsonItems : List Json → Except CanonicalizationError Unit
  | [] => .ok ()
  | item :: items => do
      validateIJsonNumbers item
      validateIJsonItems items

def validateIJsonMembers : List (String × Json) → Except CanonicalizationError Unit
  | [] => .ok ()
  | (_, value) :: members => do
      validateIJsonNumbers value
      validateIJsonMembers members

end

def isLowerHex (character : Char) : Bool :=
  character.isDigit || ('a' ≤ character && character ≤ 'f')

/-- `sha256:` followed by exactly 64 lowercase hexadecimal digits. -/
def isSha256Digest (text : String) : Bool :=
  let characters := text.toList
  "sha256:".toList.isPrefixOf characters &&
    ((characters.drop 7).length == 64 && (characters.drop 7).all isLowerHex)

theorem isSha256Digest_replicate {digit : Char} (lower : isLowerHex digit = true) :
    isSha256Digest ("sha256:" ++ String.ofList (List.replicate 64 digit)) = true := by
  have opening : "sha256:".toList = ['s', 'h', 'a', '2', '5', '6', ':'] := by decide
  simp [isSha256Digest, opening, lower]

structure Sha256Digest where
  text : String
  valid : isSha256Digest text = true
deriving DecidableEq

def Sha256Digest.parse (text : String) : Option Sha256Digest :=
  if valid : isSha256Digest text = true then some ⟨text, valid⟩ else none

/-- The renderer and the hash. A `serde_json` value holds no number that JCS
cannot render, so rendering does not fail. -/
structure Codec where
  jcs : Json → List UInt8
  sha256Bytes : List UInt8 → Sha256Digest

def canonicalJsonBytes (codec : Codec) (value : Json) : Except CanonicalizationError (List UInt8) := do
  validateIJsonNumbers value
  pure (codec.jcs value)

def semanticDigest (codec : Codec) (value : Json) : Except CanonicalizationError Sha256Digest :=
  (canonicalJsonBytes codec value).map codec.sha256Bytes

theorem semanticDigest_of_valid {codec : Codec} {value : Json} (valid : validateIJsonNumbers value = .ok ()) :
    semanticDigest codec value = .ok (codec.sha256Bytes (codec.jcs value)) := by
  simp [semanticDigest, canonicalJsonBytes, valid, bind, Except.bind, Except.map, pure, Except.pure]

end ConstellationNq.Protocol
