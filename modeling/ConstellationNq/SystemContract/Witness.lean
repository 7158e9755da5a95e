import ConstellationNq.Library.Text
import ConstellationNq.SystemContract.Coherence

/-!
# Coherence witnesses

A witness names the cut digest it was computed for. Admission compares that
name with the name the presented cut carries and re-runs the checker on the
presented body.
-/

set_option autoImplicit false

namespace ConstellationNq.SystemContract

open Library.Text Protocol

def cutCoherenceWitnessSchema : String := "nq.cut_coherence_witness.v1"

def requiredObservationV1Claim : String := "required_observation_v1"

def CutCoherencePolicy.policyVersion : CutCoherencePolicy → String
  | .requiredObservationV1 _ => requiredObservationV1Claim

def CutCoherencePolicy.toJson : CutCoherencePolicy → Json
  | .requiredObservationV1 window =>
      .object [("policy_version", .string requiredObservationV1Claim),
        ("coherence_window_seconds", .integer window.toNat)]

structure CutCoherenceWitnessV1 where
  schema : String
  cutDigest : Sha256Digest
  coherenceClaim : String
  policy : CutCoherencePolicy
  witnessDigest : Sha256Digest
deriving DecidableEq

def witnessBodyDigest (codec : Codec) (cutDigest : Sha256Digest) (coherenceClaim : String)
    (policy : CutCoherencePolicy) : Except CoherenceFailure Sha256Digest :=
  let body := Json.object [("cut_digest", .string cutDigest.text), ("coherence_claim", .string coherenceClaim),
    ("policy", policy.toJson)]
  (versionedArtifactDigest codec cutCoherenceWitnessSchema body).mapError fun error =>
    .refused (.witnessInconsistent error.message)

def CutCoherenceWitnessV1.expectedDigest (codec : Codec) (witness : CutCoherenceWitnessV1) :
    Except CoherenceFailure Sha256Digest :=
  witnessBodyDigest codec witness.cutDigest witness.coherenceClaim witness.policy

/-- A cut and a witness that passed `verify`. -/
structure AdmissibleSystemCutV1 where
  cut : PublishedScopeCutV1
  witness : CutCoherenceWitnessV1
  bound : witness.cutDigest = cut.cutDigest
  coherent : evaluateCutCoherence cut.cut witness.policy = .ok ()

def AdmissibleSystemCutV1.verify (codec : Codec) (cut : PublishedScopeCutV1) (witness : CutCoherenceWitnessV1) :
    Except CoherenceFailure AdmissibleSystemCutV1 :=
  if bound : witness.cutDigest = cut.cutDigest then
    if witness.schema ≠ cutCoherenceWitnessSchema then
      .error (.refused (.witnessInconsistent ("wrong schema " ++ debugText witness.schema)))
    else if witness.coherenceClaim ≠ requiredObservationV1Claim ∨
        witness.coherenceClaim ≠ witness.policy.policyVersion then
      .error (.refused (.witnessInconsistent
        ("claim " ++ debugText witness.coherenceClaim ++ " does not match policy")))
    else do
      let expected ← witness.expectedDigest codec
      if expected ≠ witness.witnessDigest then
        .error (.refused (.witnessInconsistent "witness digest does not match its contents"))
      else match coherent : evaluateCutCoherence cut.cut witness.policy with
        | .error failure => .error failure
        | .ok () => .ok { cut := cut, witness := witness, bound := bound, coherent := coherent }
  else .error (.refused (.witnessCutMismatch witness.cutDigest.text cut.cutDigest.text))

def computeCutCoherenceWitness (codec : Codec) (cut : PublishedScopeCutV1) (policy : CutCoherencePolicy) :
    Except CoherenceFailure CutCoherenceWitnessV1 := do
  evaluateCutCoherence cut.cut policy
  let witnessDigest ← witnessBodyDigest codec cut.cutDigest requiredObservationV1Claim policy
  pure {
    schema := cutCoherenceWitnessSchema
    cutDigest := cut.cutDigest
    coherenceClaim := requiredObservationV1Claim
    policy := policy
    witnessDigest := witnessDigest }

/-- The JSON reader: the document with its members in order, and the messages
it gives for bytes that are no document or no witness. -/
structure JsonReader where
  document : List UInt8 → Option Json
  documentMessage : List UInt8 → String
  witnessMessage : List UInt8 → String

/-- The members of an object that has no member twice and none but `keys`. -/
private def strictMembers (keys : List String) : Json → Option (List (String × Json))
  | .object members =>
      if (members.map Prod.fst).Nodup ∧ ∀ member ∈ members, member.1 ∈ keys then some members else none
  | _ => none

private def memberString (members : List (String × Json)) (key : String) : Option String := do
  match ← members.lookup key with
  | .string text => some text
  | _ => none

def decodePolicy (value : Json) : Option CutCoherencePolicy := do
  let members ← strictMembers ["policy_version", "coherence_window_seconds"] value
  let version ← memberString members "policy_version"
  guard (version = requiredObservationV1Claim)
  match ← members.lookup "coherence_window_seconds" with
  | .integer window =>
      if 0 ≤ window ∧ window < 2 ^ 64 then some (.requiredObservationV1 (UInt64.ofNat window.toNat)) else none
  | _ => none

def decodeWitness (value : Json) : Option CutCoherenceWitnessV1 := do
  let members ← strictMembers ["schema", "cut_digest", "coherence_claim", "policy", "witness_digest"] value
  let schema ← memberString members "schema"
  let cutDigest ← (memberString members "cut_digest").bind Sha256Digest.parse
  let coherenceClaim ← memberString members "coherence_claim"
  let policy ← (members.lookup "policy").bind decodePolicy
  let witnessDigest ← (memberString members "witness_digest").bind Sha256Digest.parse
  pure {
    schema := schema
    cutDigest := cutDigest
    coherenceClaim := coherenceClaim
    policy := policy
    witnessDigest := witnessDigest }

/-- The policy version is looked at before the witness is decoded, so that an
unknown policy is refused by name. -/
def parseAndVerifyAdmissible (codec : Codec) (reader : JsonReader) (cut : PublishedScopeCutV1)
    (witnessBytes : List UInt8) : Except CoherenceFailure AdmissibleSystemCutV1 :=
  match reader.document witnessBytes with
  | none => .error (.refused (.witnessInconsistent (reader.documentMessage witnessBytes)))
  | some raw =>
      match (raw.get "policy").bind fun policy => policy.get "policy_version" with
      | some (.string version) =>
          if version = requiredObservationV1Claim then
            match decodeWitness raw with
            | none => .error (.refused (.witnessInconsistent (reader.witnessMessage witnessBytes)))
            | some witness => AdmissibleSystemCutV1.verify codec cut witness
          else .error (.refused (.unsupportedCoherencePolicy version))
      | _ => .error (.refused (.witnessInconsistent "witness has no policy version"))

end ConstellationNq.SystemContract
