import ConstellationNq.SystemContract.CoherenceProperties
import ConstellationNq.SystemContract.Witness

/-!
# What an admission binds

Admission ties a witness to the digest field of a cut. Nothing ties that field
to the body, so a well-observed body is admitted under any digest it is
presented with.
-/

set_option autoImplicit false

namespace ConstellationNq.SystemContract

open Library.Loop Protocol

variable {cut : PublishedScopeCutV1} {witness : CutCoherenceWitnessV1} {codec : Codec}

theorem verify_eq_ok_iff :
    (∃ admitted, AdmissibleSystemCutV1.verify codec cut witness = .ok admitted) ↔
      witness.cutDigest = cut.cutDigest ∧ witness.schema = cutCoherenceWitnessSchema ∧
        witness.coherenceClaim = requiredObservationV1Claim ∧
        witness.expectedDigest codec = .ok witness.witnessDigest ∧
        evaluateCutCoherence cut.cut witness.policy = .ok () := by
  have version : witness.policy.policyVersion = requiredObservationV1Claim := by
    cases witness.policy
    rfl
  unfold AdmissibleSystemCutV1.verify
  by_cases bound : witness.cutDigest = cut.cutDigest
  · by_cases schema : witness.schema = cutCoherenceWitnessSchema
    · by_cases claim : witness.coherenceClaim = requiredObservationV1Claim
      · cases expected : witness.expectedDigest codec with
        | error failure => simp [bound, schema, claim, version, bind, Except.bind]
        | ok digest =>
            by_cases digest_eq : digest = witness.witnessDigest
            · simp only [bound, schema, claim, version, digest_eq, ne_eq, not_true_eq_false, or_self,
                dite_true, if_false, bind, Except.bind, true_and]
              split
              next failure refused => simp [refused]
              next accepted => simp [accepted]
            · simp [bound, schema, claim, version, digest_eq, bind, Except.bind]
      · simp [bound, schema, claim]
    · simp [bound, schema]
  · simp [bound]

/-- A witness computed for a cut admits that cut. -/
theorem verify_computed {policy : CutCoherencePolicy}
    (computed : computeCutCoherenceWitness codec cut policy = .ok witness) :
    ∃ admitted, AdmissibleSystemCutV1.verify codec cut witness = .ok admitted := by
  refine verify_eq_ok_iff.mpr ?_
  unfold computeCutCoherenceWitness at computed
  cases accepted : evaluateCutCoherence cut.cut policy with
  | error failure => simp [accepted, bind, Except.bind] at computed
  | ok result =>
      cases digested : witnessBodyDigest codec cut.cutDigest requiredObservationV1Claim policy with
      | error failure => simp [accepted, digested, bind, Except.bind] at computed
      | ok digest =>
          simp only [accepted, digested, bind, Except.bind, pure, Except.pure, Except.ok.injEq] at computed
          subst computed
          exact ⟨rfl, rfl, rfl, digested, accepted⟩

/-- The widest window whose witness still has a digest. -/
def widestWindow : UInt64 := 9007199254740991

private theorem witnessBodyDigest_widest (codec : Codec) (cutDigest : Sha256Digest) :
    ∃ digest, witnessBodyDigest codec cutDigest requiredObservationV1Claim (.requiredObservationV1 widestWindow) =
      .ok digest := by
  simp only [witnessBodyDigest, versionedArtifactDigest]
  rw [semanticDigest_of_valid (by rfl)]
  exact ⟨_, rfl⟩

theorem coherent_at_widestWindow {cut : ScopeCutBodyV1} {observed : Identifier → Set Instant}
    (wellObserved : WellObserved cut observed) : CoherentBy cut observed widestWindow where
  toWellObserved := wellObserved
  withinWindow := by
    intro root _ earliest latest _ _
    refine (numSeconds_signedDurationSince_le latest earliest).trans ?_
    decide

/-- Every cut with a well-observed body has a witness that admits it, whatever
its digest field says. -/
theorem exists_admitting_witness (codec : Codec) (wellObserved : WellObserved cut.cut (denotedInstants cut.cut)) :
    ∃ witness admitted, AdmissibleSystemCutV1.verify codec cut witness = .ok admitted := by
  have accepted := evaluateCutCoherence_eq_ok_iff.mpr (coherent_at_widestWindow wellObserved)
  obtain ⟨digest, digested⟩ := witnessBodyDigest_widest codec cut.cutDigest
  obtain ⟨witness, computed⟩ : ∃ witness,
      computeCutCoherenceWitness codec cut (.requiredObservationV1 widestWindow) = .ok witness := by
    simp only [computeCutCoherenceWitness, accepted, digested, bind, Except.bind, pure, Except.pure]
    exact ⟨_, rfl⟩
  exact ⟨witness, verify_computed computed⟩

theorem wellObserved_of_verify (admission : ∃ admitted, AdmissibleSystemCutV1.verify codec cut witness = .ok admitted) :
    WellObserved cut.cut (denotedInstants cut.cut) := by
  obtain ⟨_, _, _, _, accepted⟩ := verify_eq_ok_iff.mp admission
  cases policy : witness.policy with
  | requiredObservationV1 window =>
      rw [policy] at accepted
      exact (evaluateCutCoherence_eq_ok_iff.mp accepted).toWellObserved

theorem verify_of_parse {reader : JsonReader} {bytes : List UInt8} {admitted : AdmissibleSystemCutV1}
    (parsed : parseAndVerifyAdmissible codec reader cut bytes = .ok admitted) :
    ∃ witness, AdmissibleSystemCutV1.verify codec cut witness = .ok admitted := by
  unfold parseAndVerifyAdmissible at parsed
  split at parsed
  next => cases parsed
  next raw _ =>
    split at parsed
    next version _ =>
      split at parsed
      next =>
        split at parsed
        next => cases parsed
        next witness _ => exact ⟨witness, parsed⟩
      next => cases parsed
    next => cases parsed

/-- The window is the only number of a witness. -/
private theorem witnessBodyDigest_iff {cutDigest : Sha256Digest} {window : UInt64} :
    (∃ digest, witnessBodyDigest codec cutDigest requiredObservationV1Claim (.requiredObservationV1 window) =
      .ok digest) ↔ window ≤ widestWindow := by
  have bounds : window ≤ widestWindow ↔ -maxSafeInteger ≤ (window.toNat : Int) ∧ (window.toNat : Int) ≤ maxSafeInteger := by
    rw [UInt64.le_iff_toNat_le]
    simp only [widestWindow, maxSafeInteger, UInt64.reduceToNat]
    omega
  by_cases safe : window ≤ widestWindow <;>
    simp [← bounds, witnessBodyDigest, versionedArtifactDigest, semanticDigest, canonicalJsonBytes, validateIJsonNumbers,
      validateIJsonMembers, CutCoherencePolicy.toJson, safe, bind, Except.bind, Except.mapError, Except.map, pure,
      Except.pure]

/-- A witness admits the cut exactly if it is the computed one. One is computed exactly for
the windows that its digest can cover and under which the cut is coherent. -/
theorem admission_exact (codec : Codec) (cut : PublishedScopeCutV1) :
    (∀ witness, (∃ admitted, AdmissibleSystemCutV1.verify codec cut witness = .ok admitted) ↔
      computeCutCoherenceWitness codec cut witness.policy = .ok witness) ∧
    ∀ window, (∃ witness, computeCutCoherenceWitness codec cut (.requiredObservationV1 window) = .ok witness) ↔
      window ≤ widestWindow ∧ CoherentBy cut.cut (denotedInstants cut.cut) window := by
  refine ⟨fun witness => ⟨fun admission => ?_, verify_computed⟩, fun window => ?_⟩
  · obtain ⟨bound, schema, claim, digested, accepted⟩ := verify_eq_ok_iff.mp admission
    unfold CutCoherenceWitnessV1.expectedDigest at digested
    rw [bound, claim] at digested
    refine check_bind_eq_ok.mpr ⟨accepted, bind_eq_ok.mpr ⟨_, digested, ?_⟩⟩
    rw [← bound, ← schema, ← claim]
    rfl
  · rw [← evaluateCutCoherence_eq_ok_iff]
    constructor
    · rintro ⟨_, computed⟩
      obtain ⟨accepted, computed⟩ := check_bind_eq_ok.mp computed
      obtain ⟨digest, digested, _⟩ := bind_eq_ok.mp computed
      exact ⟨witnessBodyDigest_iff.mp ⟨digest, digested⟩, accepted⟩
    · rintro ⟨narrow, accepted⟩
      obtain ⟨digest, digested⟩ := witnessBodyDigest_iff.mpr narrow
      exact ⟨_, check_bind_eq_ok.mpr ⟨accepted, bind_eq_ok.mpr ⟨digest, digested, rfl⟩⟩⟩

/-- Both ways of admitting the cut succeed only if its digest field is the digest
of its body. -/
def ContentBound (codec : ContractCodec) (reader : JsonReader) (cut : PublishedScopeCutV1) : Prop :=
  (∀ witness admitted, AdmissibleSystemCutV1.verify codec.toCodec cut witness = .ok admitted →
    cut.cut.digest codec = .ok cut.cutDigest) ∧
  ∀ bytes admitted, parseAndVerifyAdmissible codec.toCodec reader cut bytes = .ok admitted →
    cut.cut.digest codec = .ok cut.cutDigest

/-- The digest field was checked against the body, as verifying the published
cut does, or the body is one the checker refuses under every window. -/
def DigestChecked (codec : ContractCodec) (cut : PublishedScopeCutV1) : Prop :=
  cut.cut.digest codec = .ok cut.cutDigest ∨ ¬ WellObserved cut.cut (denotedInstants cut.cut)

/-- Admission binds the body exactly for the cuts whose digest field was checked
before, and among those no witness admits two bodies that the digest tells apart. -/
theorem contentBound_iff_digestChecked (codec : ContractCodec) (reader : JsonReader) :
    (∀ cut, ContentBound codec reader cut ↔ DigestChecked codec cut) ∧
      ∀ witness left right leftAdmitted rightAdmitted, DigestChecked codec left → DigestChecked codec right →
        AdmissibleSystemCutV1.verify codec.toCodec left witness = .ok leftAdmitted →
        AdmissibleSystemCutV1.verify codec.toCodec right witness = .ok rightAdmitted →
        (left.cut.digest codec = right.cut.digest codec → left.cut = right.cut) → left.cut = right.cut := by
  have bound (cut : PublishedScopeCutV1) (checked : DigestChecked codec cut) {witness : CutCoherenceWitnessV1}
      (admission : ∃ admitted, AdmissibleSystemCutV1.verify codec.toCodec cut witness = .ok admitted) :
      cut.cut.digest codec = .ok cut.cutDigest :=
    checked.resolve_right (not_not_intro (wellObserved_of_verify admission))
  refine ⟨?_, ?_⟩
  · intro cut
    constructor
    · rintro ⟨verified, _⟩
      by_cases wellObserved : WellObserved cut.cut (denotedInstants cut.cut)
      · obtain ⟨witness, admitted, admission⟩ := exists_admitting_witness codec.toCodec wellObserved
        exact Or.inl (verified witness admitted admission)
      · exact Or.inr wellObserved
    · intro checked
      refine ⟨fun witness admitted admission => bound cut checked ⟨admitted, admission⟩, ?_⟩
      intro bytes admitted parsed
      obtain ⟨witness, admission⟩ := verify_of_parse parsed
      exact bound cut checked ⟨admitted, admission⟩
  · intro witness left right leftAdmitted rightAdmitted leftChecked rightChecked leftAdmission rightAdmission separated
    have leftBound := bound left leftChecked ⟨_, leftAdmission⟩
    have rightBound := bound right rightChecked ⟨_, rightAdmission⟩
    have leftNamed := (verify_eq_ok_iff.mp ⟨_, leftAdmission⟩).1
    have rightNamed := (verify_eq_ok_iff.mp ⟨_, rightAdmission⟩).1
    exact separated (by rw [leftBound, rightBound, ← leftNamed, ← rightNamed])

def oneDigest : Sha256Digest :=
  ⟨"sha256:1111111111111111111111111111111111111111111111111111111111111111", by decide⟩

def relabelledCut (digest : Sha256Digest) : PublishedScopeCutV1 where
  schema := scopeCutSchema
  cutDigest := digest
  cut := pairCut (instantAt 5 0) (instantAt 3 0)

/-- Under no renderer and hash does admission bind the body: of two digest fields
on one body at least one is not the digest of the body, and both are admitted. -/
theorem relabelledCut_admitted :
    ¬ ∃ codec : ContractCodec, ∀ digest witness admitted,
      AdmissibleSystemCutV1.verify codec.toCodec (relabelledCut digest) witness = .ok admitted →
        (relabelledCut digest).cut.digest codec = .ok digest := by
  rintro ⟨codec, bound⟩
  have accepted : evaluateCutCoherence (relabelledCut zeroDigest).cut (.requiredObservationV1 2) = .ok () := by
    decide
  have wellObserved (digest : Sha256Digest) :
      WellObserved (relabelledCut digest).cut (denotedInstants (relabelledCut digest).cut) :=
    (evaluateCutCoherence_eq_ok_iff.mp accepted).toWellObserved
  have digest_eq (digest : Sha256Digest) : (relabelledCut zeroDigest).cut.digest codec = .ok digest := by
    obtain ⟨witness, admitted, admission⟩ := exists_admitting_witness codec.toCodec (wellObserved digest)
    exact bound digest witness admitted admission
  have same : zeroDigest = oneDigest :=
    Except.ok.inj ((digest_eq zeroDigest).symm.trans (digest_eq oneDigest))
  exact absurd same (by decide)

end ConstellationNq.SystemContract
