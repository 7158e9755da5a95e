import ConstellationNq.Core.StageQualification

/-!
# Realization of a reserved stage

A stage is realized by exactly one chain of attempt, run and settlement for its
reservation. Where its profile asks for a prior stage, the evidence carries the inputs
and the receipt of that stage, which are evaluated again, and so on down to a stage that
starts from a Git commit.
-/

set_option autoImplicit false

namespace ConstellationNq.Core

open Protocol

/-! ## Documents -/

inductive PredecessorRequirementV2 where
  | initialGit (head tree : GitObjectIdentityV1)
  | priorStageRealization (stageId reservation : String)
deriving DecidableEq

structure CampaignStageRealizationProfileV2 where
  schema : String
  profileId : String
  evidenceReservation : String
  campaignPacketSha256 : String
  stageId : String
  repositoryId : String
  repositoryRef : String
  predecessor : PredecessorRequirementV2
  predecessorHead : GitObjectIdentityV1
  predecessorTree : GitObjectIdentityV1
  executorPlanTemplate : String
  expectedEvidenceProducer : EvidenceProducerIdentityV1
  orderedGates : List GateRequirementV1
  requiredArtifacts : List ArtifactRequirementV1
  requiredWorkspacePredicates : List WorkspaceCustodyPredicateV1
  expectedCleanWorktree : Bool
deriving DecidableEq

structure ExactRealizationChainV2 where
  evidenceReservation : String
  docketAttempt : String
  executorPlanTemplate : String
  executorPlan : String
  docketSettlement : String
  porterRunId : String
  porterRecordSha256 : String
  executorReceipt : String
  predecessorHead : GitObjectIdentityV1
  predecessorTree : GitObjectIdentityV1
  resultHead : GitObjectIdentityV1
  resultTree : GitObjectIdentityV1
deriving DecidableEq

structure CampaignStageRealizationReceiptV2 where
  schema : String
  receiptId : String
  evaluatorId : String
  evaluatorVersion : String
  evaluatorExecutableSha256 : String
  evaluatedAtUnixMs : UInt64
  profileId : String
  profileSha256 : String
  evidenceId : String
  evidenceSha256 : String
  evidenceReservation : String
  campaignPacketSha256 : String
  stageId : String
  repositoryId : String
  repositoryRef : String
  realizations : List ExactRealizationChainV2
  status : QualificationStatusV1
  reasons : List QualificationReasonV1
  doesNotEstablish : List String
  receiptSha256 : String
deriving DecidableEq

/-- The fields of an evidence document beside the prior stage. -/
structure RealizationEvidenceFields where
  schema : String
  evidenceId : String
  profileId : String
  profileSha256 : String
  evidenceReservation : String
  campaignPacketSha256 : String
  stageId : String
  repositoryId : String
  repositoryRef : String
  realizations : List ExactRealizationChainV2
  producer : EvidenceProducerIdentityV1
  qualificationStartedAtUnixMs : UInt64
  qualificationFinishedAtUnixMs : UInt64
  gates : List GateEvidenceV1
  artifacts : List ArtifactEvidenceV1
  workspaceCustody : List WorkspaceCustodyEvidenceV1
  observedCleanWorktree : Option Bool

/-- An evidence document, without and with the inputs and the receipt of a prior stage. -/
inductive CampaignStageRealizationEvidenceV2 where
  | initial (fields : RealizationEvidenceFields)
  | following (fields : RealizationEvidenceFields) (profile : CampaignStageRealizationProfileV2)
      (evidence : CampaignStageRealizationEvidenceV2) (receipt : CampaignStageRealizationReceiptV2)

structure PriorStageQualificationV2 where
  profile : CampaignStageRealizationProfileV2
  evidence : CampaignStageRealizationEvidenceV2
  receipt : CampaignStageRealizationReceiptV2

namespace CampaignStageRealizationEvidenceV2

def fields : CampaignStageRealizationEvidenceV2 → RealizationEvidenceFields
  | .initial fields => fields
  | .following fields _ _ _ => fields

def priorStages : CampaignStageRealizationEvidenceV2 → List PriorStageQualificationV2
  | .initial _ => []
  | .following _ profile evidence receipt =>
      { profile := profile, evidence := evidence, receipt := receipt } :: evidence.priorStages

/-- The walk of `bounded_chain` from a cursor, with the stages counted before it. -/
def boundedFrom (count : Nat) : CampaignStageRealizationEvidenceV2 → Bool
  | .initial _ => true
  | .following _ _ evidence _ => if 16 < count + 1 then false else evidence.boundedFrom (count + 1)

def boundedChain (evidence : CampaignStageRealizationEvidenceV2) : Bool := evidence.boundedFrom 0

end CampaignStageRealizationEvidenceV2

/-- The digests of the documents, by `canonical_sha256`. -/
structure RealizationDigests extends QualificationDigests where
  realizationProfile : CampaignStageRealizationProfileV2 → String
  realizationEvidence : CampaignStageRealizationEvidenceV2 → String
  receipt : CampaignStageRealizationReceiptV2 → String

/-! ## Checks -/

def campaignStageRealizationProfileSchemaV2 : String := "nq-ng.campaign-stage-realization-profile/v2"
def campaignStageRealizationEvidenceSchemaV2 : String := "nq-ng.campaign-stage-realization-evidence/v2"
def campaignStageRealizationReceiptSchemaV2 : String := "nq-ng.campaign-stage-realization-qualification/v2"

def campaignStageRealizationNonclaimsV2 : List String :=
  ["standing", "authorization", "successor choice", "continuation", "effect authority",
    "freshness or present applicability", "reservation validity outside this exact profile"]

variable (profile : CampaignStageRealizationProfileV2)

namespace CampaignStageRealizationProfileV2

def predecessorIsWellFormed : Bool :=
  match profile.predecessor with
  | .initialGit head tree =>
      gitObjectIsWellFormed head && (gitObjectIsWellFormed tree &&
        (head == profile.predecessorHead && tree == profile.predecessorTree))
  | .priorStageRealization stageId reservation => stageId != "" && isSha256Digest reservation

/-- `profile_is_well_formed`. -/
def isWellFormed : Bool :=
  [profile.schema == campaignStageRealizationProfileSchemaV2, profile.profileId != "",
    isSha256Digest profile.evidenceReservation, isSha256Digest profile.campaignPacketSha256, profile.stageId != "",
    profile.repositoryId != "", "refs/".toList.isPrefixOf profile.repositoryRef.toList,
    gitObjectIsWellFormed profile.predecessorHead, gitObjectIsWellFormed profile.predecessorTree,
    profile.predecessorIsWellFormed, isSha256Digest profile.executorPlanTemplate, !profile.orderedGates.isEmpty,
    !profile.requiredWorkspacePredicates.isEmpty].all id

end CampaignStageRealizationProfileV2

def realizationMatches (chain : ExactRealizationChainV2) : Bool :=
  [chain.evidenceReservation == profile.evidenceReservation,
    chain.executorPlanTemplate == profile.executorPlanTemplate, chain.predecessorHead == profile.predecessorHead,
    chain.predecessorTree == profile.predecessorTree, isSha256Digest chain.docketAttempt,
    isSha256Digest chain.executorPlan, isSha256Digest chain.docketSettlement, chain.porterRunId != "",
    isSha256Digest chain.porterRecordSha256, isSha256Digest chain.executorReceipt,
    gitObjectIsWellFormed chain.resultHead, gitObjectIsWellFormed chain.resultTree].all id

/-- The receipt of a prior stage fits the stage that names it, once its replay has
matched. -/
def priorStageFits (fields : RealizationEvidenceFields) (evaluator : QualificationEvaluatorIdentityV1)
    (stageId reservation : String) (priorProfile : CampaignStageRealizationProfileV2)
    (receipt : CampaignStageRealizationReceiptV2) : Bool :=
  [receipt.evaluatorId == evaluator.evaluatorId, receipt.evaluatorVersion == evaluator.evaluatorVersion,
    receipt.evaluatorExecutableSha256 == evaluator.executableSha256,
    priorProfile.campaignPacketSha256 == profile.campaignPacketSha256,
    priorProfile.repositoryId == profile.repositoryId, priorProfile.repositoryRef == profile.repositoryRef,
    receipt.evaluatedAtUnixMs ≤ fields.qualificationStartedAtUnixMs, priorProfile.stageId == stageId,
    priorProfile.evidenceReservation == reservation, receipt.status == .qualified].all id &&
  match receipt.realizations with
  | [realization] =>
      realization.resultHead == profile.predecessorHead && realization.resultTree == profile.predecessorTree
  | _ => false

section Evaluation

variable (digests : RealizationDigests) (profile : CampaignStageRealizationProfileV2)

def receiptDigest (receipt : CampaignStageRealizationReceiptV2) : String :=
  digests.receipt { receipt with receiptSha256 := "" }

def replayMatches (recomputed receipt : CampaignStageRealizationReceiptV2) : Bool :=
  recomputed == receipt && receipt.receiptSha256 == receiptDigest digests receipt

def CampaignStageRealizationReceiptV2.evaluator (receipt : CampaignStageRealizationReceiptV2) :
    QualificationEvaluatorIdentityV1 where
  evaluatorId := receipt.evaluatorId
  evaluatorVersion := receipt.evaluatorVersion
  executableSha256 := receipt.evaluatorExecutableSha256

def outerExact (evidence : CampaignStageRealizationEvidenceV2) (evaluator : QualificationEvaluatorIdentityV1)
    (evaluatedAtUnixMs : UInt64) : Bool :=
  [profile.isWellFormed, evidence.fields.schema == campaignStageRealizationEvidenceSchemaV2,
    evidence.fields.evidenceId != "", evidence.fields.profileId == profile.profileId,
    evidence.fields.profileSha256 == digests.realizationProfile profile,
    evidence.fields.evidenceReservation == profile.evidenceReservation,
    evidence.fields.campaignPacketSha256 == profile.campaignPacketSha256,
    evidence.fields.stageId == profile.stageId, evidence.fields.repositoryId == profile.repositoryId,
    evidence.fields.repositoryRef == profile.repositoryRef,
    evidence.fields.producer == profile.expectedEvidenceProducer,
    evidence.fields.qualificationStartedAtUnixMs ≤ evidence.fields.qualificationFinishedAtUnixMs,
    evaluator.evaluatorId == realizationEvaluatorId, evaluator.evaluatorVersion != "",
    isSha256Digest evaluator.executableSha256, isSha256Digest (digests.realizationProfile profile),
    isSha256Digest (digests.realizationEvidence evidence),
    evidence.fields.qualificationFinishedAtUnixMs ≤ evaluatedAtUnixMs].all id

def realizedProfile (chain : ExactRealizationChainV2) :
    CampaignStageQualificationProfileV1 where
  schema := campaignStageQualificationProfileSchemaV1
  profileId := profile.profileId ++ "#realized"
  campaignPacketSha256 := profile.campaignPacketSha256
  stageId := profile.stageId
  repositoryId := profile.repositoryId
  repositoryRef := profile.repositoryRef
  predecessorHead := profile.predecessorHead
  predecessorTree := profile.predecessorTree
  resultHead := chain.resultHead
  resultTree := chain.resultTree
  expectedEvidenceProducer := profile.expectedEvidenceProducer
  orderedGates := profile.orderedGates
  requiredArtifacts := profile.requiredArtifacts
  requiredWorkspacePredicates := profile.requiredWorkspacePredicates
  expectedCleanWorktree := profile.expectedCleanWorktree

def realizedEvidence (fields : RealizationEvidenceFields) (chain : ExactRealizationChainV2) :
    CampaignStageQualificationEvidenceV1 where
  schema := campaignStageQualificationEvidenceSchemaV1
  evidenceId := fields.evidenceId ++ "#realized"
  profileId := (realizedProfile profile chain).profileId
  profileSha256 := digests.profile (realizedProfile profile chain)
  campaignPacketSha256 := fields.campaignPacketSha256
  stageId := fields.stageId
  repositoryId := fields.repositoryId
  repositoryRef := fields.repositoryRef
  predecessorHead := chain.predecessorHead
  predecessorTree := chain.predecessorTree
  resultHead := chain.resultHead
  resultTree := chain.resultTree
  producer := fields.producer
  qualificationStartedAtUnixMs := fields.qualificationStartedAtUnixMs
  qualificationFinishedAtUnixMs := fields.qualificationFinishedAtUnixMs
  gates := fields.gates
  artifacts := fields.artifacts
  workspaceCustody := fields.workspaceCustody
  observedCleanWorktree := fields.observedCleanWorktree

def realizationVerdict (evidence : CampaignStageRealizationEvidenceV2) (evaluator : QualificationEvaluatorIdentityV1)
    (evaluatedAtUnixMs : UInt64) (predecessor : Bool) : QualificationStatusV1 × List QualificationReasonV1 :=
  match evidence.fields.realizations with
  | [chain] =>
      if outerExact digests profile evidence evaluator evaluatedAtUnixMs &&
          (evidence.boundedChain && (predecessor && realizationMatches profile chain)) then
        evaluateCampaignStageQualification digests.toQualificationDigests (realizedProfile profile chain)
          (realizedEvidence digests profile evidence.fields chain) evaluator evaluatedAtUnixMs
      else (.indeterminate, [.evidenceIncomplete, .contractOrIdentityMismatch])
  | _ => (.indeterminate, [.evidenceIncomplete, .contractOrIdentityMismatch])

def realizationReceipt (evidence : CampaignStageRealizationEvidenceV2) (evaluator : QualificationEvaluatorIdentityV1)
    (evaluatedAtUnixMs : UInt64) (predecessor : Bool) : CampaignStageRealizationReceiptV2 :=
  let verdict := realizationVerdict digests profile evidence evaluator evaluatedAtUnixMs predecessor
  let receipt : CampaignStageRealizationReceiptV2 := {
    schema := campaignStageRealizationReceiptSchemaV2
    receiptId := "reservation-qualification:" ++ profile.profileId ++ ":" ++ evidence.fields.evidenceId
    evaluatorId := evaluator.evaluatorId
    evaluatorVersion := evaluator.evaluatorVersion
    evaluatorExecutableSha256 := evaluator.executableSha256
    evaluatedAtUnixMs := evaluatedAtUnixMs
    profileId := profile.profileId
    profileSha256 := digests.realizationProfile profile
    evidenceId := evidence.fields.evidenceId
    evidenceSha256 := digests.realizationEvidence evidence
    evidenceReservation := profile.evidenceReservation
    campaignPacketSha256 := profile.campaignPacketSha256
    stageId := profile.stageId
    repositoryId := profile.repositoryId
    repositoryRef := profile.repositoryRef
    realizations := evidence.fields.realizations
    status := verdict.1
    reasons := verdict.2
    doesNotEstablish := campaignStageRealizationNonclaimsV2
    receiptSha256 := "" }
  { receipt with receiptSha256 := receiptDigest digests receipt }

/-- `evaluate_campaign_stage_realization`. The prior stage is evaluated again with the
evaluator and at the time that its receipt names. -/
def evaluateCampaignStageRealization (profile : CampaignStageRealizationProfileV2)
    (evidence : CampaignStageRealizationEvidenceV2) (evaluator : QualificationEvaluatorIdentityV1)
    (evaluatedAtUnixMs : UInt64) : CampaignStageRealizationReceiptV2 :=
  match evidence with
  | .initial fields =>
      realizationReceipt digests profile (.initial fields) evaluator evaluatedAtUnixMs
        (match profile.predecessor with
        | .initialGit head tree => head == profile.predecessorHead && tree == profile.predecessorTree
        | .priorStageRealization _ _ => false)
  | .following fields priorProfile priorEvidence receipt =>
      let recomputed := evaluateCampaignStageRealization priorProfile priorEvidence receipt.evaluator
        receipt.evaluatedAtUnixMs
      realizationReceipt digests profile (.following fields priorProfile priorEvidence receipt) evaluator
        evaluatedAtUnixMs
        (match profile.predecessor with
        | .initialGit _ _ => false
        | .priorStageRealization stageId reservation =>
            replayMatches digests recomputed receipt &&
              priorStageFits profile fields evaluator stageId reservation priorProfile receipt)

end Evaluation

end ConstellationNq.Core
