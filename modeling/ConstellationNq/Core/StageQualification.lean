import ConstellationNq.Protocol.Canonical
import Mathlib.Data.Finset.Card

/-!
# Qualification of a repository stage

A closed profile names the gates, artifacts and workspace predicates of one stage, and
the evidence of a producer is evaluated against it. Evidence that is incomplete or does
not belong to the profile leaves the stage indeterminate; only complete evidence can
qualify or fail it.
-/

set_option autoImplicit false

namespace ConstellationNq.Core

open Protocol

/-! ## Documents -/

structure GitObjectIdentityV1 where
  objectFormat : String
  digest : String
deriving DecidableEq

structure EvidenceProducerIdentityV1 where
  producerId : String
  producerVersion : String
  executableSha256 : String
deriving DecidableEq

structure GateExecutionContextV1 where
  executableSha256 : String
  argvTranscriptSha256 : String
  repositoryRelativeCwd : String
  environmentTranscriptSha256 : String
deriving DecidableEq

structure GateRequirementV1 where
  ordinal : UInt32
  gateId : String
  context : GateExecutionContextV1
  requiredExitCode : Int32
deriving DecidableEq

structure ArtifactRequirementV1 where
  repositoryRelativePath : String
  sha256 : String
deriving DecidableEq

inductive WorkspaceCustodyPredicateV1 where
  | repositoryIdentityMatches
  | persistentWriteReadRoundTrip
  | headAndTreeStableDuringQualification
  | worktreeMatchesDeclaredCleanliness
  | mutationScopeRespected
deriving DecidableEq

structure CampaignStageQualificationProfileV1 where
  schema : String
  profileId : String
  campaignPacketSha256 : String
  stageId : String
  repositoryId : String
  repositoryRef : String
  predecessorHead : GitObjectIdentityV1
  predecessorTree : GitObjectIdentityV1
  resultHead : GitObjectIdentityV1
  resultTree : GitObjectIdentityV1
  expectedEvidenceProducer : EvidenceProducerIdentityV1
  orderedGates : List GateRequirementV1
  requiredArtifacts : List ArtifactRequirementV1
  requiredWorkspacePredicates : List WorkspaceCustodyPredicateV1
  expectedCleanWorktree : Bool
deriving DecidableEq

inductive GateOutcomeV1 where
  | completed (exitCode : Int32) (stdoutSha256 stderrSha256 : String)
  | notRunAfterFailure (failedGateOrdinal : UInt32)
  | indeterminate (reason : String)
deriving DecidableEq

structure GateEvidenceV1 where
  ordinal : UInt32
  gateId : String
  context : GateExecutionContextV1
  startedAtUnixMs : UInt64
  finishedAtUnixMs : UInt64
  outcome : GateOutcomeV1
deriving DecidableEq

structure ArtifactEvidenceV1 where
  repositoryRelativePath : String
  present : Bool
  sha256 : Option String
  observationSha256 : String
deriving DecidableEq

inductive WorkspacePredicateOutcomeV1 where
  | passed
  | failed (reason : String)
  | indeterminate (reason : String)
deriving DecidableEq

structure WorkspaceCustodyEvidenceV1 where
  predicate : WorkspaceCustodyPredicateV1
  observationSha256 : String
  outcome : WorkspacePredicateOutcomeV1
deriving DecidableEq

structure CampaignStageQualificationEvidenceV1 where
  schema : String
  evidenceId : String
  profileId : String
  profileSha256 : String
  campaignPacketSha256 : String
  stageId : String
  repositoryId : String
  repositoryRef : String
  predecessorHead : GitObjectIdentityV1
  predecessorTree : GitObjectIdentityV1
  resultHead : GitObjectIdentityV1
  resultTree : GitObjectIdentityV1
  producer : EvidenceProducerIdentityV1
  qualificationStartedAtUnixMs : UInt64
  qualificationFinishedAtUnixMs : UInt64
  gates : List GateEvidenceV1
  artifacts : List ArtifactEvidenceV1
  workspaceCustody : List WorkspaceCustodyEvidenceV1
  observedCleanWorktree : Option Bool
deriving DecidableEq

inductive QualificationStatusV1 where
  | qualified
  | failed
  | indeterminate
deriving DecidableEq

inductive QualificationReasonV1 where
  | allRequiredPredicatesHold
  | requiredGateFailed
  | requiredArtifactFailed
  | workspaceCustodyFailed
  | evidenceIncomplete
  | contractOrIdentityMismatch
deriving DecidableEq

structure QualificationEvaluatorIdentityV1 where
  evaluatorId : String
  evaluatorVersion : String
  executableSha256 : String
deriving DecidableEq

/-! ## Well-formedness -/

def qualificationEvaluatorId : String := "nq-ng.campaign-stage-qualification-evaluator/v1"
def realizationEvaluatorId : String := "nq-ng.campaign-stage-realization-evaluator/v2"
def campaignStageQualificationProfileSchemaV1 : String := "nq-ng.campaign-stage-qualification-profile/v1"
def campaignStageQualificationEvidenceSchemaV1 : String := "nq-ng.campaign-stage-qualification-evidence/v1"

def gitObjectIsWellFormed (value : GitObjectIdentityV1) : Bool :=
  let hexadecimal (length : Nat) : Bool :=
    value.digest.toList.length == length &&
      value.digest.toList.all fun character => character.isDigit || ('a' ≤ character && character ≤ 'f')
  if value.objectFormat = "sha1" then hexadecimal 40
  else if value.objectFormat = "sha256" then hexadecimal 64
  else false

def producerIsWellFormed (value : EvidenceProducerIdentityV1) : Bool :=
  value.producerId != "" && (value.producerVersion != "" && isSha256Digest value.executableSha256)

def isRelativePath (path : String) : Bool :=
  path != "" && (!(['/'].isPrefixOf path.toList) && !(path.toList.splitOn '/').any (· == ['.', '.']))

def contextIsWellFormed (value : GateExecutionContextV1) : Bool :=
  isSha256Digest value.executableSha256 && (isSha256Digest value.argvTranscriptSha256 &&
    (isSha256Digest value.environmentTranscriptSha256 && isRelativePath value.repositoryRelativeCwd))

variable (profile : CampaignStageQualificationProfileV1)

namespace CampaignStageQualificationProfileV1

def gatesOrdered : Bool :=
  (profile.orderedGates.zipIdx.all fun (gate, ordinal) =>
    gate.ordinal.toNat == ordinal && (gate.gateId != "" && contextIsWellFormed gate.context)) &&
    decide (profile.orderedGates.map GateRequirementV1.gateId).Nodup

def artifactsDeclared : Bool :=
  (profile.requiredArtifacts.all fun artifact =>
    isRelativePath artifact.repositoryRelativePath && isSha256Digest artifact.sha256) &&
    decide (profile.requiredArtifacts.map ArtifactRequirementV1.repositoryRelativePath).Nodup

/-- `profile_is_well_formed`. -/
def isWellFormed : Bool :=
  [profile.schema == campaignStageQualificationProfileSchemaV1, profile.profileId != "", profile.stageId != "",
    profile.repositoryId != "", "refs/".toList.isPrefixOf profile.repositoryRef.toList,
    isSha256Digest profile.campaignPacketSha256, producerIsWellFormed profile.expectedEvidenceProducer,
    gitObjectIsWellFormed profile.predecessorHead, gitObjectIsWellFormed profile.predecessorTree,
    gitObjectIsWellFormed profile.resultHead, gitObjectIsWellFormed profile.resultTree,
    !profile.orderedGates.isEmpty, !profile.requiredWorkspacePredicates.isEmpty, profile.gatesOrdered,
    profile.artifactsDeclared, decide profile.requiredWorkspacePredicates.Nodup].all id

end CampaignStageQualificationProfileV1

def sameBindings (evidence : CampaignStageQualificationEvidenceV1) : Bool :=
  [evidence.campaignPacketSha256 == profile.campaignPacketSha256, evidence.stageId == profile.stageId,
    evidence.repositoryId == profile.repositoryId, evidence.repositoryRef == profile.repositoryRef,
    evidence.predecessorHead == profile.predecessorHead, evidence.predecessorTree == profile.predecessorTree,
    evidence.resultHead == profile.resultHead, evidence.resultTree == profile.resultTree].all id

/-! ## Evidence

Each check tells whether its evidence is complete, and if so whether something
required failed. -/

/-- What the gates so far have shown: the first that failed, and when the last ended. -/
structure GateProgress where
  firstFailure : Option UInt32
  previousFinish : UInt64

def observeGate (evidence : CampaignStageQualificationEvidenceV1) (progress : GateProgress)
    (required : GateRequirementV1) (observed : GateEvidenceV1) : Option GateProgress :=
  if observed.ordinal == required.ordinal && (observed.gateId == required.gateId &&
      (observed.context == required.context && (observed.startedAtUnixMs ≤ observed.finishedAtUnixMs &&
        (evidence.qualificationStartedAtUnixMs ≤ observed.startedAtUnixMs &&
          (observed.finishedAtUnixMs ≤ evidence.qualificationFinishedAtUnixMs &&
            progress.previousFinish ≤ observed.startedAtUnixMs))))) then
    match observed.outcome, progress.firstFailure with
    | .completed exitCode stdoutSha256 stderrSha256, none =>
        if isSha256Digest stdoutSha256 && isSha256Digest stderrSha256 then
          some {
            firstFailure := if exitCode = required.requiredExitCode then none else some required.ordinal
            previousFinish := observed.finishedAtUnixMs }
        else none
    | .notRunAfterFailure failedGateOrdinal, some first =>
        if failedGateOrdinal = first then
          some { firstFailure := some first, previousFinish := observed.finishedAtUnixMs }
        else none
    | _, _ => none
  else none

def gatesAreWellFormed (evidence : CampaignStageQualificationEvidenceV1) : Option Bool :=
  if evidence.gates.length = profile.orderedGates.length then do
    let progress ← (profile.orderedGates.zip evidence.gates).foldlM
      (fun progress (required, observed) => observeGate evidence progress required observed)
      { firstFailure := none, previousFinish := evidence.qualificationStartedAtUnixMs }
    return progress.firstFailure.isSome
  else none

def observeArtifact (observed : ArtifactEvidenceV1) : Option Bool := do
  if !isSha256Digest observed.observationSha256 then none
  else
    let required ← profile.requiredArtifacts.find? fun artifact =>
      artifact.repositoryRelativePath == observed.repositoryRelativePath
    match observed.sha256, observed.present with
    | some digest, true => if isSha256Digest digest then some (digest != required.sha256) else none
    | none, false => some true
    | _, _ => none

def artifactsAreWellFormed (evidence : CampaignStageQualificationEvidenceV1) : Option Bool :=
  let expected := profile.requiredArtifacts.map ArtifactRequirementV1.repositoryRelativePath
  let actual := evidence.artifacts.map ArtifactEvidenceV1.repositoryRelativePath
  if evidence.artifacts.length = profile.requiredArtifacts.length ∧ expected.toFinset = actual.toFinset ∧
      actual.Nodup then do
    let failures ← evidence.artifacts.mapM (observeArtifact profile)
    return failures.any id
  else none

def observeCustody (observed : WorkspaceCustodyEvidenceV1) : Option Bool :=
  if isSha256Digest observed.observationSha256 then
    match observed.outcome with
    | .passed => some false
    | .failed _ => some true
    | .indeterminate _ => none
  else none

def custodyIsWellFormed (evidence : CampaignStageQualificationEvidenceV1) : Option Bool :=
  let actual := evidence.workspaceCustody.map WorkspaceCustodyEvidenceV1.predicate
  if evidence.workspaceCustody.length = profile.requiredWorkspacePredicates.length ∧
      profile.requiredWorkspacePredicates.toFinset = actual.toFinset ∧ actual.Nodup then do
    let failures ← evidence.workspaceCustody.mapM observeCustody
    return failures.any id
  else none

/-! ## Evaluation -/

/-- The digests of the documents, by `canonical_sha256`. -/
structure QualificationDigests where
  profile : CampaignStageQualificationProfileV1 → String
  evidence : CampaignStageQualificationEvidenceV1 → String

/-- The evidence belongs to the profile and to this evaluator. -/
def identityHolds (digests : QualificationDigests) (profile : CampaignStageQualificationProfileV1)
    (evidence : CampaignStageQualificationEvidenceV1) (evaluator : QualificationEvaluatorIdentityV1)
    (evaluatedAtUnixMs : UInt64) : Bool :=
  [profile.isWellFormed,
    evaluator.evaluatorId == qualificationEvaluatorId || evaluator.evaluatorId == realizationEvaluatorId,
    evaluator.evaluatorVersion != "", isSha256Digest evaluator.executableSha256,
    evidence.schema == campaignStageQualificationEvidenceSchemaV1, evidence.evidenceId != "",
    evidence.profileId == profile.profileId, evidence.profileSha256 == digests.profile profile,
    sameBindings profile evidence, evidence.producer == profile.expectedEvidenceProducer,
    producerIsWellFormed evidence.producer,
    evidence.qualificationStartedAtUnixMs ≤ evidence.qualificationFinishedAtUnixMs,
    evidence.qualificationFinishedAtUnixMs ≤ evaluatedAtUnixMs, isSha256Digest (digests.profile profile),
    isSha256Digest (digests.evidence evidence)].all id

def failureReasons (failedGate failedArtifact failedCustody : Bool) : List QualificationReasonV1 :=
  (if failedGate then [.requiredGateFailed] else []) ++ ((if failedArtifact then [.requiredArtifactFailed] else []) ++
    if failedCustody then [.workspaceCustodyFailed] else [])

/-- The status and the reasons of `evaluate_campaign_stage_qualification`, the part of
its receipt that a realization takes over. -/
def evaluateCampaignStageQualification (digests : QualificationDigests)
    (profile : CampaignStageQualificationProfileV1) (evidence : CampaignStageQualificationEvidenceV1)
    (evaluator : QualificationEvaluatorIdentityV1) (evaluatedAtUnixMs : UInt64) :
    QualificationStatusV1 × List QualificationReasonV1 :=
  match identityHolds digests profile evidence evaluator evaluatedAtUnixMs, gatesAreWellFormed profile evidence,
      artifactsAreWellFormed profile evidence, custodyIsWellFormed profile evidence,
      evidence.observedCleanWorktree with
  | true, some failedGate, some failedArtifact, some failedPredicate, some observed =>
      let failedCustody := failedPredicate || observed != profile.expectedCleanWorktree
      if failedGate || (failedArtifact || failedCustody) then
        (.failed, failureReasons failedGate failedArtifact failedCustody)
      else (.qualified, [.allRequiredPredicatesHold])
  | _, _, _, _, _ => (.indeterminate, [.evidenceIncomplete, .contractOrIdentityMismatch])

end ConstellationNq.Core
