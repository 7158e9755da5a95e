import ConstellationNq.Core.StageRealization
import Mathlib.Data.List.Chain

/-!
# The ancestry of a qualified stage

A receipt that is recomputed exactly hands the hypotheses of its own evaluation to the
stage that carries it, so that a qualified stage stands on a chain of qualified stages.
-/

set_option autoImplicit false

namespace ConstellationNq.Core

open Protocol

variable {digests : RealizationDigests} {evaluator : QualificationEvaluatorIdentityV1}

/-- The stage was evaluated to its receipt by this evaluator, and qualified. -/
structure PriorStageQualificationV2.QualifiedBy (digests : RealizationDigests)
    (evaluator : QualificationEvaluatorIdentityV1) (stage : PriorStageQualificationV2) : Prop where
  evaluated : evaluateCampaignStageRealization digests stage.profile stage.evidence evaluator
    stage.receipt.evaluatedAtUnixMs = stage.receipt
  qualified : stage.receipt.status = .qualified

/-- A stage names its predecessor and starts where that one ended. -/
structure PriorStageQualificationV2.Succeeds (stage prior : PriorStageQualificationV2) : Prop where
  named : stage.profile.predecessor =
    .priorStageRealization prior.profile.stageId prior.profile.evidenceReservation
  packet : prior.profile.campaignPacketSha256 = stage.profile.campaignPacketSha256
  repository : prior.profile.repositoryId = stage.profile.repositoryId
  reference : prior.profile.repositoryRef = stage.profile.repositoryRef
  result : ∃ realization, prior.evidence.fields.realizations = [realization] ∧
    stage.profile.predecessorHead = realization.resultHead ∧ stage.profile.predecessorTree = realization.resultTree
  earlier : prior.receipt.evaluatedAtUnixMs ≤ stage.evidence.fields.qualificationStartedAtUnixMs

/-! ## What a qualified receipt says -/

variable {fields : RealizationEvidenceFields} {priorEvidence : CampaignStageRealizationEvidenceV2}
  {receipt : CampaignStageRealizationReceiptV2} {priorProfile : CampaignStageRealizationProfileV2}

section Receipt

variable {profile : CampaignStageRealizationProfileV2} {evidence : CampaignStageRealizationEvidenceV2}
  {evaluatedAtUnixMs : UInt64}

theorem realizationReceipt_qualified {predecessor : Bool}
    (qualified : (realizationReceipt digests profile evidence evaluator evaluatedAtUnixMs predecessor).status =
      .qualified) : evidence.boundedChain = true ∧ predecessor = true := by
  change (realizationVerdict digests profile evidence evaluator evaluatedAtUnixMs predecessor).1 = _ at qualified
  unfold realizationVerdict at qualified
  split at qualified
  · split at qualified
    · rename_i exact
      simp only [Bool.and_eq_true] at exact
      exact ⟨exact.2.1, exact.2.2.1⟩
    · cases qualified
  · cases qualified

theorem evaluated_fields :
    (evaluateCampaignStageRealization digests profile evidence evaluator evaluatedAtUnixMs).evaluatedAtUnixMs =
      evaluatedAtUnixMs ∧
    (evaluateCampaignStageRealization digests profile evidence evaluator evaluatedAtUnixMs).realizations =
      evidence.fields.realizations := by
  cases evidence with
  | initial fields => exact ⟨rfl, rfl⟩
  | following fields priorProfile priorEvidence receipt => exact ⟨rfl, rfl⟩

theorem boundedChain_of_qualified
    (qualified : (evaluateCampaignStageRealization digests profile evidence evaluator evaluatedAtUnixMs).status =
      .qualified) : evidence.boundedChain = true := by
  cases evidence with
  | initial fields => exact (realizationReceipt_qualified qualified).1
  | following fields priorProfile priorEvidence receipt => exact (realizationReceipt_qualified qualified).1

theorem initialGit_of_qualified
    (qualified : (evaluateCampaignStageRealization digests profile (.initial fields) evaluator
      evaluatedAtUnixMs).status = .qualified) :
    profile.predecessor = .initialGit profile.predecessorHead profile.predecessorTree := by
  have starts := (realizationReceipt_qualified qualified).2
  cases required : profile.predecessor with
  | initialGit head tree =>
      rw [required] at starts
      simp only [Bool.and_eq_true, beq_iff_eq] at starts
      rw [starts.1, starts.2]
  | priorStageRealization stageId reservation =>
      rw [required] at starts
      cases starts

theorem prior_of_qualified
    (qualified : (evaluateCampaignStageRealization digests profile
      (.following fields priorProfile priorEvidence receipt) evaluator evaluatedAtUnixMs).status = .qualified) :
    ∃ stageId reservation, profile.predecessor = .priorStageRealization stageId reservation ∧
      evaluateCampaignStageRealization digests priorProfile priorEvidence receipt.evaluator
        receipt.evaluatedAtUnixMs = receipt ∧
      priorStageFits profile fields evaluator stageId reservation priorProfile receipt = true := by
  have follows := (realizationReceipt_qualified qualified).2
  cases required : profile.predecessor with
  | initialGit head tree =>
      rw [required] at follows
      cases follows
  | priorStageRealization stageId reservation =>
      rw [required] at follows
      simp only [replayMatches, Bool.and_eq_true, beq_iff_eq] at follows
      exact ⟨stageId, reservation, rfl, follows.1.1, follows.2⟩

end Receipt

theorem succeeds_of_qualified {profile : CampaignStageRealizationProfileV2} {evaluatedAtUnixMs : UInt64}
    (stageReceipt : CampaignStageRealizationReceiptV2)
    (qualified : (evaluateCampaignStageRealization digests profile
      (.following fields priorProfile priorEvidence receipt) evaluator evaluatedAtUnixMs).status = .qualified) :
    PriorStageQualificationV2.QualifiedBy digests evaluator ⟨priorProfile, priorEvidence, receipt⟩ ∧
      PriorStageQualificationV2.Succeeds
        ⟨profile, .following fields priorProfile priorEvidence receipt, stageReceipt⟩
        ⟨priorProfile, priorEvidence, receipt⟩ := by
  obtain ⟨stageId, reservation, required, recomputed, fits⟩ := prior_of_qualified qualified
  unfold priorStageFits at fits
  rw [Bool.and_eq_true] at fits
  obtain ⟨identity, result⟩ := fits
  simp only [List.all_cons, List.all_nil, id, Bool.and_eq_true, beq_iff_eq, decide_eq_true_eq, Bool.and_true]
    at identity
  obtain ⟨evaluatorId, version, executable, packet, repository, reference, earlier, stage, reserved, status⟩ :=
    identity
  have sameEvaluator : receipt.evaluator = evaluator := by
    unfold CampaignStageRealizationReceiptV2.evaluator
    rw [evaluatorId, version, executable]
  rw [sameEvaluator] at recomputed
  refine ⟨⟨recomputed, status⟩, ?_⟩
  constructor
  case named => rw [required, ← stage, ← reserved]
  case packet => exact packet
  case repository => exact repository
  case reference => exact reference
  case result =>
    have realized : receipt.realizations = priorEvidence.fields.realizations := by
      rw [← recomputed]
      exact evaluated_fields.2
    rw [realized] at result
    split at result
    · rename_i realization only
      simp only [Bool.and_eq_true, beq_iff_eq] at result
      exact ⟨realization, only, result.1.symm, result.2.symm⟩
    · cases result
  case earlier => exact earlier

/-! ## The whole chain -/

variable {evidence : CampaignStageRealizationEvidenceV2}

theorem length_priorStages_of_boundedFrom {count : Nat} (few : count ≤ 16)
    (bounded : evidence.boundedFrom count = true) : count + evidence.priorStages.length ≤ 16 := by
  induction evidence generalizing count with
  | initial fields => exact few
  | following fields profile evidence receipt ih =>
      rw [CampaignStageRealizationEvidenceV2.boundedFrom] at bounded
      split at bounded
      · cases bounded
      · rename_i more
        have := ih (by omega) bounded
        rw [CampaignStageRealizationEvidenceV2.priorStages, List.length_cons]
        omega

/-- What the nested stages of an evidence document are to the stage that carries them. -/
structure Ancestry (digests : RealizationDigests) (evaluator : QualificationEvaluatorIdentityV1)
    (stage : PriorStageQualificationV2) : Prop where
  qualified : ∀ prior ∈ stage.evidence.priorStages, prior.QualifiedBy digests evaluator
  sameCampaign : ∀ prior ∈ stage.evidence.priorStages,
    prior.profile.campaignPacketSha256 = stage.profile.campaignPacketSha256 ∧
      prior.profile.repositoryId = stage.profile.repositoryId ∧
      prior.profile.repositoryRef = stage.profile.repositoryRef
  linked : List.IsChain PriorStageQualificationV2.Succeeds (stage :: stage.evidence.priorStages)
  rooted : ∃ first ∈ (stage :: stage.evidence.priorStages).getLast?,
    first.profile.predecessor = .initialGit first.profile.predecessorHead first.profile.predecessorTree

theorem ancestry_of_qualified {profile : CampaignStageRealizationProfileV2} {evaluatedAtUnixMs : UInt64}
    (receipt : CampaignStageRealizationReceiptV2)
    (qualified : (evaluateCampaignStageRealization digests profile evidence evaluator evaluatedAtUnixMs).status =
      .qualified) : Ancestry digests evaluator ⟨profile, evidence, receipt⟩ := by
  -- The receipt carried for the prior stage is the result of evaluating that stage, so
  -- the induction goes on with its own receipt and time.
  induction evidence generalizing profile receipt evaluatedAtUnixMs with
  | initial fields =>
      constructor
      case qualified => exact nofun
      case sameCampaign => exact nofun
      case linked => exact .singleton _
      case rooted => exact ⟨_, rfl, initialGit_of_qualified qualified⟩
  | following fields priorProfile priorEvidence priorReceipt ih =>
      obtain ⟨evaluated, succeeds⟩ := succeeds_of_qualified receipt qualified
      have earlier := ih priorReceipt (by rw [evaluated.evaluated]; exact evaluated.qualified)
      constructor
      case qualified =>
        intro prior member
        cases member with
        | head => exact evaluated
        | tail _ deeper => exact earlier.qualified prior deeper
      case sameCampaign =>
        intro prior member
        cases member with
        | head => exact ⟨succeeds.packet, succeeds.repository, succeeds.reference⟩
        | tail _ deeper =>
            obtain ⟨packet, repository, reference⟩ := earlier.sameCampaign prior deeper
            exact ⟨packet.trans succeeds.packet, repository.trans succeeds.repository,
              reference.trans succeeds.reference⟩
      case linked => exact .cons_cons succeeds earlier.linked
      case rooted =>
        obtain ⟨first, last, starts⟩ := earlier.rooted
        exact ⟨first, by rw [CampaignStageRealizationEvidenceV2.priorStages, List.getLast?_cons_cons]; exact last, starts⟩

/-- A qualified stage has at most 16 prior stages, each qualified by the same evaluator
and linked to the next, the first of which starts from a Git commit. -/
theorem qualified_stage_ancestry (digests : RealizationDigests) (profile : CampaignStageRealizationProfileV2)
    (evidence : CampaignStageRealizationEvidenceV2) (evaluator : QualificationEvaluatorIdentityV1)
    (evaluatedAtUnixMs : UInt64)
    (qualified : (evaluateCampaignStageRealization digests profile evidence evaluator evaluatedAtUnixMs).status =
      .qualified) :
    evidence.priorStages.length ≤ 16 ∧
      Ancestry digests evaluator ⟨profile, evidence,
        evaluateCampaignStageRealization digests profile evidence evaluator evaluatedAtUnixMs⟩ := by
  have bounded := length_priorStages_of_boundedFrom (by decide) (boundedChain_of_qualified qualified)
  rw [Nat.zero_add] at bounded
  exact ⟨bounded, ancestry_of_qualified _ qualified⟩

/-! A campaign of two stages, under digests that are all alike. -/

private def sampleSha256 : String := "sha256:" ++ String.ofList (List.replicate 64 'a')

private def sampleDigests : RealizationDigests where
  profile _ := sampleSha256
  evidence _ := sampleSha256
  realizationProfile _ := sampleSha256
  realizationEvidence _ := sampleSha256
  receipt _ := sampleSha256

private def sampleObject (digit : Char) : GitObjectIdentityV1 where
  objectFormat := "sha1"
  digest := String.ofList (List.replicate 40 digit)

private def sampleEvaluator : QualificationEvaluatorIdentityV1 where
  evaluatorId := realizationEvaluatorId
  evaluatorVersion := "2.0.0"
  executableSha256 := sampleSha256

private def sampleContext : GateExecutionContextV1 where
  executableSha256 := sampleSha256
  argvTranscriptSha256 := sampleSha256
  repositoryRelativeCwd := "."
  environmentTranscriptSha256 := sampleSha256

private def sampleProfile (stageId : String) (predecessor : PredecessorRequirementV2) (start : Char) :
    CampaignStageRealizationProfileV2 where
  schema := campaignStageRealizationProfileSchemaV2
  profileId := "profile"
  evidenceReservation := sampleSha256
  campaignPacketSha256 := sampleSha256
  stageId := stageId
  repositoryId := "repository"
  repositoryRef := "refs/heads/main"
  predecessor := predecessor
  predecessorHead := sampleObject start
  predecessorTree := sampleObject start
  executorPlanTemplate := sampleSha256
  expectedEvidenceProducer := { producerId := "gates", producerVersion := "1", executableSha256 := sampleSha256 }
  orderedGates := [{ ordinal := 0, gateId := "build", context := sampleContext, requiredExitCode := 0 }]
  requiredArtifacts := []
  requiredWorkspacePredicates := [.repositoryIdentityMatches]
  expectedCleanWorktree := true

private def sampleChain (start result : Char) : ExactRealizationChainV2 where
  evidenceReservation := sampleSha256
  docketAttempt := sampleSha256
  executorPlanTemplate := sampleSha256
  executorPlan := sampleSha256
  docketSettlement := sampleSha256
  porterRunId := "run"
  porterRecordSha256 := sampleSha256
  executorReceipt := sampleSha256
  predecessorHead := sampleObject start
  predecessorTree := sampleObject start
  resultHead := sampleObject result
  resultTree := sampleObject result

private def sampleFields (stageId : String) (start result : Char) (time : UInt64) : RealizationEvidenceFields where
  schema := campaignStageRealizationEvidenceSchemaV2
  evidenceId := "evidence"
  profileId := "profile"
  profileSha256 := sampleSha256
  evidenceReservation := sampleSha256
  campaignPacketSha256 := sampleSha256
  stageId := stageId
  repositoryId := "repository"
  repositoryRef := "refs/heads/main"
  realizations := [sampleChain start result]
  producer := { producerId := "gates", producerVersion := "1", executableSha256 := sampleSha256 }
  qualificationStartedAtUnixMs := time
  qualificationFinishedAtUnixMs := time
  gates := [{
    ordinal := 0
    gateId := "build"
    context := sampleContext
    startedAtUnixMs := time
    finishedAtUnixMs := time
    outcome := .completed 0 sampleSha256 sampleSha256 }]
  artifacts := []
  workspaceCustody := [{
    predicate := .repositoryIdentityMatches
    observationSha256 := sampleSha256
    outcome := .passed }]
  observedCleanWorktree := some true

private def firstProfile : CampaignStageRealizationProfileV2 :=
  sampleProfile "first" (.initialGit (sampleObject '0') (sampleObject '0')) '0'

private def firstEvidence : CampaignStageRealizationEvidenceV2 := .initial (sampleFields "first" '0' '1' 10)

private def firstReceipt : CampaignStageRealizationReceiptV2 :=
  evaluateCampaignStageRealization sampleDigests firstProfile firstEvidence sampleEvaluator 20

private def secondProfile : CampaignStageRealizationProfileV2 :=
  sampleProfile "second" (.priorStageRealization "first" sampleSha256) '1'

private def secondEvidence : CampaignStageRealizationEvidenceV2 :=
  .following (sampleFields "second" '1' '2' 30) firstProfile firstEvidence firstReceipt

section Status

variable {digests : RealizationDigests} {profile : CampaignStageRealizationProfileV2} {fields : RealizationEvidenceFields}
  {evaluator : QualificationEvaluatorIdentityV1} {evaluatedAtUnixMs : UInt64}

private theorem status_initial {head tree : GitObjectIdentityV1} (initial : profile.predecessor = .initialGit head tree) :
    (evaluateCampaignStageRealization digests profile (.initial fields) evaluator evaluatedAtUnixMs).status =
      (realizationVerdict digests profile (.initial fields) evaluator evaluatedAtUnixMs
        (head == profile.predecessorHead && tree == profile.predecessorTree)).1 := by
  rw [evaluateCampaignStageRealization, initial]
  rfl

private theorem evaluator_initial :
    (evaluateCampaignStageRealization digests profile (.initial fields) evaluator evaluatedAtUnixMs).evaluator =
      evaluator := rfl

private theorem receiptSha256_initial :
    (evaluateCampaignStageRealization digests profile (.initial fields) evaluator evaluatedAtUnixMs).receiptSha256 =
      receiptDigest digests
        (evaluateCampaignStageRealization digests profile (.initial fields) evaluator evaluatedAtUnixMs) := rfl

private theorem status_following {stageId reservation : String}
    (following : profile.predecessor = .priorStageRealization stageId reservation) :
    (evaluateCampaignStageRealization digests profile (.following fields priorProfile priorEvidence receipt) evaluator
        evaluatedAtUnixMs).status =
      (realizationVerdict digests profile (.following fields priorProfile priorEvidence receipt) evaluator
        evaluatedAtUnixMs (replayMatches digests (evaluateCampaignStageRealization digests priorProfile priorEvidence
            receipt.evaluator receipt.evaluatedAtUnixMs) receipt &&
          priorStageFits profile fields evaluator stageId reservation priorProfile receipt)).1 := by
  rw [evaluateCampaignStageRealization, following]
  rfl

end Status

private theorem isSha256Digest_sample : isSha256Digest sampleSha256 = true := by
  decide +kernel

private theorem gitObjectIsWellFormed_sample {digit : Char} (isDigit : digit.isDigit = true) :
    gitObjectIsWellFormed (sampleObject digit) = true := by
  simp [gitObjectIsWellFormed, sampleObject, isDigit]

section SampleStage

variable {stageId : String} {predecessor : PredecessorRequirementV2} {start result : Char} {time evaluatedAt : UInt64}
  (named : stageId ≠ "") (startDigit : start.isDigit = true) (resultDigit : result.isDigit = true)
  (later : time ≤ evaluatedAt)

include named startDigit resultDigit later in
private theorem identityHolds_sample :
    identityHolds sampleDigests.toQualificationDigests
      (realizedProfile (sampleProfile stageId predecessor start) (sampleChain start result))
      (realizedEvidence sampleDigests (sampleProfile stageId predecessor start) (sampleFields stageId start result time)
        (sampleChain start result)) sampleEvaluator evaluatedAt = true := by
  have relative : isRelativePath "." = true := by decide +kernel
  simp [identityHolds, CampaignStageQualificationProfileV1.isWellFormed, sameBindings, realizedProfile, realizedEvidence,
    sampleProfile, sampleFields, sampleDigests, sampleEvaluator, sampleContext, sampleChain, producerIsWellFormed,
    contextIsWellFormed, CampaignStageQualificationProfileV1.gatesOrdered,
    CampaignStageQualificationProfileV1.artifactsDeclared, isSha256Digest_sample,
    gitObjectIsWellFormed_sample startDigit, gitObjectIsWellFormed_sample resultDigit, named, later, relative]

include named startDigit resultDigit later in
private theorem realizationVerdict_sample (ofFields : evidence.fields = sampleFields stageId start result time)
    (bounded : evidence.boundedChain = true)
    (required : (sampleProfile stageId predecessor start).predecessorIsWellFormed = true) :
    realizationVerdict sampleDigests (sampleProfile stageId predecessor start) evidence sampleEvaluator evaluatedAt true =
      (.qualified, [.allRequiredPredicatesHold]) := by
  have outer : outerExact sampleDigests (sampleProfile stageId predecessor start) evidence sampleEvaluator evaluatedAt
      = true := by
    simp only [outerExact, ofFields, CampaignStageRealizationProfileV2.isWellFormed, required]
    simp [sampleProfile, sampleFields, sampleEvaluator, sampleDigests, isSha256Digest_sample, named,
      gitObjectIsWellFormed_sample startDigit, later]
  have matched : realizationMatches (sampleProfile stageId predecessor start) (sampleChain start result) = true := by
    simp [realizationMatches, sampleProfile, sampleChain, isSha256Digest_sample,
      gitObjectIsWellFormed_sample resultDigit]
  have chains : evidence.fields.realizations = [sampleChain start result] := by rw [ofFields]; rfl
  have evaluated : evaluateCampaignStageQualification sampleDigests.toQualificationDigests
      (realizedProfile (sampleProfile stageId predecessor start) (sampleChain start result))
      (realizedEvidence sampleDigests (sampleProfile stageId predecessor start) (sampleFields stageId start result time)
        (sampleChain start result)) sampleEvaluator evaluatedAt = (.qualified, [.allRequiredPredicatesHold]) := by
    simp only [evaluateCampaignStageQualification, identityHolds_sample named startDigit resultDigit later]
    simp [gatesAreWellFormed, observeGate, artifactsAreWellFormed, custodyIsWellFormed, observeCustody,
      realizedProfile, realizedEvidence, sampleProfile, sampleFields, isSha256Digest_sample]
  simp only [realizationVerdict, chains, outer, bounded, matched, Bool.and_self, if_true]
  rw [ofFields, evaluated]

end SampleStage

private theorem firstReceipt_status : firstReceipt.status = .qualified := by
  have verdict : realizationVerdict sampleDigests firstProfile firstEvidence sampleEvaluator 20 true =
      (.qualified, [.allRequiredPredicatesHold]) := by
    refine realizationVerdict_sample (by decide) rfl rfl (by decide) rfl rfl ?_
    simp [CampaignStageRealizationProfileV2.predecessorIsWellFormed, sampleProfile, gitObjectIsWellFormed_sample]
  have fits : (sampleObject '0' == firstProfile.predecessorHead && sampleObject '0' == firstProfile.predecessorTree) =
      true := by
    simp [firstProfile, sampleProfile]
  rw [firstReceipt, firstEvidence, status_initial rfl, fits]
  exact congrArg Prod.fst verdict

private theorem secondReceipt_status :
    (evaluateCampaignStageRealization sampleDigests secondProfile secondEvidence sampleEvaluator 40).status =
      .qualified := by
  have verdict : realizationVerdict sampleDigests secondProfile secondEvidence sampleEvaluator 40 true =
      (.qualified, [.allRequiredPredicatesHold]) := by
    refine realizationVerdict_sample (by decide) rfl rfl (by decide) rfl rfl ?_
    simp [CampaignStageRealizationProfileV2.predecessorIsWellFormed, sampleProfile, isSha256Digest_sample]
  have first := firstReceipt_status
  have evaluator : firstReceipt.evaluator = sampleEvaluator := evaluator_initial
  have fields : firstReceipt.evaluatedAtUnixMs = 20 ∧
      firstReceipt.realizations = firstEvidence.fields.realizations := evaluated_fields
  have replayed : replayMatches sampleDigests firstReceipt firstReceipt = true := by
    rw [replayMatches, beq_self_eq_true, Bool.true_and, beq_iff_eq]
    exact receiptSha256_initial
  have fits : priorStageFits secondProfile (sampleFields "second" '1' '2' 30) sampleEvaluator "first" sampleSha256
      firstProfile firstReceipt = true := by
    generalize firstReceipt = receipt at *
    rw [priorStageFits, fields.1, fields.2, ← evaluator, first]
    simp [CampaignStageRealizationReceiptV2.evaluator, firstProfile, firstEvidence, secondProfile, sampleProfile,
      sampleFields, sampleChain, CampaignStageRealizationEvidenceV2.fields]
  rw [secondEvidence, status_following rfl, evaluator, fields.1, ← firstReceipt, replayed, fits]
  exact congrArg Prod.fst verdict

theorem qualified_stage_ancestry_second : secondEvidence.priorStages.length = 1 ∧
    Ancestry sampleDigests sampleEvaluator ⟨secondProfile, secondEvidence,
      evaluateCampaignStageRealization sampleDigests secondProfile secondEvidence sampleEvaluator 40⟩ :=
  ⟨rfl, (qualified_stage_ancestry sampleDigests secondProfile secondEvidence sampleEvaluator 40
    secondReceipt_status).2⟩

end ConstellationNq.Core
