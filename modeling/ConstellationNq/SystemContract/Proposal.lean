import ConstellationNq.Protocol.Value
import ConstellationNq.SystemContract.Specification

/-!
# Compiling a system into a cut

A proposal is the restriction of a specification to one of its systems, together with
the sources that are cited in it. A cut adds the ratification of exactly that
proposal. Both are verified without the specification they come from, and a cut is
also verified against one.
-/

set_option autoImplicit false

namespace ConstellationNq.SystemContract

open Library.Loop Protocol

def scopeCutProposalSchema : String := "nq.scope_cut_proposal.v1"
def scopeCutRatificationSchema : String := "nq.scope_cut_ratification.v1"

structure ScopeCutProposalBodyV1 where
  cutId : Identifier
  sourceSpec : SystemSpecReferenceV1
  system : SystemDefinitionV1
  sourceSnapshots : List SourceSnapshotV1
  targets : List TargetV1
  components : List ComponentV1
  dependencies : List DependencyV1
  observationObligations : List ObservationObligationV1
  authority : AuthoritySemantics

structure ScopeCutProposalV1 where
  schema : String
  proposalDigest : Sha256Digest
  proposal : ScopeCutProposalBodyV1

/-! ## Equality of documents -/

def SubjectBinding.same (left right : SubjectBinding) : Bool :=
  left.subject == right.subject &&
    ((left.scope.kind == right.scope.kind && left.scope.value.same right.scope.value) &&
      (left.vantage.kind == right.vantage.kind && left.vantage.value.same right.vantage.value))

/-- Everything but the subject binding, whose values compare as JSON does. -/
def ObservationObligationV1.same (left right : ObservationObligationV1) : Bool :=
  decide (left.observationObligationId = right.observationObligationId ∧ left.componentId = right.componentId ∧
    left.instanceId = right.instanceId ∧ left.profile = right.profile ∧
    left.requiredCoverage = right.requiredCoverage ∧ left.grantedCapabilities = right.grantedCapabilities ∧
    left.freshnessSeconds = right.freshnessSeconds ∧ left.sourceSnapshotIds = right.sourceSnapshotIds) &&
  left.subjectBinding.same right.subjectBinding

def sameObligations (left right : List ObservationObligationV1) : Bool :=
  left.isEqv right ObservationObligationV1.same

def ScopeCutProposalBodyV1.same (left right : ScopeCutProposalBodyV1) : Bool :=
  decide (left.cutId = right.cutId ∧ left.sourceSpec = right.sourceSpec ∧ left.system = right.system ∧
    left.sourceSnapshots = right.sourceSnapshots ∧ left.targets = right.targets ∧
    left.components = right.components ∧ left.dependencies = right.dependencies ∧
    left.authority = right.authority) &&
  sameObligations left.observationObligations right.observationObligations

/-! ## Proposals -/

variable (codec : ContractCodec)

def ScopeCutProposalBodyV1.toJson (body : ScopeCutProposalBodyV1) : Json :=
  .object [("cut_id", body.cutId.toJson), ("source_spec", body.sourceSpec.toJson),
    ("system", body.system.toJson),
    ("source_snapshots", .array (body.sourceSnapshots.map (SourceSnapshotV1.toJson codec))),
    ("targets", .array (body.targets.map TargetV1.toJson)),
    ("components", .array (body.components.map ComponentV1.toJson)),
    ("dependencies", .array (body.dependencies.map DependencyV1.toJson)),
    ("observation_obligations", .array (body.observationObligations.map ObservationObligationV1.toJson)),
    ("authority", body.authority.toJson)]

def ScopeCutProposalBodyV1.digest (body : ScopeCutProposalBodyV1) :
    Except ContractError Sha256Digest :=
  artifactDigest codec.toCodec scopeCutProposalSchema (body.toJson codec)

def ScopeCutProposalV1.toJson (proposal : ScopeCutProposalV1) : Json :=
  .object [("schema", .string proposal.schema), ("proposal_digest", .string proposal.proposalDigest.text),
    ("proposal", proposal.proposal.toJson codec)]

/-- The specification of the proposed system alone. -/
def ScopeCutProposalBodyV1.restriction (body : ScopeCutProposalBodyV1) : SystemSpecV1 where
  schema := systemSpecSchema
  specId := body.sourceSpec.specId
  revision := body.sourceSpec.revision
  title := body.system.title
  sourceSnapshots := body.sourceSnapshots
  targets := body.targets
  components := body.components
  dependencies := body.dependencies
  observationObligations := body.observationObligations
  systems := [body.system]
  authority := .none

/-- The arrays are in their canonical order. -/
def ScopeCutProposalBodyV1.canonical (body : ScopeCutProposalBodyV1) : Bool :=
  let normalized := body.restriction.normalized
  decide (body.sourceSnapshots = normalized.sourceSnapshots ∧ body.targets = normalized.targets ∧
    body.components = normalized.components ∧ body.dependencies = normalized.dependencies ∧
    normalized.systems.head? = some body.system) &&
  sameObligations body.observationObligations normalized.observationObligations

def ScopeCutProposalV1.verify (proposal : ScopeCutProposalV1) :
    Except ContractError Unit := do
  requireSchema proposal.schema scopeCutProposalSchema
  let expected ← proposal.proposal.digest codec
  ensure (expected = proposal.proposalDigest) (.digestMismatch "scope cut proposal")
  proposal.proposal.restriction.validate codec
  ensure (proposal.proposal.canonical) (.nonCanonical "scope cut proposal arrays")
  requireBounded codec.toCodec (proposal.toJson codec) maxDocumentBytes

namespace SystemSpecV1

/-- The sources that a system or one of the entries it selects cites. -/
def citedSources (spec : SystemSpecV1) (system : SystemDefinitionV1) : List Identifier :=
  system.sourceSnapshotIds ++
  (spec.targets.filter fun target => target.targetId ∈ system.targetIds).flatMap TargetV1.sourceSnapshotIds ++
  (spec.components.filter fun component => component.componentId ∈ system.componentIds).flatMap
    ComponentV1.sourceSnapshotIds ++
  (spec.dependencies.filter fun dependency => dependency.dependencyId ∈ system.dependencyIds).flatMap
    DependencyV1.sourceSnapshotIds ++
  (spec.observationObligations.filter fun obligation =>
    obligation.observationObligationId ∈ system.observationObligationIds).flatMap
      ObservationObligationV1.sourceSnapshotIds

/-- What one system of a normalized specification selects. -/
def select (spec : SystemSpecV1) (cutId : Identifier) (specDigest : Sha256Digest) (system : SystemDefinitionV1) :
    ScopeCutProposalBodyV1 where
  cutId := cutId
  sourceSpec := { specId := spec.specId, revision := spec.revision, specDigest := specDigest }
  system := system
  sourceSnapshots := spec.sourceSnapshots.filter fun source =>
    source.sourceSnapshotId ∈ spec.citedSources system
  targets := spec.targets.filter fun target => target.targetId ∈ system.targetIds
  components := spec.components.filter fun component => component.componentId ∈ system.componentIds
  dependencies := spec.dependencies.filter fun dependency => dependency.dependencyId ∈ system.dependencyIds
  observationObligations := spec.observationObligations.filter fun obligation =>
    obligation.observationObligationId ∈ system.observationObligationIds
  authority := .none

def buildCutProposal (spec : SystemSpecV1) (cutId systemId : Identifier) :
    Except ContractError ScopeCutProposalV1 := do
  spec.validate codec
  let system ← lookupId SystemDefinitionV1.systemId spec.normalized.systems "system" systemId
  let specDigest ← contractDigest codec.toCodec (spec.normalized.toJson codec)
  let proposal := spec.normalized.select cutId specDigest system
  let proposalDigest ← proposal.digest codec
  let result : ScopeCutProposalV1 := {
    schema := scopeCutProposalSchema
    proposalDigest := proposalDigest
    proposal := proposal }
  result.verify codec
  return result

end SystemSpecV1

/-! ## Compiled profiles -/

/-- What a profile is asked to accept as a binding. The receive time and the clock
skew are fixed there. -/
structure BindingContext where
  instanceId : String
  requestSubject : String
  scope : ScopeBinding
  vantage : VantageBinding
  grantedCapabilities : List String
  maxObservations : UInt32

structure BindingRefusal where
  boundary : String
  code : String
  message : String

structure CompiledProfile where
  id : String
  version : Nat
  digest : Except String String
  relianceSeconds : UInt64
  coverage : List String
  capabilities : List String
  maxObservations : UInt32
  validateBinding : BindingContext → Except BindingRefusal Unit

/-- `resolve_profile`: the profiles that are compiled into the binary. -/
abbrev ProfileCatalog := String → Nat → Option CompiledProfile

def resolveCompiledProfile (catalog : ProfileCatalog) (obligation : ObservationObligationV1) :
    Except ContractError CompiledProfile := do
  let some version := parseU32 obligation.profile.version
    | .error (.profile "profile version did not survive structural validation")
  let some profile := catalog obligation.profile.id version
    | .error (.profile ("obligation " ++ obligation.observationObligationId.text ++ " names profile " ++
        obligation.profile.id ++ " v" ++ toString version ++ " not compiled into this binary"))
  return profile

variable (profile : CompiledProfile)

def CompiledProfile.label : String :=
  profile.id ++ " v" ++ toString profile.version

def requireDescriptorDigest (obligation : ObservationObligationV1) :
    Except ContractError Unit :=
  match profile.digest with
  | .error message => .error (.profile ("cannot identify compiled profile " ++ profile.label ++ ": " ++ message))
  | .ok digest =>
      ensure (digest = obligation.profile.digest.text)
        (.profile ("obligation " ++ obligation.observationObligationId.text ++
          " profile descriptor digest does not match compiled " ++ profile.label))

def requireKnownCapabilities (obligation : ObservationObligationV1) :
    Except ContractError Unit :=
  match obligation.grantedCapabilities.find? fun capability => capability ∉ profile.capabilities with
  | none => .ok ()
  | some capability =>
      .error (.profile ("obligation " ++ obligation.observationObligationId.text ++
        " grants profile-unknown capability " ++ capability))

def requireAcceptedBinding (obligation : ObservationObligationV1) :
    Except ContractError Unit :=
  let context : BindingContext := {
    instanceId := obligation.instanceId
    requestSubject := obligation.subjectBinding.subject
    scope := obligation.subjectBinding.scope
    vantage := obligation.subjectBinding.vantage
    grantedCapabilities := obligation.grantedCapabilities
    maxObservations := profile.maxObservations }
  (profile.validateBinding context).mapError fun refusal =>
    .profile ("obligation " ++ obligation.observationObligationId.text ++ " binding refused at " ++
      refusal.boundary ++ "/" ++ refusal.code ++ ": " ++ refusal.message)

def validateCompiledProfile (catalog : ProfileCatalog) (obligation : ObservationObligationV1) :
    Except ContractError Unit := do
  let profile ← resolveCompiledProfile catalog obligation
  requireDescriptorDigest profile obligation
  ensure (obligation.freshnessSeconds ≤ profile.relianceSeconds)
    (.profile ("obligation " ++ obligation.observationObligationId.text ++ " freshness " ++
      toString obligation.freshnessSeconds ++ "s expands compiled profile reliance " ++
      toString profile.relianceSeconds ++ "s"))
  ensure (obligation.requiredCoverage ⊆ profile.coverage ∧ profile.coverage ⊆ obligation.requiredCoverage)
    (.profile ("obligation " ++ obligation.observationObligationId.text ++
      " must name the complete compiled coverage vocabulary"))
  requireKnownCapabilities profile obligation
  requireAcceptedBinding profile obligation

def ScopeCutProposalV1.qualifyWithCompiledProfiles (catalog : ProfileCatalog) (proposal : ScopeCutProposalV1) :
    Except ContractError Unit := do
  proposal.verify codec
  proposal.proposal.observationObligations.forM (validateCompiledProfile catalog)

def SystemSpecV1.compileCutProposal (catalog : ProfileCatalog) (spec : SystemSpecV1) (cutId systemId : Identifier) :
    Except ContractError ScopeCutProposalV1 := do
  let result ← spec.buildCutProposal codec cutId systemId
  result.qualifyWithCompiledProfiles codec catalog
  return result

/-! ## Ratified cuts -/

def RatificationV1.recordDigest (ratification : RatificationV1) :
    Except ContractError Sha256Digest :=
  artifactDigest codec.toCodec scopeCutRatificationSchema
    (.object [("ratified_by", ratification.ratifiedBy.toJson),
      ("ratified_at", .string (codec.rfc3339 ratification.ratifiedAt)),
      ("ratified_proposal_digest", .string ratification.ratifiedProposalDigest.text)])

def RatificationV1.verify (ratification : RatificationV1) : Except ContractError Unit := do
  let expected ← ratification.recordDigest codec
  ensure (expected = ratification.ratificationRecordDigest) .ratificationRecordMismatch

def validateRatificationChronology (ratification : RatificationV1) (sources : List SourceSnapshotV1) :
    Except ContractError Unit :=
  ensure (∀ source ∈ sources, source.capturedAt ≤ ratification.ratifiedAt)
    (.invalidValue "ratification time precedes a contributing source snapshot")

/-- The body of the cut that ratifies a proposal. -/
def ScopeCutProposalBodyV1.ratified (body : ScopeCutProposalBodyV1) (ratification : RatificationV1) :
    ScopeCutBodyV1 where
  cutId := body.cutId
  sourceSpec := body.sourceSpec
  ratification := ratification
  system := body.system
  sourceSnapshots := body.sourceSnapshots
  targets := body.targets
  components := body.components
  dependencies := body.dependencies
  observationObligations := body.observationObligations
  authority := .none

/-- The proposal that a cut ratifies. -/
def ScopeCutBodyV1.proposal (cut : ScopeCutBodyV1) : ScopeCutProposalBodyV1 where
  cutId := cut.cutId
  sourceSpec := cut.sourceSpec
  system := cut.system
  sourceSnapshots := cut.sourceSnapshots
  targets := cut.targets
  components := cut.components
  dependencies := cut.dependencies
  observationObligations := cut.observationObligations
  authority := .none

def ScopeCutBodyV1.artifactDigest (cut : ScopeCutBodyV1) :
    Except ContractError Sha256Digest :=
  (cut.digest codec).mapError .canonicalization

namespace PublishedScopeCutV1

def toJson (cut : PublishedScopeCutV1) : Json :=
  .object [("schema", .string cut.schema), ("cut_digest", .string cut.cutDigest.text),
    ("cut", cut.cut.toJson codec)]

def proposal (cut : PublishedScopeCutV1) : ScopeCutProposalV1 where
  schema := scopeCutProposalSchema
  proposalDigest := cut.cut.ratification.ratifiedProposalDigest
  proposal := cut.cut.proposal

/-- A proposal that hashes to another digest is not the ratified one. -/
private def ratificationError : ContractError → ContractError
  | .digestMismatch what => if what = "scope cut proposal" then .ratificationProposalMismatch else .digestMismatch what
  | other => other

def verify (cut : PublishedScopeCutV1) : Except ContractError Unit := do
  requireSchema cut.schema scopeCutSchema
  ensure (cut.cut.sourceSpec.revision ≠ 0)
    (.invalidValue "source specification revision must be positive")
  let expected ← cut.cut.artifactDigest codec
  ensure (expected = cut.cutDigest) (.digestMismatch "scope cut")
  cut.cut.ratification.verify codec
  validateRatificationChronology cut.cut.ratification cut.cut.sourceSnapshots
  (cut.proposal.verify codec).mapError ratificationError
  cut.cut.proposal.restriction.validate codec
  ensure (cut.cut.proposal.canonical) (.nonCanonical "scope cut arrays")
  requireBounded codec.toCodec (cut.toJson codec) maxDocumentBytes

def qualifyWithCompiledProfiles (catalog : ProfileCatalog) (cut : PublishedScopeCutV1) :
    Except ContractError Unit := do
  cut.verify codec
  cut.proposal.qualifyWithCompiledProfiles codec catalog

def verifyAgainstSpec (cut : PublishedScopeCutV1) (spec : SystemSpecV1) :
    Except ContractError Unit := do
  cut.verify codec
  let expected ← spec.buildCutProposal codec cut.cut.cutId cut.cut.system.systemId
  ensure (expected.proposal.same cut.cut.proposal ∧
      expected.proposalDigest = cut.cut.ratification.ratifiedProposalDigest)
    .sourceSpecMismatch

end PublishedScopeCutV1

def SystemSpecV1.compileCut (catalog : ProfileCatalog) (spec : SystemSpecV1) (cutId systemId : Identifier)
    (ratification : RatificationV1) : Except ContractError PublishedScopeCutV1 := do
  let proposal ← spec.compileCutProposal codec catalog cutId systemId
  ratification.verify codec
  validateRatificationChronology ratification proposal.proposal.sourceSnapshots
  ensure (ratification.ratifiedProposalDigest = proposal.proposalDigest) .ratificationProposalMismatch
  let cut := proposal.proposal.ratified ratification
  let cutDigest ← cut.artifactDigest codec
  let published : PublishedScopeCutV1 := { schema := scopeCutSchema, cutDigest := cutDigest, cut := cut }
  published.qualifyWithCompiledProfiles codec catalog
  return published

end ConstellationNq.SystemContract
