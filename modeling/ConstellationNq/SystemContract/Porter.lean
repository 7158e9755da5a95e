import ConstellationNq.Library.Spreading
import ConstellationNq.SystemContract.Proposal

/-!
# Projections for an actuator

From the components that a plan touches directly, a projection of a cut names every
component that may be affected through its dependencies, together with the
dependencies on that boundary and the obligations that witness it. A projection is
verified by deriving it again.
-/

set_option autoImplicit false

namespace ConstellationNq.SystemContract

open Library.Loop Library.Spreading Protocol

def porterActuationProjectionSchema : String := "nq.porter_actuation_projection.v1"

structure ScopeCutReferenceV1 where
  cutId : Identifier
  cutDigest : Sha256Digest
deriving DecidableEq

structure PorterProjectionSelectionV1 where
  targetIds : List Identifier
  componentIds : List Identifier

structure PorterActuationProjectionBodyV1 where
  projectionId : Identifier
  scopeCut : ScopeCutReferenceV1
  systemId : Identifier
  actuationTargets : List TargetV1
  actuationComponents : List ComponentV1
  affectedTargets : List TargetV1
  affectedComponents : List ComponentV1
  boundaryDependencies : List DependencyV1
  verificationObligations : List ObservationObligationV1
  authority : AuthoritySemantics

structure PorterActuationProjectionV1 where
  schema : String
  projectionDigest : Sha256Digest
  projection : PorterActuationProjectionBodyV1

def ScopeCutReferenceV1.toJson (reference : ScopeCutReferenceV1) : Json :=
  .object [("cut_id", reference.cutId.toJson), ("cut_digest", .string reference.cutDigest.text)]

namespace PorterActuationProjectionBodyV1

def toJson (body : PorterActuationProjectionBodyV1) : Json :=
  .object [("projection_id", body.projectionId.toJson), ("scope_cut", body.scopeCut.toJson),
    ("system_id", body.systemId.toJson),
    ("actuation_targets", .array (body.actuationTargets.map TargetV1.toJson)),
    ("actuation_components", .array (body.actuationComponents.map ComponentV1.toJson)),
    ("affected_targets", .array (body.affectedTargets.map TargetV1.toJson)),
    ("affected_components", .array (body.affectedComponents.map ComponentV1.toJson)),
    ("boundary_dependencies", .array (body.boundaryDependencies.map DependencyV1.toJson)),
    ("verification_obligations", .array (body.verificationObligations.map ObservationObligationV1.toJson)),
    ("authority", body.authority.toJson)]

def same (left right : PorterActuationProjectionBodyV1) : Bool :=
  decide (left.projectionId = right.projectionId ∧ left.scopeCut = right.scopeCut ∧
    left.systemId = right.systemId ∧ left.actuationTargets = right.actuationTargets ∧
    left.actuationComponents = right.actuationComponents ∧ left.affectedTargets = right.affectedTargets ∧
    left.affectedComponents = right.affectedComponents ∧
    left.boundaryDependencies = right.boundaryDependencies ∧ left.authority = right.authority) &&
  sameObligations left.verificationObligations right.verificationObligations

def digest (codec : Codec) (body : PorterActuationProjectionBodyV1) : Except ContractError Sha256Digest :=
  SystemContract.artifactDigest codec porterActuationProjectionSchema body.toJson

end PorterActuationProjectionBodyV1

namespace ScopeCutBodyV1

variable (cut : ScopeCutBodyV1)

def targetIds : List Identifier := cut.targets.map TargetV1.targetId
def componentIds : List Identifier := cut.components.map ComponentV1.componentId

def hostIds (componentIds : Finset Identifier) : Finset Identifier :=
  ((cut.components.filter fun component => component.componentId ∈ componentIds).map ComponentV1.hostedOn).toFinset

/-- One turn over the dependencies: a consumer of an affected provider is affected. -/
def impactTurn (affected : Finset Identifier) : Finset Identifier :=
  spreadAll DependencyV1.consumerComponentId DependencyV1.providerComponentId cut.dependencies affected

/-- Turns are taken until one leaves the number of affected components as it was. -/
def affectedComponentIds (selected : Finset Identifier) : Finset Identifier :=
  spreadFrom DependencyV1.consumerComponentId DependencyV1.providerComponentId cut.dependencies selected

end ScopeCutBodyV1

namespace PublishedScopeCutV1

variable (cut : PublishedScopeCutV1)

def reference : ScopeCutReferenceV1 where
  cutId := cut.cut.cutId
  cutDigest := cut.cutDigest

def porterProjectionBody (projectionId : Identifier) (selection : PorterProjectionSelectionV1) :
    Except ContractError PorterActuationProjectionBodyV1 := do
  validateNonemptyUniqueRefs "Porter projection targets" selection.targetIds cut.cut.targetIds
  validateNonemptyUniqueRefs "Porter projection components" selection.componentIds cut.cut.componentIds
  let selectedTargets := selection.targetIds.toFinset
  let selectedComponents := selection.componentIds.toFinset
  ensure (selectedTargets = cut.cut.hostIds selectedComponents)
    (.scopeEscape "Porter projection targets must equal the host targets of selected components")
  let affected := cut.cut.affectedComponentIds selectedComponents
  let affectedComponents := cut.cut.components.filter fun component => component.componentId ∈ affected
  let affectedTargetIds := affectedComponents.map ComponentV1.hostedOn
  ensure (∀ componentId ∈ affected, ∃ obligation ∈ cut.cut.observationObligations,
      obligation.componentId = componentId)
    (.invalidValue "every affected component requires at least one cut witness obligation")
  return {
    projectionId := projectionId
    scopeCut := cut.reference
    systemId := cut.cut.system.systemId
    actuationTargets := cut.cut.targets.filter fun target => target.targetId ∈ selectedTargets
    actuationComponents := cut.cut.components.filter fun component => component.componentId ∈ selectedComponents
    affectedTargets := cut.cut.targets.filter fun target => target.targetId ∈ affectedTargetIds
    affectedComponents := affectedComponents
    boundaryDependencies := cut.cut.dependencies.filter fun dependency =>
      dependency.consumerComponentId ∈ affected ∨ dependency.providerComponentId ∈ affected
    verificationObligations := cut.cut.observationObligations.filter fun obligation =>
      obligation.componentId ∈ affected
    authority := .none }

end PublishedScopeCutV1

namespace PorterActuationProjectionV1

def selection (projection : PorterActuationProjectionV1) : PorterProjectionSelectionV1 where
  targetIds := projection.projection.actuationTargets.map TargetV1.targetId
  componentIds := projection.projection.actuationComponents.map ComponentV1.componentId

def verifyAgainst (codec : ContractCodec) (projection : PorterActuationProjectionV1) (cut : PublishedScopeCutV1) :
    Except ContractError Unit := do
  requireSchema projection.schema porterActuationProjectionSchema
  cut.verify codec
  let recomputed ← projection.projection.digest codec.toCodec
  ensure (recomputed = projection.projectionDigest) (.digestMismatch "Porter actuation projection")
  let expected ← cut.porterProjectionBody projection.projection.projectionId projection.selection
  ensure (projection.projection.same expected) .projectionCutMismatch

end PorterActuationProjectionV1

namespace PublishedScopeCutV1

/-- The projection before it is checked against the cut. -/
def derivePorterProjection (codec : ContractCodec) (cut : PublishedScopeCutV1) (projectionId : Identifier)
    (selection : PorterProjectionSelectionV1) : Except ContractError PorterActuationProjectionV1 := do
  let projection ← cut.porterProjectionBody projectionId selection
  let projectionDigest ← projection.digest codec.toCodec
  return {
    schema := porterActuationProjectionSchema
    projectionDigest := projectionDigest
    projection := projection }

def porterActuationProjection (codec : ContractCodec) (catalog : ProfileCatalog) (cut : PublishedScopeCutV1)
    (projectionId : Identifier) (selection : PorterProjectionSelectionV1) :
    Except ContractError PorterActuationProjectionV1 := do
  cut.qualifyWithCompiledProfiles codec catalog
  let result ← cut.derivePorterProjection codec projectionId selection
  result.verifyAgainst codec cut
  return result

end PublishedScopeCutV1

end ConstellationNq.SystemContract
