import ConstellationNq.Protocol.Canonical
import ConstellationNq.SystemContract.Instant

/-!
# Published scope cuts

The cut document with the JSON form its digest is taken over. Identifiers are
valid by construction; a digest is the digest of an envelope that names the
schema beside the artifact.
-/

set_option autoImplicit false

namespace ConstellationNq.SystemContract

open Protocol

def scopeCutSchema : String := "nq.scope_cut.v1"

private def isIdentifierCharacter (character : Char) : Bool :=
  character.isAlphanum || ['.', '_', '-', ':', '/', '@'].contains character

/-- `validate_id`: between 1 and 255 characters of a fixed ASCII alphabet. -/
def validateId (text : String) : Bool :=
  let characters := text.toList
  0 < characters.length && (characters.length ≤ 255 && characters.all isIdentifierCharacter)

structure Identifier where
  text : String
  valid : validateId text = true
deriving DecidableEq

inductive AuthoritySemantics where
  | none
deriving DecidableEq

inductive SourceKind where
  | bootstrapTarget
  | netboxInventory
  | operatorAuthored
  | otherDeclaredFacts
deriving DecidableEq

structure SourceSnapshotV1 where
  sourceSnapshotId : Identifier
  kind : SourceKind
  contentDigest : Sha256Digest
  capturedAt : Instant
  provenance : String
deriving DecidableEq

structure TargetV1 where
  targetId : Identifier
  targetClass : Identifier
  targetIdentityDigest : Sha256Digest
  sourceSnapshotIds : List Identifier
deriving DecidableEq

structure ComponentV1 where
  componentId : Identifier
  kind : Identifier
  hostedOn : Identifier
  sourceSnapshotIds : List Identifier
deriving DecidableEq

inductive DependencyRequirement where
  | required
  | incidental
deriving DecidableEq

structure DependencyV1 where
  dependencyId : Identifier
  consumerComponentId : Identifier
  providerComponentId : Identifier
  requirement : DependencyRequirement
  sourceSnapshotIds : List Identifier
deriving DecidableEq

structure ProfileBinding where
  id : String
  version : String
  digest : Sha256Digest
deriving DecidableEq

structure ScopeBinding where
  kind : String
  value : Json

structure VantageBinding where
  kind : String
  value : Json

structure SubjectBinding where
  subject : String
  scope : ScopeBinding
  vantage : VantageBinding

structure ObservationObligationV1 where
  observationObligationId : Identifier
  componentId : Identifier
  instanceId : String
  profile : ProfileBinding
  subjectBinding : SubjectBinding
  requiredCoverage : List String
  grantedCapabilities : List String
  freshnessSeconds : UInt64
  sourceSnapshotIds : List Identifier

structure SystemDefinitionV1 where
  systemId : Identifier
  title : String
  targetIds : List Identifier
  componentIds : List Identifier
  dependencyIds : List Identifier
  observationObligationIds : List Identifier
  sourceSnapshotIds : List Identifier
deriving DecidableEq

structure RatificationV1 where
  ratifiedBy : Identifier
  ratifiedAt : Instant
  ratifiedProposalDigest : Sha256Digest
  ratificationRecordDigest : Sha256Digest
deriving DecidableEq

structure SystemSpecReferenceV1 where
  specId : Identifier
  revision : UInt32
  specDigest : Sha256Digest
deriving DecidableEq

structure ScopeCutBodyV1 where
  cutId : Identifier
  sourceSpec : SystemSpecReferenceV1
  ratification : RatificationV1
  system : SystemDefinitionV1
  sourceSnapshots : List SourceSnapshotV1
  targets : List TargetV1
  components : List ComponentV1
  dependencies : List DependencyV1
  observationObligations : List ObservationObligationV1
  authority : AuthoritySemantics

structure PublishedScopeCutV1 where
  schema : String
  cutDigest : Sha256Digest
  cut : ScopeCutBodyV1

/-- The text `serde` writes for an instant joins the renderer and the hash. -/
structure ContractCodec extends Codec where
  rfc3339 : Instant → String

/-- `versioned_artifact_digest` of an artifact given as its JSON form. -/
def versionedArtifactDigest (codec : Codec) (schema : String) (artifact : Json) :
    Except CanonicalizationError Sha256Digest :=
  semanticDigest codec (.object [("schema", .string schema), ("artifact", artifact)])

def Identifier.toJson (identifier : Identifier) : Json := .string identifier.text

private def identifiersToJson (identifiers : List Identifier) : Json :=
  .array (identifiers.map Identifier.toJson)

def SourceKind.toJson : SourceKind → Json
  | .bootstrapTarget => .string "bootstrap_target"
  | .netboxInventory => .string "netbox_inventory"
  | .operatorAuthored => .string "operator_authored"
  | .otherDeclaredFacts => .string "other_declared_facts"

def DependencyRequirement.toJson : DependencyRequirement → Json
  | .required => .string "required"
  | .incidental => .string "incidental"

def AuthoritySemantics.toJson : AuthoritySemantics → Json
  | .none => .string "none"

def SourceSnapshotV1.toJson (codec : ContractCodec) (snapshot : SourceSnapshotV1) : Json :=
  .object [("source_snapshot_id", snapshot.sourceSnapshotId.toJson), ("kind", snapshot.kind.toJson),
    ("content_digest", .string snapshot.contentDigest.text),
    ("captured_at", .string (codec.rfc3339 snapshot.capturedAt)), ("provenance", .string snapshot.provenance)]

def TargetV1.toJson (target : TargetV1) : Json :=
  .object [("target_id", target.targetId.toJson), ("target_class", target.targetClass.toJson),
    ("target_identity_digest", .string target.targetIdentityDigest.text),
    ("source_snapshot_ids", identifiersToJson target.sourceSnapshotIds)]

def ComponentV1.toJson (component : ComponentV1) : Json :=
  .object [("component_id", component.componentId.toJson), ("kind", component.kind.toJson),
    ("hosted_on", component.hostedOn.toJson),
    ("source_snapshot_ids", identifiersToJson component.sourceSnapshotIds)]

def DependencyV1.toJson (dependency : DependencyV1) : Json :=
  .object [("dependency_id", dependency.dependencyId.toJson),
    ("consumer_component_id", dependency.consumerComponentId.toJson),
    ("provider_component_id", dependency.providerComponentId.toJson),
    ("requirement", dependency.requirement.toJson),
    ("source_snapshot_ids", identifiersToJson dependency.sourceSnapshotIds)]

def ProfileBinding.toJson (profile : ProfileBinding) : Json :=
  .object [("id", .string profile.id), ("version", .string profile.version), ("digest", .string profile.digest.text)]

def SubjectBinding.toJson (binding : SubjectBinding) : Json :=
  .object [("subject", .string binding.subject),
    ("scope", .object [("kind", .string binding.scope.kind), ("value", binding.scope.value)]),
    ("vantage", .object [("kind", .string binding.vantage.kind), ("value", binding.vantage.value)])]

def ObservationObligationV1.toJson (obligation : ObservationObligationV1) : Json :=
  .object [("observation_obligation_id", obligation.observationObligationId.toJson),
    ("component_id", obligation.componentId.toJson), ("instance_id", .string obligation.instanceId),
    ("profile", obligation.profile.toJson), ("subject_binding", obligation.subjectBinding.toJson),
    ("required_coverage", .array (obligation.requiredCoverage.map Json.string)),
    ("granted_capabilities", .array (obligation.grantedCapabilities.map Json.string)),
    ("freshness_seconds", .integer obligation.freshnessSeconds.toNat),
    ("source_snapshot_ids", identifiersToJson obligation.sourceSnapshotIds)]

def SystemDefinitionV1.toJson (system : SystemDefinitionV1) : Json :=
  .object [("system_id", system.systemId.toJson), ("title", .string system.title),
    ("target_ids", identifiersToJson system.targetIds),
    ("component_ids", identifiersToJson system.componentIds),
    ("dependency_ids", identifiersToJson system.dependencyIds),
    ("observation_obligation_ids", identifiersToJson system.observationObligationIds),
    ("source_snapshot_ids", identifiersToJson system.sourceSnapshotIds)]

def RatificationV1.toJson (codec : ContractCodec) (ratification : RatificationV1) : Json :=
  .object [("ratified_by", ratification.ratifiedBy.toJson),
    ("ratified_at", .string (codec.rfc3339 ratification.ratifiedAt)),
    ("ratified_proposal_digest", .string ratification.ratifiedProposalDigest.text),
    ("ratification_record_digest", .string ratification.ratificationRecordDigest.text)]

def SystemSpecReferenceV1.toJson (reference : SystemSpecReferenceV1) : Json :=
  .object [("spec_id", reference.specId.toJson), ("revision", .integer reference.revision.toNat),
    ("spec_digest", .string reference.specDigest.text)]

def ScopeCutBodyV1.toJson (codec : ContractCodec) (cut : ScopeCutBodyV1) : Json :=
  .object [("cut_id", cut.cutId.toJson), ("source_spec", cut.sourceSpec.toJson),
    ("ratification", cut.ratification.toJson codec), ("system", cut.system.toJson),
    ("source_snapshots", .array (cut.sourceSnapshots.map (SourceSnapshotV1.toJson codec))),
    ("targets", .array (cut.targets.map TargetV1.toJson)),
    ("components", .array (cut.components.map ComponentV1.toJson)),
    ("dependencies", .array (cut.dependencies.map DependencyV1.toJson)),
    ("observation_obligations", .array (cut.observationObligations.map ObservationObligationV1.toJson)),
    ("authority", cut.authority.toJson)]

/-- The digest that `PublishedScopeCutV1::verify` recomputes over the body. -/
def ScopeCutBodyV1.digest (codec : ContractCodec) (cut : ScopeCutBodyV1) :
    Except CanonicalizationError Sha256Digest :=
  versionedArtifactDigest codec.toCodec scopeCutSchema (cut.toJson codec)

end ConstellationNq.SystemContract
