import ConstellationNq.Library.Loop
import ConstellationNq.Library.Sorting
import ConstellationNq.Library.Text
import ConstellationNq.SystemContract.Cut
import Mathlib.Data.String.Basic

/-!
# System specifications

A draft that declares sources, targets, components, dependencies and observation
obligations, and the systems that select among them. A draft is valid when its
references are closed, nothing in it is left over and its canonical bytes are bounded.
-/

set_option autoImplicit false

namespace ConstellationNq.SystemContract

open Library.Loop Library.Sorting Library.Text Protocol

def systemSpecSchema : String := "nq.system_spec.v1"

def maxDocumentBytes : Nat := 4 * 1048576
def maxSources : Nat := 1024
def maxTargets : Nat := 1024
def maxSystems : Nat := 1024
def maxComponents : Nat := 4096
def maxDependencies : Nat := 8192
def maxObservationObligations : Nat := 4096
def maxTextBytes : Nat := 4096
def maxBindingValueBytes : Nat := 64 * 1024
def maxRequiredCoverage : Nat := 256
def maxFreshnessSeconds : Nat := 366 * 24 * 60 * 60

structure SystemSpecV1 where
  schema : String
  specId : Identifier
  revision : UInt32
  title : String
  sourceSnapshots : List SourceSnapshotV1
  targets : List TargetV1
  components : List ComponentV1
  dependencies : List DependencyV1
  observationObligations : List ObservationObligationV1
  systems : List SystemDefinitionV1
  authority : AuthoritySemantics

inductive ContractError where
  | invalidText (kind : String)
  | wrongSchema (expected actual : String)
  | cardinality (kind : String) (actual minimum maximum : Nat)
  | duplicate (kind id : String)
  | unknownReference (kind id : String)
  | orphan (kind id : String)
  | scopeEscape (message : String)
  | invalidValue (message : String)
  | nonCanonical (what : String)
  | digestMismatch (what : String)
  | projectionCutMismatch
  | sourceSpecMismatch
  | ratificationProposalMismatch
  | ratificationRecordMismatch
  | profile (message : String)
  | tooLarge (actual limit : Nat)
  | canonicalization (error : CanonicalizationError)
deriving DecidableEq

/-! ## Checks of single values -/

def requireSchema (actual expected : String) : Except ContractError Unit :=
  ensure (actual = expected) (.wrongSchema expected actual)

def validateCount (kind : String) (actual minimum maximum : Nat) : Except ContractError Unit :=
  ensure (minimum ≤ actual ∧ actual ≤ maximum) (.cardinality kind actual minimum maximum)

def displayConfusing (character : Char) : Bool :=
  [(0xad, 0xad), (0x34f, 0x34f), (0x61c, 0x61c), (0x115f, 0x1160), (0x17b4, 0x17b5), (0x180b, 0x180f),
    (0x200b, 0x200f), (0x202a, 0x202e), (0x2060, 0x206f), (0x3164, 0x3164), (0xfe00, 0xfe0f),
    (0xfeff, 0xfeff), (0xffa0, 0xffa0), (0x1bca0, 0x1bca3), (0x1d173, 0x1d17a), (0xe0000, 0xe0fff)].any
    fun range => range.1 ≤ character.toNat && character.toNat ≤ range.2

def validText (value : String) : Bool :=
  0 < value.utf8ByteSize && (value.utf8ByteSize ≤ maxTextBytes &&
    value.toList.all fun character => !isControl character && !displayConfusing character)

def validateText (kind value : String) : Except ContractError Unit :=
  ensure (validText value) (.invalidText kind)

def contractBytes (codec : Codec) (value : Json) : Except ContractError (List UInt8) :=
  (canonicalJsonBytes codec value).mapError .canonicalization

def contractDigest (codec : Codec) (value : Json) : Except ContractError Sha256Digest :=
  (semanticDigest codec value).mapError .canonicalization

def artifactDigest (codec : Codec) (schema : String) (artifact : Json) : Except ContractError Sha256Digest :=
  (versionedArtifactDigest codec schema artifact).mapError .canonicalization

def requireBounded (codec : Codec) (value : Json) (limit : Nat) : Except ContractError Unit := do
  let bytes ← contractBytes codec value
  ensure (bytes.length ≤ limit) (.tooLarge bytes.length limit)

def isObject : Json → Bool
  | .object _ => true
  | _ => false

def validateBindingValue (codec : Codec) (kind : String) (value : Json) : Except ContractError Unit := do
  requireBounded codec value maxBindingValueBytes
  ensure (isObject value) (.invalidText kind)

/-- `str::parse::<u32>`: digits after an optional plus sign. -/
def parseU32 (text : String) : Option Nat :=
  let digits := match text.toList with
    | '+' :: rest => rest
    | characters => characters
  if digits ≠ [] ∧ digits.all Char.isDigit then
    let value := digits.foldl (fun value digit => value * 10 + (digit.toNat - '0'.toNat)) 0
    if value < 2 ^ 32 then some value else none
  else none

/-- A positive `u32` written as it is printed. -/
def canonicalVersion (version : String) : Bool :=
  ((parseU32 version).filter fun value => decide (0 < value) && toString value == version).isSome

/-! ## Checks of lists of identifiers -/

section Identifiers

variable {α : Type} [DecidableEq α] (kind : String) (text : α → String)

/-- One turn of the loop that fills a set and refuses what it already has. -/
def insertUnique (seen : List α) (value : α) : Except ContractError (List α) :=
  if value ∈ seen then .error (.duplicate kind (text value)) else .ok (seen ++ [value])

def uniqueIds (values : List α) : Except ContractError (List α) :=
  values.foldlM (insertUnique kind text) []

end Identifiers

def insertReference (kind : String) (available seen : List Identifier) (value : Identifier) :
    Except ContractError (List Identifier) := do
  ensure (value ∈ available) (.unknownReference kind value.text)
  insertUnique kind Identifier.text seen value

def validateUniqueRefs (kind : String) (values available : List Identifier) : Except ContractError Unit := do
  let _ ← values.foldlM (insertReference kind available) []

def validateNonemptyUniqueRefs (kind : String) (values available : List Identifier) :
    Except ContractError Unit := do
  ensure (values ≠ []) (.cardinality kind 0 1 (2 ^ 64 - 1))
  validateUniqueRefs kind values available

def requireReference (kind : String) (value : Identifier) (available : List Identifier) :
    Except ContractError Unit :=
  ensure (value ∈ available) (.unknownReference kind value.text)

/-- Refuses on the first identifier, in their order, that no system uses. -/
def requireNoOrphans (kind : String) (available used : List Identifier) : Except ContractError Unit :=
  match (sortBy Identifier.text (available.filter fun value => value ∉ used)).head? with
  | some orphan => .error (.orphan kind orphan.text)
  | none => .ok ()

def lookupId {α : Type} (identity : α → Identifier) (entries : List α) (kind : String) (id : Identifier) :
    Except ContractError α :=
  match entries.find? fun entry => identity entry = id with
  | some entry => .ok entry
  | none => .error (.unknownReference kind id.text)

namespace SystemSpecV1

variable (codec : ContractCodec) (spec : SystemSpecV1)

def sourceIds : List Identifier := spec.sourceSnapshots.map SourceSnapshotV1.sourceSnapshotId
def targetIds : List Identifier := spec.targets.map TargetV1.targetId
def componentIds : List Identifier := spec.components.map ComponentV1.componentId
def dependencyIds : List Identifier := spec.dependencies.map DependencyV1.dependencyId
def obligationIds : List Identifier :=
  spec.observationObligations.map ObservationObligationV1.observationObligationId

/-! ## Normal form -/

end SystemSpecV1

def sortIds (ids : List Identifier) : List Identifier := sortBy Identifier.text ids

def TargetV1.normalized (target : TargetV1) : TargetV1 :=
  { target with sourceSnapshotIds := sortIds target.sourceSnapshotIds }

def ComponentV1.normalized (component : ComponentV1) : ComponentV1 :=
  { component with sourceSnapshotIds := sortIds component.sourceSnapshotIds }

def DependencyV1.normalized (dependency : DependencyV1) : DependencyV1 :=
  { dependency with sourceSnapshotIds := sortIds dependency.sourceSnapshotIds }

def ObservationObligationV1.normalized (obligation : ObservationObligationV1) : ObservationObligationV1 :=
  { obligation with
    requiredCoverage := sortBy id obligation.requiredCoverage
    grantedCapabilities := sortBy id obligation.grantedCapabilities
    sourceSnapshotIds := sortIds obligation.sourceSnapshotIds }

def SystemDefinitionV1.normalized (system : SystemDefinitionV1) : SystemDefinitionV1 :=
  { system with
    targetIds := sortIds system.targetIds
    componentIds := sortIds system.componentIds
    dependencyIds := sortIds system.dependencyIds
    observationObligationIds := sortIds system.observationObligationIds
    sourceSnapshotIds := sortIds system.sourceSnapshotIds }

namespace SystemSpecV1

variable (codec : ContractCodec) (spec : SystemSpecV1)

def normalized : SystemSpecV1 :=
  { spec with
    sourceSnapshots := sortBy (fun source => source.sourceSnapshotId.text) spec.sourceSnapshots
    targets := (sortBy (fun target => target.targetId.text) spec.targets).map TargetV1.normalized
    components := (sortBy (fun component => component.componentId.text) spec.components).map
      ComponentV1.normalized
    dependencies := (sortBy (fun dependency => dependency.dependencyId.text) spec.dependencies).map
      DependencyV1.normalized
    observationObligations := (sortBy (fun obligation => obligation.observationObligationId.text)
      spec.observationObligations).map ObservationObligationV1.normalized
    systems := (sortBy (fun system => system.systemId.text) spec.systems).map SystemDefinitionV1.normalized }

def toJson : Json :=
  .object [("schema", .string spec.schema), ("spec_id", spec.specId.toJson),
    ("revision", .integer spec.revision.toNat), ("title", .string spec.title),
    ("source_snapshots", .array (spec.sourceSnapshots.map (SourceSnapshotV1.toJson codec))),
    ("targets", .array (spec.targets.map TargetV1.toJson)),
    ("components", .array (spec.components.map ComponentV1.toJson)),
    ("dependencies", .array (spec.dependencies.map DependencyV1.toJson)),
    ("observation_obligations", .array (spec.observationObligations.map ObservationObligationV1.toJson)),
    ("systems", .array (spec.systems.map SystemDefinitionV1.toJson)),
    ("authority", spec.authority.toJson)]

/-! ## Validation -/

def validateCounts : Except ContractError Unit := do
  validateCount "source snapshots" spec.sourceSnapshots.length 1 maxSources
  validateCount "targets" spec.targets.length 1 maxTargets
  validateCount "systems" spec.systems.length 1 maxSystems
  validateCount "components" spec.components.length 1 maxComponents
  validateCount "dependencies" spec.dependencies.length 0 maxDependencies
  validateCount "observation obligations" spec.observationObligations.length 1 maxObservationObligations

def validateIdentities : Except ContractError Unit := do
  let _ ← uniqueIds "source snapshot" Identifier.text spec.sourceIds
  let _ ← uniqueIds "target" Identifier.text spec.targetIds
  let _ ← uniqueIds "component" Identifier.text spec.componentIds
  let _ ← uniqueIds "dependency" Identifier.text spec.dependencyIds
  let _ ← uniqueIds "observation obligation" Identifier.text spec.obligationIds
  let _ ← uniqueIds "system" Identifier.text (spec.systems.map SystemDefinitionV1.systemId)

def validateTarget (target : TargetV1) : Except ContractError Unit :=
  validateNonemptyUniqueRefs "target source snapshots" target.sourceSnapshotIds spec.sourceIds

def validateComponent (component : ComponentV1) : Except ContractError Unit := do
  requireReference "component host target" component.hostedOn spec.targetIds
  validateNonemptyUniqueRefs "component source snapshots" component.sourceSnapshotIds spec.sourceIds

def endpoints (dependency : DependencyV1) : Identifier × Identifier :=
  (dependency.consumerComponentId, dependency.providerComponentId)

/-- One turn of the loop over the dependencies, which keeps the endpoint pairs. -/
def validateDependency (pairs : List (Identifier × Identifier)) (dependency : DependencyV1) :
    Except ContractError (List (Identifier × Identifier)) := do
  requireReference "dependency consumer" dependency.consumerComponentId spec.componentIds
  requireReference "dependency provider" dependency.providerComponentId spec.componentIds
  ensure (dependency.consumerComponentId ≠ dependency.providerComponentId)
    (.invalidValue "dependency consumer and provider must differ")
  let inserted ← insertUnique "dependency endpoint pair" (fun pair => pair.1.text ++ "->" ++ pair.2.text)
    pairs (endpoints dependency)
  validateNonemptyUniqueRefs "dependency source snapshots" dependency.sourceSnapshotIds spec.sourceIds
  return inserted

def validateObligation (obligation : ObservationObligationV1) : Except ContractError Unit := do
  requireReference "observation component" obligation.componentId spec.componentIds
  ensure (0 < obligation.freshnessSeconds.toNat ∧ obligation.freshnessSeconds.toNat ≤ maxFreshnessSeconds)
    (.invalidValue "freshness_seconds is outside the compiled bound")
  ensure (canonicalVersion obligation.profile.version)
    (.invalidValue "profile version must be a positive canonical u32")
  validateCount "required coverage" obligation.requiredCoverage.length 1 maxRequiredCoverage
  let _ ← uniqueIds "required coverage" id obligation.requiredCoverage
  validateCount "granted capabilities" obligation.grantedCapabilities.length 0 maxRequiredCoverage
  let _ ← uniqueIds "granted capability" id obligation.grantedCapabilities
  validateNonemptyUniqueRefs "observation source snapshots" obligation.sourceSnapshotIds spec.sourceIds
  validateBindingValue codec.toCodec "scope value" obligation.subjectBinding.scope.value
  validateBindingValue codec.toCodec "vantage value" obligation.subjectBinding.vantage.value

structure UsedIds where
  sources : List Identifier := []
  targets : List Identifier := []
  components : List Identifier := []
  dependencies : List Identifier := []
  obligations : List Identifier := []

def targetById (id : Identifier) : Except ContractError TargetV1 :=
  lookupId TargetV1.targetId spec.targets "system target" id

def componentById (id : Identifier) : Except ContractError ComponentV1 :=
  lookupId ComponentV1.componentId spec.components "system component" id

def dependencyById (id : Identifier) : Except ContractError DependencyV1 :=
  lookupId DependencyV1.dependencyId spec.dependencies "system dependency" id

def obligationById (id : Identifier) : Except ContractError ObservationObligationV1 :=
  lookupId ObservationObligationV1.observationObligationId spec.observationObligations
    "system observation obligation" id

def validateSystemReferences (system : SystemDefinitionV1) : Except ContractError Unit := do
  validateText "system title" system.title
  validateNonemptyUniqueRefs "system targets" system.targetIds spec.targetIds
  validateNonemptyUniqueRefs "system components" system.componentIds spec.componentIds
  validateUniqueRefs "system dependencies" system.dependencyIds spec.dependencyIds
  validateNonemptyUniqueRefs "system observation obligations" system.observationObligationIds spec.obligationIds
  validateNonemptyUniqueRefs "system source snapshots" system.sourceSnapshotIds spec.sourceIds

/-- What a system selects stays inside it. -/
def validateSystemScope (system : SystemDefinitionV1) : Except ContractError Unit := do
  system.componentIds.forM fun id => do
    let component ← spec.componentById id
    ensure (component.hostedOn ∈ system.targetIds)
      (.scopeEscape ("component " ++ component.componentId.text ++ " is hosted on target " ++
        component.hostedOn.text ++ " outside system " ++ system.systemId.text))
  system.dependencyIds.forM fun id => do
    let dependency ← spec.dependencyById id
    ensure (dependency.consumerComponentId ∈ system.componentIds ∧
        dependency.providerComponentId ∈ system.componentIds)
      (.scopeEscape ("dependency " ++ dependency.dependencyId.text ++ " crosses system " ++
        system.systemId.text ++ " component membership"))
  system.observationObligationIds.forM fun id => do
    let obligation ← spec.obligationById id
    ensure (obligation.componentId ∈ system.componentIds)
      (.scopeEscape ("observation obligation " ++ obligation.observationObligationId.text ++
        " names a component outside system " ++ system.systemId.text))

def validateSystem (used : UsedIds) (system : SystemDefinitionV1) : Except ContractError UsedIds := do
  spec.validateSystemReferences system
  spec.validateSystemScope system
  let targets ← system.targetIds.mapM spec.targetById
  let components ← system.componentIds.mapM spec.componentById
  let dependencies ← system.dependencyIds.mapM spec.dependencyById
  let obligations ← system.observationObligationIds.mapM spec.obligationById
  return {
    sources := used.sources ++ system.sourceSnapshotIds ++ targets.flatMap TargetV1.sourceSnapshotIds ++
      components.flatMap ComponentV1.sourceSnapshotIds ++
      dependencies.flatMap DependencyV1.sourceSnapshotIds ++
      obligations.flatMap ObservationObligationV1.sourceSnapshotIds
    targets := used.targets ++ system.targetIds
    components := used.components ++ system.componentIds
    dependencies := used.dependencies ++ system.dependencyIds
    obligations := used.obligations ++ system.observationObligationIds }

def validateOrphans (used : UsedIds) : Except ContractError Unit := do
  requireNoOrphans "source snapshot" spec.sourceIds used.sources
  requireNoOrphans "target" spec.targetIds used.targets
  requireNoOrphans "component" spec.componentIds used.components
  requireNoOrphans "dependency" spec.dependencyIds used.dependencies
  requireNoOrphans "observation obligation" spec.obligationIds used.obligations

/-- Every rule but the bound on the document. -/
def validateStructure : Except ContractError Unit := do
  requireSchema spec.schema systemSpecSchema
  ensure (spec.revision ≠ 0) (.invalidValue "revision must be positive")
  validateText "spec title" spec.title
  spec.validateCounts
  spec.validateIdentities
  spec.sourceSnapshots.forM fun source => validateText "source provenance" source.provenance
  spec.targets.forM spec.validateTarget
  spec.components.forM spec.validateComponent
  let _ ← spec.dependencies.foldlM spec.validateDependency []
  spec.observationObligations.forM (spec.validateObligation codec)
  let used ← spec.systems.foldlM spec.validateSystem {}
  spec.validateOrphans used

def validate : Except ContractError Unit := do
  spec.validateStructure codec
  requireBounded codec.toCodec (spec.normalized.toJson codec) maxDocumentBytes

def digest : Except ContractError Sha256Digest := do
  spec.validate codec
  contractDigest codec.toCodec (spec.normalized.toJson codec)

end SystemSpecV1

end ConstellationNq.SystemContract
