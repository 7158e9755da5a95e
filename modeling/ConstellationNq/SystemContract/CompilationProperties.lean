import ConstellationNq.SystemContract.CoherenceProperties
import ConstellationNq.SystemContract.ProposalProperties

/-!
# Compiling systems of valid specifications

Every declared system of a valid specification is proposed, unless a document is too
large, and the proposal is its exact closure. Compilation does not see the order of
the arrays, and a cut that verifies against a specification is the one compiled from
it.
-/

set_option autoImplicit false

namespace ConstellationNq.SystemContract

open Library.Loop Library.Sorting Protocol

namespace SystemSpecV1

variable {codec : ContractCodec} {spec : SystemSpecV1}

theorem closed_of_validate (valid : spec.validate codec = .ok ()) : spec.Closed codec :=
  validateStructure_eq_ok.mp (check_bind_eq_ok.mp valid).1

/-- The proposal of a system holds what the system selects, in normal form, and the
sources it cites. -/
structure Selects (spec : SystemSpecV1) (system : SystemDefinitionV1) (body : ScopeCutProposalBodyV1) :
    Prop where
  named : body.system = system.normalized
  targets : ∀ target, target ∈ body.targets ↔
    ∃ declared ∈ spec.targets, declared.targetId ∈ system.targetIds ∧ target = declared.normalized
  components : ∀ component, component ∈ body.components ↔
    ∃ declared ∈ spec.components, declared.componentId ∈ system.componentIds ∧ component = declared.normalized
  dependencies : ∀ dependency, dependency ∈ body.dependencies ↔
    ∃ declared ∈ spec.dependencies, declared.dependencyId ∈ system.dependencyIds ∧
      dependency = declared.normalized
  obligations : ∀ obligation, obligation ∈ body.observationObligations ↔
    ∃ declared ∈ spec.observationObligations,
      declared.observationObligationId ∈ system.observationObligationIds ∧ obligation = declared.normalized
  sources : ∀ source, source ∈ body.sourceSnapshots ↔
    source ∈ spec.sourceSnapshots ∧ spec.CitesSource system source.sourceSnapshotId

variable {ids : List Identifier}

private theorem mem_sortIds {id : Identifier} : id ∈ sortIds ids ↔ id ∈ ids := mem_sortBy

private theorem mem_selection {α : Type} {identity : α → Identifier} (normalize : α → α) {entries : List α}
    {key : α → String} (kept : ∀ entry, identity (normalize entry) = identity entry) {entry : α} :
    entry ∈ ((sortBy key entries).map normalize).filter (fun entry => identity entry ∈ sortIds ids) ↔
      ∃ declared ∈ entries, identity declared ∈ ids ∧ entry = normalize declared := by
  simp only [List.mem_filter, List.mem_map, mem_sortBy, decide_eq_true_eq, mem_sortIds]
  constructor
  · rintro ⟨⟨declared, member, rfl⟩, selected⟩
    exact ⟨declared, member, kept declared ▸ selected, rfl⟩
  · rintro ⟨declared, member, selected, rfl⟩
    exact ⟨⟨declared, member, rfl⟩, (kept declared).symm ▸ selected⟩

private theorem cites_normalized {α : Type} {identity : α → Identifier} {sources : α → List Identifier}
    {normalize : α → α} {entries : List α} {key : α → String} {id : Identifier}
    (kept : ∀ entry, identity (normalize entry) = identity entry)
    (sorted : ∀ entry, sources (normalize entry) = sortIds (sources entry)) :
    (∃ entry ∈ (sortBy key entries).map normalize, identity entry ∈ sortIds ids ∧ id ∈ sources entry) ↔
      ∃ entry ∈ entries, identity entry ∈ ids ∧ id ∈ sources entry := by
  simp only [List.mem_map, mem_sortBy, exists_exists_and_eq_and, kept, sorted, mem_sortIds]

theorem selects_select (cutId : Identifier) (specDigest : Sha256Digest) (system : SystemDefinitionV1) :
    spec.Selects system (spec.normalized.select cutId specDigest system.normalized) := by
  constructor
  case named => rfl
  case targets => exact fun _ => mem_selection TargetV1.normalized fun _ => rfl
  case components => exact fun _ => mem_selection ComponentV1.normalized fun _ => rfl
  case dependencies => exact fun _ => mem_selection DependencyV1.normalized fun _ => rfl
  case obligations => exact fun _ => mem_selection ObservationObligationV1.normalized fun _ => rfl
  case sources =>
    intro source
    change source ∈ (sortBy _ _).filter _ ↔ _
    rw [List.mem_filter, mem_sortBy, decide_eq_true_eq, mem_citedSources]
    refine and_congr_right fun _ => or_congr mem_sortIds (or_congr ?_ (or_congr ?_ (or_congr ?_ ?_)))
    · exact cites_normalized (fun _ => rfl) fun _ => rfl
    · exact cites_normalized (fun _ => rfl) fun _ => rfl
    · exact cites_normalized (fun _ => rfl) fun _ => rfl
    · exact cites_normalized (fun _ => rfl) fun _ => rfl

private theorem buildCutProposal_eq (valid : spec.validate codec = .ok ()) {system : SystemDefinitionV1}
    (declared : system ∈ spec.systems) (cutId : Identifier) :
    ∃ specDigest proposalDigest,
      (spec.normalized.select cutId specDigest system.normalized).digest codec = .ok proposalDigest ∧
      spec.buildCutProposal codec cutId system.systemId = (do
        let result : ScopeCutProposalV1 := {
          schema := scopeCutProposalSchema
          proposalDigest := proposalDigest
          proposal := spec.normalized.select cutId specDigest system.normalized }
        result.verify codec
        return result) := by
  have closed := closed_of_validate valid
  have normal := closed.permuted spec.permuted_normalized
  have bounded : ∀ obligation ∈ spec.normalized.observationObligations, obligation.Bounded codec :=
    fun obligation member => (normal.obligation obligation member).2.1
  have found : lookupId SystemDefinitionV1.systemId spec.normalized.systems "system" system.systemId =
      .ok system.normalized := by
    rw [lookupId_eq_ok normal.distinct.systems]
    exact ⟨List.mem_map_of_mem (mem_sortBy.mpr declared), rfl⟩
  have digest := @contractDigest_of_safe codec.toCodec _ (safe_toJson bounded)
  generalize codec.sha256Bytes _ = specDigest at digest
  have proposed : ∀ obligation ∈ (spec.normalized.select cutId specDigest
      system.normalized).observationObligations, obligation.Bounded codec :=
    fun obligation member => bounded obligation (List.mem_filter.mp member).1
  have hashed := @artifactDigest_of_safe codec.toCodec _ scopeCutProposalSchema
    (ScopeCutProposalBodyV1.safe_toJson proposed)
  refine ⟨specDigest, _, hashed, ?_⟩
  unfold buildCutProposal
  rw [valid, found, digest]
  change (do
    let proposalDigest ← (spec.normalized.select cutId specDigest system.normalized).digest codec
    _) = _
  unfold ScopeCutProposalBodyV1.digest
  rw [hashed]
  rfl

end SystemSpecV1

open SystemSpecV1

/-- Every declared system of a valid specification is proposed, unless a document is too
large; the proposal holds exactly what the system selects with the sources cited there,
and it verifies. -/
theorem declared_system_proposed {codec : ContractCodec} {spec : SystemSpecV1}
    (valid : spec.validate codec = .ok ()) {system : SystemDefinitionV1} (declared : system ∈ spec.systems)
    (cutId : Identifier) :
    (∃ actual, maxDocumentBytes < actual ∧
      spec.buildCutProposal codec cutId system.systemId = .error (.tooLarge actual maxDocumentBytes)) ∨
    ∃ proposal, spec.buildCutProposal codec cutId system.systemId = .ok proposal ∧
      spec.Selects system proposal.proposal ∧ proposal.verify codec = .ok () := by
  have normal := (closed_of_validate valid).permuted spec.permuted_normalized
  have member : system.normalized ∈ spec.normalized.systems := List.mem_map_of_mem (mem_sortBy.mpr declared)
  obtain ⟨specDigest, proposalDigest, hashed, built⟩ := buildCutProposal_eq valid declared cutId
  rw [built]
  rcases verify_of_closed (normal.restriction member cutId specDigest)
    (canonical_select member cutId specDigest) hashed with verified | ⟨actual, larger, refused⟩
  · refine .inr ⟨_, bind_eq_ok.mpr ⟨(), verified, rfl⟩, selects_select cutId specDigest system, verified⟩
  · refine .inl ⟨actual, larger, ?_⟩
    change (ScopeCutProposalV1.verify codec _ >>= _) = _
    rw [refused]
    rfl

def digestOf (digit : Fin 16) : Sha256Digest :=
  ⟨"sha256:" ++ String.ofList (List.replicate 64 (Char.ofNat (if digit < 10 then 48 + digit else 87 + digit))),
    isSha256Digest_replicate (by revert digit; decide)⟩

def digestOfLength (length : Nat) : Sha256Digest := digestOf (Fin.ofNat 16 length)

/-- The members of an object stay in their order, and the hash tells lengths apart up to a
multiple of 16. -/
def sampleCodec : ContractCodec where
  jcs := Json.write
  sha256Bytes := fun bytes => digestOfLength bytes.length
  rfc3339 := fun instant => "1970-01-01T00:00:0" ++ toString instant.secs ++ "Z"

def serviceObligation (id component : Identifier) : ObservationObligationV1 where
  observationObligationId := id
  componentId := component
  instanceId := "watcher"
  profile := { id := "service", version := "1", digest := zeroDigest }
  subjectBinding := {
    subject := "service"
    scope := { kind := "host", value := .object [] }
    vantage := { kind := "local", value := .object [] } }
  requiredCoverage := ["state"]
  grantedCapabilities := []
  freshnessSeconds := 60
  sourceSnapshotIds := [⟨"source", by decide⟩]

def serviceSystem : SystemDefinitionV1 where
  systemId := Sample.service
  title := "service"
  targetIds := [Sample.host]
  componentIds := [⟨"front", by decide⟩, ⟨"back", by decide⟩]
  dependencyIds := [⟨"front-back", by decide⟩]
  observationObligationIds := [⟨"watch-front", by decide⟩, ⟨"watch-back", by decide⟩]
  sourceSnapshotIds := [⟨"source", by decide⟩]

/-- A front end that depends on a back end on the same host, with the components in the
given order. -/
def serviceSpec (components : List ComponentV1) : SystemSpecV1 where
  schema := systemSpecSchema
  specId := Sample.spec
  revision := 1
  title := "service"
  sourceSnapshots := [
    { sourceSnapshotId := ⟨"source", by decide⟩, kind := .operatorAuthored, contentDigest := zeroDigest
      capturedAt := instantAt 3 0, provenance := "operator" }]
  targets := [
    { targetId := Sample.host, targetClass := ⟨"vm", by decide⟩, targetIdentityDigest := zeroDigest
      sourceSnapshotIds := [⟨"source", by decide⟩] }]
  components := components
  dependencies := [
    { dependencyId := ⟨"front-back", by decide⟩, consumerComponentId := ⟨"front", by decide⟩
      providerComponentId := ⟨"back", by decide⟩, requirement := .required
      sourceSnapshotIds := [⟨"source", by decide⟩] }]
  observationObligations := [
    serviceObligation ⟨"watch-back", by decide⟩ ⟨"back", by decide⟩,
    serviceObligation ⟨"watch-front", by decide⟩ ⟨"front", by decide⟩]
  systems := [serviceSystem]
  authority := .none

def backComponent : ComponentV1 where
  componentId := ⟨"back", by decide⟩
  kind := ⟨"process", by decide⟩
  hostedOn := Sample.host
  sourceSnapshotIds := [⟨"source", by decide⟩]

def frontComponent : ComponentV1 where
  componentId := ⟨"front", by decide⟩
  kind := ⟨"process", by decide⟩
  hostedOn := Sample.host
  sourceSnapshotIds := [⟨"source", by decide⟩]

theorem serviceSpec_valid : (serviceSpec [frontComponent, backComponent]).validate sampleCodec = .ok () := by
  decide +kernel

theorem declared_system_proposed_service :
    ∃ proposal, (serviceSpec [frontComponent, backComponent]).buildCutProposal sampleCodec Sample.cutId
        serviceSystem.systemId = .ok proposal ∧
      (serviceSpec [frontComponent, backComponent]).Selects serviceSystem proposal.proposal ∧
      proposal.verify sampleCodec = .ok () := by
  have proposed : ((serviceSpec [frontComponent, backComponent]).buildCutProposal sampleCodec
      Sample.cutId serviceSystem.systemId).isOk = true := by
    decide +kernel
  rcases declared_system_proposed serviceSpec_valid (List.mem_singleton.mpr rfl) Sample.cutId with
    ⟨_, _, refused⟩ | accepted
  · rw [refused] at proposed
    cases proposed
  · exact accepted

/-! ## Order and derivation -/

theorem ScopeCutProposalBodyV1.same_refl (body : ScopeCutProposalBodyV1) : body.same body = true := by
  simp [ScopeCutProposalBodyV1.same, sameObligations_refl]

variable {cut : PublishedScopeCutV1}

namespace SystemSpecV1

variable {codec : ContractCodec} {left right : SystemSpecV1}

theorem Permuted.validate (reordered : left.Permuted right) (valid : left.validate codec = .ok ()) :
    right.validate codec = .ok () := by
  have closed := closed_of_validate valid
  have sized := (check_bind_eq_ok.mp valid).2
  rw [reordered.normalized_eq closed.distinct] at sized
  exact check_bind_eq_ok.mpr ⟨validateStructure_eq_ok.mpr (closed.permuted reordered), sized⟩

theorem Permuted.digest_eq (reordered : left.Permuted right) (valid : left.validate codec = .ok ()) :
    left.digest codec = right.digest codec := by
  unfold SystemSpecV1.digest
  rw [valid, reordered.validate valid, reordered.normalized_eq (closed_of_validate valid).distinct]

theorem Permuted.buildCutProposal_eq (reordered : left.Permuted right) (valid : left.validate codec = .ok ())
    (cutId systemId : Identifier) :
    left.buildCutProposal codec cutId systemId = right.buildCutProposal codec cutId systemId := by
  unfold SystemSpecV1.buildCutProposal
  rw [valid, reordered.validate valid, reordered.normalized_eq (closed_of_validate valid).distinct]

theorem Permuted.compileCutProposal_eq (reordered : left.Permuted right) (valid : left.validate codec = .ok ())
    (catalog : ProfileCatalog) (cutId systemId : Identifier) :
    left.compileCutProposal codec catalog cutId systemId = right.compileCutProposal codec catalog cutId systemId := by
  unfold SystemSpecV1.compileCutProposal
  rw [reordered.buildCutProposal_eq valid]

variable {spec : SystemSpecV1}

theorem validate_of_buildCutProposal {cutId systemId : Identifier} {proposal : ScopeCutProposalV1}
    (built : spec.buildCutProposal codec cutId systemId = .ok proposal) : spec.validate codec = .ok () :=
  (check_bind_eq_ok.mp built).1

theorem identity_of_buildCutProposal {cutId systemId : Identifier} {proposal : ScopeCutProposalV1}
    (built : spec.buildCutProposal codec cutId systemId = .ok proposal) :
    proposal.proposal.cutId = cutId ∧ proposal.proposal.system.systemId = systemId ∧
      proposal.proposal.authority = .none ∧ proposal.proposal.digest codec = .ok proposal.proposalDigest := by
  obtain ⟨valid, built⟩ := check_bind_eq_ok.mp built
  obtain ⟨system, found, built⟩ := bind_eq_ok.mp built
  obtain ⟨specDigest, _, built⟩ := bind_eq_ok.mp built
  obtain ⟨proposalDigest, hashed, built⟩ := bind_eq_ok.mp built
  obtain ⟨_, built⟩ := check_bind_eq_ok.mp built
  cases built
  have normal := (closed_of_validate valid).permuted spec.permuted_normalized
  exact ⟨rfl, ((lookupId_eq_ok normal.distinct.systems).mp found).2, rfl, hashed⟩

theorem compileCut_eq_ok {catalog : ProfileCatalog} {cutId systemId : Identifier} {ratification : RatificationV1}
    (compiled : spec.compileCut codec catalog cutId systemId ratification = .ok cut) :
    ∃ proposal, spec.buildCutProposal codec cutId systemId = .ok proposal ∧
      ratification.ratifiedProposalDigest = proposal.proposalDigest ∧
      cut.cut = proposal.proposal.ratified ratification ∧ cut.verify codec = .ok () := by
  obtain ⟨proposal, proposed, compiled⟩ := bind_eq_ok.mp compiled
  obtain ⟨_, compiled⟩ := check_bind_eq_ok.mp compiled
  obtain ⟨_, compiled⟩ := check_bind_eq_ok.mp compiled
  obtain ⟨ratified, compiled⟩ := check_bind_eq_ok.mp compiled
  obtain ⟨_, _, compiled⟩ := bind_eq_ok.mp compiled
  obtain ⟨qualified, compiled⟩ := check_bind_eq_ok.mp compiled
  cases compiled
  obtain ⟨_, built, proposed⟩ := bind_eq_ok.mp proposed
  obtain ⟨_, proposed⟩ := check_bind_eq_ok.mp proposed
  cases proposed
  exact ⟨proposal, built, ensure_eq_ok.mp ratified, rfl, (check_bind_eq_ok.mp qualified).1⟩

end SystemSpecV1

variable {codec : ContractCodec}

/-- A compiled cut verifies, alone and against every reordering of its specification. -/
theorem compiledCut_verifies {catalog : ProfileCatalog} {spec : SystemSpecV1} {cutId systemId : Identifier}
    {ratification : RatificationV1} (compiled : spec.compileCut codec catalog cutId systemId ratification = .ok cut) :
    cut.verify codec = .ok () ∧
      ∀ other, spec.Permuted other → cut.verifyAgainstSpec codec other = .ok () := by
  obtain ⟨proposal, built, ratified, body, verified⟩ := compileCut_eq_ok compiled
  refine ⟨verified, fun other reordered => ?_⟩
  have valid := validate_of_buildCutProposal built
  obtain ⟨sameCut, sameSystem, unauthorised, _⟩ := identity_of_buildCutProposal built
  have rebuilt : other.buildCutProposal codec cut.cut.cutId cut.cut.system.systemId = .ok proposal := by
    rw [body]
    change other.buildCutProposal codec proposal.proposal.cutId proposal.proposal.system.systemId = _
    rw [sameCut, sameSystem, ← reordered.buildCutProposal_eq valid, built]
  have proposed : cut.cut.proposal = proposal.proposal := by
    rw [body]
    exact (congrArg (fun authority => { proposal.proposal with authority := authority }) unauthorised.symm)
  unfold PublishedScopeCutV1.verifyAgainstSpec
  refine check_bind_eq_ok.mpr ⟨verified, bind_eq_ok.mpr ⟨proposal, rebuilt, ensure_eq_ok.mpr ⟨?_, ?_⟩⟩⟩
  · rw [proposed]
    exact proposal.proposal.same_refl
  · rw [body]
    exact ratified.symm

theorem parts_of_verify (verified : cut.verify codec = .ok ()) :
    cut.proposal.verify codec = .ok () ∧ cut.cut.proposal.restriction.Closed codec := by
  obtain ⟨_, verified⟩ := check_bind_eq_ok.mp verified
  obtain ⟨_, verified⟩ := check_bind_eq_ok.mp verified
  obtain ⟨_, _, verified⟩ := bind_eq_ok.mp verified
  obtain ⟨_, verified⟩ := check_bind_eq_ok.mp verified
  obtain ⟨_, verified⟩ := check_bind_eq_ok.mp verified
  obtain ⟨_, verified⟩ := check_bind_eq_ok.mp verified
  obtain ⟨proposed, verified⟩ := check_bind_eq_ok.mp verified
  exact ⟨mapError_eq_ok.mp proposed, closed_of_validate (check_bind_eq_ok.mp verified).1⟩

theorem proposalDigest_of_verify (verified : cut.verify codec = .ok ()) :
    cut.cut.proposal.digest codec = .ok cut.cut.ratification.ratifiedProposalDigest := by
  obtain ⟨_, proposed⟩ := check_bind_eq_ok.mp (parts_of_verify verified).1
  obtain ⟨expected, hashed, proposed⟩ := bind_eq_ok.mp proposed
  have named : expected = cut.cut.ratification.ratifiedProposalDigest :=
    ensure_eq_ok.mp (check_bind_eq_ok.mp proposed).1
  rw [← named]
  exact hashed

/-- A cut that verifies against a specification has the body that is compiled from it. -/
theorem body_of_verifyAgainstSpec {spec : SystemSpecV1} (verified : cut.verifyAgainstSpec codec spec = .ok ()) :
    ∃ proposal, spec.buildCutProposal codec cut.cut.cutId cut.cut.system.systemId = .ok proposal ∧
      proposal.proposal.same cut.cut.proposal = true ∧
      proposal.proposal.digest codec = cut.cut.proposal.digest codec := by
  obtain ⟨alone, verified⟩ := check_bind_eq_ok.mp verified
  obtain ⟨proposal, built, matched⟩ := bind_eq_ok.mp verified
  obtain ⟨same, ratified⟩ := ensure_eq_ok.mp matched
  refine ⟨proposal, built, same, ?_⟩
  rw [(identity_of_buildCutProposal built).2.2.2, proposalDigest_of_verify alone, ratified]

/-- Reordering a valid specification changes neither its digest nor what is compiled from
it; a compiled cut verifies, also against every reordering; and a cut that verifies
against a specification has the body compiled from it, exactly so where the digest tells
the two proposals apart. -/
theorem compilation_order_and_derivation (codec : ContractCodec) :
    (∀ left right : SystemSpecV1, left.validate codec = .ok () → right.validate codec = .ok () →
      left.Permuted right → left.digest codec = right.digest codec ∧
        ∀ catalog cutId systemId, left.compileCutProposal codec catalog cutId systemId =
          right.compileCutProposal codec catalog cutId systemId) ∧
    (∀ (spec : SystemSpecV1) catalog cutId systemId ratification cut,
      spec.compileCut codec catalog cutId systemId ratification = .ok cut →
        cut.verify codec = .ok () ∧ ∀ other, spec.Permuted other → cut.verifyAgainstSpec codec other = .ok ()) ∧
    ∀ (spec : SystemSpecV1) (cut : PublishedScopeCutV1), cut.verifyAgainstSpec codec spec = .ok () →
      ∃ proposal, spec.buildCutProposal codec cut.cut.cutId cut.cut.system.systemId = .ok proposal ∧
        proposal.proposal.same cut.cut.proposal = true ∧
        ((proposal.proposal.digest codec = cut.cut.proposal.digest codec →
            proposal.proposal = cut.cut.proposal) →
          cut.cut = proposal.proposal.ratified cut.cut.ratification) ∧
        ∀ catalog compiled, spec.compileCut codec catalog cut.cut.cutId cut.cut.system.systemId
            cut.cut.ratification = .ok compiled →
          compiled.cut = proposal.proposal.ratified cut.cut.ratification := by
  refine ⟨?_, fun spec catalog cutId systemId ratification cut => compiledCut_verifies, ?_⟩
  · intro left right valid _ reordered
    exact ⟨reordered.digest_eq valid, fun catalog => reordered.compileCutProposal_eq valid catalog⟩
  · intro spec cut verified
    obtain ⟨proposal, built, same, hashed⟩ := body_of_verifyAgainstSpec verified
    refine ⟨proposal, built, same, fun separated => ?_, fun catalog compiled result => ?_⟩
    · rw [separated hashed]
      rfl
    · obtain ⟨other, rebuilt, _, body, _⟩ := compileCut_eq_ok result
      rw [Except.ok.inj (built.symm.trans rebuilt)]
      exact body

def serviceRatification : RatificationV1 where
  ratifiedBy := Sample.operator
  ratifiedAt := instantAt 5 0
  ratifiedProposalDigest := digestOfLength 13
  ratificationRecordDigest := digestOfLength 9

def serviceCatalog : ProfileCatalog := fun _ _ => some {
  id := "service"
  version := 1
  digest := .ok zeroDigest.text
  relianceSeconds := 60
  coverage := ["state"]
  capabilities := []
  maxObservations := 1
  validateBinding := fun _ => .ok () }

private theorem serviceSpec_permuted :
    (serviceSpec [frontComponent, backComponent]).Permuted (serviceSpec [backComponent, frontComponent]) where
  schema := rfl
  specId := rfl
  revision := rfl
  title := rfl
  sourceSnapshots := .refl _
  targets := .of_perm (fun _ => ⟨rfl, rfl, rfl, .refl _⟩) (.refl _)
  components := .of_perm (fun _ => ⟨rfl, rfl, rfl, .refl _⟩) (.swap _ _ _)
  dependencies := .of_perm (fun _ => ⟨rfl, rfl, rfl, rfl, .refl _⟩) (.refl _)
  observationObligations := .of_perm (fun _ => ⟨rfl, rfl, rfl, rfl, rfl, .refl _, .refl _, rfl, .refl _⟩) (.refl _)
  systems := .of_perm (fun _ => ⟨rfl, rfl, .refl _, .refl _, .refl _, .refl _, .refl _⟩) (.refl _)

theorem compilation_order_and_derivation_service :
    (serviceSpec [frontComponent, backComponent]).digest sampleCodec =
      (serviceSpec [backComponent, frontComponent]).digest sampleCodec ∧
    ∃ cut, (serviceSpec [frontComponent, backComponent]).compileCut sampleCodec serviceCatalog
        Sample.cutId serviceSystem.systemId serviceRatification = .ok cut ∧
      cut.verifyAgainstSpec sampleCodec (serviceSpec [backComponent, frontComponent]) = .ok () := by
  obtain ⟨reordered, compiled, _⟩ := compilation_order_and_derivation sampleCodec
  have accepted : ((serviceSpec [frontComponent, backComponent]).compileCut sampleCodec serviceCatalog
      Sample.cutId serviceSystem.systemId serviceRatification).isOk = true := by
    decide +kernel
  refine ⟨(reordered _ _ serviceSpec_valid (by decide +kernel) serviceSpec_permuted).1, ?_⟩
  cases result : (serviceSpec [frontComponent, backComponent]).compileCut sampleCodec serviceCatalog
      Sample.cutId serviceSystem.systemId serviceRatification with
  | error failure =>
      rw [result] at accepted
      cases accepted
  | ok cut => exact ⟨cut, rfl, (compiled _ _ _ _ _ _ result).2 _ serviceSpec_permuted⟩

end ConstellationNq.SystemContract
