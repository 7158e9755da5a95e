import ConstellationNq.SystemContract.SpecificationProperties

/-!
# The order of a specification's arrays

Two specifications that differ only in the order of their arrays are closed together
and have one normal form, which is itself such a reordering.
-/

set_option autoImplicit false

namespace ConstellationNq.SystemContract

open Library.Sorting

structure TargetV1.Permuted (left right : TargetV1) : Prop where
  targetId : left.targetId = right.targetId
  targetClass : left.targetClass = right.targetClass
  targetIdentityDigest : left.targetIdentityDigest = right.targetIdentityDigest
  sourceSnapshotIds : left.sourceSnapshotIds.Perm right.sourceSnapshotIds

structure ComponentV1.Permuted (left right : ComponentV1) : Prop where
  componentId : left.componentId = right.componentId
  kind : left.kind = right.kind
  hostedOn : left.hostedOn = right.hostedOn
  sourceSnapshotIds : left.sourceSnapshotIds.Perm right.sourceSnapshotIds

structure DependencyV1.Permuted (left right : DependencyV1) : Prop where
  dependencyId : left.dependencyId = right.dependencyId
  consumerComponentId : left.consumerComponentId = right.consumerComponentId
  providerComponentId : left.providerComponentId = right.providerComponentId
  requirement : left.requirement = right.requirement
  sourceSnapshotIds : left.sourceSnapshotIds.Perm right.sourceSnapshotIds

structure ObservationObligationV1.Permuted (left right : ObservationObligationV1) : Prop where
  observationObligationId : left.observationObligationId = right.observationObligationId
  componentId : left.componentId = right.componentId
  instanceId : left.instanceId = right.instanceId
  profile : left.profile = right.profile
  subjectBinding : left.subjectBinding = right.subjectBinding
  requiredCoverage : left.requiredCoverage.Perm right.requiredCoverage
  grantedCapabilities : left.grantedCapabilities.Perm right.grantedCapabilities
  freshnessSeconds : left.freshnessSeconds = right.freshnessSeconds
  sourceSnapshotIds : left.sourceSnapshotIds.Perm right.sourceSnapshotIds

structure SystemDefinitionV1.Permuted (left right : SystemDefinitionV1) : Prop where
  systemId : left.systemId = right.systemId
  title : left.title = right.title
  targetIds : left.targetIds.Perm right.targetIds
  componentIds : left.componentIds.Perm right.componentIds
  dependencyIds : left.dependencyIds.Perm right.dependencyIds
  observationObligationIds : left.observationObligationIds.Perm right.observationObligationIds
  sourceSnapshotIds : left.sourceSnapshotIds.Perm right.sourceSnapshotIds

/-- The same specification up to the order of its arrays and of the arrays in their
entries. -/
structure SystemSpecV1.Permuted (left right : SystemSpecV1) : Prop where
  schema : left.schema = right.schema
  specId : left.specId = right.specId
  revision : left.revision = right.revision
  title : left.title = right.title
  sourceSnapshots : left.sourceSnapshots.Perm right.sourceSnapshots
  targets : PermutedBy TargetV1.Permuted left.targets right.targets
  components : PermutedBy ComponentV1.Permuted left.components right.components
  dependencies : PermutedBy DependencyV1.Permuted left.dependencies right.dependencies
  observationObligations : PermutedBy ObservationObligationV1.Permuted
    left.observationObligations right.observationObligations
  systems : PermutedBy SystemDefinitionV1.Permuted left.systems right.systems

theorem sortIds_congr {left right : List Identifier} (perm : left.Perm right) : sortIds left = sortIds right :=
  sortBy_congr_of_injective perm Identifier.text_injective

/-! ## Entries -/

theorem TargetV1.permuted_normalized (target : TargetV1) : target.Permuted target.normalized :=
  ⟨rfl, rfl, rfl, (sortBy_perm _ _).symm⟩

theorem ComponentV1.permuted_normalized (component : ComponentV1) : component.Permuted component.normalized :=
  ⟨rfl, rfl, rfl, (sortBy_perm _ _).symm⟩

theorem DependencyV1.permuted_normalized (dependency : DependencyV1) : dependency.Permuted dependency.normalized :=
  ⟨rfl, rfl, rfl, rfl, (sortBy_perm _ _).symm⟩

theorem ObservationObligationV1.permuted_normalized (obligation : ObservationObligationV1) :
    obligation.Permuted obligation.normalized :=
  ⟨rfl, rfl, rfl, rfl, rfl, (sortBy_perm _ _).symm, (sortBy_perm _ _).symm, rfl, (sortBy_perm _ _).symm⟩

theorem SystemDefinitionV1.permuted_normalized (system : SystemDefinitionV1) :
    system.Permuted system.normalized :=
  ⟨rfl, rfl, (sortBy_perm _ _).symm, (sortBy_perm _ _).symm, (sortBy_perm _ _).symm, (sortBy_perm _ _).symm,
    (sortBy_perm _ _).symm⟩

theorem TargetV1.Permuted.normalized_eq {left right : TargetV1} (permuted : left.Permuted right) :
    left.normalized = right.normalized := by
  obtain ⟨targetId, targetClass, digest, sources⟩ := permuted
  cases left
  cases right
  simp_all [TargetV1.normalized, sortIds_congr sources]

theorem ComponentV1.Permuted.normalized_eq {left right : ComponentV1} (permuted : left.Permuted right) :
    left.normalized = right.normalized := by
  obtain ⟨componentId, kind, hostedOn, sources⟩ := permuted
  cases left
  cases right
  simp_all [ComponentV1.normalized, sortIds_congr sources]

theorem DependencyV1.Permuted.normalized_eq {left right : DependencyV1} (permuted : left.Permuted right) :
    left.normalized = right.normalized := by
  obtain ⟨dependencyId, consumer, provider, requirement, sources⟩ := permuted
  cases left
  cases right
  simp_all [DependencyV1.normalized, sortIds_congr sources]

theorem ObservationObligationV1.Permuted.normalized_eq {left right : ObservationObligationV1}
    (permuted : left.Permuted right) : left.normalized = right.normalized := by
  obtain ⟨obligationId, componentId, instanceId, profile, binding, coverage, capabilities, freshness, sources⟩ :=
    permuted
  have sortedCoverage := @sortBy_congr_of_injective _ _ _ id _ _ coverage Function.injective_id
  have sortedCapabilities := @sortBy_congr_of_injective _ _ _ id _ _ capabilities Function.injective_id
  cases left
  cases right
  simp_all [ObservationObligationV1.normalized, sortIds_congr sources]

theorem SystemDefinitionV1.Permuted.normalized_eq {left right : SystemDefinitionV1}
    (permuted : left.Permuted right) : left.normalized = right.normalized := by
  obtain ⟨systemId, title, targets, components, dependencies, obligations, sources⟩ := permuted
  cases left
  cases right
  simp_all [SystemDefinitionV1.normalized, sortIds_congr targets, sortIds_congr components,
    sortIds_congr dependencies, sortIds_congr obligations, sortIds_congr sources]

/-! ## Normal forms -/

private theorem permutedBy_normalized {α : Type} {related : α → α → Prop} {key : α → String} {normalize : α → α}
    (same : ∀ entry, related entry (normalize entry)) (entries : List α) :
    PermutedBy related entries ((sortBy key entries).map normalize) := by
  refine ⟨sortBy key entries, (sortBy_perm key entries).symm, ?_⟩
  rw [List.forall₂_map_right_iff]
  exact List.forall₂_same.mpr fun entry _ => same entry

private theorem sorted_normalized_eq {α : Type} {related : α → α → Prop} {identity : α → Identifier}
    {normalize : α → α} {left right : List α} (permuted : PermutedBy related left right)
    (same : ∀ before after, related before after → normalize before = normalize after)
    (kept : ∀ entry, identity (normalize entry) = identity entry) (distinct : (left.map identity).Nodup) :
    (sortBy (fun entry => (identity entry).text) left).map normalize =
      (sortBy (fun entry => (identity entry).text) right).map normalize := by
  have keptText : ∀ entry, (identity (normalize entry)).text = (identity entry).text := fun entry => by
    rw [kept]
  have sorted : ∀ entries : List α, (sortBy (fun entry => (identity entry).text) entries).map normalize =
      sortBy (fun entry => (identity entry).text) (entries.map normalize) := fun entries =>
    (@sortBy_map α α String _ _ entries normalize _ keptText).symm
  rw [sorted, sorted]
  refine sortBy_congr (permuted.map_perm same) ?_
  have texts : (left.map normalize).map (fun entry => (identity entry).text) =
      (left.map identity).map Identifier.text := by
    rw [List.map_map, List.map_map]
    exact List.map_congr_left fun entry _ => keptText entry
  rw [texts]
  exact distinct.map Identifier.text_injective

namespace SystemSpecV1

theorem permuted_normalized (spec : SystemSpecV1) : spec.Permuted spec.normalized where
  schema := rfl
  specId := rfl
  revision := rfl
  title := rfl
  sourceSnapshots := (sortBy_perm _ _).symm
  targets := permutedBy_normalized TargetV1.permuted_normalized _
  components := permutedBy_normalized ComponentV1.permuted_normalized _
  dependencies := permutedBy_normalized DependencyV1.permuted_normalized _
  observationObligations := permutedBy_normalized ObservationObligationV1.permuted_normalized _
  systems := permutedBy_normalized SystemDefinitionV1.permuted_normalized _

theorem Permuted.normalized_eq {left right : SystemSpecV1} (permuted : left.Permuted right)
    (distinct : left.Distinct) : left.normalized = right.normalized := by
  have sources : sortBy (fun source => source.sourceSnapshotId.text) left.sourceSnapshots =
      sortBy (fun source => source.sourceSnapshotId.text) right.sourceSnapshots := by
    refine sortBy_congr permuted.sourceSnapshots ?_
    have texts := distinct.sources.map Identifier.text_injective
    rwa [sourceIds, List.map_map] at texts
  have targets := sorted_normalized_eq permuted.targets (fun _ _ => TargetV1.Permuted.normalized_eq)
    (fun _ => rfl) distinct.targets
  have components := sorted_normalized_eq permuted.components (fun _ _ => ComponentV1.Permuted.normalized_eq)
    (fun _ => rfl) distinct.components
  have dependencies := sorted_normalized_eq permuted.dependencies
    (fun _ _ => DependencyV1.Permuted.normalized_eq) (fun _ => rfl) distinct.dependencies
  have obligations := sorted_normalized_eq permuted.observationObligations
    (fun _ _ => ObservationObligationV1.Permuted.normalized_eq) (fun _ => rfl) distinct.obligations
  have systems := sorted_normalized_eq permuted.systems
    (fun _ _ => SystemDefinitionV1.Permuted.normalized_eq) (fun _ => rfl) distinct.systems
  unfold normalized
  rw [sources, targets, components, dependencies, obligations, systems]
  obtain ⟨schema, specId, revision, title, _, _, _, _, _, _⟩ := permuted
  cases left with
  | mk _ _ _ _ _ _ _ _ _ _ leftAuthority =>
      cases right with
      | mk _ _ _ _ _ _ _ _ _ _ rightAuthority =>
          cases leftAuthority
          cases rightAuthority
          simp_all

/-! ## Closed specifications -/

end SystemSpecV1

theorem Refers.perm {left right available offered : List Identifier} (refers : Refers left available)
    (perm : left.Perm right) (same : available.Perm offered) : Refers right offered :=
  ⟨perm.nodup_iff.mp refers.distinct, fun _ member => same.mem_iff.mp (refers.known (perm.mem_iff.mpr member))⟩

theorem Cites.perm {left right available offered : List Identifier} (cites : Cites left available)
    (perm : left.Perm right) (same : available.Perm offered) : Cites right offered :=
  ⟨cites.toRefers.perm perm same, fun empty => cites.nonempty (perm.trans (by rw [empty])).eq_nil⟩

theorem ObservationObligationV1.Bounded.permuted {codec : ContractCodec} {left right : ObservationObligationV1}
    (bounded : left.Bounded codec) (permuted : left.Permuted right) : right.Bounded codec where
  freshness := permuted.freshnessSeconds ▸ bounded.freshness
  version := permuted.profile ▸ bounded.version
  coverageCount := permuted.requiredCoverage.length_eq ▸ bounded.coverageCount
  coverageDistinct := permuted.requiredCoverage.nodup_iff.mp bounded.coverageDistinct
  capabilityCount := permuted.grantedCapabilities.length_eq ▸ bounded.capabilityCount
  capabilityDistinct := permuted.grantedCapabilities.nodup_iff.mp bounded.capabilityDistinct
  scope := permuted.subjectBinding ▸ bounded.scope
  vantage := permuted.subjectBinding ▸ bounded.vantage

namespace SystemSpecV1

section Permuted

variable {codec : ContractCodec} {left right : SystemSpecV1} (reordered : left.Permuted right)

include reordered

theorem Permuted.sourceIds : left.sourceIds.Perm right.sourceIds :=
  reordered.sourceSnapshots.map _

theorem Permuted.targetIds : left.targetIds.Perm right.targetIds :=
  reordered.targets.map_perm fun _ _ same => same.targetId

theorem Permuted.componentIds : left.componentIds.Perm right.componentIds :=
  reordered.components.map_perm fun _ _ same => same.componentId

theorem Permuted.dependencyIds : left.dependencyIds.Perm right.dependencyIds :=
  reordered.dependencies.map_perm fun _ _ same => same.dependencyId

theorem Permuted.obligationIds : left.obligationIds.Perm right.obligationIds :=
  reordered.observationObligations.map_perm fun _ _ same => same.observationObligationId

private theorem SystemClosed.permuted {before after : SystemDefinitionV1} (closed : left.SystemClosed before)
    (same : before.Permuted after) : right.SystemClosed after where
  title := same.title ▸ closed.title
  targets := closed.targets.perm same.targetIds reordered.targetIds
  components := closed.components.perm same.componentIds reordered.componentIds
  dependencies := closed.dependencies.perm same.dependencyIds reordered.dependencyIds
  obligations := closed.obligations.perm same.observationObligationIds reordered.obligationIds
  sources := closed.sources.perm same.sourceSnapshotIds reordered.sourceIds
  hosted := by
    intro component member selected
    obtain ⟨original, stored, equal⟩ := reordered.components.exists_left member
    rw [← equal.hostedOn, ← same.targetIds.mem_iff]
    refine closed.hosted original stored ?_
    rw [equal.componentId]
    exact same.componentIds.mem_iff.mpr selected
  connected := by
    intro dependency member selected
    obtain ⟨original, stored, equal⟩ := reordered.dependencies.exists_left member
    rw [← equal.consumerComponentId, ← equal.providerComponentId, ← same.componentIds.mem_iff,
      ← same.componentIds.mem_iff]
    refine closed.connected original stored ?_
    rw [equal.dependencyId]
    exact same.dependencyIds.mem_iff.mpr selected
  observed := by
    intro obligation member selected
    obtain ⟨original, stored, equal⟩ := reordered.observationObligations.exists_left member
    rw [← equal.componentId, ← same.componentIds.mem_iff]
    refine closed.observed original stored ?_
    rw [equal.observationObligationId]
    exact same.observationObligationIds.mem_iff.mpr selected

private theorem Permuted.citedSources_subset {before after : SystemDefinitionV1} (same : before.Permuted after)
    {id : Identifier} (cited : id ∈ left.citedSources before) : id ∈ right.citedSources after := by
  rw [mem_citedSources] at cited ⊢
  rcases cited with direct | ⟨entry, stored, selected, source⟩ | ⟨entry, stored, selected, source⟩ |
    ⟨entry, stored, selected, source⟩ | ⟨entry, stored, selected, source⟩
  · exact .inl (same.sourceSnapshotIds.mem_iff.mp direct)
  · obtain ⟨image, member, equal⟩ := reordered.targets.exists_right stored
    exact .inr (.inl ⟨image, member, same.targetIds.mem_iff.mp (equal.targetId ▸ selected),
      equal.sourceSnapshotIds.mem_iff.mp source⟩)
  · obtain ⟨image, member, equal⟩ := reordered.components.exists_right stored
    exact .inr (.inr (.inl ⟨image, member, same.componentIds.mem_iff.mp (equal.componentId ▸ selected),
      equal.sourceSnapshotIds.mem_iff.mp source⟩))
  · obtain ⟨image, member, equal⟩ := reordered.dependencies.exists_right stored
    exact .inr (.inr (.inr (.inl ⟨image, member, same.dependencyIds.mem_iff.mp (equal.dependencyId ▸ selected),
      equal.sourceSnapshotIds.mem_iff.mp source⟩)))
  · obtain ⟨image, member, equal⟩ := reordered.observationObligations.exists_right stored
    exact .inr (.inr (.inr (.inr ⟨image, member,
      same.observationObligationIds.mem_iff.mp (equal.observationObligationId ▸ selected),
      equal.sourceSnapshotIds.mem_iff.mp source⟩)))

private theorem Permuted.used {uses : SystemDefinitionV1 → Prop} {usesAfter : SystemDefinitionV1 → Prop}
    (kept : ∀ before after, SystemDefinitionV1.Permuted before after → uses before → usesAfter after)
    (used : ∃ system ∈ left.systems, uses system) : ∃ system ∈ right.systems, usesAfter system := by
  obtain ⟨system, stored, use⟩ := used
  obtain ⟨image, member, same⟩ := reordered.systems.exists_right stored
  exact ⟨image, member, kept system image same use⟩

theorem Closed.permuted (closed : left.Closed codec) : right.Closed codec := by
  have distinct := closed.distinct
  have counted := closed.counted
  constructor
  case schema => exact reordered.schema ▸ closed.schema
  case revision => exact reordered.revision ▸ closed.revision
  case title => exact reordered.title ▸ closed.title
  case counted =>
    exact ⟨reordered.sourceSnapshots.length_eq ▸ counted.sources, reordered.targets.length_eq ▸ counted.targets,
      reordered.systems.length_eq ▸ counted.systems, reordered.components.length_eq ▸ counted.components,
      reordered.dependencies.length_eq ▸ counted.dependencies,
      reordered.observationObligations.length_eq ▸ counted.obligations⟩
  case distinct =>
    exact ⟨reordered.sourceIds.nodup_iff.mp distinct.sources, reordered.targetIds.nodup_iff.mp distinct.targets,
      reordered.componentIds.nodup_iff.mp distinct.components,
      reordered.dependencyIds.nodup_iff.mp distinct.dependencies,
      reordered.obligationIds.nodup_iff.mp distinct.obligations,
      (reordered.systems.map_perm fun _ _ same => same.systemId).nodup_iff.mp distinct.systems⟩
  case provenance =>
    exact fun source member => closed.provenance source (reordered.sourceSnapshots.mem_iff.mpr member)
  case target =>
    intro target member
    obtain ⟨original, stored, same⟩ := reordered.targets.exists_left member
    exact (closed.target original stored).perm same.sourceSnapshotIds reordered.sourceIds
  case component =>
    intro component member
    obtain ⟨original, stored, same⟩ := reordered.components.exists_left member
    obtain ⟨hosted, cites⟩ := closed.component original stored
    exact ⟨reordered.targetIds.mem_iff.mp (same.hostedOn ▸ hosted),
      cites.perm same.sourceSnapshotIds reordered.sourceIds⟩
  case dependency =>
    intro dependency member
    obtain ⟨original, stored, same⟩ := reordered.dependencies.exists_left member
    obtain ⟨consumer, provider, differ, cites⟩ := closed.dependency original stored
    rw [same.consumerComponentId] at consumer differ
    rw [same.providerComponentId] at provider differ
    exact ⟨reordered.componentIds.mem_iff.mp consumer, reordered.componentIds.mem_iff.mp provider, differ,
      cites.perm same.sourceSnapshotIds reordered.sourceIds⟩
  case endpointsDistinct =>
    refine (reordered.dependencies.map_perm fun before after same => ?_).nodup_iff.mp closed.endpointsDistinct
    exact Prod.ext same.consumerComponentId same.providerComponentId
  case obligation =>
    intro obligation member
    obtain ⟨original, stored, same⟩ := reordered.observationObligations.exists_left member
    obtain ⟨component, bounded, cites⟩ := closed.obligation original stored
    exact ⟨reordered.componentIds.mem_iff.mp (same.componentId ▸ component), bounded.permuted same,
      cites.perm same.sourceSnapshotIds reordered.sourceIds⟩
  case system =>
    intro system member
    obtain ⟨original, stored, same⟩ := reordered.systems.exists_left member
    exact SystemClosed.permuted reordered (closed.system original stored) same
  case used =>
    have used := closed.used
    constructor
    · intro id declared
      exact reordered.used (fun _ _ same => reordered.citedSources_subset same)
        (used.sources id (reordered.sourceIds.mem_iff.mpr declared))
    · intro id declared
      exact reordered.used (fun _ _ same => same.targetIds.mem_iff.mp)
        (used.targets id (reordered.targetIds.mem_iff.mpr declared))
    · intro id declared
      exact reordered.used (fun _ _ same => same.componentIds.mem_iff.mp)
        (used.components id (reordered.componentIds.mem_iff.mpr declared))
    · intro id declared
      exact reordered.used (fun _ _ same => same.dependencyIds.mem_iff.mp)
        (used.dependencies id (reordered.dependencyIds.mem_iff.mpr declared))
    · intro id declared
      exact reordered.used (fun _ _ same => same.observationObligationIds.mem_iff.mp)
        (used.obligations id (reordered.obligationIds.mem_iff.mpr declared))

end Permuted

end SystemSpecV1

end ConstellationNq.SystemContract
