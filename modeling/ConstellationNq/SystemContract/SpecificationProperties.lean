import ConstellationNq.SystemContract.Proposal

/-!
# What a valid specification is

The checks of a specification, apart from the bound on the document, accept exactly
the closed ones.
-/

set_option autoImplicit false

namespace ConstellationNq.SystemContract

open Library.Loop Library.Sorting

theorem Identifier.text_injective : Function.Injective Identifier.text := by
  rintro ⟨left, _⟩ ⟨right, _⟩ same
  cases same
  rfl

/-! ## Checks of single values -/

variable {kind : String}

theorem insertUnique_eq_ok {α : Type} [DecidableEq α] {text : α → String} {seen next : List α} {value : α} :
    insertUnique kind text seen value = .ok next ↔ value ∉ seen ∧ next = seen ++ [value] := by
  unfold insertUnique
  split
  · rename_i old
    simp [old]
  · rename_i fresh
    simp [fresh, eq_comm]

theorem uniqueIds_eq_ok {α : Type} [DecidableEq α] {text : α → String} {values seen : List α} :
    uniqueIds kind text values = .ok seen ↔ values.Nodup ∧ seen = values := by
  have turn : ∀ (before : List α) (value : α) next, insertUnique kind text before value = .ok next ↔
      True ∧ id value ∉ before ∧ next = before ++ [id value] := by
    intro before value next
    rw [insertUnique_eq_ok, id, true_and]
  have ran := @foldlM_insert_eq_ok ContractError α α (insertUnique kind text) id (fun _ => True) turn values
    [] seen List.nodup_nil
  simpa [uniqueIds] using ran

theorem uniqueIds_bind_eq_ok {α β : Type} [DecidableEq α] {text : α → String} {values : List α}
    {rest : Except ContractError β} {result : β} :
    (uniqueIds kind text values >>= fun _ => rest) = .ok result ↔ values.Nodup ∧ rest = .ok result := by
  rw [bind_eq_ok]
  simp only [uniqueIds_eq_ok]
  exact ⟨fun ⟨_, ⟨distinct, _⟩, rest⟩ => ⟨distinct, rest⟩, fun ⟨distinct, rest⟩ => ⟨_, ⟨distinct, rfl⟩, rest⟩⟩

/-- Distinct identifiers of declared entries. -/
structure Refers (values available : List Identifier) : Prop where
  distinct : values.Nodup
  known : values ⊆ available

/-- A nonempty list of references. -/
structure Cites (values available : List Identifier) : Prop extends Refers values available where
  nonempty : values ≠ []

theorem validateUniqueRefs_eq_ok {values available : List Identifier} :
    validateUniqueRefs kind values available = .ok () ↔ Refers values available := by
  have turn : ∀ (before : List Identifier) (value : Identifier) next,
      insertReference kind available before value = .ok next ↔
        value ∈ available ∧ id value ∉ before ∧ next = before ++ [id value] := by
    intro before value next
    unfold insertReference
    rw [check_bind_eq_ok, ensure_eq_ok, insertUnique_eq_ok, id]
  unfold validateUniqueRefs
  rw [bind_eq_ok]
  constructor
  · rintro ⟨seen, ran, _⟩
    obtain ⟨known, distinct, _⟩ := (foldlM_insert_eq_ok turn List.nodup_nil).mp ran
    exact ⟨by simpa using distinct, fun value member => known value member⟩
  · rintro ⟨distinct, known⟩
    refine ⟨values, (foldlM_insert_eq_ok turn List.nodup_nil).mpr ⟨fun value member => known member, ?_⟩, rfl⟩
    simpa using distinct

theorem validateNonemptyUniqueRefs_eq_ok {values available : List Identifier} :
    validateNonemptyUniqueRefs kind values available = .ok () ↔ Cites values available := by
  unfold validateNonemptyUniqueRefs
  rw [check_bind_eq_ok, ensure_eq_ok, validateUniqueRefs_eq_ok]
  exact ⟨fun ⟨nonempty, refers⟩ => ⟨refers, nonempty⟩, fun cites => ⟨cites.nonempty, cites.toRefers⟩⟩

theorem requireNoOrphans_eq_ok {available used : List Identifier} :
    requireNoOrphans kind available used = .ok () ↔ available ⊆ used := by
  unfold requireNoOrphans
  cases orphans : (sortBy Identifier.text (available.filter fun value => value ∉ used)).head? with
  | none =>
      have none_ : available.filter (fun value => value ∉ used) = [] :=
        ((sortBy_perm Identifier.text _).symm.trans (by rw [List.head?_eq_none_iff.mp orphans])).eq_nil
      refine ⟨fun _ value member => ?_, fun _ => rfl⟩
      simpa using List.filter_eq_nil_iff.mp none_ value member
  | some orphan =>
      have member := mem_sortBy.mp (List.mem_of_head? orphans)
      obtain ⟨declared, unused⟩ := List.mem_filter.mp member
      refine ⟨fun contradiction => (by cases contradiction), fun subset => ?_⟩
      exact absurd (subset declared) (by simpa using unused)

variable {id : Identifier}

section Lookup

variable {α : Type} {identity : α → Identifier} {entries : List α} {kind : String}

theorem lookupId_eq_ok (distinct : (entries.map identity).Nodup) {entry : α} :
    lookupId identity entries kind id = .ok entry ↔ entry ∈ entries ∧ identity entry = id := by
  unfold lookupId
  cases found : entries.find? fun entry => identity entry = id with
  | none =>
      refine ⟨fun contradiction => (by cases contradiction), fun ⟨member, same⟩ => ?_⟩
      exact absurd (decide_eq_true same) (List.find?_eq_none.mp found entry member)
  | some first =>
      have chosen := List.find?_some found
      rw [decide_eq_true_eq] at chosen
      have stored := List.mem_of_find?_eq_some found
      rw [Except.ok.injEq]
      constructor
      · rintro rfl
        exact ⟨stored, chosen⟩
      · rintro ⟨member, same⟩
        exact List.inj_on_of_nodup_map distinct stored member (chosen.trans same.symm)

theorem exists_lookupId (distinct : (entries.map identity).Nodup) (known : id ∈ entries.map identity) :
    ∃ entry, lookupId identity entries kind id = .ok entry := by
  obtain ⟨entry, member, same⟩ := List.mem_map.mp known
  exact ⟨entry, (lookupId_eq_ok distinct).mpr ⟨member, same⟩⟩

theorem forM_lookupId_eq_ok (distinct : (entries.map identity).Nodup) {ids : List Identifier}
    (known : ids ⊆ entries.map identity) {check : α → Except ContractError Unit} :
    (ids.forM fun id => do
        let entry ← lookupId identity entries kind id
        check entry) = .ok () ↔
      ∀ entry ∈ entries, identity entry ∈ ids → check entry = .ok () := by
  have checked := @forM_eq_ok_iff ContractError Identifier (fun id => do
    let entry ← lookupId identity entries kind id
    check entry) ids
  rw [checked]
  constructor
  · intro passed entry member selected
    obtain ⟨found, looked, ran⟩ := bind_eq_ok.mp (passed (identity entry) selected)
    obtain rfl := Except.ok.inj (looked.symm.trans ((lookupId_eq_ok distinct).mpr ⟨member, rfl⟩))
    exact ran
  · intro passed id selected
    obtain ⟨entry, looked⟩ := @exists_lookupId _ _ _ _ kind distinct (known selected)
    obtain ⟨member, same⟩ := (lookupId_eq_ok distinct).mp looked
    exact bind_eq_ok.mpr ⟨entry, looked, passed entry member (same ▸ selected)⟩

theorem mem_mapM_lookupId (distinct : (entries.map identity).Nodup) {ids : List Identifier} {selected : List α}
    (ran : ids.mapM (lookupId identity entries kind) = .ok selected) {entry : α} :
    entry ∈ selected ↔ entry ∈ entries ∧ identity entry ∈ ids := by
  rw [mem_of_mapM_eq_ok ran]
  constructor
  · rintro ⟨id, member, looked⟩
    obtain ⟨stored, same⟩ := (lookupId_eq_ok distinct).mp looked
    exact ⟨stored, same ▸ member⟩
  · rintro ⟨stored, member⟩
    exact ⟨identity entry, member, (lookupId_eq_ok distinct).mpr ⟨stored, rfl⟩⟩

end Lookup

/-! ## Closed specifications -/

/-- The rules of an obligation that concern no other entry. -/
structure ObservationObligationV1.Bounded (codec : ContractCodec) (obligation : ObservationObligationV1) :
    Prop where
  freshness : 0 < obligation.freshnessSeconds.toNat ∧ obligation.freshnessSeconds.toNat ≤ maxFreshnessSeconds
  version : canonicalVersion obligation.profile.version = true
  coverageCount : 1 ≤ obligation.requiredCoverage.length ∧
    obligation.requiredCoverage.length ≤ maxRequiredCoverage
  coverageDistinct : obligation.requiredCoverage.Nodup
  capabilityCount : obligation.grantedCapabilities.length ≤ maxRequiredCoverage
  capabilityDistinct : obligation.grantedCapabilities.Nodup
  scope : validateBindingValue codec.toCodec "scope value" obligation.subjectBinding.scope.value = .ok ()
  vantage : validateBindingValue codec.toCodec "vantage value" obligation.subjectBinding.vantage.value = .ok ()

namespace SystemSpecV1

/-- A system selects declared entries, and they stay inside it. -/
structure SystemClosed (spec : SystemSpecV1) (system : SystemDefinitionV1) : Prop where
  title : validText system.title = true
  targets : Cites system.targetIds spec.targetIds
  components : Cites system.componentIds spec.componentIds
  dependencies : Refers system.dependencyIds spec.dependencyIds
  obligations : Cites system.observationObligationIds spec.obligationIds
  sources : Cites system.sourceSnapshotIds spec.sourceIds
  hosted : ∀ component ∈ spec.components, component.componentId ∈ system.componentIds →
    component.hostedOn ∈ system.targetIds
  connected : ∀ dependency ∈ spec.dependencies, dependency.dependencyId ∈ system.dependencyIds →
    dependency.consumerComponentId ∈ system.componentIds ∧ dependency.providerComponentId ∈ system.componentIds
  observed : ∀ obligation ∈ spec.observationObligations,
    obligation.observationObligationId ∈ system.observationObligationIds →
    obligation.componentId ∈ system.componentIds

structure Distinct (spec : SystemSpecV1) : Prop where
  sources : spec.sourceIds.Nodup
  targets : spec.targetIds.Nodup
  components : spec.componentIds.Nodup
  dependencies : spec.dependencyIds.Nodup
  obligations : spec.obligationIds.Nodup
  systems : (spec.systems.map SystemDefinitionV1.systemId).Nodup

structure Counted (spec : SystemSpecV1) : Prop where
  sources : 1 ≤ spec.sourceSnapshots.length ∧ spec.sourceSnapshots.length ≤ maxSources
  targets : 1 ≤ spec.targets.length ∧ spec.targets.length ≤ maxTargets
  systems : 1 ≤ spec.systems.length ∧ spec.systems.length ≤ maxSystems
  components : 1 ≤ spec.components.length ∧ spec.components.length ≤ maxComponents
  dependencies : spec.dependencies.length ≤ maxDependencies
  obligations : 1 ≤ spec.observationObligations.length ∧
    spec.observationObligations.length ≤ maxObservationObligations

structure Used (spec : SystemSpecV1) : Prop where
  sources : ∀ id ∈ spec.sourceIds, ∃ system ∈ spec.systems, id ∈ spec.citedSources system
  targets : ∀ id ∈ spec.targetIds, ∃ system ∈ spec.systems, id ∈ system.targetIds
  components : ∀ id ∈ spec.componentIds, ∃ system ∈ spec.systems, id ∈ system.componentIds
  dependencies : ∀ id ∈ spec.dependencyIds, ∃ system ∈ spec.systems, id ∈ system.dependencyIds
  obligations : ∀ id ∈ spec.obligationIds, ∃ system ∈ spec.systems, id ∈ system.observationObligationIds

structure Closed (codec : ContractCodec) (spec : SystemSpecV1) : Prop where
  schema : spec.schema = systemSpecSchema
  revision : spec.revision ≠ 0
  title : validText spec.title = true
  counted : spec.Counted
  distinct : spec.Distinct
  provenance : ∀ source ∈ spec.sourceSnapshots, validText source.provenance = true
  target : ∀ target ∈ spec.targets, Cites target.sourceSnapshotIds spec.sourceIds
  component : ∀ component ∈ spec.components,
    component.hostedOn ∈ spec.targetIds ∧ Cites component.sourceSnapshotIds spec.sourceIds
  dependency : ∀ dependency ∈ spec.dependencies,
    dependency.consumerComponentId ∈ spec.componentIds ∧ dependency.providerComponentId ∈ spec.componentIds ∧
    dependency.consumerComponentId ≠ dependency.providerComponentId ∧
    Cites dependency.sourceSnapshotIds spec.sourceIds
  endpointsDistinct : (spec.dependencies.map endpoints).Nodup
  obligation : ∀ obligation ∈ spec.observationObligations,
    obligation.componentId ∈ spec.componentIds ∧ obligation.Bounded codec ∧
    Cites obligation.sourceSnapshotIds spec.sourceIds
  system : ∀ system ∈ spec.systems, spec.SystemClosed system
  used : spec.Used

variable {codec : ContractCodec} {spec : SystemSpecV1}

private theorem validateCounts_eq_ok : spec.validateCounts = .ok () ↔ spec.Counted := by
  simp only [validateCounts, validateCount, check_bind_eq_ok, ensure_eq_ok]
  constructor
  · rintro ⟨sources, targets, systems, components, ⟨_, dependencies⟩, obligations⟩
    exact ⟨sources, targets, systems, components, dependencies, obligations⟩
  · rintro ⟨sources, targets, systems, components, dependencies, obligations⟩
    exact ⟨sources, targets, systems, components, ⟨Nat.zero_le _, dependencies⟩, obligations⟩

private theorem validateIdentities_eq_ok : spec.validateIdentities = .ok () ↔ spec.Distinct := by
  simp only [validateIdentities, uniqueIds_bind_eq_ok]
  constructor
  · rintro ⟨sources, targets, components, dependencies, obligations, systems, _⟩
    exact ⟨sources, targets, components, dependencies, obligations, systems⟩
  · rintro ⟨sources, targets, components, dependencies, obligations, systems⟩
    exact ⟨sources, targets, components, dependencies, obligations, systems, rfl⟩

private theorem foldlM_validateDependency_eq_ok :
    (∃ pairs, spec.dependencies.foldlM spec.validateDependency [] = .ok pairs) ↔
      (∀ dependency ∈ spec.dependencies,
        dependency.consumerComponentId ∈ spec.componentIds ∧ dependency.providerComponentId ∈ spec.componentIds ∧
        dependency.consumerComponentId ≠ dependency.providerComponentId ∧
        Cites dependency.sourceSnapshotIds spec.sourceIds) ∧
      (spec.dependencies.map endpoints).Nodup := by
  have turn : ∀ pairs (dependency : DependencyV1) next, spec.validateDependency pairs dependency = .ok next ↔
      (dependency.consumerComponentId ∈ spec.componentIds ∧ dependency.providerComponentId ∈ spec.componentIds ∧
        dependency.consumerComponentId ≠ dependency.providerComponentId ∧
        Cites dependency.sourceSnapshotIds spec.sourceIds) ∧
      endpoints dependency ∉ pairs ∧ next = pairs ++ [endpoints dependency] := by
    intro pairs dependency next
    simp only [validateDependency, requireReference, check_bind_eq_ok, ensure_eq_ok]
    rw [bind_eq_ok]
    simp only [insertUnique_eq_ok, check_bind_eq_ok, validateNonemptyUniqueRefs_eq_ok]
    constructor
    · rintro ⟨consumer, provider, differ, _, ⟨fresh, rfl⟩, cites, done⟩
      exact ⟨⟨consumer, provider, differ, cites⟩, fresh, (Except.ok.inj done).symm⟩
    · rintro ⟨⟨consumer, provider, differ, cites⟩, fresh, rfl⟩
      exact ⟨consumer, provider, differ, _, ⟨fresh, rfl⟩, cites, rfl⟩
  constructor
  · rintro ⟨pairs, ran⟩
    obtain ⟨passed, distinct, _⟩ := (foldlM_insert_eq_ok turn List.nodup_nil).mp ran
    exact ⟨passed, by simpa using distinct⟩
  · rintro ⟨passed, distinct⟩
    exact ⟨_, (foldlM_insert_eq_ok turn List.nodup_nil).mpr ⟨passed, by simpa using distinct, rfl⟩⟩

private theorem validateObligation_eq_ok {obligation : ObservationObligationV1} :
    spec.validateObligation codec obligation = .ok () ↔
      obligation.componentId ∈ spec.componentIds ∧ obligation.Bounded codec ∧
      Cites obligation.sourceSnapshotIds spec.sourceIds := by
  simp only [validateObligation, requireReference, validateCount, check_bind_eq_ok, ensure_eq_ok,
    uniqueIds_bind_eq_ok, validateNonemptyUniqueRefs_eq_ok]
  constructor
  · rintro ⟨component, freshness, version, coverageCount, coverageDistinct, ⟨_, capabilityCount⟩,
      capabilityDistinct, cites, scope, vantage⟩
    exact ⟨component, ⟨freshness, version, coverageCount, coverageDistinct, capabilityCount, capabilityDistinct,
      scope, vantage⟩, cites⟩
  · rintro ⟨component, bounded, cites⟩
    exact ⟨component, bounded.freshness, bounded.version, bounded.coverageCount, bounded.coverageDistinct,
      ⟨Nat.zero_le _, bounded.capabilityCount⟩, bounded.capabilityDistinct, cites, bounded.scope,
      bounded.vantage⟩

variable {system : SystemDefinitionV1}

private theorem validateSystem_checks (distinct : spec.Distinct) :
    (spec.validateSystemReferences system = .ok () ∧ spec.validateSystemScope system = .ok ()) ↔
      spec.SystemClosed system := by
  simp only [validateSystemReferences, validateText, check_bind_eq_ok, ensure_eq_ok,
    validateNonemptyUniqueRefs_eq_ok, validateUniqueRefs_eq_ok]
  constructor
  · rintro ⟨⟨title, targets, components, dependencies, obligations, sources⟩, inside⟩
    simp only [validateSystemScope, componentById, dependencyById, obligationById, check_bind_eq_ok,
      forM_lookupId_eq_ok distinct.components components.known,
      forM_lookupId_eq_ok distinct.dependencies dependencies.known,
      forM_lookupId_eq_ok distinct.obligations obligations.known, ensure_eq_ok] at inside
    exact ⟨title, targets, components, dependencies, obligations, sources, inside.1, inside.2.1, inside.2.2⟩
  · intro closed
    refine ⟨⟨closed.title, closed.targets, closed.components, closed.dependencies, closed.obligations,
      closed.sources⟩, ?_⟩
    simp only [validateSystemScope, componentById, dependencyById, obligationById, check_bind_eq_ok,
      forM_lookupId_eq_ok distinct.components closed.components.known,
      forM_lookupId_eq_ok distinct.dependencies closed.dependencies.known,
      forM_lookupId_eq_ok distinct.obligations closed.obligations.known, ensure_eq_ok]
    exact ⟨closed.hosted, closed.connected, closed.observed⟩

/-- A source that a system cites, itself or by an entry that it selects. -/
def CitesSource (spec : SystemSpecV1) (system : SystemDefinitionV1) (id : Identifier) : Prop :=
  id ∈ system.sourceSnapshotIds ∨
  (∃ target ∈ spec.targets, target.targetId ∈ system.targetIds ∧ id ∈ target.sourceSnapshotIds) ∨
  (∃ component ∈ spec.components, component.componentId ∈ system.componentIds ∧
    id ∈ component.sourceSnapshotIds) ∨
  (∃ dependency ∈ spec.dependencies, dependency.dependencyId ∈ system.dependencyIds ∧
    id ∈ dependency.sourceSnapshotIds) ∨
  ∃ obligation ∈ spec.observationObligations,
    obligation.observationObligationId ∈ system.observationObligationIds ∧ id ∈ obligation.sourceSnapshotIds

theorem mem_citedSources : id ∈ spec.citedSources system ↔ spec.CitesSource system id := by
  simp only [CitesSource, citedSources, List.mem_append, List.mem_flatMap, List.mem_filter, decide_eq_true_eq,
    and_assoc, or_assoc]

/-- The identifiers that systems have used so far. -/
private structure Uses (spec : SystemSpecV1) (before : UsedIds) (systems : List SystemDefinitionV1)
    (used : UsedIds) : Prop where
  sources : ∀ id, id ∈ used.sources ↔ id ∈ before.sources ∨ ∃ system ∈ systems, id ∈ spec.citedSources system
  targets : ∀ id, id ∈ used.targets ↔ id ∈ before.targets ∨ ∃ system ∈ systems, id ∈ system.targetIds
  components : ∀ id, id ∈ used.components ↔
    id ∈ before.components ∨ ∃ system ∈ systems, id ∈ system.componentIds
  dependencies : ∀ id, id ∈ used.dependencies ↔
    id ∈ before.dependencies ∨ ∃ system ∈ systems, id ∈ system.dependencyIds
  obligations : ∀ id, id ∈ used.obligations ↔
    id ∈ before.obligations ∨ ∃ system ∈ systems, id ∈ system.observationObligationIds

private theorem Uses.cons {before middle used : UsedIds} {systems : List SystemDefinitionV1}
    (first : Uses spec before [system] middle) (rest : Uses spec middle systems used) :
    Uses spec before (system :: systems) used := by
  constructor
  case sources => intro id; rw [rest.sources, first.sources]; simp [or_assoc]
  case targets => intro id; rw [rest.targets, first.targets]; simp [or_assoc]
  case components => intro id; rw [rest.components, first.components]; simp [or_assoc]
  case dependencies => intro id; rw [rest.dependencies, first.dependencies]; simp [or_assoc]
  case obligations => intro id; rw [rest.obligations, first.obligations]; simp [or_assoc]

private theorem uses_validateSystem (distinct : spec.Distinct) {before used : UsedIds}
    (validated : spec.validateSystem before system = .ok used) :
    spec.SystemClosed system ∧ Uses spec before [system] used := by
  unfold validateSystem at validated
  obtain ⟨references, validated⟩ := check_bind_eq_ok.mp validated
  obtain ⟨inside, validated⟩ := check_bind_eq_ok.mp validated
  obtain ⟨targets, targetsRan, validated⟩ := bind_eq_ok.mp validated
  obtain ⟨components, componentsRan, validated⟩ := bind_eq_ok.mp validated
  obtain ⟨dependencies, dependenciesRan, validated⟩ := bind_eq_ok.mp validated
  obtain ⟨obligations, obligationsRan, validated⟩ := bind_eq_ok.mp validated
  obtain rfl := Except.ok.inj validated
  refine ⟨(validateSystem_checks distinct).mp ⟨references, inside⟩, ?_, ?_, ?_, ?_, ?_⟩
  · intro id
    simp only [List.mem_append, List.mem_flatMap, List.mem_singleton, exists_eq_left, mem_citedSources, CitesSource,
      mem_mapM_lookupId distinct.targets targetsRan, mem_mapM_lookupId distinct.components componentsRan,
      mem_mapM_lookupId distinct.dependencies dependenciesRan,
      mem_mapM_lookupId distinct.obligations obligationsRan, and_assoc, or_assoc]
  all_goals simp

private theorem exists_validateSystem (distinct : spec.Distinct) (closed : spec.SystemClosed system)
    (before : UsedIds) :
    ∃ used, spec.validateSystem before system = .ok used := by
  obtain ⟨references, inside⟩ := (validateSystem_checks distinct).mpr closed
  obtain ⟨targets, targetsRan⟩ := @mapM_total ContractError _ _ spec.targetById _
    fun id selected => exists_lookupId distinct.targets (closed.targets.known selected)
  obtain ⟨components, componentsRan⟩ := @mapM_total ContractError _ _ spec.componentById _
    fun id selected => exists_lookupId distinct.components (closed.components.known selected)
  obtain ⟨dependencies, dependenciesRan⟩ := @mapM_total ContractError _ _ spec.dependencyById _
    fun id selected => exists_lookupId distinct.dependencies (closed.dependencies.known selected)
  obtain ⟨obligations, obligationsRan⟩ := @mapM_total ContractError _ _ spec.obligationById _
    fun id selected => exists_lookupId distinct.obligations (closed.obligations.known selected)
  unfold validateSystem
  exact ⟨_, check_bind_eq_ok.mpr ⟨references, check_bind_eq_ok.mpr ⟨inside, bind_eq_ok.mpr ⟨_, targetsRan,
    bind_eq_ok.mpr ⟨_, componentsRan, bind_eq_ok.mpr ⟨_, dependenciesRan, bind_eq_ok.mpr ⟨_, obligationsRan,
      rfl⟩⟩⟩⟩⟩⟩⟩

private theorem uses_foldlM (distinct : spec.Distinct) {systems : List SystemDefinitionV1} {before used : UsedIds}
    (ran : systems.foldlM spec.validateSystem before = .ok used) :
    (∀ system ∈ systems, spec.SystemClosed system) ∧ Uses spec before systems used := by
  induction systems generalizing before with
  | nil =>
      obtain rfl := Except.ok.inj ran
      exact ⟨by simp, by constructor <;> simp⟩
  | cons system systems ih =>
      rw [List.foldlM_cons] at ran
      obtain ⟨middle, validated, rest⟩ := bind_eq_ok.mp ran
      obtain ⟨closed, first⟩ := uses_validateSystem distinct validated
      obtain ⟨others, later⟩ := ih rest
      exact ⟨List.forall_mem_cons.mpr ⟨closed, others⟩, first.cons later⟩

private theorem validateOrphans_eq_ok {used : UsedIds} (uses : Uses spec {} spec.systems used) :
    spec.validateOrphans used = .ok () ↔ spec.Used := by
  simp only [validateOrphans, check_bind_eq_ok, requireNoOrphans_eq_ok, List.subset_def, uses.sources,
    uses.targets, uses.components, uses.dependencies, uses.obligations, List.not_mem_nil, false_or]
  constructor
  · rintro ⟨sources, targets, components, dependencies, obligations⟩
    exact ⟨fun _ id => sources id, fun _ id => targets id, fun _ id => components id,
      fun _ id => dependencies id, fun _ id => obligations id⟩
  · intro used
    exact ⟨used.sources _, used.targets _, used.components _, used.dependencies _, used.obligations _⟩

theorem validateStructure_eq_ok : spec.validateStructure codec = .ok () ↔ spec.Closed codec := by
  unfold validateStructure
  simp only [check_bind_eq_ok, requireSchema, validateText, ensure_eq_ok, validateCounts_eq_ok,
    validateIdentities_eq_ok, forM_eq_ok_iff, validateTarget, validateComponent, requireReference,
    validateNonemptyUniqueRefs_eq_ok]
  constructor
  · rintro ⟨schema, revision, title, counted, distinct, provenance, target, component, rest⟩
    obtain ⟨pairs, paired, rest⟩ := bind_eq_ok.mp rest
    obtain ⟨dependency, endpointsDistinct⟩ := foldlM_validateDependency_eq_ok.mp ⟨pairs, paired⟩
    obtain ⟨obligations, rest⟩ := check_bind_eq_ok.mp rest
    obtain ⟨used, ran, orphans⟩ := bind_eq_ok.mp rest
    obtain ⟨closed, uses⟩ := uses_foldlM distinct ran
    exact ⟨schema, revision, title, counted, distinct, provenance, target, component, dependency,
      endpointsDistinct, fun obligation member => validateObligation_eq_ok.mp
        (forM_eq_ok_iff.mp obligations obligation member), closed, (validateOrphans_eq_ok uses).mp orphans⟩
  · intro closed
    obtain ⟨pairs, paired⟩ := foldlM_validateDependency_eq_ok.mpr ⟨closed.dependency, closed.endpointsDistinct⟩
    obtain ⟨used, ran, _⟩ := @foldlM_total UsedIds ContractError _ spec.validateSystem (fun _ => True) spec.systems
      (fun system member before _ => by
        obtain ⟨next, validated⟩ := exists_validateSystem closed.distinct (closed.system system member) before
        exact ⟨next, validated, trivial⟩) {} trivial
    have uses := (uses_foldlM closed.distinct ran).2
    refine ⟨closed.schema, closed.revision, closed.title, closed.counted, closed.distinct, closed.provenance,
      closed.target, closed.component, bind_eq_ok.mpr ⟨pairs, paired, check_bind_eq_ok.mpr ⟨?_, bind_eq_ok.mpr
        ⟨used, ran, (validateOrphans_eq_ok uses).mpr closed.used⟩⟩⟩⟩
    exact forM_eq_ok_iff.mpr fun obligation member => validateObligation_eq_ok.mpr
      (closed.obligation obligation member)

end SystemSpecV1

end ConstellationNq.SystemContract
