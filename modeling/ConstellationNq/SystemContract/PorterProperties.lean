import ConstellationNq.SystemContract.CompilationProperties
import ConstellationNq.SystemContract.Porter

/-!
# Projections are impact closures

The affected components are those from which a chain of dependencies leads to a
selected one. Everything else in a projection follows from the set of selected
components, so a projection verifies against a cut exactly when it is the one derived
from that cut for the components it names.
-/

set_option autoImplicit false

namespace ConstellationNq.SystemContract

open Library.Loop Library.Spreading Protocol

/-! ## The impact closure -/

variable {ids : List Identifier}

namespace ScopeCutBodyV1

variable {cut : ScopeCutBodyV1} {selected : Finset Identifier}

def Consumes (cut : ScopeCutBodyV1) (consumer provider : Identifier) : Prop :=
  ∃ dependency ∈ cut.dependencies,
    dependency.consumerComponentId = consumer ∧ dependency.providerComponentId = provider

/-- A chain of dependencies of any length leads to a selected component. -/
def Affected (cut : ScopeCutBodyV1) (selected : List Identifier) (id : Identifier) : Prop :=
  ∃ goal ∈ selected, Relation.ReflTransGen cut.Consumes id goal

theorem mem_affectedComponentIds {id : Identifier} :
    id ∈ cut.affectedComponentIds ids.toFinset ↔ cut.Affected ids id := by
  unfold affectedComponentIds Affected
  rw [mem_spreadFrom]
  simp only [List.mem_toFinset]
  rfl

theorem mem_hostIds {ids : Finset Identifier} {id : Identifier} :
    id ∈ cut.hostIds ids ↔ ∃ component ∈ cut.components, component.componentId ∈ ids ∧ component.hostedOn = id := by
  simp [hostIds, and_assoc]

def hostSelection (cut : ScopeCutBodyV1) (componentIds : List Identifier) : PorterProjectionSelectionV1 where
  targetIds := (cut.targets.filter fun target => target.targetId ∈ cut.hostIds componentIds.toFinset).map
    TargetV1.targetId
  componentIds := componentIds

end ScopeCutBodyV1

/-! ## Derivation -/

variable {selection : PorterProjectionSelectionV1} {projectionId : Identifier}

namespace PublishedScopeCutV1

variable {codec : ContractCodec} {cut : PublishedScopeCutV1}

/-- The projection of a set of components, whatever order they are named in. -/
def projectionOf (cut : PublishedScopeCutV1) (projectionId : Identifier) (selected : Finset Identifier) :
    PorterActuationProjectionBodyV1 :=
  let affected := cut.cut.affectedComponentIds selected
  let affectedComponents := cut.cut.components.filter fun component => component.componentId ∈ affected
  { projectionId := projectionId
    scopeCut := cut.reference
    systemId := cut.cut.system.systemId
    actuationTargets := cut.cut.targets.filter fun target => target.targetId ∈ cut.cut.hostIds selected
    actuationComponents := cut.cut.components.filter fun component => component.componentId ∈ selected
    affectedTargets := cut.cut.targets.filter fun target =>
      target.targetId ∈ affectedComponents.map ComponentV1.hostedOn
    affectedComponents := affectedComponents
    boundaryDependencies := cut.cut.dependencies.filter fun dependency =>
      dependency.consumerComponentId ∈ affected ∨ dependency.providerComponentId ∈ affected
    verificationObligations := cut.cut.observationObligations.filter fun obligation =>
      obligation.componentId ∈ affected
    authority := .none }

def Witnessed (cut : PublishedScopeCutV1) (selected : Finset Identifier) : Prop :=
  ∀ componentId ∈ cut.cut.affectedComponentIds selected, ∃ obligation ∈ cut.cut.observationObligations,
    obligation.componentId = componentId

/-- The selection names entries of the cut, each once, and the hosts of its components. -/
structure Selected (cut : PublishedScopeCutV1) (selection : PorterProjectionSelectionV1) : Prop where
  targets : Cites selection.targetIds cut.cut.targetIds
  components : Cites selection.componentIds cut.cut.componentIds
  hosts : selection.targetIds.toFinset = cut.cut.hostIds selection.componentIds.toFinset

theorem porterProjectionBody_eq_ok {body : PorterActuationProjectionBodyV1} :
    cut.porterProjectionBody projectionId selection = .ok body ↔
      cut.Selected selection ∧ cut.Witnessed selection.componentIds.toFinset ∧
        cut.projectionOf projectionId selection.componentIds.toFinset = body := by
  unfold porterProjectionBody
  rw [check_bind_eq_ok, check_bind_eq_ok, check_bind_eq_ok, check_bind_eq_ok, validateNonemptyUniqueRefs_eq_ok,
    validateNonemptyUniqueRefs_eq_ok, ensure_eq_ok, ensure_eq_ok]
  constructor
  · rintro ⟨targets, components, hosts, witnessed, derived⟩
    rw [hosts] at derived
    exact ⟨⟨targets, components, hosts⟩, witnessed, Except.ok.inj derived⟩
  · rintro ⟨⟨targets, components, hosts⟩, witnessed, rfl⟩
    refine ⟨targets, components, hosts, witnessed, ?_⟩
    rw [hosts]
    rfl

theorem derivePorterProjection_eq_ok {projection : PorterActuationProjectionV1} :
    cut.derivePorterProjection codec projectionId selection = .ok projection ↔
      cut.Selected selection ∧ cut.Witnessed selection.componentIds.toFinset ∧
        projection.schema = porterActuationProjectionSchema ∧
        projection.projection = cut.projectionOf projectionId selection.componentIds.toFinset ∧
        projection.projection.digest codec.toCodec = .ok projection.projectionDigest := by
  unfold derivePorterProjection
  rw [bind_eq_ok]
  constructor
  · rintro ⟨body, derived, hashed⟩
    obtain ⟨selected, witnessed, rfl⟩ := porterProjectionBody_eq_ok.mp derived
    obtain ⟨digest, computed, result⟩ := bind_eq_ok.mp hashed
    cases result
    exact ⟨selected, witnessed, rfl, rfl, computed⟩
  · rintro ⟨selected, witnessed, schema, body, hashed⟩
    refine ⟨_, porterProjectionBody_eq_ok.mpr ⟨selected, witnessed, rfl⟩, ?_⟩
    rw [← body]
    refine bind_eq_ok.mpr ⟨_, hashed, ?_⟩
    rw [← schema]
    rfl

theorem derivePorterProjection_unwitnessed (selected : cut.Selected selection)
    (unwitnessed : ¬ cut.Witnessed selection.componentIds.toFinset) (projectionId : Identifier) :
    cut.derivePorterProjection codec projectionId selection = .error (.invalidValue
      "every affected component requires at least one cut witness obligation") := by
  have refused : cut.porterProjectionBody projectionId selection = .error (.invalidValue
      "every affected component requires at least one cut witness obligation") := by
    unfold Witnessed at unwitnessed
    unfold porterProjectionBody
    dsimp only
    rw [validateNonemptyUniqueRefs_eq_ok.mpr selected.targets,
      validateNonemptyUniqueRefs_eq_ok.mpr selected.components,
      (ensure_eq_ok.mpr selected.hosts : _ = Except.ok ⟨⟩)]
    unfold ensure
    rw [if_neg unwitnessed]
    rfl
  unfold derivePorterProjection
  rw [refused]
  rfl

/-! ## Selections of a verified cut -/

section Verified

variable (verified : cut.verify codec = .ok ())
include verified

theorem selected_of_hosts (distinct : selection.targetIds.Nodup)
    (components : Cites selection.componentIds cut.cut.componentIds)
    (hosts : ∀ id, id ∈ selection.targetIds ↔ id ∈ cut.cut.hostIds selection.componentIds.toFinset) :
    cut.Selected selection := by
  have closed := (parts_of_verify verified).2
  have known : selection.targetIds ⊆ cut.cut.targetIds := by
    intro id member
    obtain ⟨component, stored, _, rfl⟩ := ScopeCutBodyV1.mem_hostIds.mp ((hosts id).mp member)
    exact (closed.component component stored).1
  refine ⟨⟨⟨distinct, known⟩, ?_⟩, components, ?_⟩
  · -- A selected component has a host.
    obtain ⟨id, named⟩ := List.exists_mem_of_ne_nil _ components.nonempty
    obtain ⟨component, stored, rfl⟩ := List.mem_map.mp (components.known named)
    have hosted : component.hostedOn ∈ cut.cut.hostIds selection.componentIds.toFinset :=
      ScopeCutBodyV1.mem_hostIds.mpr ⟨component, stored, List.mem_toFinset.mpr named, rfl⟩
    exact List.ne_nil_of_mem ((hosts _).mpr hosted)
  · ext id
    rw [List.mem_toFinset, hosts]

theorem selected_hostSelection (components : Cites ids cut.cut.componentIds) :
    cut.Selected (cut.cut.hostSelection ids) := by
  have closed := (parts_of_verify verified).2
  refine selected_of_hosts verified ?_ components ?_
  · exact closed.distinct.targets.sublist (List.filter_sublist.map _)
  · intro id
    simp only [ScopeCutBodyV1.hostSelection, List.mem_map, List.mem_filter, decide_eq_true_eq]
    constructor
    · rintro ⟨target, ⟨_, hosting⟩, rfl⟩
      exact hosting
    · intro hosting
      obtain ⟨component, stored, _, rfl⟩ := ScopeCutBodyV1.mem_hostIds.mp hosting
      obtain ⟨target, declared, same⟩ := List.mem_map.mp (closed.component component stored).1
      exact ⟨target, ⟨declared, same ▸ hosting⟩, same⟩

theorem actuation_ids (components : Cites ids cut.cut.componentIds) (projectionId : Identifier) :
    let own := (cut.projectionOf projectionId ids.toFinset).actuationComponents.map ComponentV1.componentId
    own.toFinset = ids.toFinset ∧ Cites own cut.cut.componentIds := by
  intro own
  have closed := (parts_of_verify verified).2
  have equal : own.toFinset = ids.toFinset := by
    ext id
    simp only [own, projectionOf, List.mem_toFinset, List.mem_map, List.mem_filter, decide_eq_true_eq]
    constructor
    · rintro ⟨component, ⟨_, named⟩, rfl⟩
      exact named
    · intro named
      obtain ⟨component, stored, same⟩ := List.mem_map.mp (components.known named)
      exact ⟨component, ⟨stored, same ▸ named⟩, same⟩
  refine ⟨equal, ⟨closed.distinct.components.sublist (List.filter_sublist.map _), ?_⟩, ?_⟩
  · exact (List.filter_sublist.map _).subset
  · obtain ⟨id, named⟩ := List.exists_mem_of_ne_nil _ components.nonempty
    have kept : id ∈ own := List.mem_toFinset.mp (equal ▸ List.mem_toFinset.mpr named)
    exact List.ne_nil_of_mem kept

theorem safe_projectionOf (projectionId : Identifier) (selected : Finset Identifier) :
    Safe (cut.projectionOf projectionId selected).toJson := by
  have closed := (parts_of_verify verified).2
  simp only [PorterActuationProjectionBodyV1.toJson, ScopeCutReferenceV1.toJson, safe_object,
    List.forall_mem_cons, List.not_mem_nil, false_implies, implies_true, and_true]
  refine ⟨safe_string _, ⟨safe_string _, safe_string _⟩, safe_string _, safe_map fun target _ => target.safe_toJson,
    safe_map fun component _ => component.safe_toJson, safe_map fun target _ => target.safe_toJson,
    safe_map fun component _ => component.safe_toJson, safe_map fun dependency _ => dependency.safe_toJson,
    safe_map fun obligation member => ?_, safe_string _⟩
  exact ObservationObligationV1.safe_toJson (closed.obligation obligation (List.mem_filter.mp member).1).2.1

end Verified

end PublishedScopeCutV1

/-! ## Verification derives again -/

theorem ObservationObligationV1.toJson_same {left right : ObservationObligationV1} (same : left.same right = true) :
    left.toJson.same right.toJson = true := by
  obtain ⟨fields, binding⟩ := Bool.and_eq_true_iff.mp same
  obtain ⟨id, component, watcher, profile, coverage, capabilities, freshness, sources⟩ := of_decide_eq_true fields
  simp only [SubjectBinding.same, Bool.and_eq_true, beq_iff_eq] at binding
  obtain ⟨subject, ⟨scopeKind, scope⟩, vantageKind, vantage⟩ := binding
  simp only [ObservationObligationV1.toJson, SubjectBinding.toJson, id, component, watcher, profile, coverage,
    capabilities, freshness, sources, subject, scopeKind, vantageKind, Json.same, Json.sameMembers, Json.same_refl,
    Json.sameItems_refl, scope, vantage, beq_self_eq_true, Bool.and_self]

theorem sameItems_of_sameObligations {left right : List ObservationObligationV1}
    (same : sameObligations left right = true) :
    Json.sameItems (left.map ObservationObligationV1.toJson) (right.map ObservationObligationV1.toJson) = true := by
  induction left generalizing right with
  | nil =>
      cases right with
      | nil => rfl
      | cons => cases same
  | cons obligation obligations ih =>
      cases right with
      | nil => cases same
      | cons other others =>
          unfold sameObligations at same
          rw [List.isEqv, Bool.and_eq_true] at same
          rw [List.map_cons, List.map_cons, Json.sameItems, ObservationObligationV1.toJson_same same.1, ih same.2]
          rfl

namespace PorterActuationProjectionBodyV1

variable {codec : ContractCodec} {left right : PorterActuationProjectionBodyV1}

theorem same_refl (body : PorterActuationProjectionBodyV1) : body.same body = true := by
  simp [same, sameObligations_refl]

theorem toJson_same (same : left.same right = true) : left.toJson.same right.toJson = true := by
  obtain ⟨fields, obligations⟩ := Bool.and_eq_true_iff.mp same
  obtain ⟨id, cut, system, targets, components, affectedTargets, affectedComponents, dependencies, authority⟩ :=
    of_decide_eq_true fields
  simp only [toJson, id, cut, system, targets, components, affectedTargets, affectedComponents, dependencies,
    authority, Json.same, Json.sameMembers, Json.same_refl, Json.sameItems_refl,
    sameItems_of_sameObligations obligations, beq_self_eq_true, Bool.and_self]

/-- Equal bodies have one digest, when the renderer writes equal values alike. -/
theorem digest_eq_of_same (renders : ∀ left right : Json, left.same right = true → codec.jcs left = codec.jcs right)
    (same : left.same right = true) : left.digest codec.toCodec = right.digest codec.toCodec := by
  have wrapped : (Json.object [("schema", .string porterActuationProjectionSchema), ("artifact", left.toJson)]).same
      (.object [("schema", .string porterActuationProjectionSchema), ("artifact", right.toJson)]) = true := by
    simp [Json.same, Json.sameMembers, toJson_same same]
  unfold digest SystemContract.artifactDigest versionedArtifactDigest semanticDigest canonicalJsonBytes
  rw [validateIJsonNumbers_of_same _ _ wrapped, renders _ _ wrapped]

end PorterActuationProjectionBodyV1

namespace PorterActuationProjectionV1

variable {codec : ContractCodec} {cut : PublishedScopeCutV1} {projection : PorterActuationProjectionV1}

theorem verifyAgainst_eq_ok :
    projection.verifyAgainst codec cut = .ok () ↔
      projection.schema = porterActuationProjectionSchema ∧ cut.verify codec = .ok () ∧
        projection.projection.digest codec.toCodec = .ok projection.projectionDigest ∧
        cut.Selected projection.selection ∧ cut.Witnessed projection.selection.componentIds.toFinset ∧
        projection.projection.same (cut.projectionOf projection.projection.projectionId
          projection.selection.componentIds.toFinset) = true := by
  unfold verifyAgainst requireSchema
  rw [check_bind_eq_ok, ensure_eq_ok, check_bind_eq_ok, bind_eq_ok]
  refine and_congr_right fun _ => and_congr_right fun _ => ?_
  constructor
  · rintro ⟨digest, hashed, rest⟩
    obtain ⟨named, rest⟩ := check_bind_eq_ok.mp rest
    obtain ⟨expected, derived, same⟩ := bind_eq_ok.mp rest
    obtain ⟨selected, witnessed, rfl⟩ := PublishedScopeCutV1.porterProjectionBody_eq_ok.mp derived
    rw [ensure_eq_ok] at named same
    exact ⟨named ▸ hashed, selected, witnessed, same⟩
  · rintro ⟨hashed, selected, witnessed, same⟩
    refine ⟨_, hashed, check_bind_eq_ok.mpr ⟨ensure_eq_ok.mpr rfl, bind_eq_ok.mpr ⟨_, ?_, ensure_eq_ok.mpr same⟩⟩⟩
    exact PublishedScopeCutV1.porterProjectionBody_eq_ok.mpr ⟨selected, witnessed, rfl⟩

/-- A projection that is the one of its own components names their hosts. -/
theorem selection_of_same (same : projection.projection.same (cut.projectionOf projection.projection.projectionId
      projection.selection.componentIds.toFinset) = true) :
    projection.selection = cut.cut.hostSelection projection.selection.componentIds := by
  obtain ⟨_, _, _, targets, _⟩ := of_decide_eq_true (Bool.and_eq_true_iff.mp same).1
  unfold selection ScopeCutBodyV1.hostSelection
  rw [targets]
  rfl

/-- A projection verifies exactly when it is the one derived for its own components. -/
theorem verifyAgainst_iff_derived (verified : cut.verify codec = .ok ())
    (renders : ∀ left right : Json, left.same right = true → codec.jcs left = codec.jcs right) :
    projection.verifyAgainst codec cut = .ok () ↔
      ∃ derived, cut.derivePorterProjection codec projection.projection.projectionId
          (cut.cut.hostSelection projection.selection.componentIds) = .ok derived ∧
        projection.schema = derived.schema ∧ projection.projectionDigest = derived.projectionDigest ∧
        projection.projection.same derived.projection = true := by
  rw [verifyAgainst_eq_ok]
  constructor
  · rintro ⟨schema, _, hashed, selected, witnessed, same⟩
    rw [PorterActuationProjectionBodyV1.digest_eq_of_same renders same] at hashed
    rw [selection_of_same same] at selected
    refine ⟨⟨_, _, _⟩, PublishedScopeCutV1.derivePorterProjection_eq_ok.mpr
      ⟨selected, witnessed, rfl, rfl, hashed⟩, schema, rfl, same⟩
  · rintro ⟨derived, found, schema, digest, same⟩
    obtain ⟨selected, witnessed, derivedSchema, body, hashed⟩ :=
      PublishedScopeCutV1.derivePorterProjection_eq_ok.mp found
    rw [← PorterActuationProjectionBodyV1.digest_eq_of_same renders same, ← digest] at hashed
    rw [body] at same
    refine ⟨schema.trans derivedSchema, verified, hashed, ?_, witnessed, same⟩
    rw [selection_of_same same]
    exact selected

/-- What is derived from a verified cut verifies against it. -/
theorem verifyAgainst_derived (verified : cut.verify codec = .ok ())
    (derived : cut.derivePorterProjection codec projectionId selection = .ok projection) :
    projection.verifyAgainst codec cut = .ok () := by
  obtain ⟨selected, witnessed, schema, body, hashed⟩ :=
    PublishedScopeCutV1.derivePorterProjection_eq_ok.mp derived
  obtain ⟨equal, cites⟩ := PublishedScopeCutV1.actuation_ids verified selected.components projectionId
  rw [← body] at equal cites
  have same : projection.projection = cut.projectionOf projection.projection.projectionId
      projection.selection.componentIds.toFinset := by
    change _ = cut.projectionOf _ (projection.projection.actuationComponents.map ComponentV1.componentId).toFinset
    rw [equal, body]
    rfl
  have reflexive : projection.projection.same (cut.projectionOf projection.projection.projectionId
      projection.selection.componentIds.toFinset) = true :=
    same ▸ projection.projection.same_refl
  refine verifyAgainst_eq_ok.mpr ⟨schema, verified, hashed, ?_, ?_, reflexive⟩
  · rw [selection_of_same reflexive]
    exact PublishedScopeCutV1.selected_hostSelection verified cites
  · change cut.Witnessed (projection.projection.actuationComponents.map ComponentV1.componentId).toFinset
    rw [equal]
    exact witnessed

end PorterActuationProjectionV1

/-- A projection holds the components from which a chain of dependencies leads to a
selected one, their hosts, the dependencies that touch them and the obligations on them. -/
structure ImpactClosure (cut : ScopeCutBodyV1) (selected : List Identifier)
    (body : PorterActuationProjectionBodyV1) : Prop where
  components : ∀ component, component ∈ body.affectedComponents ↔
    component ∈ cut.components ∧ cut.Affected selected component.componentId
  targets : ∀ target, target ∈ body.affectedTargets ↔ target ∈ cut.targets ∧
    ∃ component ∈ cut.components, cut.Affected selected component.componentId ∧
      component.hostedOn = target.targetId
  dependencies : ∀ dependency, dependency ∈ body.boundaryDependencies ↔ dependency ∈ cut.dependencies ∧
    (cut.Affected selected dependency.consumerComponentId ∨ cut.Affected selected dependency.providerComponentId)
  obligations : ∀ obligation, obligation ∈ body.verificationObligations ↔
    obligation ∈ cut.observationObligations ∧ cut.Affected selected obligation.componentId

theorem impactClosure_projectionOf (cut : PublishedScopeCutV1) (projectionId : Identifier)
    (selected : List Identifier) :
    ImpactClosure cut.cut selected (cut.projectionOf projectionId selected.toFinset) := by
  have affected (id : Identifier) := @ScopeCutBodyV1.mem_affectedComponentIds selected cut.cut id
  constructor
  · intro component
    simp only [PublishedScopeCutV1.projectionOf, List.mem_filter, decide_eq_true_eq, affected]
  · intro target
    simp only [PublishedScopeCutV1.projectionOf, List.mem_filter, List.mem_map, decide_eq_true_eq, affected,
      and_assoc]
  · intro dependency
    simp only [PublishedScopeCutV1.projectionOf, List.mem_filter, decide_eq_true_eq, affected]
  · intro obligation
    simp only [PublishedScopeCutV1.projectionOf, List.mem_filter, decide_eq_true_eq, affected]

/-- A component set of a verified cut with its hosts is projected to its impact closure,
unless an affected component has no obligation. The loop that finds the closure leaves by
itself. A projection verifies exactly when it is, digest included, the one derived for its
own components; and on a cut whose profiles are compiled in, what is handed out is what
is derived. -/
theorem porter_projection_exact {codec : ContractCodec} {cut : PublishedScopeCutV1}
    (verified : cut.verify codec = .ok ())
    (renders : ∀ left right : Json, left.same right = true → codec.jcs left = codec.jcs right) :
    (∀ (projectionId : Identifier) (selection : PorterProjectionSelectionV1), selection.targetIds.Nodup →
      selection.componentIds.Nodup → selection.componentIds ≠ [] →
      selection.componentIds ⊆ cut.cut.componentIds →
      (∀ id, id ∈ selection.targetIds ↔ ∃ component ∈ cut.cut.components,
        component.componentId ∈ selection.componentIds ∧ component.hostedOn = id) →
      (cut.cut.impactTurn (cut.cut.affectedComponentIds selection.componentIds.toFinset)).card =
        (cut.cut.affectedComponentIds selection.componentIds.toFinset).card ∧
      ((∃ id, cut.cut.Affected selection.componentIds id ∧
          (∀ obligation ∈ cut.cut.observationObligations, obligation.componentId ≠ id) ∧
          cut.derivePorterProjection codec projectionId selection = .error (.invalidValue
            "every affected component requires at least one cut witness obligation")) ∨
        ∃ derived, cut.derivePorterProjection codec projectionId selection = .ok derived ∧
          ImpactClosure cut.cut selection.componentIds derived.projection)) ∧
    (∀ projection : PorterActuationProjectionV1, projection.verifyAgainst codec cut = .ok () ↔
      ∃ derived, cut.derivePorterProjection codec projection.projection.projectionId
          (cut.cut.hostSelection projection.selection.componentIds) = .ok derived ∧
        projection.schema = derived.schema ∧ projection.projectionDigest = derived.projectionDigest ∧
        projection.projection.same derived.projection = true) ∧
    ∀ catalog projectionId selection, cut.qualifyWithCompiledProfiles codec catalog = .ok () →
      cut.porterActuationProjection codec catalog projectionId selection =
        cut.derivePorterProjection codec projectionId selection := by
  refine ⟨?_, fun projection => PorterActuationProjectionV1.verifyAgainst_iff_derived verified renders, ?_⟩
  · intro projectionId selection targetsDistinct componentsDistinct nonempty known hosts
    have selected : cut.Selected selection := by
      refine PublishedScopeCutV1.selected_of_hosts verified targetsDistinct ⟨⟨componentsDistinct, known⟩, nonempty⟩ ?_
      intro id
      rw [hosts, ScopeCutBodyV1.mem_hostIds]
      simp only [List.mem_toFinset]
    refine ⟨spreadFrom_stable _ _ _ _, ?_⟩
    by_cases witnessed : cut.Witnessed selection.componentIds.toFinset
    · right
      have safe := PublishedScopeCutV1.safe_projectionOf verified projectionId selection.componentIds.toFinset
      refine ⟨⟨_, _, _⟩, PublishedScopeCutV1.derivePorterProjection_eq_ok.mpr
        ⟨selected, witnessed, rfl, rfl, @artifactDigest_of_safe codec.toCodec _ _ safe⟩,
        impactClosure_projectionOf cut projectionId selection.componentIds⟩
    · left
      obtain ⟨id, affected, missing⟩ : ∃ id, id ∈ cut.cut.affectedComponentIds selection.componentIds.toFinset ∧
          ∀ obligation ∈ cut.cut.observationObligations, obligation.componentId ≠ id := by
        simpa [PublishedScopeCutV1.Witnessed] using witnessed
      exact ⟨id, ScopeCutBodyV1.mem_affectedComponentIds.mp affected, missing,
        PublishedScopeCutV1.derivePorterProjection_unwitnessed selected witnessed projectionId⟩
  · intro catalog projectionId selection qualified
    unfold PublishedScopeCutV1.porterActuationProjection
    rw [qualified]
    cases derived : cut.derivePorterProjection codec projectionId selection with
    | error failure => rfl
    | ok projection =>
        change (projection.verifyAgainst codec cut >>= fun _ => pure projection) = _
        rw [PorterActuationProjectionV1.verifyAgainst_derived verified derived]
        rfl

def serviceCut : PublishedScopeCutV1 where
  schema := scopeCutSchema
  cutDigest := digestOfLength 15
  cut := ((serviceSpec [frontComponent, backComponent]).normalized.select Sample.cutId (digestOfLength 7)
    serviceSystem.normalized).ratified serviceRatification

/-- A plan for the back end may affect the front end. -/
theorem porter_projection_exact_service :
    ∃ derived, serviceCut.derivePorterProjection sampleCodec ⟨"plan", by decide⟩
        { targetIds := [Sample.host], componentIds := [⟨"back", by decide⟩] } = .ok derived ∧
      frontComponent ∈ derived.projection.affectedComponents := by
  have verified : serviceCut.verify sampleCodec = .ok () := by
    decide +kernel
  obtain ⟨exact, _⟩ := porter_projection_exact verified fun left right same => Json.write_of_same left right same
  have hosts (id : Identifier) : id ∈ [Sample.host] ↔
      ∃ component ∈ serviceCut.cut.components,
        component.componentId ∈ [(⟨"back", by decide⟩ : Identifier)] ∧ component.hostedOn = id := by
    have components : serviceCut.cut.components = [backComponent, frontComponent] := by
      decide +kernel
    rw [components]
    simp [backComponent, frontComponent, eq_comm]
  obtain ⟨_, ⟨_, _, _, refused⟩ | ⟨derived, found, closure⟩⟩ := exact ⟨"plan", by decide⟩
    { targetIds := [Sample.host], componentIds := [⟨"back", by decide⟩] } (by decide) (by decide)
    (by decide) (by decide +kernel) hosts
  · have accepted : (serviceCut.derivePorterProjection sampleCodec ⟨"plan", by decide⟩
        { targetIds := [Sample.host], componentIds := [⟨"back", by decide⟩] }).isOk = true := by
      decide +kernel
    rw [refused] at accepted
    cases accepted
  · refine ⟨derived, found, (closure.components _).mpr ⟨by decide +kernel, _, List.mem_singleton.mpr rfl, ?_⟩⟩
    refine .single ?_
    unfold ScopeCutBodyV1.Consumes
    decide +kernel

end ConstellationNq.SystemContract
