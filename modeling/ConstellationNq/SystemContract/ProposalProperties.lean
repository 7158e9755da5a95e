import ConstellationNq.Library.Sequence
import ConstellationNq.SystemContract.SpecificationOrder

/-!
# Proposals of valid specifications

The restriction of a closed specification to one of its systems is closed, its arrays
are in order, and its numbers can be rendered, so that only the size of a document
can keep a declared system from being proposed.
-/

set_option autoImplicit false

namespace ConstellationNq.SystemContract

open Library.Loop Library.Sequence Library.Sorting Protocol

/-! ## Numbers that can be rendered -/

/-- The integers of a value are exact as doubles. -/
def Safe (value : Json) : Prop := validateIJsonNumbers value = .ok ()

theorem safe_string (text : String) : Safe (.string text) := by
  unfold Safe
  rw [validateIJsonNumbers]

theorem safe_array {items : List Json} : Safe (.array items) ↔ ∀ item ∈ items, Safe item := by
  unfold Safe
  rw [validateIJsonNumbers, validateIJsonItems_eq_ok]

theorem safe_object {members : List (String × Json)} :
    Safe (.object members) ↔ ∀ member ∈ members, Safe member.2 := by
  unfold Safe
  rw [validateIJsonNumbers, validateIJsonMembers_eq_ok]

theorem safe_integer {value : Nat} (small : value ≤ 9007199254740991) : Safe (.integer value) := by
  unfold Safe
  rw [validateIJsonNumbers, if_pos]
  unfold maxSafeInteger
  omega

theorem safe_identifiers (identifiers : List Identifier) :
    Safe (.array (identifiers.map Identifier.toJson)) := by
  rw [safe_array]
  intro item member
  obtain ⟨identifier, _, rfl⟩ := List.mem_map.mp member
  exact safe_string _

section Bytes

variable {codec : Codec} {value : Json}

theorem contractBytes_of_safe (safe : Safe value) : contractBytes codec value = .ok (codec.jcs value) := by
  have rendered : canonicalJsonBytes codec value = .ok (codec.jcs value) := by
    unfold canonicalJsonBytes
    exact check_bind_eq_ok.mpr ⟨safe, rfl⟩
  unfold contractBytes
  rw [rendered]
  rfl

theorem safe_of_requireBounded {limit : Nat} (bounded : requireBounded codec value limit = .ok ()) : Safe value := by
  unfold requireBounded contractBytes canonicalJsonBytes at bounded
  cases checked : validateIJsonNumbers value with
  | ok => exact checked
  | error error =>
      rw [checked] at bounded
      cases bounded

theorem requireBounded_of_safe (safe : Safe value) (limit : Nat) :
    requireBounded codec value limit = .ok () ∨
      ∃ actual, limit < actual ∧ requireBounded codec value limit = .error (.tooLarge actual limit) := by
  unfold requireBounded
  rw [contractBytes_of_safe safe]
  by_cases fits : (codec.jcs value).length ≤ limit
  · exact .inl (ensure_eq_ok.mpr fits)
  · refine .inr ⟨(codec.jcs value).length, not_le.mp fits, ?_⟩
    change ensure _ _ = _
    exact if_neg fits

theorem contractDigest_of_safe (safe : Safe value) :
    contractDigest codec value = .ok (codec.sha256Bytes (codec.jcs value)) := by
  unfold contractDigest
  rw [semanticDigest_of_valid safe]
  rfl

theorem artifactDigest_of_safe (schema : String) (safe : Safe value) :
    artifactDigest codec schema value =
      .ok (codec.sha256Bytes (codec.jcs (.object [("schema", .string schema), ("artifact", value)]))) := by
  unfold artifactDigest versionedArtifactDigest
  rw [semanticDigest_of_valid]
  · rfl
  · refine safe_object.mpr fun member given => ?_
    simp only [List.mem_cons, List.not_mem_nil, or_false] at given
    rcases given with rfl | rfl
    · exact safe_string _
    · exact safe

end Bytes

/-! ## The JSON form of closed entries -/

theorem SourceSnapshotV1.safe_toJson (codec : ContractCodec) (source : SourceSnapshotV1) :
    Safe (source.toJson codec) := by
  unfold SourceSnapshotV1.toJson
  cases source with
  | mk _ kind _ _ _ =>
      cases kind <;> simp [safe_object, safe_string, Identifier.toJson, SourceKind.toJson]

theorem TargetV1.safe_toJson (target : TargetV1) : Safe target.toJson := by
  simp only [TargetV1.toJson, safe_object, List.forall_mem_cons, List.not_mem_nil, false_implies, implies_true,
    and_true]
  exact ⟨safe_string _, safe_string _, safe_string _, safe_identifiers _⟩

theorem ComponentV1.safe_toJson (component : ComponentV1) : Safe component.toJson := by
  simp only [ComponentV1.toJson, safe_object, List.forall_mem_cons, List.not_mem_nil, false_implies,
    implies_true, and_true]
  exact ⟨safe_string _, safe_string _, safe_string _, safe_identifiers _⟩

theorem DependencyV1.safe_toJson (dependency : DependencyV1) : Safe dependency.toJson := by
  simp only [DependencyV1.toJson, safe_object, List.forall_mem_cons, List.not_mem_nil, false_implies,
    implies_true, and_true]
  refine ⟨safe_string _, safe_string _, safe_string _, ?_, safe_identifiers _⟩
  cases dependency.requirement <;> exact safe_string _

theorem SystemDefinitionV1.safe_toJson (system : SystemDefinitionV1) : Safe system.toJson := by
  simp only [SystemDefinitionV1.toJson, safe_object, List.forall_mem_cons, List.not_mem_nil, false_implies,
    implies_true, and_true]
  exact ⟨safe_string _, safe_string _, safe_identifiers _, safe_identifiers _, safe_identifiers _,
    safe_identifiers _, safe_identifiers _⟩

private theorem safe_strings (texts : List String) : Safe (.array (texts.map Json.string)) := by
  rw [safe_array]
  intro item member
  obtain ⟨text, _, rfl⟩ := List.mem_map.mp member
  exact safe_string _

private theorem safe_of_validateBindingValue {codec : Codec} {kind : String} {value : Json}
    (validated : validateBindingValue codec kind value = .ok ()) : Safe value :=
  safe_of_requireBounded (check_bind_eq_ok.mp validated).1

variable {codec : ContractCodec}

theorem ObservationObligationV1.safe_toJson {obligation : ObservationObligationV1}
    (bounded : obligation.Bounded codec) : Safe obligation.toJson := by
  have scope := safe_of_validateBindingValue bounded.scope
  have vantage := safe_of_validateBindingValue bounded.vantage
  have freshness : obligation.freshnessSeconds.toNat ≤ 9007199254740991 :=
    bounded.freshness.2.trans (by decide)
  simp only [ObservationObligationV1.toJson, ProfileBinding.toJson, SubjectBinding.toJson, safe_object,
    List.forall_mem_cons, List.not_mem_nil, false_implies, implies_true, and_true]
  exact ⟨safe_string _, safe_string _, safe_string _, ⟨safe_string _, safe_string _, safe_string _⟩,
    ⟨safe_string _, ⟨safe_string _, scope⟩, safe_string _, vantage⟩, safe_strings _, safe_strings _,
    safe_integer freshness, safe_identifiers _⟩

variable {α : Type}

theorem safe_map {toJson : α → Json} {entries : List α} (safe : ∀ entry ∈ entries, Safe (toJson entry)) :
    Safe (.array (entries.map toJson)) := by
  rw [safe_array]
  intro item member
  obtain ⟨entry, stored, rfl⟩ := List.mem_map.mp member
  exact safe entry stored

private theorem safe_revision (revision : UInt32) : Safe (.integer revision.toNat) := by
  have small := revision.toNat_lt
  exact safe_integer (by omega)

/-- The obligations alone can hold numbers that are not exact. -/
theorem ScopeCutProposalBodyV1.safe_toJson {body : ScopeCutProposalBodyV1}
    (bounded : ∀ obligation ∈ body.observationObligations, obligation.Bounded codec) :
    Safe (body.toJson codec) := by
  simp only [ScopeCutProposalBodyV1.toJson, SystemSpecReferenceV1.toJson, safe_object, List.forall_mem_cons,
    List.not_mem_nil, false_implies, implies_true, and_true]
  refine ⟨safe_string _, ⟨safe_string _, safe_revision _, safe_string _⟩, body.system.safe_toJson,
    safe_map fun source _ => source.safe_toJson codec, safe_map fun target _ => target.safe_toJson,
    safe_map fun component _ => component.safe_toJson, safe_map fun dependency _ => dependency.safe_toJson,
    safe_map fun obligation member => ObservationObligationV1.safe_toJson (bounded obligation member), ?_⟩
  cases body.authority
  exact safe_string _

theorem ScopeCutProposalV1.safe_toJson {proposal : ScopeCutProposalV1}
    (bounded : ∀ obligation ∈ proposal.proposal.observationObligations, obligation.Bounded codec) :
    Safe (proposal.toJson codec) := by
  simp only [ScopeCutProposalV1.toJson, safe_object, List.forall_mem_cons, List.not_mem_nil, false_implies,
    implies_true, and_true]
  exact ⟨safe_string _, safe_string _, ScopeCutProposalBodyV1.safe_toJson bounded⟩

theorem SystemSpecV1.safe_toJson {spec : SystemSpecV1}
    (bounded : ∀ obligation ∈ spec.observationObligations, obligation.Bounded codec) :
    Safe (spec.toJson codec) := by
  simp only [SystemSpecV1.toJson, safe_object, List.forall_mem_cons, List.not_mem_nil, false_implies,
    implies_true, and_true]
  refine ⟨safe_string _, safe_string _, safe_revision _, safe_string _,
    safe_map fun source _ => source.safe_toJson codec, safe_map fun target _ => target.safe_toJson,
    safe_map fun component _ => component.safe_toJson, safe_map fun dependency _ => dependency.safe_toJson,
    safe_map fun obligation member => ObservationObligationV1.safe_toJson (bounded obligation member),
    safe_map fun system _ => system.safe_toJson, ?_⟩
  cases spec.authority
  exact safe_string _

/-! ## The restriction to one system -/

namespace SystemSpecV1

variable {codec : ContractCodec} {spec : SystemSpecV1} {system : SystemDefinitionV1}

private theorem mem_selectedIds {identity : α → Identifier} {entries : List α} {ids : List Identifier}
    {id : Identifier} (known : id ∈ entries.map identity) (selected : id ∈ ids) :
    id ∈ (entries.filter fun entry => identity entry ∈ ids).map identity := by
  obtain ⟨entry, member, rfl⟩ := List.mem_map.mp known
  exact List.mem_map_of_mem (List.mem_filter.mpr ⟨member, decide_eq_true selected⟩)

private theorem selected_nonempty {identity : α → Identifier} {entries : List α} {ids : List Identifier}
    (cites : Cites ids (entries.map identity)) :
    1 ≤ (entries.filter fun entry => identity entry ∈ ids).length := by
  obtain ⟨id, member⟩ := List.exists_mem_of_ne_nil ids cites.nonempty
  have selected := List.length_pos_of_mem (mem_selectedIds (cites.known member) member)
  rwa [List.length_map] at selected

theorem Closed.restriction (closed : spec.Closed codec) (member : system ∈ spec.systems) (cutId : Identifier)
    (specDigest : Sha256Digest) : (spec.select cutId specDigest system).restriction.Closed codec := by
  have inside := closed.system system member
  have distinct := closed.distinct
  have counted := closed.counted
  have mem_sources : ∀ {id}, id ∈ spec.sourceIds → id ∈ spec.citedSources system →
      id ∈ (spec.select cutId specDigest system).restriction.sourceIds := fun known cited =>
    mem_selectedIds known cited
  have mem_targets : ∀ {id}, id ∈ system.targetIds →
      id ∈ (spec.select cutId specDigest system).restriction.targetIds := fun selected =>
    mem_selectedIds (inside.targets.known selected) selected
  have mem_components : ∀ {id}, id ∈ system.componentIds →
      id ∈ (spec.select cutId specDigest system).restriction.componentIds := fun selected =>
    mem_selectedIds (inside.components.known selected) selected
  have cites : ∀ {ids}, Cites ids spec.sourceIds → (∀ id ∈ ids, id ∈ spec.citedSources system) →
      Cites ids (spec.select cutId specDigest system).restriction.sourceIds := fun cites cited =>
    ⟨⟨cites.distinct, fun _ given => mem_sources (cites.known given) (cited _ given)⟩, cites.nonempty⟩
  have citesSystem : Cites system.sourceSnapshotIds
      (spec.select cutId specDigest system).restriction.sourceIds :=
    cites inside.sources fun id given => mem_citedSources.mpr (.inl given)
  have citedSame : ∀ id, id ∈ spec.citedSources system →
      id ∈ (spec.select cutId specDigest system).restriction.citedSources system := by
    intro id cited
    simp only [citedSources, ScopeCutProposalBodyV1.restriction, select, List.filter_filter, Bool.and_self]
    exact cited
  constructor
  case schema => rfl
  case revision => exact closed.revision
  case title => exact inside.title
  case counted =>
    refine ⟨⟨?_, (List.length_filter_le _ _).trans counted.sources.2⟩,
      ⟨selected_nonempty inside.targets, (List.length_filter_le _ _).trans counted.targets.2⟩,
      ⟨le_rfl, show 1 ≤ maxSystems by decide⟩,
      ⟨selected_nonempty inside.components, (List.length_filter_le _ _).trans counted.components.2⟩,
      (List.length_filter_le _ _).trans counted.dependencies,
      ⟨selected_nonempty inside.obligations, (List.length_filter_le _ _).trans counted.obligations.2⟩⟩
    obtain ⟨id, given⟩ := List.exists_mem_of_ne_nil _ citesSystem.nonempty
    have known := List.length_pos_of_mem (citesSystem.known given)
    rwa [sourceIds, List.length_map] at known
  case distinct =>
    exact ⟨nodup_key_filter distinct.sources _, nodup_key_filter distinct.targets _,
      nodup_key_filter distinct.components _, nodup_key_filter distinct.dependencies _,
      nodup_key_filter distinct.obligations _, List.nodup_singleton _⟩
  case provenance => exact fun source given => closed.provenance source (List.mem_filter.mp given).1
  case target =>
    intro target given
    obtain ⟨stored, selected⟩ := List.mem_filter.mp given
    exact cites (closed.target target stored) fun id source =>
      mem_citedSources.mpr (.inr (.inl ⟨target, stored, of_decide_eq_true selected, source⟩))
  case component =>
    intro component given
    obtain ⟨stored, selected⟩ := List.mem_filter.mp given
    have selected := of_decide_eq_true selected
    exact ⟨mem_targets (inside.hosted component stored selected),
      cites (closed.component component stored).2 fun id source =>
        mem_citedSources.mpr (.inr (.inr (.inl ⟨component, stored, selected, source⟩)))⟩
  case dependency =>
    intro dependency given
    obtain ⟨stored, selected⟩ := List.mem_filter.mp given
    have selected := of_decide_eq_true selected
    obtain ⟨consumer, provider⟩ := inside.connected dependency stored selected
    obtain ⟨_, _, differ, cited⟩ := closed.dependency dependency stored
    exact ⟨mem_components consumer, mem_components provider, differ, cites cited fun id source =>
      mem_citedSources.mpr (.inr (.inr (.inr (.inl ⟨dependency, stored, selected, source⟩))))⟩
  case endpointsDistinct => exact nodup_key_filter closed.endpointsDistinct _
  case obligation =>
    intro obligation given
    obtain ⟨stored, selected⟩ := List.mem_filter.mp given
    have selected := of_decide_eq_true selected
    obtain ⟨_, bounded, cited⟩ := closed.obligation obligation stored
    exact ⟨mem_components (inside.observed obligation stored selected), bounded, cites cited fun id source =>
      mem_citedSources.mpr (.inr (.inr (.inr (.inr ⟨obligation, stored, selected, source⟩))))⟩
  case system =>
    intro only given
    obtain rfl := List.mem_singleton.mp given
    constructor
    case title => exact inside.title
    case targets => exact ⟨⟨inside.targets.distinct, fun _ => mem_targets⟩, inside.targets.nonempty⟩
    case components => exact ⟨⟨inside.components.distinct, fun _ => mem_components⟩, inside.components.nonempty⟩
    case dependencies =>
      exact ⟨inside.dependencies.distinct, fun _ selected =>
        mem_selectedIds (inside.dependencies.known selected) selected⟩
    case obligations =>
      exact ⟨⟨inside.obligations.distinct, fun _ selected =>
        mem_selectedIds (inside.obligations.known selected) selected⟩, inside.obligations.nonempty⟩
    case sources => exact citesSystem
    case hosted => exact fun component given => inside.hosted component (List.mem_filter.mp given).1
    case connected => exact fun dependency given => inside.connected dependency (List.mem_filter.mp given).1
    case observed => exact fun obligation given => inside.observed obligation (List.mem_filter.mp given).1
  case used =>
    constructor
    case sources =>
      intro id declared
      obtain ⟨source, given, rfl⟩ := List.mem_map.mp declared
      exact ⟨system, List.mem_singleton_self _, citedSame _ (of_decide_eq_true (List.mem_filter.mp given).2)⟩
    all_goals
      intro id declared
      obtain ⟨entry, given, rfl⟩ := List.mem_map.mp declared
      exact ⟨system, List.mem_singleton_self _, of_decide_eq_true (List.mem_filter.mp given).2⟩

end SystemSpecV1

/-! ## Canonical order -/

/-- A selection of entries in their normal form is in normal form. -/
private theorem normalized_selection {key : α → String} {normalize : α → α}
    (idempotent : ∀ entry, normalize (normalize entry) = normalize entry)
    (kept : ∀ entry, key (normalize entry) = key entry) (entries : List α) (keep : α → Bool) :
    (sortBy key (((sortBy key entries).map normalize).filter keep)).map normalize =
      ((sortBy key entries).map normalize).filter keep := by
  have sorted : ((sortBy key entries).map normalize).Pairwise fun left right => key left ≤ key right := by
    rw [List.pairwise_map]
    simpa only [kept] using sortBy_sorted key entries
  rw [sortBy_of_sorted (sorted.sublist List.filter_sublist)]
  refine (List.map_congr_left fun entry given => ?_).trans (List.map_id _)
  obtain ⟨original, _, rfl⟩ := List.mem_map.mp (List.mem_filter.mp given).1
  exact idempotent original

private theorem sortIds_sortIds (ids : List Identifier) : sortIds (sortIds ids) = sortIds ids :=
  sortBy_of_sorted (sortBy_sorted _ _)

private theorem sortBy_sortBy (texts : List String) : sortBy id (sortBy id texts) = sortBy id texts :=
  sortBy_of_sorted (sortBy_sorted _ _)

private theorem SystemDefinitionV1.normalized_normalized (system : SystemDefinitionV1) :
    system.normalized.normalized = system.normalized := by
  simp only [SystemDefinitionV1.normalized, sortIds_sortIds]

theorem sameObligations_refl (obligations : List ObservationObligationV1) :
    sameObligations obligations obligations = true := by
  unfold sameObligations
  induction obligations with
  | nil => rfl
  | cons obligation obligations ih =>
      rw [List.isEqv, ih, Bool.and_true]
      simp [ObservationObligationV1.same, SubjectBinding.same, Json.same_refl]

namespace SystemSpecV1

variable {codec : ContractCodec} {spec : SystemSpecV1} {system : SystemDefinitionV1}

theorem canonical_select (member : system ∈ spec.normalized.systems) (cutId : Identifier)
    (specDigest : Sha256Digest) : (spec.normalized.select cutId specDigest system).canonical = true := by
  have sources := @sortBy_filter_sortBy _ _ _ (fun source : SourceSnapshotV1 => source.sourceSnapshotId.text)
    spec.sourceSnapshots fun source => source.sourceSnapshotId ∈ spec.normalized.citedSources system
  have targets := @normalized_selection TargetV1 (fun target => target.targetId.text) TargetV1.normalized
    (fun target => by simp only [TargetV1.normalized, sortIds_sortIds]) (fun _ => rfl) spec.targets
    fun target => target.targetId ∈ system.targetIds
  have components := @normalized_selection ComponentV1 (fun component => component.componentId.text)
    ComponentV1.normalized (fun component => by simp only [ComponentV1.normalized, sortIds_sortIds])
    (fun _ => rfl) spec.components fun component => component.componentId ∈ system.componentIds
  have dependencies := @normalized_selection DependencyV1 (fun dependency => dependency.dependencyId.text)
    DependencyV1.normalized (fun dependency => by simp only [DependencyV1.normalized, sortIds_sortIds])
    (fun _ => rfl) spec.dependencies fun dependency => dependency.dependencyId ∈ system.dependencyIds
  have obligations := @normalized_selection ObservationObligationV1
    (fun obligation => obligation.observationObligationId.text) ObservationObligationV1.normalized
    (fun obligation => by simp only [ObservationObligationV1.normalized, sortIds_sortIds, sortBy_sortBy])
    (fun _ => rfl) spec.observationObligations
    fun obligation => obligation.observationObligationId ∈ system.observationObligationIds
  obtain ⟨original, _, rfl⟩ := List.mem_map.mp member
  have only : ((sortBy (fun system : SystemDefinitionV1 => system.systemId.text) [original.normalized]).map
      SystemDefinitionV1.normalized).head? = some original.normalized := by
    rw [sortBy_of_sorted (List.pairwise_singleton _ _), List.map_singleton,
      SystemDefinitionV1.normalized_normalized]
    rfl
  unfold ScopeCutProposalBodyV1.canonical
  rw [Bool.and_eq_true, decide_eq_true_eq]
  refine ⟨⟨sources.symm, targets.symm, components.symm, dependencies.symm, only⟩, ?_⟩
  change sameObligations _ ((sortBy _ _).map _) = true
  exact obligations ▸ sameObligations_refl _

/-- The size of the documents is all that can refuse the restriction of a closed
specification. -/
theorem verify_of_closed {body : ScopeCutProposalBodyV1} (closed : body.restriction.Closed codec)
    (canonical : body.canonical = true) {digest : Sha256Digest} (hashed : body.digest codec = .ok digest) :
    let proposal : ScopeCutProposalV1 := { schema := scopeCutProposalSchema, proposalDigest := digest, proposal := body }
    proposal.verify codec = .ok () ∨
      ∃ actual, maxDocumentBytes < actual ∧ proposal.verify codec = .error (.tooLarge actual maxDocumentBytes) := by
  intro proposal
  have bounded : ∀ obligation ∈ body.observationObligations, obligation.Bounded codec :=
    fun obligation member => (closed.obligation obligation member).2.1
  have normalBounded : ∀ obligation ∈ body.restriction.normalized.observationObligations,
      obligation.Bounded codec := fun obligation member =>
    ((closed.permuted body.restriction.permuted_normalized).obligation obligation member).2.1
  have leading : proposal.verify codec = (do
      requireBounded codec.toCodec (body.restriction.normalized.toJson codec) maxDocumentBytes
      requireBounded codec.toCodec (proposal.toJson codec) maxDocumentBytes) := by
    simp only [ScopeCutProposalV1.verify, validate, proposal, requireSchema, ensure, if_true, hashed, canonical,
      validateStructure_eq_ok.mpr closed, bind, Except.bind]
  rw [leading]
  rcases @requireBounded_of_safe codec.toCodec _ (safe_toJson normalBounded) maxDocumentBytes with
    fits | ⟨actual, larger, refused⟩
  · rw [fits]
    exact requireBounded_of_safe (ScopeCutProposalV1.safe_toJson bounded) maxDocumentBytes
  · rw [refused]
    exact .inr ⟨actual, larger, rfl⟩

end SystemSpecV1

end ConstellationNq.SystemContract
