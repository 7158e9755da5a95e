import ConstellationNq.SystemContract.CycleProperties
import ConstellationNq.SystemContract.ObservationProperties
import Mathlib.Data.Multiset.Defs

/-!
# What acceptance means

Acceptance is a statement about the cut alone: supported components, closed
required edges, providers observed first and closures inside the window, in
whole seconds. The cycle check adds nothing to it, incidental dependencies and
the order of the arrays do not enter it, and the fraction of a second it drops
is the exact distance to the declared window.
-/

set_option autoImplicit false

namespace ConstellationNq.SystemContract

open Library
open Std (TreeMap TreeSet LawfulEqCmp)

/-- The instants observed anywhere in the closure of `root`. -/
def closureInstants (cut : ScopeCutBodyV1) (observed : Identifier → Set Instant) (root : Identifier) : Set Instant :=
  { instant | ∃ member, InClosure cut root member ∧ instant ∈ observed member }

/-- Every component is supported, the required edges are closed and providers
are observed first, for the instants each identity is observed at. -/
structure WellObserved (cut : ScopeCutBodyV1) (observed : Identifier → Set Instant) : Prop where
  supported : ∀ component ∈ cut.components, Supported cut component
  endpoints : ∀ consumer provider, Requires cut consumer provider →
    (∃ component ∈ cut.components, component.componentId = consumer) ∧
      ∃ component ∈ cut.components, component.componentId = provider
  providersFirst : ∀ consumer provider, Requires cut consumer provider →
    ∀ providerLatest consumerLatest, IsGreatest (observed provider) providerLatest →
      IsGreatest (observed consumer) consumerLatest → providerLatest ≤ consumerLatest

/-- Required-observation coherence: in addition every consumer's closure spans no
more whole seconds than the window. -/
structure CoherentBy (cut : ScopeCutBodyV1) (observed : Identifier → Set Instant) (window : UInt64) : Prop
    extends WellObserved cut observed where
  withinWindow : ∀ root, Consumes cut root → ∀ earliest latest,
    IsLeast (closureInstants cut observed root) earliest → IsGreatest (closureInstants cut observed root) latest →
      Instant.numSeconds (latest.signedDurationSince earliest) ≤ window.toNat

variable {spans : TreeMap String ObservationSpan}

theorem checkProviderOrder_eq_ok_iff {edge : RequiredEdge} :
    checkProviderOrder spans edge = .ok () ↔ ∃ consumerSpan providerSpan,
      spans[edge.consumer]? = some consumerSpan ∧ spans[edge.provider]? = some providerSpan ∧
        providerSpan.latest ≤ consumerSpan.latest := by
  cases consumerFound : spans[edge.consumer]? with
  | none => simp [checkProviderOrder, spanOf, consumerFound, bind, Except.bind]
  | some consumerSpan =>
      cases providerFound : spans[edge.provider]? with
      | none => simp [checkProviderOrder, spanOf, consumerFound, providerFound, bind, Except.bind]
      | some providerSpan =>
          simp only [checkProviderOrder, spanOf, consumerFound, providerFound, bind, Except.bind]
          split
          next late => simpa using late
          next ordered => simpa using ordered

variable {cut : ScopeCutBodyV1}

private theorem forall_edges_iff :
    (requiredEdges cut).forM (checkProviderOrder spans) = .ok () ↔
      ProvidersObservedFirst (requiredAdjacency (requiredEdges cut)) spans := by
  rw [Loop.forM_eq_ok_iff]
  simp only [checkProviderOrder_eq_ok_iff]
  constructor
  · intro ordered consumer provider edge
    obtain ⟨found, member, rfl, rfl⟩ := mem_requiredAdjacency_iff.mp edge
    exact ordered found member
  · intro ordered edge member
    exact ordered edge.consumer edge.provider (mem_requiredAdjacency_iff.mpr ⟨edge, member, rfl, rfl⟩)

/-- Providers are observed first in the spans exactly when they are in the cut. -/
private theorem providersObservedFirst_iff (computed : observationSpans cut = .ok spans) :
    ProvidersObservedFirst (requiredAdjacency (requiredEdges cut)) spans ↔
      ∀ consumer provider, Requires cut consumer provider →
        ((∃ component ∈ cut.components, component.componentId = consumer) ∧
          ∃ component ∈ cut.components, component.componentId = provider) ∧
        ∀ providerLatest consumerLatest, IsGreatest (denotedInstants cut provider) providerLatest →
          IsGreatest (denotedInstants cut consumer) consumerLatest → providerLatest ≤ consumerLatest := by
  have spec := observationSpans_spec computed
  constructor
  · intro ordered consumer provider requires
    obtain ⟨consumerSpan, providerSpan, consumerFound, providerFound, le⟩ :=
      ordered consumer.text provider.text (edge_iff_requires.mpr ⟨_, _, requires, rfl, rfl⟩)
    refine ⟨⟨(spec consumer).1.mp ⟨_, consumerFound⟩, (spec provider).1.mp ⟨_, providerFound⟩⟩, ?_⟩
    intro providerLatest consumerLatest providerGreatest consumerGreatest
    rw [providerGreatest.unique ((spec provider).2 _ providerFound).2,
      consumerGreatest.unique ((spec consumer).2 _ consumerFound).2]
    exact le
  · intro ordered consumerText providerText edge
    obtain ⟨consumer, provider, requires, rfl, rfl⟩ := edge_iff_requires.mp edge
    obtain ⟨⟨consumerListed, providerListed⟩, le⟩ := ordered consumer provider requires
    obtain ⟨consumerSpan, consumerFound⟩ := (spec consumer).1.mpr consumerListed
    obtain ⟨providerSpan, providerFound⟩ := (spec provider).1.mpr providerListed
    exact ⟨consumerSpan, providerSpan, consumerFound, providerFound,
      le _ _ ((spec provider).2 _ providerFound).2 ((spec consumer).2 _ consumerFound).2⟩

private theorem foldlM_widen (observed : String → Set Instant) {members : List String}
    (covered : ∀ member ∈ members, ∃ span, spans[member]? = some span ∧ span.Covers (observed member))
    {start : ObservationSpan} {instants : Set Instant} (covers : start.Covers instants) :
    ∃ result, members.foldlM (widen spans) start = .ok result ∧
      result.Covers (instants ∪ { instant | ∃ member ∈ members, instant ∈ observed member }) := by
  induction members generalizing start instants with
  | nil => exact ⟨start, rfl, by simpa using covers⟩
  | cons member members ih =>
      obtain ⟨span, found, spanCovers⟩ := covered member List.mem_cons_self
      obtain ⟨result, folded, resultCovers⟩ :=
        ih (fun other later => covered other (List.mem_cons_of_mem _ later)) (covers.union spanCovers)
      refine ⟨result, ?_, ?_⟩
      · simpa only [List.foldlM_cons, widen, spanOf, found, bind, Except.bind, pure, Except.pure] using folded
      · have same : instants ∪ observed member ∪ { instant | ∃ later ∈ members, instant ∈ observed later } =
            instants ∪ { instant | ∃ later ∈ member :: members, instant ∈ observed later } := by
          ext instant
          simp [or_assoc]
        rwa [same] at resultCovers

private theorem spanned_of_inClosure (ordered : ProvidersObservedFirst (requiredAdjacency (requiredEdges cut)) spans)
    {root member : Identifier} (consumes : Consumes cut root) (closed : InClosure cut root member) :
    ∃ span, spans[member.text]? = some span := by
  cases closed with
  | refl =>
      obtain ⟨provider, requires⟩ := consumes
      obtain ⟨span, _, found, _⟩ := ordered _ _ (edge_iff_requires.mpr ⟨_, _, requires, rfl, rfl⟩)
      exact ⟨span, found⟩
  | tail _ requires =>
      obtain ⟨_, span, _, found, _⟩ := ordered _ _ (edge_iff_requires.mpr ⟨_, _, requires, rfl, rfl⟩)
      exact ⟨span, found⟩

/-- The instants of the component that an identifier text denotes. -/
private def textInstants (cut : ScopeCutBodyV1) (text : String) : Set Instant :=
  { instant | ∃ identifier : Identifier, identifier.text = text ∧ instant ∈ denotedInstants cut identifier }

private theorem textInstants_eq (cut : ScopeCutBodyV1) (identifier : Identifier) :
    textInstants cut identifier.text = denotedInstants cut identifier := by
  ext instant
  constructor
  · rintro ⟨other, same, observed⟩
    rwa [Identifier.ext_text same] at observed
  · intro observed
    exact ⟨identifier, rfl, observed⟩

theorem numSeconds_signedDurationSince_le (left right : Instant) :
    Instant.numSeconds (left.signedDurationSince right) ≤ 20000000000000 := by
  refine (Instant.numSeconds_le_iff (by norm_num)).mpr ?_
  have := left.signedDurationSince_le right
  simp only [nanosPerSecond] at *
  omega

variable {window : UInt64}

private theorem signedWindow_lt_iff {left right : Instant} :
    signedWindow window < Instant.numSeconds (left.signedDurationSince right) ↔
      (window.toNat : Int) < Instant.numSeconds (left.signedDurationSince right) := by
  have bounded := numSeconds_signedDurationSince_le left right
  unfold signedWindow
  split <;> omega

private theorem checkClosureWindow_eq_ok_iff {root : Identifier} (computed : observationSpans cut = .ok spans)
    (ordered : ProvidersObservedFirst (requiredAdjacency (requiredEdges cut)) spans) (consumes : Consumes cut root) :
    checkClosureWindow (requiredAdjacency (requiredEdges cut)) spans window root.text = .ok () ↔
      ∀ earliest latest, IsLeast (closureInstants cut (denotedInstants cut) root) earliest →
        IsGreatest (closureInstants cut (denotedInstants cut) root) latest →
          Instant.numSeconds (latest.signedDurationSince earliest) ≤ window.toNat := by
  have spec := observationSpans_spec computed
  have memberIff (text : String) :
      text ∈ (requiredClosure root.text (requiredAdjacency (requiredEdges cut))).toList ↔
        ∃ identifier, InClosure cut root identifier ∧ identifier.text = text := by
    rw [TreeSet.mem_toList, mem_requiredClosure_iff, reaches_iff_inClosure]
  obtain ⟨rootSpan, rootFound⟩ := spanned_of_inClosure ordered consumes .refl
  have covered (text : String)
      (member : text ∈ (requiredClosure root.text (requiredAdjacency (requiredEdges cut))).toList) :
      ∃ span, spans[text]? = some span ∧ span.Covers (textInstants cut text) := by
    obtain ⟨identifier, closed, rfl⟩ := (memberIff text).mp member
    obtain ⟨span, found⟩ := spanned_of_inClosure ordered consumes closed
    exact ⟨span, found, textInstants_eq cut identifier ▸ (spec identifier).2 span found⟩
  obtain ⟨closure, folded, covers⟩ :=
    foldlM_widen (textInstants cut) covered ((spec root).2 rootSpan rootFound)
  have instants : denotedInstants cut root ∪ { instant | ∃ member ∈
      (requiredClosure root.text (requiredAdjacency (requiredEdges cut))).toList, instant ∈ textInstants cut member } =
      closureInstants cut (denotedInstants cut) root := by
    ext instant
    constructor
    · rintro (observed | ⟨text, member, observed⟩)
      · exact ⟨root, .refl, observed⟩
      · obtain ⟨identifier, closed, rfl⟩ := (memberIff text).mp member
        rw [textInstants_eq] at observed
        exact ⟨identifier, closed, observed⟩
    · rintro ⟨identifier, closed, observed⟩
      refine Or.inr ⟨identifier.text, (memberIff _).mpr ⟨identifier, closed, rfl⟩, ?_⟩
      rwa [textInstants_eq]
  rw [instants] at covers
  simp only [checkClosureWindow, spanOf, rootFound, folded, bind, Except.bind]
  constructor
  · intro accepted earliest latest least greatest
    rw [least.unique covers.1, greatest.unique covers.2]
    split at accepted
    next => simp at accepted
    next within => exact not_lt.mp fun beyond => within (signedWindow_lt_iff.mpr beyond)
  · intro within
    rw [if_neg]
    intro beyond
    exact absurd (within _ _ covers.1 covers.2) (not_le.mpr (signedWindow_lt_iff.mp beyond))

private theorem forall_consumers_iff (computed : observationSpans cut = .ok spans)
    (ordered : ProvidersObservedFirst (requiredAdjacency (requiredEdges cut)) spans) :
    (requiredAdjacency (requiredEdges cut)).keys.forM
        (checkClosureWindow (requiredAdjacency (requiredEdges cut)) spans window) = .ok () ↔
      ∀ root, Consumes cut root → ∀ earliest latest,
        IsLeast (closureInstants cut (denotedInstants cut) root) earliest →
        IsGreatest (closureInstants cut (denotedInstants cut) root) latest →
          Instant.numSeconds (latest.signedDurationSince earliest) ≤ window.toNat := by
  rw [Loop.forM_eq_ok_iff]
  constructor
  · intro checked root consumes
    exact (checkClosureWindow_eq_ok_iff computed ordered consumes).mp
      (checked root.text (mem_consumers_iff.mpr ⟨root, consumes, rfl⟩))
  · intro within text member
    obtain ⟨root, consumes, rfl⟩ := mem_consumers_iff.mp member
    exact (checkClosureWindow_eq_ok_iff computed ordered consumes).mpr (within root consumes)

/-- The checker accepts exactly the cuts that are coherent for the entries their
identities denote. -/
theorem evaluateCutCoherence_eq_ok_iff :
    evaluateCutCoherence cut (.requiredObservationV1 window) = .ok () ↔
      CoherentBy cut (denotedInstants cut) window := by
  cases computed : observationSpans cut with
  | error failure =>
      simp only [evaluateCutCoherence, computed, bind, Except.bind, reduceCtorEq, false_iff]
      intro coherent
      obtain ⟨spans, total⟩ := observationSpans_total_iff.mpr coherent.supported
      simp [computed] at total
  | ok spans =>
      have supported := observationSpans_total_iff.mp ⟨spans, computed⟩
      by_cases ordered : ProvidersObservedFirst (requiredAdjacency (requiredEdges cut)) spans
      · have closed := (providersObservedFirst_iff computed).mp ordered
        simp only [evaluateCutCoherence, computed, bind, Except.bind, inconsistentRequiredCycle_eq_none ordered,
          forall_edges_iff.mpr ordered]
        rw [forall_consumers_iff computed ordered]
        constructor
        · intro within
          exact {
            supported := supported
            endpoints := fun consumer provider requires => (closed consumer provider requires).1
            providersFirst := fun consumer provider requires => (closed consumer provider requires).2
            withinWindow := within }
        · exact CoherentBy.withinWindow
      · have late : (requiredEdges cut).forM (checkProviderOrder spans) ≠ .ok () :=
          fun checked => ordered (forall_edges_iff.mp checked)
        constructor
        · intro accepted
          simp only [evaluateCutCoherence, computed, bind, Except.bind] at accepted
          split at accepted
          next => simp at accepted
          next =>
            split at accepted
            next => simp at accepted
            next =>
              split at accepted
              next => simp at accepted
              next checked => exact absurd checked late
        · intro coherent
          refine absurd ((providersObservedFirst_iff computed).mpr ?_) ordered
          intro consumer provider requires
          exact ⟨coherent.endpoints consumer provider requires, coherent.providersFirst consumer provider requires⟩

/-! ## Cuts without repeated identities -/

structure UniqueIds (cut : ScopeCutBodyV1) : Prop where
  components : (cut.components.map ComponentV1.componentId).Nodup
  snapshots : (cut.sourceSnapshots.map SourceSnapshotV1.sourceSnapshotId).Nodup
  dependencies : (cut.dependencies.map DependencyV1.dependencyId).Nodup

/-- The instants of all snapshots cited by all entries of an identity. -/
def observedInstants (cut : ScopeCutBodyV1) (identifier : Identifier) : Set Instant :=
  { instant | ∃ component ∈ cut.components, component.componentId = identifier ∧
      ∃ snapshotId ∈ component.sourceSnapshotIds, ∃ snapshot ∈ cut.sourceSnapshots,
        snapshot.sourceSnapshotId = snapshotId ∧ snapshot.capturedAt = instant }

private theorem lastNamed_eq_some_iff {α : Type} {name : α → Identifier} {items : List α}
    (nodup : (items.map name).Nodup) {identifier : Identifier} {item : α} :
    lastNamed name items identifier = some item ↔ item ∈ items ∧ name item = identifier := by
  refine ⟨lastNamed_mem, ?_⟩
  rintro ⟨member, named⟩
  obtain ⟨other, found⟩ := lastNamed_isSome_iff.mpr ⟨item, member, named⟩
  obtain ⟨otherMember, otherNamed⟩ := lastNamed_mem found
  rw [found, List.inj_on_of_nodup_map nodup otherMember member (otherNamed.trans named.symm)]

theorem denotedInstants_eq_observedInstants (unique : UniqueIds cut) :
    denotedInstants cut = observedInstants cut := by
  funext identifier
  ext instant
  simp only [denotedInstants, citedInstants, observedInstants, lastNamed_eq_some_iff unique.components,
    lastNamed_eq_some_iff unique.snapshots, Set.mem_ofPred_eq, and_assoc]

/-- What the checker reads is the same in both cuts up to the order of every
array, those inside a component included. -/
structure Reordered (cut other : ScopeCutBodyV1) : Prop where
  snapshots : (cut.sourceSnapshots.map fun snapshot => (snapshot.sourceSnapshotId, snapshot.capturedAt)).Perm
    (other.sourceSnapshots.map fun snapshot => (snapshot.sourceSnapshotId, snapshot.capturedAt))
  components : (cut.components.map fun component =>
      (component.componentId, (component.sourceSnapshotIds : Multiset Identifier))).Perm
    (other.components.map fun component =>
      (component.componentId, (component.sourceSnapshotIds : Multiset Identifier)))
  dependencies : (cut.dependencies.map fun dependency => (dependency.dependencyId,
      dependency.consumerComponentId, dependency.providerComponentId, dependency.requirement)).Perm
    (other.dependencies.map fun dependency => (dependency.dependencyId,
      dependency.consumerComponentId, dependency.providerComponentId, dependency.requirement))

namespace Reordered

private theorem matching {α β : Type} {reading : α → β} {left right : List α}
    (permuted : (left.map reading).Perm (right.map reading)) {item : α} (member : item ∈ left) :
    ∃ image ∈ right, reading image = reading item :=
  List.mem_map.mp (permuted.mem_iff.mp (List.mem_map_of_mem member))

private theorem cites_iff {left right : ComponentV1}
    (same : (left.sourceSnapshotIds : Multiset Identifier) = right.sourceSnapshotIds) {snapshotId : Identifier} :
    snapshotId ∈ left.sourceSnapshotIds ↔ snapshotId ∈ right.sourceSnapshotIds :=
  (Multiset.coe_eq_coe.mp same).mem_iff

variable {cut other : ScopeCutBodyV1} (reordered : Reordered cut other)

include reordered

theorem symm : Reordered other cut :=
  ⟨reordered.snapshots.symm, reordered.components.symm, reordered.dependencies.symm⟩

theorem uniqueIds (unique : UniqueIds cut) : UniqueIds other where
  components := by
    have permuted := reordered.components.map Prod.fst
    rw [List.map_map, List.map_map] at permuted
    exact permuted.nodup_iff.mp unique.components
  snapshots := by
    have permuted := reordered.snapshots.map Prod.fst
    rw [List.map_map, List.map_map] at permuted
    exact permuted.nodup_iff.mp unique.snapshots
  dependencies := by
    have permuted := reordered.dependencies.map Prod.fst
    rw [List.map_map, List.map_map] at permuted
    exact permuted.nodup_iff.mp unique.dependencies

theorem requires {consumer provider : Identifier}
    (required : Requires cut consumer provider) : Requires other consumer provider := by
  obtain ⟨dependency, member, requirement, rfl, rfl⟩ := required
  obtain ⟨image, imageMember, same⟩ := matching reordered.dependencies member
  simp only [Prod.mk.injEq] at same
  obtain ⟨_, consumer_eq, provider_eq, requirement_eq⟩ := same
  exact ⟨image, imageMember, requirement_eq.trans requirement, consumer_eq, provider_eq⟩

theorem listed {identifier : Identifier}
    (component : ∃ component ∈ cut.components, component.componentId = identifier) :
    ∃ component ∈ other.components, component.componentId = identifier := by
  obtain ⟨component, member, rfl⟩ := component
  obtain ⟨image, imageMember, same⟩ := matching reordered.components member
  exact ⟨image, imageMember, (Prod.mk.inj same).1⟩

theorem observedInstants_subset (identifier : Identifier) :
    observedInstants cut identifier ⊆ observedInstants other identifier := by
  rintro instant ⟨component, member, rfl, snapshotId, cited, snapshot, snapshotMember, rfl, rfl⟩
  obtain ⟨image, imageMember, same⟩ := matching reordered.components member
  obtain ⟨snapshotImage, snapshotImageMember, snapshotSame⟩ := matching reordered.snapshots snapshotMember
  simp only [Prod.mk.injEq] at same snapshotSame
  exact ⟨image, imageMember, same.1, snapshot.sourceSnapshotId, (cites_iff same.2).mpr cited,
    snapshotImage, snapshotImageMember, snapshotSame.1, snapshotSame.2⟩

theorem supported (all : ∀ component ∈ cut.components, Supported cut component) :
    ∀ component ∈ other.components, Supported other component := by
  intro component member
  obtain ⟨image, imageMember, same⟩ := matching reordered.symm.components member
  obtain ⟨nonempty, known⟩ := all image imageMember
  have cited := (Prod.mk.inj same).2
  refine ⟨?_, ?_⟩
  · intro empty
    obtain ⟨snapshotId, snapshotMember⟩ := List.exists_mem_of_ne_nil _ nonempty
    simpa [empty] using (cites_iff cited).mp snapshotMember
  · intro snapshotId snapshotMember
    obtain ⟨snapshot, listed, rfl⟩ := known snapshotId ((cites_iff cited).mpr snapshotMember)
    obtain ⟨snapshotImage, snapshotImageMember, snapshotSame⟩ := matching reordered.snapshots listed
    exact ⟨snapshotImage, snapshotImageMember, (Prod.mk.inj snapshotSame).1⟩

theorem coherent (coherent : CoherentBy cut (observedInstants cut) window) :
    CoherentBy other (observedInstants other) window := by
  have requires_eq : Requires other = Requires cut := by
    funext consumer provider
    exact propext ⟨reordered.symm.requires, reordered.requires⟩
  have observed_eq : observedInstants other = observedInstants cut := by
    funext identifier
    exact (reordered.symm.observedInstants_subset identifier).antisymm (reordered.observedInstants_subset identifier)
  have closure_eq : closureInstants other (observedInstants other) = closureInstants cut (observedInstants cut) := by
    funext root
    simp only [closureInstants, InClosure, requires_eq, observed_eq]
  refine {
    supported := reordered.supported coherent.supported
    endpoints := ?_
    providersFirst := ?_
    withinWindow := ?_ }
  · intro consumer provider required
    obtain ⟨consumerListed, providerListed⟩ := coherent.endpoints consumer provider (reordered.symm.requires required)
    exact ⟨reordered.listed consumerListed, reordered.listed providerListed⟩
  · intro consumer provider required
    rw [observed_eq]
    exact coherent.providersFirst consumer provider (reordered.symm.requires required)
  · rintro root ⟨provider, required⟩
    rw [closure_eq]
    exact coherent.withinWindow root ⟨provider, reordered.symm.requires required⟩

end Reordered

/-- The checker accepts a cut with unique identities exactly when it is coherent
in whole seconds. The cycle check refuses no such cut, incidental dependencies
leave the result alone and reordering leaves the verdict alone. -/
theorem evaluateCutCoherence_accepts_iff_coherent (cut : ScopeCutBodyV1) (window : UInt64)
    (unique : UniqueIds cut) :
    (evaluateCutCoherence cut (.requiredObservationV1 window) = .ok () ↔
        CoherentBy cut (observedInstants cut) window) ∧
      (CoherentBy cut (observedInstants cut) window → ∀ spans, observationSpans cut = .ok spans →
        inconsistentRequiredCycle (requiredAdjacency (requiredEdges cut)) spans = .ok none) ∧
      (∀ dependencies : List DependencyV1,
        (dependencies.filter fun dependency => dependency.requirement = .required) =
          (cut.dependencies.filter fun dependency => dependency.requirement = .required) →
        evaluateCutCoherence { cut with dependencies := dependencies } (.requiredObservationV1 window) =
          evaluateCutCoherence cut (.requiredObservationV1 window)) ∧
      (∀ other, Reordered cut other →
        (evaluateCutCoherence other (.requiredObservationV1 window) = .ok () ↔
          evaluateCutCoherence cut (.requiredObservationV1 window) = .ok ())) := by
  have accepts : evaluateCutCoherence cut (.requiredObservationV1 window) = .ok () ↔
      CoherentBy cut (observedInstants cut) window := by
    rw [evaluateCutCoherence_eq_ok_iff, denotedInstants_eq_observedInstants unique]
  refine ⟨accepts, ?_, ?_, ?_⟩
  · intro coherent spans computed
    rw [← denotedInstants_eq_observedInstants unique] at coherent
    refine inconsistentRequiredCycle_eq_none ((providersObservedFirst_iff computed).mpr ?_)
    intro consumer provider requires
    exact ⟨coherent.endpoints consumer provider requires, coherent.providersFirst consumer provider requires⟩
  · intro dependencies same
    have edges : requiredEdges { cut with dependencies := dependencies } = requiredEdges cut := by
      simp only [requiredEdges, same]
    have spans : observationSpans { cut with dependencies := dependencies } = observationSpans cut := rfl
    simp only [evaluateCutCoherence, edges, spans]
  · intro other reordered
    rw [accepts, evaluateCutCoherence_eq_ok_iff, denotedInstants_eq_observedInstants (reordered.uniqueIds unique)]
    exact ⟨reordered.symm.coherent, reordered.coherent⟩

def zeroDigest : Protocol.Sha256Digest :=
  ⟨"sha256:0000000000000000000000000000000000000000000000000000000000000000", by decide⟩

def instantAt (secs frac : Nat) : Instant where
  day := 0
  secs := secs % 86400
  frac := frac % 1000000000
  minDay_le := by decide
  le_maxDay := by decide
  secs_lt := by omega
  frac_lt := by omega
  leap := by omega

/-! Identifiers that the cuts below and those of later modules share. -/

namespace Sample

def cutId : Identifier := ⟨"cut", by decide⟩
def spec : Identifier := ⟨"spec", by decide⟩
def operator : Identifier := ⟨"operator", by decide⟩
def host : Identifier := ⟨"host", by decide⟩
def service : Identifier := ⟨"service", by decide⟩

end Sample

def pairCut (consumerAt providerAt : Instant) : ScopeCutBodyV1 where
  cutId := Sample.cutId
  sourceSpec := { specId := Sample.spec, revision := 1, specDigest := zeroDigest }
  ratification := {
    ratifiedBy := Sample.operator
    ratifiedAt := consumerAt
    ratifiedProposalDigest := zeroDigest
    ratificationRecordDigest := zeroDigest }
  system := {
    systemId := ⟨"system", by decide⟩
    title := "system"
    targetIds := [⟨"t", by decide⟩]
    componentIds := [⟨"a", by decide⟩, ⟨"b", by decide⟩]
    dependencyIds := [⟨"d", by decide⟩]
    observationObligationIds := []
    sourceSnapshotIds := [⟨"sa", by decide⟩, ⟨"sb", by decide⟩] }
  sourceSnapshots := [
    { sourceSnapshotId := ⟨"sa", by decide⟩, kind := .operatorAuthored, contentDigest := zeroDigest
      capturedAt := consumerAt, provenance := "" },
    { sourceSnapshotId := ⟨"sb", by decide⟩, kind := .operatorAuthored, contentDigest := zeroDigest
      capturedAt := providerAt, provenance := "" }]
  targets := [
    { targetId := ⟨"t", by decide⟩, targetClass := Sample.host, targetIdentityDigest := zeroDigest
      sourceSnapshotIds := [⟨"sa", by decide⟩] }]
  components := [
    { componentId := ⟨"a", by decide⟩, kind := Sample.service, hostedOn := ⟨"t", by decide⟩
      sourceSnapshotIds := [⟨"sa", by decide⟩] },
    { componentId := ⟨"b", by decide⟩, kind := Sample.service, hostedOn := ⟨"t", by decide⟩
      sourceSnapshotIds := [⟨"sb", by decide⟩] }]
  dependencies := [
    { dependencyId := ⟨"d", by decide⟩, consumerComponentId := ⟨"a", by decide⟩
      providerComponentId := ⟨"b", by decide⟩, requirement := .required
      sourceSnapshotIds := [⟨"sa", by decide⟩] }]
  observationObligations := []
  authority := .none

theorem pairCut_uniqueIds (consumerAt providerAt : Instant) : UniqueIds (pairCut consumerAt providerAt) := by
  constructor <;> simp only [pairCut, List.map_cons, List.map_nil] <;> decide

theorem pairCut_coherent :
    CoherentBy (pairCut (instantAt 5 0) (instantAt 3 0))
      (observedInstants (pairCut (instantAt 5 0) (instantAt 3 0))) 2 :=
  (evaluateCutCoherence_accepts_iff_coherent _ 2 (pairCut_uniqueIds _ _)).1.mp (by decide)

end ConstellationNq.SystemContract
