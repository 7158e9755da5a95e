import ConstellationNq.SystemContract.ClosureProperties
import Mathlib.Order.Bounds.Basic

/-!
# What the checker reads from a cut

The required graph as a relation on component identities, and the instants a
component is observed at. An identity that occurs twice denotes its last
entry, as in the checker's maps.
-/

set_option autoImplicit false

namespace ConstellationNq.SystemContract

open Library
open Std (TreeMap TreeSet LawfulEqCmp)

theorem Identifier.ext_text {left right : Identifier} (same : left.text = right.text) : left = right := by
  cases left
  cases right
  cases same
  rfl

/-! ## The required graph -/

def Requires (cut : ScopeCutBodyV1) (consumer provider : Identifier) : Prop :=
  ∃ dependency ∈ cut.dependencies, dependency.requirement = .required ∧
    dependency.consumerComponentId = consumer ∧ dependency.providerComponentId = provider

def Consumes (cut : ScopeCutBodyV1) (consumer : Identifier) : Prop :=
  ∃ provider, Requires cut consumer provider

def InClosure (cut : ScopeCutBodyV1) (root member : Identifier) : Prop :=
  Relation.ReflTransGen (Requires cut) root member

variable {cut : ScopeCutBodyV1} {consumer : String}

theorem mem_requiredEdges_iff {provider : String} :
    (∃ edge ∈ requiredEdges cut, edge.consumer = consumer ∧ edge.provider = provider) ↔
      ∃ left right, Requires cut left right ∧ left.text = consumer ∧ right.text = provider := by
  simp only [requiredEdges, List.mem_insertionSort, List.mem_map, List.mem_filter, decide_eq_true_eq]
  constructor
  · rintro ⟨_, ⟨dependency, ⟨member, required⟩, rfl⟩, rfl, rfl⟩
    exact ⟨_, _, ⟨dependency, member, required, rfl, rfl⟩, rfl, rfl⟩
  · rintro ⟨_, _, ⟨dependency, member, required, rfl, rfl⟩, rfl, rfl⟩
    exact ⟨_, ⟨dependency, ⟨member, required⟩, rfl⟩, rfl, rfl⟩

private theorem foldl_adjacency (edges : List RequiredEdge) (adjacency : Adjacency) (consumer : String) :
    (edges.foldl (fun adjacency edge =>
        adjacency.insert edge.consumer (adjacency.getD edge.consumer [] ++ [edge.provider])) adjacency).getD
        consumer [] =
      adjacency.getD consumer [] ++ (edges.filter fun edge => edge.consumer = consumer).map RequiredEdge.provider := by
  induction edges generalizing adjacency with
  | nil => simp
  | cons edge edges ih =>
      rw [List.foldl_cons, ih, TreeMap.getD_insert]
      by_cases same : edge.consumer = consumer <;> simp [same]

variable {edges : List RequiredEdge}

theorem mem_requiredAdjacency_iff {provider : String} :
    provider ∈ (requiredAdjacency edges).getD consumer [] ↔
      ∃ edge ∈ edges, edge.consumer = consumer ∧ edge.provider = provider := by
  rw [requiredAdjacency, foldl_adjacency]
  simp only [TreeMap.getD_emptyc, List.nil_append, List.mem_map, List.mem_filter, decide_eq_true_eq, and_assoc]

private theorem mem_foldl_adjacency {adjacency : Adjacency} :
    consumer ∈ edges.foldl (fun adjacency edge =>
        adjacency.insert edge.consumer (adjacency.getD edge.consumer [] ++ [edge.provider])) adjacency ↔
      consumer ∈ adjacency ∨ ∃ edge ∈ edges, edge.consumer = consumer := by
  induction edges generalizing adjacency with
  | nil => simp
  | cons edge edges ih =>
      rw [List.foldl_cons, ih, TreeMap.mem_insert, LawfulEqCmp.compare_eq_iff_eq]
      simp only [List.mem_cons, exists_eq_or_imp]
      constructor
      · rintro ((same | member) | later)
        · exact Or.inr (Or.inl same)
        · exact Or.inl member
        · exact Or.inr (Or.inr later)
      · rintro (member | same | later)
        · exact Or.inl (Or.inr member)
        · exact Or.inl (Or.inl same)
        · exact Or.inr later

theorem mem_keys_requiredAdjacency_iff :
    consumer ∈ (requiredAdjacency edges).keys ↔ ∃ edge ∈ edges, edge.consumer = consumer := by
  rw [TreeMap.mem_keys, requiredAdjacency, mem_foldl_adjacency]
  simp

theorem edge_iff_requires {provider : String} :
    provider ∈ (requiredAdjacency (requiredEdges cut)).getD consumer [] ↔
      ∃ left right, Requires cut left right ∧ left.text = consumer ∧ right.text = provider := by
  rw [mem_requiredAdjacency_iff, mem_requiredEdges_iff]

theorem mem_consumers_iff :
    consumer ∈ (requiredAdjacency (requiredEdges cut)).keys ↔
      ∃ identifier, Consumes cut identifier ∧ identifier.text = consumer := by
  rw [mem_keys_requiredAdjacency_iff]
  constructor
  · rintro ⟨edge, member, same⟩
    obtain ⟨left, right, requires, leftText, _⟩ := mem_requiredEdges_iff.mp ⟨edge, member, same, rfl⟩
    exact ⟨left, ⟨right, requires⟩, leftText⟩
  · rintro ⟨identifier, ⟨provider, requires⟩, same⟩
    obtain ⟨edge, member, consumer_eq, _⟩ := mem_requiredEdges_iff.mpr ⟨_, _, requires, same, rfl⟩
    exact ⟨edge, member, consumer_eq⟩

theorem reaches_iff_inClosure {root : Identifier} {member : String} :
    Reaches (requiredAdjacency (requiredEdges cut)) root.text member ↔
      ∃ identifier, InClosure cut root identifier ∧ identifier.text = member := by
  constructor
  · intro reached
    induction reached with
    | refl => exact ⟨root, .refl, rfl⟩
    | tail _ edge ih =>
        obtain ⟨middle, closed, middleText⟩ := ih
        obtain ⟨left, right, requires, leftText, rightText⟩ := edge_iff_requires.mp edge
        obtain rfl := Identifier.ext_text (leftText.trans middleText.symm)
        exact ⟨right, closed.tail requires, rightText⟩
  · rintro ⟨identifier, closed, rfl⟩
    induction closed with
    | refl => exact .refl
    | tail _ requires ih => exact ih.tail (edge_iff_requires.mpr ⟨_, _, requires, rfl, rfl⟩)

/-! ## Observed instants -/

variable {α : Type}

/-- The entry an identity denotes: the last one listed under it. -/
def lastNamed (name : α → Identifier) (items : List α) (identifier : Identifier) : Option α :=
  items.reverse.find? fun item => name item = identifier

def citedInstants (cut : ScopeCutBodyV1) (component : ComponentV1) : Set Instant :=
  { instant | ∃ snapshotId ∈ component.sourceSnapshotIds, ∃ snapshot,
      lastNamed SourceSnapshotV1.sourceSnapshotId cut.sourceSnapshots snapshotId = some snapshot ∧
        snapshot.capturedAt = instant }

/-- The instants a component identity is observed at. -/
def denotedInstants (cut : ScopeCutBodyV1) (identifier : Identifier) : Set Instant :=
  { instant | ∃ component, lastNamed ComponentV1.componentId cut.components identifier = some component ∧
      instant ∈ citedInstants cut component }

/-- A component entry cites at least one snapshot and only listed ones. -/
def Supported (cut : ScopeCutBodyV1) (component : ComponentV1) : Prop :=
  component.sourceSnapshotIds ≠ [] ∧ ∀ snapshotId ∈ component.sourceSnapshotIds,
    ∃ snapshot ∈ cut.sourceSnapshots, snapshot.sourceSnapshotId = snapshotId

/-- A span is the least and the greatest of a set of instants. -/
def ObservationSpan.Covers (span : ObservationSpan) (instants : Set Instant) : Prop :=
  IsLeast instants span.earliest ∧ IsGreatest instants span.latest

theorem ObservationSpan.Covers.union {left right : ObservationSpan} {leftInstants rightInstants : Set Instant}
    (leftCovers : left.Covers leftInstants) (rightCovers : right.Covers rightInstants) :
    ObservationSpan.Covers { earliest := min left.earliest right.earliest, latest := max left.latest right.latest }
      (leftInstants ∪ rightInstants) :=
  ⟨leftCovers.1.union rightCovers.1, leftCovers.2.union rightCovers.2⟩

theorem ObservationSpan.covers_singleton (instant : Instant) :
    ObservationSpan.Covers { earliest := instant, latest := instant } {instant} :=
  ⟨isLeast_singleton, isGreatest_singleton⟩

private theorem lastNamed_cons (name : α → Identifier) (item : α) (items : List α) (identifier : Identifier) :
    lastNamed name (item :: items) identifier =
      (lastNamed name items identifier).or (if name item = identifier then some item else none) := by
  simp [lastNamed, List.find?_append]

theorem lastNamed_mem {name : α → Identifier} {items : List α} {identifier : Identifier} {item : α}
    (found : lastNamed name items identifier = some item) : item ∈ items ∧ name item = identifier := by
  refine ⟨List.mem_reverse.mp (List.mem_of_find?_eq_some found), ?_⟩
  simpa using List.find?_some found

theorem lastNamed_isSome_iff {name : α → Identifier} {items : List α} {identifier : Identifier} :
    (∃ item, lastNamed name items identifier = some item) ↔ ∃ item ∈ items, name item = identifier := by
  constructor
  · rintro ⟨item, found⟩
    exact ⟨item, lastNamed_mem found⟩
  · rintro ⟨item, member, named⟩
    rw [← Option.isSome_iff_exists, lastNamed, List.find?_isSome]
    exact ⟨item, List.mem_reverse.mpr member, by simpa using named⟩

/-- A map filled in list order holds the entry each identity denotes. -/
private theorem foldl_insert_lastNamed {β : Type} (name : α → Identifier) (value : α → β) (items : List α)
    (table : TreeMap String β) (identifier : Identifier) :
    (items.foldl (fun table item => table.insert (name item).text (value item)) table)[identifier.text]? =
      ((lastNamed name items identifier).map value).or table[identifier.text]? := by
  induction items generalizing table with
  | nil => simp [lastNamed]
  | cons item items ih =>
      rw [List.foldl_cons, ih, lastNamed_cons, TreeMap.getElem?_insert]
      by_cases same : name item = identifier
      · cases lastNamed name items identifier <;> simp [same]
      · have distinct : (name item).text ≠ identifier.text := fun text => same (Identifier.ext_text text)
        cases lastNamed name items identifier <;> simp [same, distinct]

theorem getElem?_capturedInstants (cut : ScopeCutBodyV1) (snapshotId : Identifier) :
    (capturedInstants cut)[snapshotId.text]? =
      (lastNamed SourceSnapshotV1.sourceSnapshotId cut.sourceSnapshots snapshotId).map SourceSnapshotV1.capturedAt := by
  rw [capturedInstants, foldl_insert_lastNamed]
  simp

/-- The accumulator of a component's loop over its snapshots. -/
private def CoversAccumulated : Option ObservationSpan → Set Instant → Prop
  | none, instants => instants = ∅
  | some span, instants => span.Covers instants

variable {span : Option ObservationSpan}

private theorem coversAccumulated_include {instants : Set Instant} (covers : CoversAccumulated span instants)
    (capturedAt : Instant) :
    CoversAccumulated (some (ObservationSpan.include span capturedAt)) (instants ∪ {capturedAt}) := by
  have single := ObservationSpan.covers_singleton capturedAt
  cases span with
  | none =>
      simp only [CoversAccumulated] at covers
      simpa only [CoversAccumulated, ObservationSpan.include, covers, Set.empty_union] using single
  | some span =>
      simp only [CoversAccumulated] at covers
      simpa only [CoversAccumulated, ObservationSpan.include] using covers.union single

private def lookedUp (captured : TreeMap String Instant) (snapshotIds : List Identifier) : Set Instant :=
  { instant | ∃ snapshotId ∈ snapshotIds, captured[snapshotId.text]? = some instant }

variable {captured : TreeMap String Instant} {snapshotIds : List Identifier}

private theorem lookedUp_cons {snapshotId : Identifier} {capturedAt : Instant}
    (found : captured[snapshotId.text]? = some capturedAt) :
    lookedUp captured (snapshotId :: snapshotIds) = {capturedAt} ∪ lookedUp captured snapshotIds := by
  ext instant
  simp [lookedUp, found, eq_comm]

private theorem foldlM_includeSnapshot (component : ComponentV1)
    (known : ∀ snapshotId ∈ snapshotIds, ∃ instant, captured[snapshotId.text]? = some instant)
    {instants : Set Instant} (covers : CoversAccumulated span instants) :
    ∃ result, snapshotIds.foldlM (includeSnapshot captured component) span = .ok result ∧
      CoversAccumulated result (instants ∪ lookedUp captured snapshotIds) := by
  induction snapshotIds generalizing span instants with
  | nil => exact ⟨span, rfl, by simpa [lookedUp] using covers⟩
  | cons snapshotId snapshotIds ih =>
      obtain ⟨capturedAt, found⟩ := known snapshotId List.mem_cons_self
      obtain ⟨result, folded, resultCovers⟩ := ih (fun other member => known other (List.mem_cons_of_mem _ member))
        (coversAccumulated_include covers capturedAt)
      refine ⟨result, ?_, ?_⟩
      · simpa only [List.foldlM_cons, includeSnapshot, found, bind, Except.bind] using folded
      · rwa [lookedUp_cons found, ← Set.union_assoc]

variable {component : ComponentV1}

private theorem known_of_foldlM {result : Option ObservationSpan}
    (folded : snapshotIds.foldlM (includeSnapshot captured component) span = .ok result) :
    ∀ snapshotId ∈ snapshotIds, ∃ instant, captured[snapshotId.text]? = some instant := by
  induction snapshotIds generalizing span with
  | nil => simp
  | cons snapshotId snapshotIds ih =>
      rw [List.foldlM_cons] at folded
      cases found : captured[snapshotId.text]? with
      | none => simp [includeSnapshot, found, bind, Except.bind] at folded
      | some capturedAt =>
          simp only [includeSnapshot, found, bind, Except.bind] at folded
          intro other member
          rcases List.mem_cons.mp member with rfl | member
          · exact ⟨capturedAt, found⟩
          · exact ih folded other member

private theorem lookedUp_capturedInstants (cut : ScopeCutBodyV1) (component : ComponentV1) :
    lookedUp (capturedInstants cut) component.sourceSnapshotIds = citedInstants cut component := by
  ext instant
  simp only [lookedUp, citedInstants, getElem?_capturedInstants, Option.map_eq_some_iff, Set.mem_ofPred_eq]

private theorem captured_iff_listed {snapshotId : Identifier} :
    (∃ instant, (capturedInstants cut)[snapshotId.text]? = some instant) ↔
      ∃ snapshot ∈ cut.sourceSnapshots, snapshot.sourceSnapshotId = snapshotId := by
  rw [← lastNamed_isSome_iff, getElem?_capturedInstants]
  constructor
  · rintro ⟨instant, found⟩
    obtain ⟨snapshot, named, _⟩ := Option.map_eq_some_iff.mp found
    exact ⟨snapshot, named⟩
  · rintro ⟨snapshot, named⟩
    exact ⟨snapshot.capturedAt, Option.map_eq_some_iff.mpr ⟨snapshot, named, rfl⟩⟩

theorem componentSpan_of_supported (supported : Supported cut component) :
    ∃ span, componentSpan (capturedInstants cut) component = .ok span ∧
      span.Covers (citedInstants cut component) := by
  obtain ⟨nonempty, listed⟩ := supported
  obtain ⟨result, folded, covers⟩ := foldlM_includeSnapshot component
    (fun snapshotId member => captured_iff_listed.mpr (listed snapshotId member))
    (show CoversAccumulated none ∅ from rfl)
  rw [Set.empty_union, lookedUp_capturedInstants] at covers
  cases result with
  | none =>
      obtain ⟨snapshotId, member⟩ := List.exists_mem_of_ne_nil _ nonempty
      obtain ⟨instant, found⟩ := captured_iff_listed.mpr (listed snapshotId member)
      have cited : instant ∈ citedInstants cut component := by
        rw [← lookedUp_capturedInstants]
        exact ⟨snapshotId, member, found⟩
      exact absurd cited (by simp [show citedInstants cut component = ∅ from covers])
  | some span => exact ⟨span, by simp [componentSpan, folded, bind, Except.bind], covers⟩

theorem supported_of_componentSpan {span : ObservationSpan}
    (computed : componentSpan (capturedInstants cut) component = .ok span) : Supported cut component := by
  cases folded : component.sourceSnapshotIds.foldlM (includeSnapshot (capturedInstants cut) component) none with
  | error failure => simp [componentSpan, folded, bind, Except.bind] at computed
  | ok result =>
      refine ⟨?_, ?_⟩
      · intro empty
        rw [empty] at folded
        cases folded
        simp [componentSpan, empty, bind, Except.bind, pure, Except.pure] at computed
      · intro snapshotId member
        exact captured_iff_listed.mp (known_of_foldlM folded snapshotId member)

private theorem foldlM_spans {components : List ComponentV1} {spans result : TreeMap String ObservationSpan}
    (folded : components.foldlM (includeComponent captured) spans = .ok result) :
    (∀ component ∈ components, ∃ span, componentSpan captured component = .ok span) ∧
      ∀ identifier : Identifier, result[identifier.text]? =
        ((lastNamed ComponentV1.componentId components identifier).bind fun component =>
          (componentSpan captured component).toOption).or spans[identifier.text]? := by
  induction components generalizing spans with
  | nil =>
      cases folded
      simp [lastNamed]
  | cons component components ih =>
      rw [List.foldlM_cons] at folded
      cases computed : componentSpan captured component with
      | error failure => simp [includeComponent, computed, bind, Except.bind] at folded
      | ok span =>
          simp only [includeComponent, computed, bind, Except.bind, pure, Except.pure] at folded
          obtain ⟨rest, lookups⟩ := ih folded
          refine ⟨List.forall_mem_cons.mpr ⟨⟨span, computed⟩, rest⟩, ?_⟩
          intro identifier
          rw [lookups identifier, lastNamed_cons, TreeMap.getElem?_insert]
          cases found : lastNamed ComponentV1.componentId components identifier with
          | none =>
              by_cases same : component.componentId = identifier
              · simp [same, computed, Except.toOption]
              · have distinct : component.componentId.text ≠ identifier.text :=
                  fun text => same (Identifier.ext_text text)
                simp [same, distinct]
          | some last =>
              obtain ⟨lastSpan, lastComputed⟩ := rest last (lastNamed_mem found).1
              simp [lastComputed, Except.toOption]

/-- The spans exist exactly when every component entry is supported. -/
theorem observationSpans_total_iff :
    (∃ spans, observationSpans cut = .ok spans) ↔ ∀ component ∈ cut.components, Supported cut component := by
  constructor
  · rintro ⟨spans, computed⟩ component member
    obtain ⟨span, componentComputed⟩ := (foldlM_spans computed).1 component member
    exact supported_of_componentSpan componentComputed
  · intro supported
    have round (component : ComponentV1) (member : component ∈ cut.components)
        (spans : TreeMap String ObservationSpan) (_ : True) :
        ∃ next, includeComponent (capturedInstants cut) spans component = .ok next ∧ True := by
      obtain ⟨span, computed, _⟩ := componentSpan_of_supported (supported component member)
      refine ⟨spans.insert component.componentId.text span, ?_, trivial⟩
      simp [includeComponent, computed, bind, Except.bind, pure, Except.pure]
    obtain ⟨spans, computed, _⟩ := Loop.foldlM_total (fun _ => True) round trivial
    exact ⟨spans, computed⟩

/-- An identity has a span exactly when a component is listed under it, and the
span covers the instants the identity is observed at. -/
theorem observationSpans_spec {spans : TreeMap String ObservationSpan} (computed : observationSpans cut = .ok spans)
    (identifier : Identifier) :
    ((∃ span, spans[identifier.text]? = some span) ↔
        ∃ component ∈ cut.components, component.componentId = identifier) ∧
      ∀ span, spans[identifier.text]? = some span → span.Covers (denotedInstants cut identifier) := by
  obtain ⟨all, lookups⟩ := foldlM_spans computed
  have lookup := lookups identifier
  rw [← lastNamed_isSome_iff]
  cases found : lastNamed ComponentV1.componentId cut.components identifier with
  | none => simp [lookup, found]
  | some component =>
      obtain ⟨span, componentComputed⟩ := all component (lastNamed_mem found).1
      have spanned : spans[identifier.text]? = some span := by
        simp [lookup, found, componentComputed, Except.toOption]
      refine ⟨⟨fun _ => ⟨component, rfl⟩, fun _ => ⟨span, spanned⟩⟩, ?_⟩
      intro other otherSpanned
      obtain rfl := Option.some.inj (spanned.symm.trans otherSpanned)
      obtain ⟨covering, coveringComputed, covers⟩ :=
        componentSpan_of_supported (supported_of_componentSpan componentComputed)
      obtain rfl := Except.ok.inj (coveringComputed.symm.trans componentComputed)
      have same : denotedInstants cut identifier = citedInstants cut component := by
        ext instant
        simp [denotedInstants, found]
      rwa [same]

end ConstellationNq.SystemContract
