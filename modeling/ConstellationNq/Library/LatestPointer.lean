import Mathlib.Data.List.Nodup
import Mathlib.Data.List.MinMax
import Mathlib.Order.Lattice

/-!
# Pointers to the latest event

Events belong to a key and are ordered within it; a pointer names, for its key,
the identity of an event. Two ways to say that the pointers are current: every
event has a pointer that selects an event at least as late, or every pointer
selects the latest event of its key and every event has a pointer. They differ
in the pointers whose key has no event.
-/

set_option autoImplicit false

namespace ConstellationNq.Library.LatestPointer

universe u v w x

variable {Event : Type u} {Pointer : Type v} {Key : Type w} {Id : Type x}

/-- How events and pointers name each other. -/
structure Naming (Event : Type u) (Pointer : Type v) (Key : Type w) (Id : Type x) where
  identity : Event → Id
  key : Event → Key
  order : Event → Int
  owner : Pointer → Key
  target : Pointer → Id

variable [DecidableEq Key] [DecidableEq Id] (naming : Naming Event Pointer Key Id)

namespace Naming

/-- A pointer of the event's key selects an event of that key at least as late. -/
def Selected (events : List Event) (pointers : List Pointer) (event : Event) : Prop :=
  ∃ pointer ∈ pointers, naming.owner pointer = naming.key event ∧
    ∃ selected ∈ events, naming.identity selected = naming.target pointer ∧
      naming.key selected = naming.key event ∧ naming.order event ≤ naming.order selected

/-- The latest position among the events of a key. -/
def latest (events : List Event) (key : Key) : Option Int :=
  ((events.filter fun event => naming.key event = key).map naming.order).max?

/-- The pointer selects no event, an event of another key, or not the latest one. -/
def misled (events : List Event) (pointer : Pointer) : Bool :=
  match events.find? fun event => naming.identity event = naming.target pointer with
  | none => true
  | some selected =>
      naming.key selected ≠ naming.owner pointer ||
        match naming.latest events (naming.owner pointer) with
        | none => false
        | some latest => naming.order selected ≠ latest

/-- The pointer's key has an event. -/
def Owned (events : List Event) (pointer : Pointer) : Prop :=
  ∃ event ∈ events, naming.key event = naming.owner pointer

/-- No pointer belongs to the event's key. -/
def unpointed (pointers : List Pointer) (event : Event) : Bool :=
  !pointers.any fun pointer => naming.owner pointer = naming.key event

variable {naming} {events : List Event} {pointers : List Pointer}

omit [DecidableEq Id] in
theorem unpointed_eq_false {event : Event} :
    naming.unpointed pointers event = false ↔ ∃ pointer ∈ pointers, naming.owner pointer = naming.key event := by
  simp [unpointed]

theorem misled_eq_false {pointer : Pointer} :
    naming.misled events pointer = false ↔ ∃ selected,
      events.find? (fun event => naming.identity event = naming.target pointer) = some selected ∧
        naming.key selected = naming.owner pointer ∧
        ∀ event ∈ events, naming.key event = naming.owner pointer → naming.order event ≤ naming.order selected := by
  unfold misled
  cases found : events.find? fun event => naming.identity event = naming.target pointer with
  | none => simp
  | some selected =>
      have member := List.mem_of_find?_eq_some found
      simp only [Bool.or_eq_false_iff, decide_eq_false_iff_not, not_not, Option.some.injEq, exists_eq_left']
      refine and_congr_right fun own => ?_
      cases top : naming.latest events (naming.owner pointer) with
      | none =>
          rw [latest, List.max?_eq_none_iff, List.map_eq_nil_iff, List.filter_eq_nil_iff] at top
          exact absurd (decide_eq_true own) (top selected member)
      | some last =>
          obtain ⟨attained, bound⟩ := List.max?_eq_some_iff.mp top
          simp only [decide_eq_false_iff_not, not_not]
          constructor
          · rintro rfl event listed same
            exact bound _ (List.mem_map.mpr ⟨event, List.mem_filter.mpr ⟨listed, decide_eq_true same⟩, rfl⟩)
          · intro above
            obtain ⟨event, listed, rfl⟩ := List.mem_map.mp attained
            obtain ⟨stored, same⟩ := List.mem_filter.mp listed
            refine le_antisymm (bound _ ?_) (above event stored (of_decide_eq_true same))
            exact List.mem_map.mpr ⟨selected, List.mem_filter.mpr ⟨member, decide_eq_true own⟩, rfl⟩

theorem owned_of_misled {pointer : Pointer} (correct : naming.misled events pointer = false) :
    naming.Owned events pointer := by
  obtain ⟨selected, found, own, _⟩ := misled_eq_false.mp correct
  exact ⟨selected, List.mem_of_find?_eq_some found, own⟩

theorem misled_of_selected (identities : (events.map naming.identity).Nodup)
    (owners : (pointers.map naming.owner).Nodup)
    (selected : ∀ event ∈ events, naming.Selected events pointers event) {pointer : Pointer}
    (member : pointer ∈ pointers) (owned : naming.Owned events pointer) : naming.misled events pointer = false := by
  obtain ⟨event, stored, own⟩ := owned
  rw [misled_eq_false]
  -- the pointer that selects an event of this key is the only one of the key
  have mine (other : Event) (listed : other ∈ events) (same : naming.key other = naming.owner pointer) :
      ∃ target ∈ events, naming.identity target = naming.target pointer ∧
        naming.key target = naming.owner pointer ∧ naming.order other ≤ naming.order target := by
    obtain ⟨chosen, chosenMember, owner, target, targetMember, identity, key, le⟩ := selected other listed
    obtain rfl := List.inj_on_of_nodup_map owners chosenMember member (owner.trans same)
    exact ⟨target, targetMember, identity, key.trans same, le⟩
  obtain ⟨target, targetMember, identity, key, _⟩ := mine event stored own
  obtain ⟨found, search⟩ : ∃ found, events.find? (fun event => naming.identity event = naming.target pointer) =
      some found := by
    rw [← Option.isSome_iff_exists, List.find?_isSome]
    exact ⟨target, targetMember, decide_eq_true identity⟩
  have unique (other : Event) (listed : other ∈ events) (same : naming.identity other = naming.target pointer) :
      other = found := by
    have hit : naming.identity found = naming.target pointer := by simpa using List.find?_some search
    exact List.inj_on_of_nodup_map identities listed (List.mem_of_find?_eq_some search) (same.trans hit.symm)
  refine ⟨found, search, unique target targetMember identity ▸ key, ?_⟩
  intro other listed same
  obtain ⟨last, lastMember, lastIdentity, _, le⟩ := mine other listed same
  exact unique last lastMember lastIdentity ▸ le

/-- Every event is selected exactly if every pointer whose key has an event selects the
latest one, and every event's key has a pointer. -/
theorem forall_selected_iff (identities : (events.map naming.identity).Nodup)
    (owners : (pointers.map naming.owner).Nodup) :
    (∀ event ∈ events, naming.Selected events pointers event) ↔
      (∀ pointer ∈ pointers, naming.Owned events pointer → naming.misled events pointer = false) ∧
        ∀ event ∈ events, ∃ pointer ∈ pointers, naming.owner pointer = naming.key event := by
  constructor
  · intro selected
    refine ⟨fun pointer member owned => misled_of_selected identities owners selected member owned, ?_⟩
    intro event stored
    obtain ⟨pointer, member, owner, _⟩ := selected event stored
    exact ⟨pointer, member, owner⟩
  · rintro ⟨correct, pointed⟩ event stored
    obtain ⟨pointer, member, owner⟩ := pointed event stored
    obtain ⟨target, found, own, above⟩ := misled_eq_false.mp (correct pointer member ⟨event, stored, owner.symm⟩)
    have identity : naming.identity target = naming.target pointer := by simpa using List.find?_some found
    exact ⟨pointer, member, owner, target, List.mem_of_find?_eq_some found, identity, own.trans owner,
      above event stored owner.symm⟩

end Naming

end ConstellationNq.Library.LatestPointer
