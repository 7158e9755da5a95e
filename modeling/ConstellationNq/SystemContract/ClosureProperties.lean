import ConstellationNq.SystemContract.Coherence
import Mathlib.Logic.Relation

/-!
# The required closure is reachability

Every turn of the stack loop keeps an exact frontier: what has been seen is
reachable, and a provider of a seen node is seen or still on the stack. The
loop therefore ends with the nodes reachable from its root, and it does end,
since a node pushes its providers only once.
-/

set_option autoImplicit false

namespace ConstellationNq.SystemContract

open Library
open Std (TreeMap TreeSet LawfulEqCmp)

/-- `provider` can be reached from `consumer` through the adjacency. -/
def Reaches (adjacency : Adjacency) : String → String → Prop :=
  Relation.ReflTransGen fun consumer provider => provider ∈ adjacency.getD consumer []

theorem foldl_push_eq (providers stack : List String) :
    providers.foldl (fun stack provider => provider :: stack) stack = providers.reverse ++ stack := by
  induction providers generalizing stack with
  | nil => rfl
  | cons provider providers ih => simp [ih]

structure ClosureInvariant (adjacency : Adjacency) (root : String) (state : ClosureState) : Prop where
  seenReached : ∀ node ∈ state.seen, Reaches adjacency root node
  stackReached : ∀ node ∈ state.stack, Reaches adjacency root node
  rootKept : root ∈ state.seen ∨ root ∈ state.stack
  edgesKept : ∀ node ∈ state.seen, ∀ provider ∈ adjacency.getD node [],
    provider ∈ state.seen ∨ provider ∈ state.stack

private theorem closureInvariant_initial (adjacency : Adjacency) (root : String) :
    ClosureInvariant adjacency root { seen := ∅, stack := [root] } where
  seenReached := by simp
  stackReached := by
    intro node member
    obtain rfl := List.mem_singleton.mp member
    exact .refl
  rootKept := Or.inr (by simp)
  edgesKept := by simp

variable {adjacency : Adjacency}

theorem closureTurn_eq_some {state next : ClosureState} (taken : closureTurn adjacency state = some next) :
    ∃ node stack, state.stack = node :: stack ∧
      ((node ∈ state.seen ∧ next = { state with stack := stack }) ∨
        (node ∉ state.seen ∧ next = {
          seen := state.seen.insert node
          stack := (adjacency.getD node []).reverse ++ stack })) := by
  unfold closureTurn at taken
  split at taken
  next => cases taken
  next node stack shape =>
    refine ⟨node, stack, shape, ?_⟩
    split at taken
    next seen => exact Or.inl ⟨TreeSet.contains_iff_mem.mp seen, (Option.some.inj taken).symm⟩
    next unseen =>
      rw [foldl_push_eq] at taken
      exact Or.inr ⟨by simpa using unseen, (Option.some.inj taken).symm⟩

private theorem closureInvariant_turn {root : String} {state next : ClosureState}
    (holds : ClosureInvariant adjacency root state) (taken : closureTurn adjacency state = some next) :
    ClosureInvariant adjacency root next := by
  obtain ⟨node, stack, shape, ⟨seen, rfl⟩ | ⟨unseen, rfl⟩⟩ := closureTurn_eq_some taken
  · have skip (other : String) (kept : other ∈ state.seen ∨ other ∈ state.stack) :
        other ∈ state.seen ∨ other ∈ stack := by
      rw [shape, List.mem_cons] at kept
      rcases kept with kept | rfl | kept
      · exact Or.inl kept
      · exact Or.inl seen
      · exact Or.inr kept
    exact {
      seenReached := holds.seenReached
      stackReached := fun other member => holds.stackReached other (by simp [shape, member])
      rootKept := skip root holds.rootKept
      edgesKept := fun other member provider edge => skip provider (holds.edgesKept other member provider edge) }
  · have nodeReached : Reaches adjacency root node := holds.stackReached node (by simp [shape])
    have move (other : String) (kept : other ∈ state.seen ∨ other ∈ state.stack) :
        other ∈ state.seen.insert node ∨ other ∈ (adjacency.getD node []).reverse ++ stack := by
      rw [shape, List.mem_cons] at kept
      rcases kept with kept | rfl | kept
      · exact Or.inl (TreeSet.mem_insert.mpr (Or.inr kept))
      · exact Or.inl TreeSet.mem_insert_self
      · exact Or.inr (List.mem_append_right _ kept)
    refine {
      seenReached := ?_
      stackReached := ?_
      rootKept := move root holds.rootKept
      edgesKept := ?_ }
    · intro other member
      rcases TreeSet.mem_insert.mp member with same | member
      · rwa [← LawfulEqCmp.eq_of_compare same]
      · exact holds.seenReached other member
    · intro other member
      rcases List.mem_append.mp member with pushed | kept
      · exact nodeReached.tail (List.mem_reverse.mp pushed)
      · exact holds.stackReached other (by simp [shape, kept])
    · intro other member provider edge
      rcases TreeSet.mem_insert.mp member with same | member
      · rw [← LawfulEqCmp.eq_of_compare same] at edge
        exact Or.inr (List.mem_append_left _ (List.mem_reverse.mpr edge))
      · exact move provider (holds.edgesKept other member provider edge)

/-- What is on the stack plus what the unseen nodes can still push. -/
def closureMeasure (adjacency : Adjacency) (state : ClosureState) : Nat :=
  state.stack.length +
    Loop.pendingWeight (fun entry => entry.2.length) state.seen.contains adjacency.toList

private theorem closureMeasure_turn {state next : ClosureState} (taken : closureTurn adjacency state = some next) :
    closureMeasure adjacency next < closureMeasure adjacency state := by
  obtain ⟨node, stack, shape, ⟨_, rfl⟩ | ⟨unseen, rfl⟩⟩ := closureTurn_eq_some taken
  · simp [closureMeasure, shape]
  · have grows (key : String) (seen : state.seen.contains key = true) :
        (state.seen.insert node).contains key = true := by
      simp [TreeSet.contains_insert, seen]
    cases providersOf : adjacency[node]? with
    | none =>
        have pending := Loop.pendingWeight_mono (fun entry : String × List String => entry.2.length)
          grows adjacency.toList
        simp only [closureMeasure, shape, TreeMap.getD_eq_getD_getElem?, providersOf, List.length_append,
          List.length_reverse, List.length_cons, Option.getD_none, List.length_nil]
        omega
    | some providers =>
        have paid := Loop.pendingWeight_visit (fun entry : String × List String => entry.2.length) grows
          (TreeMap.mem_toList_iff_getElem?_eq_some.mpr providersOf)
          (Bool.eq_false_iff.mpr fun seen => unseen (TreeSet.contains_iff_mem.mp seen)) TreeSet.contains_insert_self
        dsimp only at paid
        simp only [closureMeasure, shape, TreeMap.getD_eq_getD_getElem?, providersOf, List.length_append,
          List.length_reverse, List.length_cons, Option.getD_some]
        omega

theorem mem_requiredClosure_iff {root node : String} :
    node ∈ requiredClosure root adjacency ↔ Reaches adjacency root node := by
  have holds : ClosureInvariant adjacency root (Loop.iterate (closureTurn adjacency) (closureFuel adjacency)
      { seen := ∅, stack := [root] }) :=
    Loop.iterate_preserves _ (fun _ _ => closureInvariant_turn) _ (closureInvariant_initial adjacency root)
  have enough : closureMeasure adjacency { seen := ∅, stack := [root] } ≤ closureFuel adjacency := by
    have total := Loop.pendingWeight_le_total (fun entry : String × List String => entry.2.length)
      (∅ : TreeSet String).contains adjacency.toList
    simp only [closureMeasure, closureFuel, List.length_singleton]
    omega
  have left := Loop.iterate_finished (fun _ => True) (closureMeasure adjacency)
    (fun _ _ _ taken => ⟨trivial, closureMeasure_turn taken⟩) trivial enough
  have empty : (Loop.iterate (closureTurn adjacency) (closureFuel adjacency)
      { seen := ∅, stack := [root] }).stack = [] := by
    unfold closureTurn at left
    split at left
    next shape => exact shape
    next => split at left <;> cases left
  rw [requiredClosure]
  constructor
  · exact holds.seenReached node
  · intro reached
    induction reached with
    | refl => simpa [empty] using holds.rootKept
    | tail _ edge ih => simpa [empty] using holds.edgesKept _ ih _ edge

end ConstellationNq.SystemContract
