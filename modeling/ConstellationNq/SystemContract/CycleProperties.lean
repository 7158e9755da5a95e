import ConstellationNq.SystemContract.ClosureProperties
import Mathlib.Data.List.Dedup

/-!
# The strongly-connected-component pass

The nodes on the work stack form a path; everything on the node stack leads
back to that path and can be reached from the part of the path entered before
it. A component is closed when its root leaves the path, so its members reach
each other. The pass also never looks up a missing key and always finishes.
-/

set_option autoImplicit false

namespace ConstellationNq.SystemContract

open Library
open Std (TreeMap TreeSet LawfulEqCmp)

def TarjanState.index (state : TarjanState) (node : String) : Nat :=
  state.indices.getD node 0

/-- What holds between the turns, for the nodes `path` that have been entered
and not left, the innermost first. -/
structure TarjanInvariant (adjacency : Adjacency) (state : TarjanState) (path : List String) : Prop where
  indexLt : ∀ node ∈ state.indices, state.index node < state.indexCounter
  stackIndexed : ∀ node ∈ state.stack, node ∈ state.indices
  lowlinkIndexed : ∀ node ∈ state.indices, node ∈ state.lowlink
  onStackIff : ∀ node, node ∈ state.onStack ↔ node ∈ state.stack
  stackSorted : state.stack.Pairwise fun upper lower => state.index lower < state.index upper
  pathOnStack : ∀ node ∈ path, node ∈ state.stack
  pathChain : path.Pairwise fun inner outer =>
    state.index outer < state.index inner ∧ Reaches adjacency outer inner
  lowlinkOnStack : ∀ node ∈ path, ∃ target ∈ state.stack, state.lowlink[node]? = some (state.index target) ∧
    state.index target ≤ state.index node ∧ Reaches adjacency node target
  stackToPath : ∀ node ∈ state.stack, ∃ outer ∈ path,
    state.index outer ≤ state.index node ∧ Reaches adjacency node outer
  pathToStack : ∀ node ∈ state.stack, ∀ outer ∈ path,
    state.index outer ≤ state.index node → Reaches adjacency outer node
  sccsMutual : ∀ scc ∈ state.sccs, ∀ left ∈ scc, ∀ right ∈ scc, Reaches adjacency left right

namespace TarjanInvariant

variable {adjacency : Adjacency} {state : TarjanState} {node : String} {path : List String}

/-- The work stack plays no part in the invariant. -/
theorem withWork (holds : TarjanInvariant adjacency state path) (work : List (String × Nat)) :
    TarjanInvariant adjacency { state with work := work } path where
  indexLt := holds.indexLt
  stackIndexed := holds.stackIndexed
  lowlinkIndexed := holds.lowlinkIndexed
  onStackIff := holds.onStackIff
  stackSorted := holds.stackSorted
  pathOnStack := holds.pathOnStack
  pathChain := holds.pathChain
  lowlinkOnStack := holds.lowlinkOnStack
  stackToPath := holds.stackToPath
  pathToStack := holds.pathToStack
  sccsMutual := holds.sccsMutual

theorem initial (adjacency : Adjacency) : TarjanInvariant adjacency TarjanState.initial [] := by
  constructor <;> simp [TarjanState.initial]

private theorem index_discover_self : (state.discover node).index node = state.indexCounter := by
  simp [TarjanState.index, TarjanState.discover]

private theorem index_discover_of_mem {other : String} (fresh : node ∉ state.indices)
    (indexed : other ∈ state.indices) : (state.discover node).index other = state.index other := by
  have distinct : node ≠ other := fun same => fresh (same ▸ indexed)
  simp [TarjanState.index, TarjanState.discover, TreeMap.getD_insert, distinct]

private theorem mem_indices_discover {other : String} :
    other ∈ (state.discover node).indices ↔ node = other ∨ other ∈ state.indices := by
  simp [TarjanState.discover, TreeMap.mem_insert]

theorem discover (holds : TarjanInvariant adjacency state path) (fresh : node ∉ state.indices)
    (entered : ∀ outer ∈ path, Reaches adjacency outer node) :
    TarjanInvariant adjacency (state.discover node) (node :: path) := by
  have kept (other : String) (member : other ∈ state.stack) :
      (state.discover node).index other = state.index other :=
    index_discover_of_mem fresh (holds.stackIndexed other member)
  have below (other : String) (member : other ∈ state.stack) : state.index other < state.indexCounter :=
    holds.indexLt other (holds.stackIndexed other member)
  have pathKept (other : String) (member : other ∈ path) :
      (state.discover node).index other = state.index other :=
    kept other (holds.pathOnStack other member)
  refine {
    indexLt := ?_
    stackIndexed := ?_
    lowlinkIndexed := ?_
    onStackIff := ?_
    stackSorted := ?_
    pathOnStack := ?_
    pathChain := ?_
    lowlinkOnStack := ?_
    stackToPath := ?_
    pathToStack := ?_
    sccsMutual := holds.sccsMutual }
  · intro other member
    show (state.discover node).index other < state.indexCounter + 1
    by_cases same : node = other
    · rw [← same, index_discover_self]
      omega
    · have indexed : other ∈ state.indices := (mem_indices_discover.mp member).resolve_left same
      rw [index_discover_of_mem fresh indexed]
      have := holds.indexLt other indexed
      omega
  · intro other member
    rcases List.mem_cons.mp member with same | member
    · exact mem_indices_discover.mpr (Or.inl same.symm)
    · exact mem_indices_discover.mpr (Or.inr (holds.stackIndexed other member))
  · intro other member
    simp only [TarjanState.discover, TreeMap.mem_insert, LawfulEqCmp.compare_eq_iff_eq]
    exact (mem_indices_discover.mp member).imp_right (holds.lowlinkIndexed other)
  · intro other
    simp only [TarjanState.discover, TreeSet.mem_insert, LawfulEqCmp.compare_eq_iff_eq, List.mem_cons,
      holds.onStackIff]
    exact or_congr_left eq_comm
  · refine List.pairwise_cons.mpr ⟨?_, ?_⟩
    · intro lower member
      rw [index_discover_self, kept lower member]
      exact below lower member
    · refine holds.stackSorted.imp_of_mem ?_
      intro upper lower upperMember lowerMember ordered
      rwa [kept upper upperMember, kept lower lowerMember]
  · intro other member
    rcases List.mem_cons.mp member with same | member
    · exact List.mem_cons.mpr (Or.inl same)
    · exact List.mem_cons_of_mem _ (holds.pathOnStack other member)
  · refine List.pairwise_cons.mpr ⟨?_, ?_⟩
    · intro outer member
      rw [index_discover_self, pathKept outer member]
      exact ⟨below outer (holds.pathOnStack outer member), entered outer member⟩
    · refine holds.pathChain.imp_of_mem ?_
      intro inner outer innerMember outerMember ordered
      rwa [pathKept inner innerMember, pathKept outer outerMember]
  · intro other member
    rcases List.mem_cons.mp member with same | member
    · refine ⟨node, List.mem_cons_self, ?_, ?_, ?_⟩
      · rw [index_discover_self, same]
        simp [TarjanState.discover]
      · rw [same]
      · rw [same]
        exact .refl
    · obtain ⟨target, targetMember, low, le, reached⟩ := holds.lowlinkOnStack other member
      have distinct : node ≠ other := fun same =>
        fresh (same ▸ holds.stackIndexed other (holds.pathOnStack other member))
      refine ⟨target, List.mem_cons_of_mem _ targetMember, ?_, ?_, reached⟩
      · rw [kept target targetMember]
        simpa [TarjanState.discover, TreeMap.getElem?_insert, distinct] using low
      · rwa [kept target targetMember, pathKept other member]
  · intro other member
    rcases List.mem_cons.mp member with same | member
    · exact ⟨node, List.mem_cons_self, by rw [same], by rw [same]; exact .refl⟩
    · obtain ⟨outer, outerMember, le, reached⟩ := holds.stackToPath other member
      exact ⟨outer, List.mem_cons_of_mem _ outerMember, by rwa [kept other member, pathKept outer outerMember], reached⟩
  · intro other member outer outerMember le
    rcases List.mem_cons.mp member with same | member
    · rcases List.mem_cons.mp outerMember with outerSame | outerMember
      · rw [same, outerSame]
        exact .refl
      · rw [same]
        exact entered outer outerMember
    · rcases List.mem_cons.mp outerMember with outerSame | outerMember
      · rw [outerSame, index_discover_self, kept other member] at le
        have := below other member
        omega
      · rw [kept other member, pathKept outer outerMember] at le
        exact holds.pathToStack other member outer outerMember le

/-- A node of the path may take over the number of any stack node it reaches. -/
theorem lower (holds : TarjanInvariant adjacency state path) {target : String} (member : node ∈ path)
    (targetMember : target ∈ state.stack) (reached : Reaches adjacency node target) :
    ∃ lowered, state.lower node (state.index target) = .ok lowered ∧ lowered.work = state.work ∧
      lowered.indices = state.indices ∧ TarjanInvariant adjacency lowered path := by
  obtain ⟨current, currentMember, low, le, currentReached⟩ := holds.lowlinkOnStack node member
  refine ⟨{ state with lowlink := state.lowlink.insert node (min (state.index current) (state.index target)) },
    by simp only [TarjanState.lower, low], rfl, rfl, { holds with lowlinkIndexed := ?_, lowlinkOnStack := ?_ }⟩
  · intro other indexed
    exact TreeMap.mem_insert.mpr (Or.inr (holds.lowlinkIndexed other indexed))
  · intro other otherMember
    by_cases same : node = other
    · subst same
      rcases Nat.le_total (state.index current) (state.index target) with smaller | smaller
      · refine ⟨current, currentMember, ?_, le, currentReached⟩
        rw [min_eq_left smaller]
        exact TreeMap.getElem?_insert_self
      · refine ⟨target, targetMember, ?_, smaller.trans le, reached⟩
        rw [min_eq_right smaller]
        exact TreeMap.getElem?_insert_self
    · obtain ⟨kept, keptMember, keptLow, keptLe, keptReached⟩ := holds.lowlinkOnStack other otherMember
      refine ⟨kept, keptMember, ?_, keptLe, keptReached⟩
      rw [TreeMap.getElem?_insert, if_neg (by simpa using same)]
      exact keptLow

/-- The innermost node of the path leaves it while its component stays open. -/
theorem leave (holds : TarjanInvariant adjacency state (node :: path))
    (pending : state.lowlink[node]? ≠ some (state.index node)) : TarjanInvariant adjacency state path := by
  obtain ⟨target, targetMember, low, le, reached⟩ := holds.lowlinkOnStack node List.mem_cons_self
  have lower : state.index target < state.index node := by
    refine lt_of_le_of_ne le ?_
    intro same
    exact pending (same ▸ low)
  -- the target was numbered before `node`, so it leads back to the path without it
  have onward : ∃ outer ∈ path, state.index outer ≤ state.index target ∧ Reaches adjacency target outer := by
    obtain ⟨outer, outerMember, outerLe, outerReached⟩ := holds.stackToPath target targetMember
    rcases List.mem_cons.mp outerMember with same | outerMember
    · rw [same] at outerLe
      omega
    · exact ⟨outer, outerMember, outerLe, outerReached⟩
  exact { holds with
    pathOnStack := fun other member => holds.pathOnStack other (List.mem_cons_of_mem _ member)
    pathChain := (List.pairwise_cons.mp holds.pathChain).2
    lowlinkOnStack := fun other member => holds.lowlinkOnStack other (List.mem_cons_of_mem _ member)
    stackToPath := by
      intro other member
      obtain ⟨outer, outerMember, outerLe, outerReached⟩ := holds.stackToPath other member
      rcases List.mem_cons.mp outerMember with same | outerMember
      · obtain ⟨next, nextMember, nextLe, nextReached⟩ := onward
        rw [same] at outerLe outerReached
        exact ⟨next, nextMember, by omega, (outerReached.trans reached).trans nextReached⟩
      · exact ⟨outer, outerMember, outerLe, outerReached⟩
    pathToStack := fun other member outer outerMember =>
      holds.pathToStack other member outer (List.mem_cons_of_mem _ outerMember) }

end TarjanInvariant

variable {node : String}

theorem popComponent_eq {stack : List String} (member : node ∈ stack) :
    ∃ above below, stack = above ++ node :: below ∧ popComponent node stack = (above ++ [node], below) := by
  induction stack with
  | nil => cases member
  | cons popped stack ih =>
      by_cases same : popped = node
      · subst same
        exact ⟨[], stack, rfl, by simp [popComponent]⟩
      · obtain ⟨above, below, shape, popped_eq⟩ := ih ((List.mem_cons.mp member).resolve_left fun h => same h.symm)
        refine ⟨popped :: above, below, by simp [shape], ?_⟩
        simp [popComponent, same, popped_eq]

theorem mem_foldl_erase {component : List String} {onStack : TreeSet String} :
    node ∈ component.foldl (fun onStack popped => onStack.erase popped) onStack ↔
      node ∈ onStack ∧ node ∉ component := by
  induction component generalizing onStack with
  | nil => simp
  | cons popped component ih =>
      simp only [List.foldl_cons, ih, TreeSet.mem_erase, List.mem_cons, not_or]
      constructor
      · rintro ⟨⟨distinct, member⟩, absent⟩
        exact ⟨member, fun same => distinct (by simp [same]), absent⟩
      · rintro ⟨member, distinct, absent⟩
        exact ⟨⟨fun same => distinct (LawfulEqCmp.eq_of_compare same).symm, member⟩, absent⟩

namespace TarjanInvariant

variable {adjacency : Adjacency} {state : TarjanState} {node : String} {path : List String}

/-- A component is what stands on the node stack from its root up. -/
theorem emit_eq (holds : TarjanInvariant adjacency state (node :: path)) :
    ∃ component below,
      state.emit node = { state with
        stack := below
        onStack := component.foldl (fun onStack popped => onStack.erase popped) state.onStack
        sccs := state.sccs ++ [component] } ∧
      component.Nodup ∧ (below.Pairwise fun upper lower => state.index lower < state.index upper) ∧
      (∀ other, other ∈ component ↔ other ∈ state.stack ∧ state.index node ≤ state.index other) ∧
      ∀ other, other ∈ below ↔ other ∈ state.stack ∧ state.index other < state.index node := by
  obtain ⟨above, below, shape, popped⟩ := popComponent_eq (holds.pathOnStack node List.mem_cons_self)
  have sorted := holds.stackSorted
  rw [shape, List.append_cons, List.pairwise_append] at sorted
  obtain ⟨componentSorted, belowSorted, crossing⟩ := sorted
  have lower (other : String) (member : other ∈ below) : state.index other < state.index node :=
    crossing node (by simp) other member
  have upper (other : String) (member : other ∈ above ++ [node]) : state.index node ≤ state.index other := by
    rcases List.mem_append.mp member with member | member
    · exact ((List.pairwise_append.mp componentSorted).2.2 other member node List.mem_cons_self).le
    · rw [List.mem_singleton.mp member]
  have onStack (other : String) : other ∈ state.stack ↔ other ∈ above ++ [node] ∨ other ∈ below := by
    rw [shape, List.append_cons, List.mem_append]
  refine ⟨above ++ [node], below, by simp only [TarjanState.emit, popped],
    componentSorted.imp fun {left right} less same => by simp [same] at less, belowSorted, ?_, ?_⟩
  · intro other
    rw [onStack]
    constructor
    · intro member
      exact ⟨Or.inl member, upper other member⟩
    · rintro ⟨member | member, le⟩
      · exact member
      · have := lower other member
        omega
  · intro other
    rw [onStack]
    constructor
    · intro member
      exact ⟨Or.inr member, lower other member⟩
    · rintro ⟨member | member, lt⟩
      · have := upper other member
        omega
      · exact member

/-- The innermost node of the path leaves it and closes its component. -/
theorem emit (holds : TarjanInvariant adjacency state (node :: path)) :
    TarjanInvariant adjacency (state.emit node) path := by
  obtain ⟨component, below, emitted, _, belowSorted, inComponent, inBelow⟩ := holds.emit_eq
  have outerLt (outer : String) (member : outer ∈ path) : state.index outer < state.index node :=
    ((List.pairwise_cons.mp holds.pathChain).1 outer member).1
  rw [emitted]
  refine {
    indexLt := holds.indexLt
    stackIndexed := fun other member => holds.stackIndexed other ((inBelow other).mp member).1
    lowlinkIndexed := holds.lowlinkIndexed
    onStackIff := ?_
    stackSorted := belowSorted
    pathOnStack := ?_
    pathChain := (List.pairwise_cons.mp holds.pathChain).2
    lowlinkOnStack := ?_
    stackToPath := ?_
    pathToStack := ?_
    sccsMutual := ?_ }
  · intro other
    rw [mem_foldl_erase, holds.onStackIff, inBelow, inComponent, not_and, not_le]
    constructor
    · rintro ⟨member, lower⟩
      exact ⟨member, lower member⟩
    · rintro ⟨member, lower⟩
      exact ⟨member, fun _ => lower⟩
  · intro other member
    exact (inBelow other).mpr ⟨holds.pathOnStack other (List.mem_cons_of_mem _ member), outerLt other member⟩
  · intro other member
    obtain ⟨target, targetMember, low, le, reached⟩ := holds.lowlinkOnStack other (List.mem_cons_of_mem _ member)
    exact ⟨target, (inBelow target).mpr ⟨targetMember, le.trans_lt (outerLt other member)⟩, low, le, reached⟩
  · intro other member
    obtain ⟨onStack, lower⟩ := (inBelow other).mp member
    obtain ⟨outer, outerMember, le, reached⟩ := holds.stackToPath other onStack
    rcases List.mem_cons.mp outerMember with same | outerMember
    · rw [same] at le
      omega
    · exact ⟨outer, outerMember, le, reached⟩
  · intro other member outer outerMember
    exact holds.pathToStack other ((inBelow other).mp member).1 outer (List.mem_cons_of_mem _ outerMember)
  · intro scc member
    rcases List.mem_append.mp member with member | member
    · exact holds.sccsMutual scc member
    · obtain rfl := List.mem_singleton.mp member
      -- every member leads to the path, hence to `node`, which leads to every member
      have toNode (other : String) (closed : other ∈ scc) : Reaches adjacency other node := by
        obtain ⟨outer, outerMember, _, reached⟩ := holds.stackToPath other ((inComponent other).mp closed).1
        rcases List.mem_cons.mp outerMember with rfl | outerMember
        · exact reached
        · exact reached.trans ((List.pairwise_cons.mp holds.pathChain).1 outer outerMember).2
      intro left leftMember right rightMember
      obtain ⟨onStack, le⟩ := (inComponent right).mp rightMember
      exact (toNode left leftMember).trans (holds.pathToStack right onStack node List.mem_cons_self le)

theorem getElem?_indices (holds : TarjanInvariant adjacency state path) (member : node ∈ state.stack) :
    state.indices[node]? = some (state.index node) := by
  have indexed := TreeMap.getElem?_eq_some_getElem (holds.stackIndexed node member)
  rw [indexed, TarjanState.index, TreeMap.getD_eq_getD_getElem?, indexed, Option.getD_some]

theorem propagate {rest : List (String × Nat)}
    (holds : TarjanInvariant adjacency state (node :: rest.map Prod.fst)) (work : state.work = rest) :
    ∃ handed, state.propagate node = .ok handed ∧ handed.work = rest ∧ handed.indices = state.indices ∧
      TarjanInvariant adjacency handed (node :: rest.map Prod.fst) := by
  unfold TarjanState.propagate
  cases rest with
  | nil =>
      simp only [work]
      exact ⟨state, rfl, work, rfl, holds⟩
  | cons top below =>
      obtain ⟨target, targetMember, low, _, reached⟩ := holds.lowlinkOnStack node List.mem_cons_self
      have parentMember : top.1 ∈ (top :: below).map Prod.fst := by simp
      -- the parent reaches whatever `node` reaches
      have parentReached := ((List.pairwise_cons.mp holds.pathChain).1 top.1 parentMember).2
      obtain ⟨lowered, lowering, loweredWork, loweredIndices, loweredHolds⟩ :=
        holds.lower (List.mem_cons_of_mem _ parentMember) targetMember (parentReached.trans reached)
      simp only [work, low]
      exact ⟨lowered, lowering, loweredWork.trans work, loweredIndices, loweredHolds⟩

theorem finish {rest : List (String × Nat)} (holds : TarjanInvariant adjacency state (node :: rest.map Prod.fst))
    (work : state.work = rest) :
    ∃ turned, state.finish node = .ok turned ∧ turned.work = rest ∧ turned.indices = state.indices ∧
      TarjanInvariant adjacency turned (rest.map Prod.fst) := by
  obtain ⟨handed, handing, handedWork, handedIndices, handedHolds⟩ := holds.propagate work
  obtain ⟨target, _, low, _, _⟩ := handedHolds.lowlinkOnStack node List.mem_cons_self
  have index := handedHolds.getElem?_indices (handedHolds.pathOnStack node List.mem_cons_self)
  simp only [TarjanState.finish, handing, bind, Except.bind, low, index]
  split
  next => exact ⟨handed.emit node, rfl, handedWork, handedIndices, handedHolds.emit⟩
  next distinct =>
    refine ⟨handed, rfl, handedWork, handedIndices, handedHolds.leave ?_⟩
    intro same
    exact distinct (Option.some.inj (low.symm.trans same))

/-- A neighbour that is new goes on the work stack; one that is not may lower
the lowlink. Either way the path stays as it is. -/
theorem visit {neighbor : String} (holds : TarjanInvariant adjacency state (node :: path))
    (edge : neighbor ∈ adjacency.getD node []) :
    ∃ turned, state.visit node neighbor = .ok turned ∧ turned.indices = state.indices ∧
      TarjanInvariant adjacency turned (node :: path) ∧
      (turned.work = state.work ∨
        (turned.work = (neighbor, 0) :: state.work ∧ neighbor ∉ state.indices)) := by
  unfold TarjanState.visit
  split
  next absent =>
    refine ⟨_, rfl, rfl, holds.withWork _, Or.inr ⟨rfl, ?_⟩⟩
    simpa using absent
  next candidate found =>
    split
    next onStack =>
      have member := (holds.onStackIff neighbor).mp (TreeSet.contains_iff_mem.mp onStack)
      have candidate_eq : candidate = state.index neighbor :=
        Option.some.inj (found.symm.trans (holds.getElem?_indices member))
      obtain ⟨lowered, lowering, loweredWork, loweredIndices, loweredHolds⟩ :=
        holds.lower List.mem_cons_self member (Relation.ReflTransGen.single edge)
      exact ⟨lowered, candidate_eq ▸ lowering, loweredIndices, loweredHolds, Or.inl loweredWork⟩
    next => exact ⟨state, rfl, rfl, holds, Or.inl rfl⟩

end TarjanInvariant

/-- The work stack: at most its top has not been entered, and then it is a new
node that the path leads to. -/
inductive WorkInvariant (adjacency : Adjacency) (state : TarjanState) : Prop
  | entered (counted : ∀ entry ∈ state.work, entry.2 ≠ 0)
      (holds : TarjanInvariant adjacency state (state.work.map Prod.fst))
  | entering (node : String) (rest : List (String × Nat)) (shape : state.work = (node, 0) :: rest)
      (counted : ∀ entry ∈ rest, entry.2 ≠ 0) (fresh : node ∉ state.indices)
      (known : node ∈ requiredNodes adjacency)
      (reached : ∀ outer ∈ rest.map Prod.fst, Reaches adjacency outer node)
      (holds : TarjanInvariant adjacency state (rest.map Prod.fst))

/-- The turns an entry of the work stack still takes once it has been entered. -/
def workWeight (adjacency : Adjacency) (entry : String × Nat) : Nat :=
  if entry.2 = 0 then 0 else (adjacency.getD entry.1 []).length - entry.2 + 1

def tarjanMeasure (adjacency : Adjacency) (state : TarjanState) : Nat :=
  Loop.pendingWeight (fun entry => entry.2.length + 1) state.indices.contains
      ((requiredNodes adjacency).toList.map fun node => (node, adjacency.getD node [])) +
    (state.work.map (workWeight adjacency)).sum

private theorem mem_foldl_insert {providers : List String} {nodes : TreeSet String} :
    node ∈ providers.foldl (fun nodes provider => nodes.insert provider) nodes ↔
      node ∈ nodes ∨ node ∈ providers := by
  induction providers generalizing nodes with
  | nil => simp
  | cons provider providers ih =>
      rw [List.foldl_cons, ih, TreeSet.mem_insert, LawfulEqCmp.compare_eq_iff_eq, List.mem_cons]
      constructor
      · rintro ((same | member) | member)
        · exact Or.inr (Or.inl same.symm)
        · exact Or.inl member
        · exact Or.inr (Or.inr member)
      · rintro (member | same | member)
        · exact Or.inl (Or.inr member)
        · exact Or.inl (Or.inl same.symm)
        · exact Or.inr member

private theorem mem_foldl_nodes {entries : List (String × List String)} {nodes : TreeSet String} :
    node ∈ entries.foldl (fun nodes entry =>
        entry.2.foldl (fun nodes provider => nodes.insert provider) (nodes.insert entry.1)) nodes ↔
      node ∈ nodes ∨ ∃ entry ∈ entries, entry.1 = node ∨ node ∈ entry.2 := by
  induction entries generalizing nodes with
  | nil => simp
  | cons entry entries ih =>
      simp only [List.foldl_cons, ih, mem_foldl_insert, TreeSet.mem_insert, LawfulEqCmp.compare_eq_iff_eq,
        List.mem_cons, exists_eq_or_imp]
      constructor
      · rintro (((same | member) | member) | later)
        · exact Or.inr (Or.inl (Or.inl same))
        · exact Or.inl member
        · exact Or.inr (Or.inl (Or.inr member))
        · exact Or.inr (Or.inr later)
      · rintro (member | (same | member) | later)
        · exact Or.inl (Or.inl (Or.inr member))
        · exact Or.inl (Or.inl (Or.inl same))
        · exact Or.inl (Or.inr member)
        · exact Or.inr later

variable {adjacency : Adjacency}

theorem mem_requiredNodes_iff :
    node ∈ requiredNodes adjacency ↔ ∃ entry ∈ adjacency.toList, entry.1 = node ∨ node ∈ entry.2 := by
  simp [requiredNodes, mem_foldl_nodes]

theorem mem_requiredNodes_of_edge {neighbor : String} (edge : neighbor ∈ adjacency.getD node []) :
    neighbor ∈ requiredNodes adjacency := by
  cases providersOf : adjacency[node]? with
  | none => simp [TreeMap.getD_eq_getD_getElem?, providersOf] at edge
  | some providers =>
      rw [TreeMap.getD_eq_getD_getElem?, providersOf, Option.getD_some] at edge
      exact mem_requiredNodes_iff.mpr
        ⟨(node, providers), TreeMap.mem_toList_iff_getElem?_eq_some.mpr providersOf, Or.inr edge⟩

/-- One step of an entered node keeps the invariant and takes one turn. -/
private theorem advance_spec (state : TarjanState) (node : String) (next : Nat)
    (holds : TarjanInvariant adjacency state (node :: state.work.map Prod.fst))
    (counted : ∀ entry ∈ state.work, entry.2 ≠ 0) :
    ∃ turned, state.advance adjacency node next = .ok turned ∧ turned.indices = state.indices ∧
      WorkInvariant adjacency turned ∧
      (turned.work.map (workWeight adjacency)).sum <
        (adjacency.getD node []).length - next + 1 + (state.work.map (workWeight adjacency)).sum := by
  unfold TarjanState.advance
  split
  next neighbor found =>
    obtain ⟨inside, _⟩ := List.getElem?_eq_some_iff.mp found
    have edge : neighbor ∈ adjacency.getD node [] := List.mem_of_getElem? found
    have resumed := holds.withWork ((node, next + 1) :: state.work)
    obtain ⟨turned, visiting, indices, turnedHolds, work⟩ := resumed.visit edge
    refine ⟨turned, visiting, indices, ?_, ?_⟩
    · rcases work with same | ⟨pushed, fresh⟩
      · refine .entered ?_ (by simpa [same] using turnedHolds)
        simpa [same] using counted
      · refine .entering neighbor ((node, next + 1) :: state.work) pushed (by simpa using counted)
          (indices ▸ fresh) (mem_requiredNodes_of_edge edge) ?_ (by simpa using turnedHolds)
        intro outer member
        have toNode : Reaches adjacency outer node := by
          rcases List.mem_cons.mp member with rfl | member
          · exact .refl
          · exact ((List.pairwise_cons.mp holds.pathChain).1 outer member).2
        exact toNode.tail edge
    · rcases work with same | ⟨pushed, _⟩
      · simp only [same, List.map_cons, List.sum_cons, workWeight, Nat.add_eq_zero_iff, one_ne_zero, and_false, if_false]
        omega
      · simp only [pushed, List.map_cons, List.sum_cons, workWeight, Nat.add_eq_zero_iff, one_ne_zero, and_false, if_false,
          if_true]
        omega
  next =>
    obtain ⟨turned, finishing, work, indices, turnedHolds⟩ := holds.finish rfl
    refine ⟨turned, finishing, indices, .entered (by simpa [work] using counted) (by simpa [work] using turnedHolds), ?_⟩
    rw [work]
    omega

/-- A turn numbers at most one more node, the one on top of the work stack. -/
structure IndicesGrow (adjacency : Adjacency) (state turned : TarjanState) : Prop where
  kept : ∀ node ∈ state.indices, node ∈ turned.indices
  entered : ∀ entry ∈ state.work.head?, entry.1 ∈ turned.indices
  known : ∀ node ∈ turned.indices, node ∈ state.indices ∨ node ∈ requiredNodes adjacency

variable {state : TarjanState}

theorem tarjanTurn_spec (invariant : WorkInvariant adjacency state) :
    ∃ outcome, tarjanTurn adjacency state = .ok outcome ∧
      ∀ turned, outcome = some turned →
        (WorkInvariant adjacency turned ∧ IndicesGrow adjacency state turned) ∧
          tarjanMeasure adjacency turned < tarjanMeasure adjacency state := by
  cases invariant with
  | entered counted holds =>
      cases shape : state.work with
      | nil => exact ⟨none, by simp [tarjanTurn, shape], by simp⟩
      | cons top work =>
          obtain ⟨node, next⟩ := top
          have started : next ≠ 0 := counted (node, next) (by simp [shape])
          rw [shape] at holds
          obtain ⟨turned, advancing, indices, turnedHolds, lower⟩ :=
            advance_spec { state with work := work } node next (holds.withWork work)
              (fun entry member => counted entry (by simp [shape, member]))
          refine ⟨some turned, ?_, ?_⟩
          · simp [tarjanTurn, shape, started, advancing, Except.map]
          · rintro _ ⟨rfl⟩
            have grow : IndicesGrow adjacency state turned := by
              refine ⟨?_, ?_, ?_⟩
              · rw [indices]
                exact fun _ member => member
              · rw [shape, indices]
                rintro _ ⟨rfl⟩
                exact holds.stackIndexed node (holds.pathOnStack node List.mem_cons_self)
              · rw [indices]
                exact fun _ member => Or.inl member
            refine ⟨⟨turnedHolds, grow⟩, ?_⟩
            simp only [tarjanMeasure, shape, indices, List.map_cons, List.sum_cons, workWeight, if_neg started] at lower ⊢
            omega
  | entering node rest shape counted fresh known reached holds =>
      have discovered := (holds.withWork rest).discover fresh reached
      obtain ⟨turned, advancing, indices, turnedHolds, lower⟩ := advance_spec _ node 0 discovered counted
      refine ⟨some turned, ?_, ?_⟩
      · simp [tarjanTurn, shape, advancing, Except.map]
      · rintro _ ⟨rfl⟩
        have inIndices (other : String) : other ∈ turned.indices ↔ node = other ∨ other ∈ state.indices := by
          simp [indices, TarjanState.discover, TreeMap.mem_insert]
        have grow : IndicesGrow adjacency state turned := by
          refine ⟨fun other member => (inIndices other).mpr (Or.inr member), ?_, ?_⟩
          · rw [shape]
            rintro _ ⟨rfl⟩
            exact (inIndices node).mpr (Or.inl rfl)
          · intro other member
            rcases (inIndices other).mp member with rfl | member
            · exact Or.inr known
            · exact Or.inl member
        refine ⟨⟨turnedHolds, grow⟩, ?_⟩
        have grows (key : String) (contained : state.indices.contains key = true) :
            turned.indices.contains key = true := by
          simp [indices, TarjanState.discover, TreeMap.contains_insert, contained]
        have member : (node, adjacency.getD node []) ∈
            (requiredNodes adjacency).toList.map fun node => (node, adjacency.getD node []) :=
          List.mem_map.mpr ⟨node, TreeSet.mem_toList.mpr known, rfl⟩
        have paid := Loop.pendingWeight_visit (fun entry => entry.2.length + 1) grows member
          (Bool.eq_false_iff.mpr fun contained => fresh (TreeMap.contains_iff_mem.mp contained))
          (by simp [indices, TarjanState.discover])
        dsimp only at paid
        simp only [tarjanMeasure, shape, List.map_cons, List.sum_cons, workWeight, if_true]
        simp only [TarjanState.discover] at lower
        omega

theorem tarjanMeasure_le_fuel {start : String} (work : state.work = [(start, 0)]) :
    tarjanMeasure adjacency state ≤ tarjanFuel adjacency := by
  have total := Loop.pendingWeight_le_total (fun entry : String × List String => entry.2.length + 1)
    state.indices.contains ((requiredNodes adjacency).toList.map fun node => (node, adjacency.getD node []))
  rw [List.map_map] at total
  simpa [tarjanMeasure, tarjanFuel, work, workWeight, Function.comp_def] using total

theorem work_eq_nil_of_left (left : tarjanTurn adjacency state = .ok none) : state.work = [] := by
  unfold tarjanTurn at left
  split at left
  next shape => exact shape
  next =>
    simp only [Except.map] at left
    split at left <;> simp at left

private theorem tarjanFrom_spec {start : String} (known : start ∈ requiredNodes adjacency)
    (holds : TarjanInvariant adjacency state []) :
    ∃ after, tarjanFrom adjacency state start = .ok after ∧ TarjanInvariant adjacency after [] := by
  unfold tarjanFrom
  split
  next => exact ⟨state, rfl, holds⟩
  next unindexed =>
    have entering : WorkInvariant adjacency { state with work := [(start, 0)] } :=
      .entering start [] rfl (by simp) (fun indexed => unindexed (TreeMap.contains_iff_mem.mpr indexed)) known
        (by simp) (holds.withWork _)
    have turned (state : TarjanState) (invariant : WorkInvariant adjacency state) :
        ∃ outcome, tarjanTurn adjacency state = .ok outcome ∧ ∀ turned, outcome = some turned →
          WorkInvariant adjacency turned ∧ tarjanMeasure adjacency turned < tarjanMeasure adjacency state := by
      obtain ⟨outcome, computed, continues⟩ := tarjanTurn_spec invariant
      exact ⟨outcome, computed, fun turned taken => (continues turned taken).imp_left And.left⟩
    obtain ⟨final, ran, finalHolds, left⟩ := Loop.iterateExcept_finished (WorkInvariant adjacency)
      (tarjanMeasure adjacency) turned entering (tarjanMeasure_le_fuel rfl)
    have empty := work_eq_nil_of_left left
    refine ⟨final, ran, ?_⟩
    cases finalHolds with
    | entered _ inner => simpa [empty] using inner
    | entering _ _ shape => simp [empty] at shape

/-- The pass finishes without a missing key, and the members of every component
it reports reach each other. -/
theorem stronglyConnectedComponents_mutual (adjacency : Adjacency) :
    ∃ sccs, stronglyConnectedComponents adjacency = .ok sccs ∧
      ∀ scc ∈ sccs, ∀ left ∈ scc, ∀ right ∈ scc, Reaches adjacency left right := by
  obtain ⟨final, ran, holds⟩ := Loop.foldlM_total (fun state => TarjanInvariant adjacency state [])
    (fun _ member _ => tarjanFrom_spec (TreeSet.mem_toList.mp member)) (TarjanInvariant.initial adjacency)
  refine ⟨final.sccs, ?_, holds.sccsMutual⟩
  simp [stronglyConnectedComponents, ran, bind, Except.bind, pure, Except.pure]

/-- Every required edge joins two observed components, the provider's latest
observation not after the consumer's. -/
def ProvidersObservedFirst (adjacency : Adjacency) (spans : TreeMap String ObservationSpan) : Prop :=
  ∀ consumer, ∀ provider ∈ adjacency.getD consumer [], ∃ consumerSpan providerSpan,
    spans[consumer]? = some consumerSpan ∧ spans[provider]? = some providerSpan ∧
      providerSpan.latest ≤ consumerSpan.latest

private theorem latest_le_of_reaches {spans : TreeMap String ObservationSpan}
    (ordered : ProvidersObservedFirst adjacency spans) {consumer provider : String}
    (reached : Reaches adjacency consumer provider) {consumerSpan : ObservationSpan}
    (observed : spans[consumer]? = some consumerSpan) :
    ∃ providerSpan, spans[provider]? = some providerSpan ∧ providerSpan.latest ≤ consumerSpan.latest := by
  induction reached with
  | refl => exact ⟨consumerSpan, observed, le_rfl⟩
  | tail _ edge ih =>
      obtain ⟨middleSpan, middleObserved, middleLe⟩ := ih
      obtain ⟨left, right, leftObserved, rightObserved, le⟩ := ordered _ _ edge
      obtain rfl := Option.some.inj (middleObserved.symm.trans leftObserved)
      exact ⟨right, rightObserved, le.trans middleLe⟩

private theorem length_dedup_le_one {instants : List Instant}
    (equal : ∀ left ∈ instants, ∀ right ∈ instants, left = right) : instants.dedup.length ≤ 1 := by
  match shape : instants.dedup with
  | [] => simp
  | [_] => simp
  | first :: second :: rest =>
      have nodup := instants.nodup_dedup
      have same : first = second :=
        equal first (List.mem_dedup.mp (by simp [shape])) second (List.mem_dedup.mp (by simp [shape]))
      simp [shape, same] at nodup

/-- When providers are observed first, the members of a cycle share one latest
instant, so no cycle is reported. -/
theorem inconsistentRequiredCycle_eq_none {spans : TreeMap String ObservationSpan}
    (ordered : ProvidersObservedFirst adjacency spans) :
    inconsistentRequiredCycle adjacency spans = .ok none := by
  obtain ⟨sccs, computed, connected⟩ := stronglyConnectedComponents_mutual adjacency
  have consistent : sccs.findSome? (inconsistentMembers adjacency spans) = none := by
    refine List.findSome?_eq_none_iff.mpr ?_
    intro scc member
    have latests : (scc.filterMap fun node => spans[node]?.map ObservationSpan.latest).dedup.length ≤ 1 := by
      refine length_dedup_le_one ?_
      intro left leftMember right rightMember
      obtain ⟨leftNode, leftIn, leftLatest⟩ := List.mem_filterMap.mp leftMember
      obtain ⟨rightNode, rightIn, rightLatest⟩ := List.mem_filterMap.mp rightMember
      obtain ⟨leftSpan, leftObserved, rfl⟩ := Option.map_eq_some_iff.mp leftLatest
      obtain ⟨rightSpan, rightObserved, rfl⟩ := Option.map_eq_some_iff.mp rightLatest
      obtain ⟨forward, forwardObserved, forwardLe⟩ :=
        latest_le_of_reaches ordered (connected scc member leftNode leftIn rightNode rightIn) leftObserved
      obtain ⟨back, backObserved, backLe⟩ :=
        latest_le_of_reaches ordered (connected scc member rightNode rightIn leftNode leftIn) rightObserved
      obtain rfl := Option.some.inj (rightObserved.symm.trans forwardObserved)
      obtain rfl := Option.some.inj (leftObserved.symm.trans backObserved)
      exact le_antisymm backLe forwardLe
    simp only [inconsistentMembers, gt_iff_lt, Nat.not_lt.mpr latests, decide_false, Bool.and_false,
      Bool.false_eq_true, if_false]
  simp [inconsistentRequiredCycle, computed, bind, Except.bind, pure, Except.pure, consistent]

end ConstellationNq.SystemContract
