import ConstellationNq.Library.Loop
import ConstellationNq.SystemContract.Cut
import Mathlib.Data.List.Sort
import Mathlib.Data.String.Basic

/-!
# Required-observation coherence

The checker runs over the required dependencies of a cut: no required cycle
observed at different instants, no provider observed later than its consumer,
and every consumer's closure inside the declared window.
-/

set_option autoImplicit false

namespace ConstellationNq.SystemContract

open Library
open Std (TreeMap TreeSet)

inductive CutCoherencePolicy where
  | requiredObservationV1 (coherenceWindowSeconds : UInt64)
deriving DecidableEq

inductive CutCoherenceRefusal where
  | requiredProviderObservedLate (consumer provider : String)
  | requiredClosureWindowExceeded (root : String) (spanSeconds : Int) (windowSeconds : UInt64)
  | inconsistentRequiredCycle (members : List String)
  | unsupportedCoherencePolicy (version : String)
  | witnessCutMismatch (witness cut : String)
  | witnessInconsistent (message : String)
  | malformedCut (message : String)
deriving DecidableEq

/-- A checker call ends in a refusal or in a missing map key, which panics. -/
inductive CoherenceFailure where
  | refused (refusal : CutCoherenceRefusal)
  | panicked
deriving DecidableEq

structure RequiredEdge where
  dependencyId : String
  consumer : String
  provider : String
deriving DecidableEq

def requiredEdges (cut : ScopeCutBodyV1) : List RequiredEdge :=
  let edges := (cut.dependencies.filter fun dependency => dependency.requirement = .required).map fun dependency =>
    { dependencyId := dependency.dependencyId.text
      consumer := dependency.consumerComponentId.text
      provider := dependency.providerComponentId.text : RequiredEdge }
  edges.insertionSort fun left right => left.dependencyId ≤ right.dependencyId

structure ObservationSpan where
  earliest : Instant
  latest : Instant
deriving DecidableEq

/-- The instants by snapshot identity; a repeated identity keeps the last. -/
def capturedInstants (cut : ScopeCutBodyV1) : TreeMap String Instant :=
  cut.sourceSnapshots.foldl (fun captured snapshot =>
    captured.insert snapshot.sourceSnapshotId.text snapshot.capturedAt) ∅

def ObservationSpan.include (span : Option ObservationSpan) (capturedAt : Instant) : ObservationSpan :=
  match span with
  | none => { earliest := capturedAt, latest := capturedAt }
  | some existing =>
      { earliest := min existing.earliest capturedAt, latest := max existing.latest capturedAt }

variable (captured : TreeMap String Instant)

def includeSnapshot (component : ComponentV1) (span : Option ObservationSpan) (snapshotId : Identifier) :
    Except CoherenceFailure (Option ObservationSpan) :=
  match captured[snapshotId.text]? with
  | none => .error (.refused (.malformedCut
      ("component " ++ component.componentId.text ++ " cites unknown snapshot " ++ snapshotId.text)))
  | some capturedAt => .ok (some (ObservationSpan.include span capturedAt))

def componentSpan (component : ComponentV1) :
    Except CoherenceFailure ObservationSpan := do
  let span ← component.sourceSnapshotIds.foldlM (includeSnapshot captured component) none
  match span with
  | none => .error (.refused (.malformedCut
      ("component " ++ component.componentId.text ++ " cites no supporting snapshot")))
  | some span => .ok span

def includeComponent (spans : TreeMap String ObservationSpan) (component : ComponentV1) :
    Except CoherenceFailure (TreeMap String ObservationSpan) := do
  let span ← componentSpan captured component
  pure (spans.insert component.componentId.text span)

def observationSpans (cut : ScopeCutBodyV1) : Except CoherenceFailure (TreeMap String ObservationSpan) :=
  cut.components.foldlM (includeComponent (capturedInstants cut)) ∅

abbrev Adjacency := TreeMap String (List String)

def requiredAdjacency (edges : List RequiredEdge) : Adjacency :=
  edges.foldl (fun adjacency edge =>
    adjacency.insert edge.consumer (adjacency.getD edge.consumer [] ++ [edge.provider])) ∅

structure ClosureState where
  seen : TreeSet String
  stack : List String

variable (adjacency : Adjacency)

/-- One pop of the stack; the top of the stack is the head of the list. -/
def closureTurn (state : ClosureState) : Option ClosureState :=
  match state.stack with
  | [] => none
  | node :: stack =>
      if state.seen.contains node then some { state with stack := stack }
      else some {
        seen := state.seen.insert node
        stack := (adjacency.getD node []).foldl (fun stack provider => provider :: stack) stack }

def closureFuel : Nat :=
  1 + (adjacency.toList.map fun entry => entry.2.length).sum

def requiredClosure (root : String) (adjacency : Adjacency) : TreeSet String :=
  (Loop.iterate (closureTurn adjacency) (closureFuel adjacency) { seen := ∅, stack := [root] }).seen

/-- The state of the strongly-connected-component pass. `stack` and `work` have
their top at the head. -/
structure TarjanState where
  indexCounter : Nat
  indices : TreeMap String Nat
  lowlink : TreeMap String Nat
  onStack : TreeSet String
  stack : List String
  sccs : List (List String)
  work : List (String × Nat)

def TarjanState.initial : TarjanState where
  indexCounter := 0
  indices := ∅
  lowlink := ∅
  onStack := ∅
  stack := []
  sccs := []
  work := []

variable (state : TarjanState)

def TarjanState.discover (node : String) : TarjanState :=
  { state with
    indices := state.indices.insert node state.indexCounter
    lowlink := state.lowlink.insert node state.indexCounter
    indexCounter := state.indexCounter + 1
    stack := node :: state.stack
    onStack := state.onStack.insert node }

def TarjanState.lower (node : String) (candidate : Nat) :
    Except CoherenceFailure TarjanState :=
  match state.lowlink[node]? with
  | none => .error .panicked
  | some current => .ok { state with lowlink := state.lowlink.insert node (min current candidate) }

def popComponent (node : String) : List String → List String × List String
  | [] => ([], [])
  | popped :: stack =>
      if popped = node then ([popped], stack)
      else
        let (component, rest) := popComponent node stack
        (popped :: component, rest)

def TarjanState.emit (node : String) : TarjanState :=
  let (component, rest) := popComponent node state.stack
  { state with
    stack := rest
    onStack := component.foldl (fun onStack popped => onStack.erase popped) state.onStack
    sccs := state.sccs ++ [component] }

/-- A node hands its lowlink to the node below it on the work stack, if any. -/
def TarjanState.propagate (node : String) : Except CoherenceFailure TarjanState :=
  match state.work with
  | [] => .ok state
  | (parent, _) :: _ =>
      match state.lowlink[node]? with
      | none => .error .panicked
      | some child => state.lower parent child

/-- A node whose neighbours are exhausted closes its component if it is the
component's root. -/
def TarjanState.finish (node : String) : Except CoherenceFailure TarjanState := do
  let state ← state.propagate node
  match state.lowlink[node]?, state.indices[node]? with
  | some low, some index => if low = index then .ok (state.emit node) else .ok state
  | _, _ => .error .panicked

/-- A neighbour is entered when it is new and lowers the lowlink when it is
still on the stack. -/
def TarjanState.visit (node neighbor : String) : Except CoherenceFailure TarjanState :=
  match state.indices[neighbor]? with
  | none => .ok { state with work := (neighbor, 0) :: state.work }
  | some candidate =>
      if state.onStack.contains neighbor then state.lower node candidate else .ok state

/-- The neighbour at position `next`, or the end of `node`. -/
def TarjanState.advance (state : TarjanState) (node : String) (next : Nat) :
    Except CoherenceFailure TarjanState :=
  match (adjacency.getD node [])[next]? with
  | some neighbor => TarjanState.visit { state with work := (node, next + 1) :: state.work } node neighbor
  | none => state.finish node

def tarjanTurn (state : TarjanState) : Except CoherenceFailure (Option TarjanState) :=
  match state.work with
  | [] => .ok none
  | (node, next) :: work =>
      let popped := { state with work := work }
      let entered := if next = 0 then popped.discover node else popped
      (entered.advance adjacency node next).map some

def requiredNodes : TreeSet String :=
  adjacency.toList.foldl (fun nodes entry =>
    entry.2.foldl (fun nodes provider => nodes.insert provider) (nodes.insert entry.1)) ∅

def tarjanFuel : Nat :=
  ((requiredNodes adjacency).toList.map fun node => (adjacency.getD node []).length + 1).sum

def tarjanFrom (state : TarjanState) (start : String) :
    Except CoherenceFailure TarjanState :=
  if state.indices.contains start then .ok state
  else Loop.iterateExcept (tarjanTurn adjacency) (tarjanFuel adjacency) { state with work := [(start, 0)] }

def stronglyConnectedComponents : Except CoherenceFailure (List (List String)) := do
  let state ← (requiredNodes adjacency).toList.foldlM (tarjanFrom adjacency) TarjanState.initial
  pure state.sccs

def isCycle (scc : List String) : Bool :=
  scc.length > 1 || match scc.head? with
    | none => false
    | some node => match adjacency[node]? with
      | none => false
      | some providers => providers.contains node

def inconsistentMembers (spans : TreeMap String ObservationSpan) (scc : List String) :
    Option (List String) :=
  let latests := (scc.filterMap fun node => spans[node]?.map ObservationSpan.latest).dedup
  if isCycle adjacency scc && latests.length > 1 then some (scc.insertionSort (· ≤ ·)) else none

def inconsistentRequiredCycle (spans : TreeMap String ObservationSpan) :
    Except CoherenceFailure (Option (List String)) := do
  let sccs ← stronglyConnectedComponents adjacency
  pure (sccs.findSome? (inconsistentMembers adjacency spans))

variable (spans : TreeMap String ObservationSpan)

def spanOf (component : String) :
    Except CoherenceFailure ObservationSpan :=
  match spans[component]? with
  | none => .error (.refused (.malformedCut ("dependency references unknown component " ++ component)))
  | some span => .ok span

def checkProviderOrder (edge : RequiredEdge) :
    Except CoherenceFailure Unit := do
  let consumer ← spanOf spans edge.consumer
  let provider ← spanOf spans edge.provider
  if consumer.latest < provider.latest then
    .error (.refused (.requiredProviderObservedLate edge.consumer edge.provider))
  else .ok ()

def widen (closure : ObservationSpan) (member : String) :
    Except CoherenceFailure ObservationSpan := do
  let span ← spanOf spans member
  pure { earliest := min closure.earliest span.earliest, latest := max closure.latest span.latest }

/-- The window as a signed 64-bit integer; a larger one saturates. -/
def signedWindow (window : UInt64) : Int :=
  if window.toNat ≤ 2 ^ 63 - 1 then window.toNat else 2 ^ 63 - 1

def checkClosureWindow (spans : TreeMap String ObservationSpan) (window : UInt64) (root : String) :
    Except CoherenceFailure Unit := do
  let rootSpan ← spanOf spans root
  let closure ← (requiredClosure root adjacency).toList.foldlM (widen spans) rootSpan
  let spanSeconds := Instant.numSeconds (closure.latest.signedDurationSince closure.earliest)
  if signedWindow window < spanSeconds then
    .error (.refused (.requiredClosureWindowExceeded root spanSeconds window))
  else .ok ()

def evaluateCutCoherence (cut : ScopeCutBodyV1) (policy : CutCoherencePolicy) :
    Except CoherenceFailure Unit := do
  let edges := requiredEdges cut
  let spans ← observationSpans cut
  let adjacency := requiredAdjacency edges
  match policy with
  | .requiredObservationV1 window => do
      match ← inconsistentRequiredCycle adjacency spans with
      | some cycle => .error (.refused (.inconsistentRequiredCycle cycle))
      | none => do
          edges.forM (checkProviderOrder spans)
          adjacency.keys.forM (checkClosureWindow adjacency spans window)

end ConstellationNq.SystemContract
