import ConstellationNq.Library.Sequence
import ConstellationNq.Store.Retention.Expire

/-!
# The shape of the evaluation history

The sequences above the floor and the revisions of every lineage have no gap. One
check reads the whole table, the other only the rows that a handle has not yet
validated, which must continue those that it has.
-/

set_option autoImplicit false

namespace ConstellationNq.Store

open Library.Loop

/-- Refuse on the violating row with the least identity. -/
def refuseLeast {α : Type} (rows : List α) (identity : α → String) (violates : α → Bool)
    (message : α → String) : Except StoreError Unit :=
  match ((rows.filter violates).insertionSort fun left right => identity left ≤ identity right).head? with
  | some row => .error (.integrity (message row))
  | none => .ok ()

theorem refuseLeast_eq_ok {α : Type} {rows : List α} {identity : α → String} {violates : α → Bool}
    {message : α → String} :
    refuseLeast rows identity violates message = .ok () ↔ ∀ row ∈ rows, violates row = false := by
  have sorted := List.perm_insertionSort (fun left right => identity left ≤ identity right)
    (rows.filter violates)
  unfold refuseLeast
  cases least : ((rows.filter violates).insertionSort fun left right =>
      identity left ≤ identity right).head? with
  | none =>
      rw [List.head?_eq_none_iff] at least
      rw [least] at sorted
      simpa using sorted.nil_eq
  | some row =>
      simp only [reduceCtorEq, false_iff, not_forall]
      have member := sorted.mem_iff.mp (List.mem_of_head? least)
      obtain ⟨stored, chosen⟩ := List.mem_filter.mp member
      exact ⟨row, stored, by simp [chosen]⟩

/-- What the evaluation checks read of a frontier. -/
structure EvaluationBounds where
  maxRowid : Option Int
  evaluationSequence : Int
deriving DecidableEq

/-- `rowid > bound`, where no bound is the least integer. -/
def EvaluationBounds.bound (frontier : EvaluationBounds) : Int := frontier.maxRowid.getD (-2 ^ 63)

/-- An optional integer as `{:?}` prints it. -/
def debugInteger : Option Int → String
  | none => "None"
  | some value => "Some(" ++ toString value ++ ")"

namespace StoreState

variable (state : StoreState)

/-! ## Frontiers -/

def sequenceAt (maxRowid : Option Int) : Int :=
  ((maxRowid.bind fun rowid => state.evaluationRuns.find? fun evaluation => evaluation.rowid = rowid).map
    EvaluationRun.evaluationSequence).getD 0

/-- `HistoryFrontier::capture_bounds`. -/
def captureBounds : EvaluationBounds :=
  let maxRowid := (state.evaluationRuns.map EvaluationRun.rowid).max?
  { maxRowid := maxRowid, evaluationSequence := state.sequenceAt maxRowid }

/-- `reanchor_bounds`: the bound moves to the highest row at or below it that is
left. -/
def reanchor (frontier : EvaluationBounds) : EvaluationBounds :=
  let maxRowid := frontier.maxRowid.bind fun bound =>
    ((state.evaluationRuns.map EvaluationRun.rowid).filter fun rowid => rowid ≤ bound).max?
  if maxRowid = frontier.maxRowid then
    frontier
  else
    { maxRowid := maxRowid, evaluationSequence := state.sequenceAt maxRowid }

/-! ## The whole history -/

def durableRevisions : List (String × Int) :=
  (state.evaluationRuns.map fun evaluation => (evaluation.evaluationId, evaluation.evaluationRevision)) ++
  (state.findingEvents.map fun event => (event.eventId, event.eventRevision)) ++
  state.findingEvents.map fun event => (event.eventId, event.evaluationRevision)

def requirePossibleRevisions : Except StoreError Unit :=
  refuseLeast state.durableRevisions Prod.fst (fun row => row.2 ≤ 0) fun row =>
    let identity := row.1
    let revision := row.2
    s!"evaluation/finding {identity} has impossible durable revision {revision}"

def evaluationsAbove (floor : Int) : List EvaluationRun :=
  state.evaluationRuns.filter fun evaluation => floor < evaluation.evaluationSequence

/-- `GROUP BY detector_id, detector_version`. -/
def lineagesOf (evaluations : List EvaluationRun) : List (String × String) :=
  ((evaluations.map fun evaluation => (evaluation.detectorId, evaluation.detectorVersion)).dedup).insertionSort
    fun left right => left.1 < right.1 ∨ (left.1 = right.1 ∧ left.2 ≤ right.2)

def revisionsOf (evaluations : List EvaluationRun) (lineage : String × String) : List Int :=
  (evaluations.filter fun evaluation =>
    (evaluation.detectorId, evaluation.detectorVersion) = lineage).map EvaluationRun.evaluationRevision

def requireExactSequence (floor : Int) (sequences : List Int) : Except StoreError Unit :=
  let minimum := sequences.min?.getD 0
  let maximum := sequences.max?.getD 0
  let count := sequences.length
  ensure (count = 0 ∨ (minimum = floor + 1 ∧ maximum = floor + count))
    (.integrity s!"evaluation append sequence is not exact: {minimum}..{maximum} across {count} rows")

def requireLineageContinues (lineage : String × String) (retired : Int) (revisions : List Int) :
    Except StoreError Unit :=
  let id := lineage.1
  let version := lineage.2
  let minimum := revisions.min?.getD 0
  let maximum := revisions.max?.getD 0
  let count := revisions.length
  ensure (minimum = retired + 1 ∧ maximum = retired + count)
    (.integrity (s!"evaluation lineage {id}/{version} does not continue retired revision {retired}: " ++
      s!"{minimum}..{maximum} across {count} rows"))

def validateEvaluationRevisionShape : Except StoreError Unit := do
  state.requirePossibleRevisions
  let above := state.evaluationsAbove state.retention.evaluationFloor
  requireExactSequence state.retention.evaluationFloor (above.map EvaluationRun.evaluationSequence)
  (lineagesOf above).forM fun lineage =>
    requireLineageContinues lineage (state.lineageFloor lineage.1 lineage.2) (revisionsOf above lineage)

/-! ## The rows since a frontier -/

def evaluationsSince (frontier : EvaluationBounds) : List EvaluationRun :=
  state.evaluationRuns.filter fun evaluation => frontier.bound < evaluation.rowid

def requireContinuedSequence (covered : Int) (appended : List EvaluationRun) : Except StoreError Unit :=
  let sequences := appended.map EvaluationRun.evaluationSequence
  let count := sequences.length
  let minimum := sequences.min?
  let maximum := sequences.max?
  let beyondCovered := state.evaluationRuns.countP fun evaluation => covered < evaluation.evaluationSequence
  let highest := (state.evaluationRuns.map EvaluationRun.evaluationSequence).max?
  ensure (beyondCovered = count ∧
      (count = 0 ∨ (minimum = some (covered + 1) ∧ maximum = some (covered + count) ∧ highest = maximum)))
    (.integrity (s!"evaluation append sequence does not continue the validated sequence {covered}: " ++
      s!"{count} new rows span " ++ debugInteger minimum ++ ".." ++ debugInteger maximum))

/-- The new revisions of a lineage continue a covered row, the retired revision or
nothing. -/
def Continues (bound : Int) (lineage : String × String) (revisions : List Int) : Prop :=
  let minimum := revisions.min?.getD 0
  let maximum := revisions.max?.getD 0
  let count := revisions.length
  let fromMinimum := (revisionsOf state.evaluationRuns lineage).countP fun revision => minimum ≤ revision
  let predecessor := state.evaluationRuns.find? fun evaluation =>
    (evaluation.detectorId, evaluation.detectorVersion) = lineage ∧
      evaluation.evaluationRevision = minimum - 1
  maximum - minimum + 1 = count ∧ fromMinimum = count ∧
  if minimum = 1 then
    predecessor = none
  else
    (∃ evaluation ∈ predecessor, evaluation.rowid ≤ bound) ∨
      (predecessor = none ∧ state.lineageFloor lineage.1 lineage.2 = minimum - 1)

instance (bound : Int) (lineage : String × String) (revisions : List Int) :
    Decidable (state.Continues bound lineage revisions) := by
  delta Continues; infer_instance

def requireNewRevisionsContinue (bound : Int) (lineage : String × String) (revisions : List Int) :
    Except StoreError Unit :=
  let id := lineage.1
  let version := lineage.2
  let minimum := revisions.min?.getD 0
  let maximum := revisions.max?.getD 0
  let count := revisions.length
  ensure (state.Continues bound lineage revisions)
    (.integrity (s!"evaluation lineage {id}/{version} new revisions {minimum}..{maximum} across {count} rows " ++
      "do not continue its validated revisions"))

def validateEvaluationRevisionShapeSince (frontier : EvaluationBounds) : Except StoreError Unit := do
  let appended := state.evaluationsSince frontier
  state.requireContinuedSequence frontier.evaluationSequence appended
  (lineagesOf appended).forM fun lineage =>
    state.requireNewRevisionsContinue frontier.bound lineage (revisionsOf appended lineage)

end StoreState

end ConstellationNq.Store
