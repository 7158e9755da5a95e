import ConstellationNq.Store.Retention.Plan
import Mathlib.Data.List.Nodup

/-!
# What the plan selects

The floors and the candidate runs as a greatest solution, and the protected
closure as the least set that holds the roots and is closed under its rules.
-/

set_option autoImplicit false

namespace ConstellationNq.Store

open Library.FixedPoint

namespace StoreState

/-! ## Floors -/

variable {sequence : Int}

section Floor

variable {before : Int} {blocking : List Int} {highest : Option Int}

theorem le_advanceFloor_before : before ≤ advanceFloor before blocking highest :=
  le_max_left _ _

theorem advanceFloor_lt (blocks : sequence ∈ blocking) (beyond : before < sequence) :
    advanceFloor before blocking highest < sequence := by
  unfold advanceFloor
  cases first : blocking.min? with
  | none =>
      rw [List.min?_eq_none_iff] at first
      simp [first] at blocks
  | some lowest =>
      have least := (List.min?_eq_some_iff.mp first).2 sequence blocks
      simp only [Option.map_some, Option.some_or, Option.getD_some]
      omega

theorem advanceFloor_le {top : Int} (reached : before ≤ top) (blocked : ∀ sequence ∈ blocking, sequence ≤ top)
    (bounded : ∀ sequence ∈ highest, sequence ≤ top) : advanceFloor before blocking highest ≤ top := by
  unfold advanceFloor
  refine max_le reached ?_
  cases first : blocking.min? with
  | none =>
      cases last : highest with
      | none => simpa using reached
      | some sequence => simpa using bounded sequence last
  | some lowest =>
      have within := blocked lowest (List.min?_eq_some_iff.mp first).1
      simp only [Option.map_some, Option.some_or, Option.getD_some]
      omega

theorem le_advanceFloor {last : Int} (free : ∀ blocked ∈ blocking, sequence < blocked) (top : highest = some last)
    (exists_ : sequence ≤ last) : sequence ≤ advanceFloor before blocking highest := by
  unfold advanceFloor
  refine le_max_of_le_right ?_
  cases first : blocking.min? with
  | none => simpa [top] using exists_
  | some lowest =>
      have beyond := free lowest (List.min?_eq_some_iff.mp first).1
      simp only [Option.map_some, Option.some_or, Option.getD_some]
      omega

/-- Fewer blocking sequences cannot lower the floor. -/
theorem advanceFloor_mono {fewer : List Int} (subset : fewer ⊆ blocking)
    (bounded : ∀ sequence ∈ blocking, ∃ last ∈ highest, sequence ≤ last) :
    advanceFloor before blocking highest ≤ advanceFloor before fewer highest := by
  unfold advanceFloor
  refine max_le_max le_rfl ?_
  cases first : blocking.min? with
  | none =>
      rw [List.min?_eq_none_iff] at first
      have none_left : fewer = [] := List.subset_nil.mp (first ▸ subset)
      simp [none_left]
  | some lowest =>
      obtain ⟨member, least⟩ := List.min?_eq_some_iff.mp first
      cases later : fewer.min? with
      | none =>
          obtain ⟨last, top, within⟩ := bounded lowest member
          simp only [Option.mem_def] at top
          simp only [top, Option.map_some, Option.map_none, Option.some_or, Option.none_or, Option.getD_some]
          omega
      | some next =>
          have := least next (subset (List.min?_eq_some_iff.mp later).1)
          simp only [Option.map_some, Option.some_or, Option.getD_some]
          omega

private theorem exists_max_of_mem {sequences : List Int} (member : sequence ∈ sequences) :
    ∃ last, sequences.max? = some last ∧ sequence ≤ last := by
  cases top : sequences.max? with
  | none =>
      rw [List.max?_eq_none_iff] at top
      simp [top] at member
  | some last => exact ⟨last, rfl, (List.max?_eq_some_iff.mp top).2 sequence member⟩

/-! The sequences that block a floor are those of the rows beyond it with some property. -/

variable {Row : Type} {rows : List Row} {row : Row} {key : Row → Int} {blocks fewer : Row → Prop}
  [DecidablePred blocks] [DecidablePred fewer] {all : List Int}

theorem not_blocking_of_covered (member : row ∈ rows) (beyond : before < key row)
    (covered : key row ≤
      advanceFloor before ((rows.filter fun row => before < key row ∧ blocks row).map key) highest) : ¬ blocks row := by
  intro selected
  have listed : key row ∈ (rows.filter fun row => before < key row ∧ blocks row).map key :=
    List.mem_map_of_mem (List.mem_filter.mpr ⟨member, decide_eq_true ⟨beyond, selected⟩⟩)
  exact absurd (advanceFloor_lt listed beyond) (not_lt.mpr covered)

theorem le_advanceFloor_rows {top : Int} (member : sequence ∈ all) (below : sequence ≤ top)
    (free : ∀ row ∈ rows, before < key row → key row ≤ top → ¬ blocks row) :
    sequence ≤ advanceFloor before ((rows.filter fun row => before < key row ∧ blocks row).map key) all.max? := by
  obtain ⟨last, highest, within⟩ := exists_max_of_mem member
  refine le_advanceFloor (fun blocked listed => ?_) highest within
  obtain ⟨row, selected, rfl⟩ := List.mem_map.mp listed
  simp only [List.mem_filter, decide_eq_true_eq] at selected
  obtain ⟨stored, beyond, chosen⟩ := selected
  exact below.trans_lt (not_le.mp fun covered => free row stored beyond covered chosen)

theorem advanceFloor_rows_mono (listed : ∀ row ∈ rows, blocks row → key row ∈ all)
    (weaker : ∀ row, fewer row → blocks row) :
    advanceFloor before ((rows.filter fun row => before < key row ∧ blocks row).map key) all.max? ≤
      advanceFloor before ((rows.filter fun row => before < key row ∧ fewer row).map key) all.max? := by
  refine advanceFloor_mono (List.map_subset _ fun row member => ?_) fun sequence member => ?_
  · simp only [List.mem_filter, decide_eq_true_eq] at member ⊢
    exact ⟨member.1, member.2.1, weaker row member.2.2⟩
  · obtain ⟨row, selected, rfl⟩ := List.mem_map.mp member
    simp only [List.mem_filter, decide_eq_true_eq] at selected
    exact exists_max_of_mem (listed row selected.1 selected.2.2)

end Floor

variable {state : StoreState} {cutoff : Timestamp} {before : Floors} {runs : List String}

theorem le_evaluationFloor : before.evaluation ≤ (state.floorsFor cutoff before runs).evaluation :=
  le_advanceFloor_before

theorem le_reportFloor : before.report ≤ (state.floorsFor cutoff before runs).report :=
  le_advanceFloor_before

theorem le_intakeFloor : before.intake ≤ (state.floorsFor cutoff before runs).intake :=
  le_advanceFloor_before

theorem le_statusFloor : before.status ≤ (state.floorsFor cutoff before runs).status :=
  le_advanceFloor_before

theorem covered_evaluation {evaluation : EvaluationRun} (member : evaluation ∈ state.evaluationRuns)
    (beyond : before.evaluation < evaluation.evaluationSequence)
    (covered : evaluation.evaluationSequence ≤ (state.floorsFor cutoff before runs).evaluation) :
    evaluation.evaluatedAt.young cutoff = false ∧ ∀ runId ∈ evaluation.triggerRunId, runId ∈ runs := by
  by_contra blocks
  have selected : evaluation.evaluatedAt.young cutoff = true ∨
      ∃ runId ∈ evaluation.triggerRunId, runId ∉ runs := by
    by_contra neither
    push Not at neither
    exact blocks ⟨Bool.eq_false_iff.mpr neither.1, neither.2⟩
  exact not_blocking_of_covered member beyond covered selected

variable {runId : String}

theorem covered_report {report : AdmittedReport} (member : report ∈ state.reportsOf runId)
    (beyond : before.report < report.reportSequence)
    (covered : report.reportSequence ≤ (state.floorsFor cutoff before runs).report) : runId ∈ runs := by
  by_contra foreign
  obtain ⟨stored, submission, submitted, same, owner⟩ := (state.mem_reportsOf).mp member
  exact not_blocking_of_covered stored beyond covered ⟨submission, submitted, same, owner ▸ foreign⟩

theorem covered_intake {intake : ProviderIntakeAttempt} (member : intake ∈ state.intakesOf runId)
    (full : intake.historyExpired = false) (beyond : before.intake < intake.intakeSequence)
    (covered : intake.intakeSequence ≤ (state.floorsFor cutoff before runs).intake) : runId ∈ runs := by
  by_contra foreign
  obtain ⟨stored, link, linked, same, owner⟩ := (state.mem_intakesOf).mp member
  exact not_blocking_of_covered stored beyond covered ⟨full, .inr ⟨link, linked, same, owner ▸ foreign⟩⟩

theorem covered_status {status : StatusEvent} (member : status ∈ state.statusesOf runId)
    (beyond : before.status < status.statusSequence)
    (covered : status.statusSequence ≤ (state.floorsFor cutoff before runs).status) : runId ∈ runs := by
  by_contra foreign
  obtain ⟨stored, owner⟩ := (state.mem_statusesOf).mp member
  exact not_blocking_of_covered stored beyond covered ⟨runId, owner, foreign⟩

/-- More candidates allow floors at least as high. -/
structure Floors.Le (lower upper : Floors) : Prop where
  evaluation : lower.evaluation ≤ upper.evaluation
  report : lower.report ≤ upper.report
  intake : lower.intake ≤ upper.intake
  status : lower.status ≤ upper.status

theorem before_le_floorsFor : Floors.Le before (state.floorsFor cutoff before runs) :=
  ⟨le_evaluationFloor, le_reportFloor, le_intakeFloor, le_statusFloor⟩

theorem floorsFor_mono {more : List String} (subset : runs ⊆ more) :
    Floors.Le (state.floorsFor cutoff before runs) (state.floorsFor cutoff before more) := by
  refine ⟨?_, ?_, ?_, ?_⟩
  · refine advanceFloor_rows_mono (fun _ stored _ => List.mem_map_of_mem stored) fun evaluation => Or.imp_right ?_
    exact fun ⟨runId, trigger, foreign⟩ => ⟨runId, trigger, fun inside => foreign (subset inside)⟩
  · refine advanceFloor_rows_mono (fun _ stored _ => List.mem_map_of_mem stored) fun report => ?_
    exact fun ⟨submission, submitted, same, foreign⟩ =>
      ⟨submission, submitted, same, fun inside => foreign (subset inside)⟩
  · refine advanceFloor_rows_mono (fun _ stored _ => List.mem_map_of_mem stored) fun intake =>
      And.imp_right (Or.imp_right ?_)
    exact fun ⟨link, linked, same, foreign⟩ => ⟨link, linked, same, fun inside => foreign (subset inside)⟩
  · refine advanceFloor_rows_mono (fun status stored ⟨runId, owner, _⟩ => ?_) fun status => ?_
    · exact List.mem_map_of_mem (List.mem_filter.mpr ⟨stored, by simp [Option.mem_def.mp owner]⟩)
    · exact fun ⟨runId, owner, foreign⟩ => ⟨runId, owner, fun inside => foreign (subset inside)⟩

theorem Within.mono {lower upper : Floors} (raised : Floors.Le lower upper) (within : state.Within lower runId) :
    state.Within upper runId := by
  obtain ⟨evaluations, reports, intakes, statuses⟩ := within
  exact ⟨fun evaluation member => (evaluations evaluation member).trans raised.evaluation,
    fun report member => (reports report member).trans raised.report,
    fun intake member => (intakes intake member).trans raised.intake,
    fun status member => (statuses status member).trans raised.status⟩

/-! ## Candidate runs -/

theorem candidateRuns_sublist (candidates : List String) :
    (state.candidateRuns cutoff before candidates).Sublist candidates :=
  prune_sublist _ _

variable {candidates : List String}

theorem within_of_mem_candidateRuns (member : runId ∈ state.candidateRuns cutoff before candidates) :
    state.Within (state.floorsFor cutoff before (state.candidateRuns cutoff before candidates)) runId := by
  unfold candidateRuns at member ⊢
  exact of_decide_eq_true (keep_of_mem_prune _ member)

/-- The candidates that are left are the most that the floors they allow cover. -/
theorem subset_candidateRuns {closed : List String} (subset : closed ⊆ candidates)
    (within : ∀ runId ∈ closed, state.Within (state.floorsFor cutoff before closed) runId) :
    closed ⊆ state.candidateRuns cutoff before candidates := by
  refine subset_prune _ ?_ subset (by simpa using within)
  intro smaller larger included runId kept
  have covered : state.Within (state.floorsFor cutoff before smaller) runId := by simpa using kept
  simpa using covered.mono (floorsFor_mono included)

theorem mem_candidateRuns_of_within (member : runId ∈ candidates) (within : state.Within before runId) :
    runId ∈ state.candidateRuns cutoff before candidates := by
  have closed : [runId] ⊆ state.candidateRuns cutoff before candidates := by
    refine subset_candidateRuns (by simpa using member) ?_
    intro other single
    rw [List.mem_singleton.mp single]
    exact within.mono before_le_floorsFor
  exact closed (List.mem_singleton_self runId)

/-! ## The protected closure -/

/-- What the closure can hold. -/
inductive Node where
  | run (runId : String)
  | evaluation (evaluationId : String)

def Candidate (state : StoreState) (evaluationFloor : Int) (evaluation : EvaluationRun) : Prop :=
  evaluation ∈ state.evaluationRuns ∧ evaluation.evaluationSequence ≤ evaluationFloor ∧
    evaluation.sourceExpired = false

/-- The protected runs and the island evaluations: the roots, closed under
"triggered by", "triggers" and "names a report of". -/
inductive Kept (state : StoreState) (evaluationFloor : Int) (runs : List String) : Node → Prop where
  | runRoot {runId : String} (candidate : runId ∈ runs) (root : state.RunRoot runId) :
      Kept state evaluationFloor runs (.run runId)
  | evaluationRoot {evaluation : EvaluationRun} (candidate : state.Candidate evaluationFloor evaluation)
      (root : state.EvaluationRoot evaluation) :
      Kept state evaluationFloor runs (.evaluation evaluation.evaluationId)
  | trigger {evaluation : EvaluationRun} {runId : String}
      (candidate : state.Candidate evaluationFloor evaluation)
      (kept : Kept state evaluationFloor runs (.evaluation evaluation.evaluationId))
      (triggered : evaluation.triggerRunId = some runId) (member : runId ∈ runs) :
      Kept state evaluationFloor runs (.run runId)
  | triggered {evaluation : EvaluationRun} {runId : String}
      (candidate : state.Candidate evaluationFloor evaluation)
      (kept : Kept state evaluationFloor runs (.run runId))
      (triggered : evaluation.triggerRunId = some runId) :
      Kept state evaluationFloor runs (.evaluation evaluation.evaluationId)
  | citedAbove {runId : String} {report : AdmittedReport} {evaluation : EvaluationRun}
      (member : runId ∈ runs) (owned : report ∈ state.reportsOf runId)
      (stored : evaluation ∈ state.evaluationRuns) (cites : state.Cites evaluation report)
      (above : evaluationFloor < evaluation.evaluationSequence) :
      Kept state evaluationFloor runs (.run runId)
  | citedKept {runId : String} {report : AdmittedReport} {evaluation : EvaluationRun}
      (member : runId ∈ runs) (owned : report ∈ state.reportsOf runId)
      (stored : evaluation ∈ state.evaluationRuns) (cites : state.Cites evaluation report)
      (kept : Kept state evaluationFloor runs (.evaluation evaluation.evaluationId)) :
      Kept state evaluationFloor runs (.run runId)

/-- The row of `expiry_evaluations` is that of a candidate. -/
def RowOf (state : StoreState) (floor : Int) (row : ExpiryEvaluation) : Prop :=
  ∃ evaluation, state.Candidate floor evaluation ∧ row.evaluationId = evaluation.evaluationId ∧
    row.triggerRunId = evaluation.triggerRunId

/-- The closure computed so far: every candidate has its row, protected runs are
candidates, and only what the rules allow is protected or an island. -/
structure Closure.Sound (state : StoreState) (floor : Int) (runs : List String) (closure : Closure) : Prop where
  rows : ∀ row ∈ closure.evaluations, state.RowOf floor row
  complete : ∀ evaluation, state.Candidate floor evaluation → ∃ row ∈ closure.evaluations,
    row.evaluationId = evaluation.evaluationId ∧ row.triggerRunId = evaluation.triggerRunId
  selected : ∃ select : String → Bool, closure.protectedRuns = runs.filter select
  protectedKept : ∀ runId ∈ closure.protectedRuns, Kept state floor runs (.run runId)
  islandKept : ∀ row ∈ closure.evaluations, row.disposition = .island →
    Kept state floor runs (.evaluation row.evaluationId)
  runRoots : ∀ runId ∈ runs, state.RunRoot runId → runId ∈ closure.protectedRuns
  evaluationRoots : ∀ row ∈ closure.evaluations, row.disposition ≠ .island →
    ∃ evaluation, state.Candidate floor evaluation ∧ row.evaluationId = evaluation.evaluationId ∧
      ¬ state.EvaluationRoot evaluation
  undecided : ∀ row ∈ closure.evaluations, row.disposition ≠ .compact
  length : closure.evaluations.length ≤ state.evaluationRuns.length

variable {floor : Int}

private theorem mem_rootEvaluations {row : ExpiryEvaluation} :
    row ∈ state.rootEvaluations floor ↔ ∃ evaluation, state.Candidate floor evaluation ∧
      row = { evaluationId := evaluation.evaluationId
              triggerRunId := evaluation.triggerRunId
              disposition := if state.EvaluationRoot evaluation then .island else .delete } := by
  simp only [rootEvaluations, List.mem_map, List.mem_filter, decide_eq_true_eq, Candidate]
  exact exists_congr fun evaluation => and_congr_right' eq_comm

private theorem rootClosure_sound : Closure.Sound state floor runs (state.rootClosure floor runs) where
  rows := by
    intro row member
    obtain ⟨evaluation, candidate, rfl⟩ := mem_rootEvaluations.mp member
    exact ⟨evaluation, candidate, rfl, rfl⟩
  complete := by
    intro evaluation candidate
    exact ⟨_, mem_rootEvaluations.mpr ⟨evaluation, candidate, rfl⟩, rfl, rfl⟩
  selected := ⟨_, rfl⟩
  protectedKept := by
    intro runId member
    have root := List.mem_filter.mp member
    exact .runRoot root.1 (of_decide_eq_true root.2)
  islandKept := by
    intro row member island
    obtain ⟨evaluation, candidate, rfl⟩ := mem_rootEvaluations.mp member
    by_cases root : state.EvaluationRoot evaluation
    · exact .evaluationRoot candidate root
    · simp [root] at island
  runRoots := by
    intro runId candidate root
    exact List.mem_filter.mpr ⟨candidate, decide_eq_true root⟩
  evaluationRoots := by
    intro row member open_
    obtain ⟨evaluation, candidate, rfl⟩ := mem_rootEvaluations.mp member
    by_cases root : state.EvaluationRoot evaluation
    · simp [root] at open_
    · exact ⟨evaluation, candidate, rfl, root⟩
  undecided := by
    intro row member
    obtain ⟨evaluation, candidate, rfl⟩ := mem_rootEvaluations.mp member
    by_cases root : state.EvaluationRoot evaluation <;> simp [root]
  length := by
    simp only [rootClosure, rootEvaluations, List.length_map]
    exact List.length_filter_le _ _

variable {closure : Closure} {select : String → Bool}

section Grown

variable (sound : Closure.Sound state floor runs closure)

include sound

private theorem protect_sound (justified : ∀ runId ∈ runs, select runId = true → Kept state floor runs (.run runId)) :
    Closure.Sound state floor runs (closure.protect runs select) where
  rows := sound.rows
  complete := sound.complete
  selected := ⟨_, rfl⟩
  protectedKept := by
    intro runId member
    obtain ⟨candidate, earlier | chosen⟩ := by
      simpa only [Closure.protect, List.mem_filter, decide_eq_true_eq] using member
    · exact sound.protectedKept runId earlier
    · exact justified runId candidate chosen
  islandKept := sound.islandKept
  runRoots := by
    intro runId candidate root
    simp [Closure.protect, candidate, sound.runRoots runId candidate root]
  evaluationRoots := sound.evaluationRoots
  undecided := sound.undecided
  length := sound.length

private theorem protectTriggers_sound :
    Closure.Sound state floor runs (closure.protectTriggers runs) := by
  refine protect_sound sound ?_
  intro runId candidate chosen
  obtain ⟨row, member, island, triggers⟩ := of_decide_eq_true chosen
  obtain ⟨evaluation, eligible, sameId, sameTrigger⟩ := sound.rows row member
  exact .trigger eligible (sameId ▸ sound.islandKept row member island) (sameTrigger ▸ triggers) candidate

private theorem keepTriggered_sound :
    Closure.Sound state floor runs closure.keepTriggered where
  rows := by
    intro row member
    obtain ⟨earlier, stored, rfl⟩ := List.mem_map.mp member
    obtain ⟨evaluation, eligible, sameId, sameTrigger⟩ := sound.rows earlier stored
    refine ⟨evaluation, eligible, ?_⟩
    split
    · exact ⟨sameId, sameTrigger⟩
    · exact ⟨sameId, sameTrigger⟩
  complete := by
    intro evaluation eligible
    obtain ⟨row, member, sameId, sameTrigger⟩ := sound.complete evaluation eligible
    refine ⟨_, List.mem_map_of_mem member, ?_⟩
    split
    · exact ⟨sameId, sameTrigger⟩
    · exact ⟨sameId, sameTrigger⟩
  selected := sound.selected
  protectedKept := sound.protectedKept
  islandKept := by
    intro row member island
    obtain ⟨earlier, stored, rfl⟩ := List.mem_map.mp member
    split at island
    · rename_i triggered
      obtain ⟨runId, triggers, inside⟩ := triggered
      obtain ⟨evaluation, eligible, sameId, sameTrigger⟩ := sound.rows earlier stored
      have held := Kept.triggered eligible (sound.protectedKept runId inside)
        (sameTrigger ▸ Option.mem_def.mp triggers)
      split <;> exact sameId ▸ held
    · rename_i free
      rw [if_neg free]
      exact sound.islandKept earlier stored island
  runRoots := sound.runRoots
  evaluationRoots := by
    intro row member open_
    obtain ⟨earlier, stored, rfl⟩ := List.mem_map.mp member
    split at open_
    · simp at open_
    · rename_i free
      rw [if_neg free]
      exact sound.evaluationRoots earlier stored open_
  undecided := by
    intro row member
    obtain ⟨earlier, stored, rfl⟩ := List.mem_map.mp member
    split
    · simp
    · exact sound.undecided earlier stored
  length := by simpa [Closure.keepTriggered] using sound.length

private theorem protectCited_sound :
    Closure.Sound state floor runs (Closure.protectCited state floor runs closure) := by
  refine protect_sound sound ?_
  intro runId candidate chosen
  obtain ⟨report, owned, evaluation, stored, cites, above | inside⟩ := of_decide_eq_true chosen
  · exact .citedAbove candidate owned stored cites above
  · obtain ⟨row, member, sameId⟩ := List.mem_map.mp inside
    simp only [List.mem_filter, decide_eq_true_eq] at member
    exact .citedKept candidate owned stored cites (sameId ▸ sound.islandKept row member.1 member.2)

private theorem grow_sound :
    Closure.Sound state floor runs (Closure.grow state floor runs closure) :=
  protectCited_sound (keepTriggered_sound (protectTriggers_sound sound))

end Grown

private theorem length_filter_le_of_imp {α : Type} {items : List α} {small large : α → Bool}
    (grows : ∀ item ∈ items, small item = true → large item = true) :
    (items.filter small).length ≤ (items.filter large).length := by
  rw [← List.countP_eq_length_filter, ← List.countP_eq_length_filter]
  exact List.countP_mono_left grows

private theorem imp_of_length_filter_eq {α : Type} {items : List α} {small large : α → Bool}
    (grows : ∀ item ∈ items, small item = true → large item = true)
    (same : (items.filter large).length = (items.filter small).length) {item : α} (member : item ∈ items)
    (selected : large item = true) : small item = true := by
  have nested : (items.filter large).filter small = items.filter small := by
    rw [List.filter_filter]
    refine List.filter_congr fun item member => ?_
    cases chosen : small item with
    | false => simp
    | true => simp [grows item member chosen]
  have all := List.length_filter_eq_length_iff.mp ((congrArg List.length nested).trans same.symm)
  exact all item (List.mem_filter.mpr ⟨member, selected⟩)

private theorem islands_length (closure : Closure) :
    closure.islands.length =
      (closure.evaluations.filter fun row => row.disposition = .island).length := by
  simp [Closure.islands]

private theorem keepTriggered_islands_length (closure : Closure) :
    closure.keepTriggered.islands.length = (closure.evaluations.filter fun row =>
      row.disposition = .island ∨ ∃ runId ∈ row.triggerRunId, runId ∈ closure.protectedRuns).length := by
  rw [islands_length, Closure.keepTriggered, List.filter_map, List.length_map]
  congr 1
  refine List.filter_congr fun row _ => ?_
  by_cases triggered : ∃ runId ∈ row.triggerRunId, runId ∈ closure.protectedRuns
  · simp only [Function.comp, triggered, if_true, or_true, decide_true]
  · simp only [Function.comp, triggered, if_false, or_false]

/-- One turn never shrinks the closure; when it does not enlarge it either, the
closure satisfies the three rules. -/
structure Closure.Closed (state : StoreState) (floor : Int) (runs : List String) (closure : Closure) : Prop where
  trigger : ∀ row ∈ closure.evaluations, row.disposition = .island → ∀ runId ∈ row.triggerRunId,
    runId ∈ runs → runId ∈ closure.protectedRuns
  triggered : ∀ row ∈ closure.evaluations, ∀ runId ∈ row.triggerRunId,
    runId ∈ closure.protectedRuns → row.disposition = .island
  cited : ∀ runId ∈ runs, state.CitedBySurvivor floor closure.islands runId → runId ∈ closure.protectedRuns

private theorem keepTriggered_islands_le (closure : Closure) :
    closure.islands.length ≤ closure.keepTriggered.islands.length := by
  rw [islands_length, keepTriggered_islands_length]
  exact length_filter_le_of_imp fun row _ island => by simp_all

section Sizes

variable (sound : Closure.Sound state floor runs closure)

include sound

private theorem protect_length_le :
    closure.protectedRuns.length ≤ (closure.protect runs select).protectedRuns.length := by
  obtain ⟨chosen, filtered⟩ := sound.selected
  simp only [Closure.protect]
  nth_rewrite 1 [filtered]
  refine length_filter_le_of_imp fun runId member held => ?_
  simp [filtered, member, held]

private theorem protect_stable (same : (closure.protect runs select).protectedRuns.length = closure.protectedRuns.length)
    {runId : String} (member : runId ∈ runs) (selected : select runId = true) :
    runId ∈ closure.protectedRuns := by
  obtain ⟨chosen, filtered⟩ := sound.selected
  rw [filtered]
  refine List.mem_filter.mpr ⟨member, imp_of_length_filter_eq ?_
    (same.trans (congrArg List.length filtered)) member (by simp [selected])⟩
  intro other inside held
  simp [filtered, inside, held]

private theorem grow_sizes :
    let triggers := closure.protectTriggers runs
    let grown := Closure.grow state floor runs closure
    closure.protectedRuns.length ≤ triggers.protectedRuns.length ∧
    triggers.protectedRuns.length ≤ grown.protectedRuns.length ∧
    closure.islands.length ≤ triggers.keepTriggered.islands.length ∧
    triggers.keepTriggered.islands.length = grown.islands.length := by
  have cited : (closure.protectTriggers runs).keepTriggered.protectedRuns.length ≤
      (Closure.grow state floor runs closure).protectedRuns.length :=
    protect_length_le (keepTriggered_sound (protectTriggers_sound sound))
  exact ⟨protect_length_le sound, cited, keepTriggered_islands_le (closure.protectTriggers runs), rfl⟩

private theorem grow_size_le :
    closure.size ≤ (Closure.grow state floor runs closure).size := by
  obtain ⟨first, second, third, fourth⟩ := grow_sizes sound
  unfold Closure.size
  omega

private theorem size_le :
    closure.size ≤ runs.length + state.evaluationRuns.length := by
  obtain ⟨chosen, filtered⟩ := sound.selected
  have fewRuns : closure.protectedRuns.length ≤ runs.length := by
    rw [filtered]
    exact List.length_filter_le _ _
  have fewIslands : closure.islands.length ≤ closure.evaluations.length := by
    rw [islands_length]
    exact List.length_filter_le _ _
  have fewRows := sound.length
  unfold Closure.size
  omega

private theorem closed_of_stable (stable : (Closure.grow state floor runs closure).size = closure.size) :
    Closure.Closed state floor runs closure := by
  obtain ⟨first, second, third, fourth⟩ := grow_sizes sound
  unfold Closure.size at stable
  -- Every one of the three parts of the turn left its own count as it was.
  have sameTriggers : (closure.protectTriggers runs).protectedRuns.length =
      closure.protectedRuns.length := by omega
  have sameIslands : (closure.protectTriggers runs).keepTriggered.islands.length =
      closure.islands.length := by omega
  have sameCited : (Closure.grow state floor runs closure).protectedRuns.length =
      (closure.protectTriggers runs).protectedRuns.length := by omega
  have sameRuns : ∀ runId, runId ∈ (closure.protectTriggers runs).protectedRuns ↔
      runId ∈ closure.protectedRuns := by
    intro runId
    constructor
    · intro member
      obtain ⟨candidate, earlier | chosen⟩ := by
        simpa only [Closure.protectTriggers, Closure.protect, List.mem_filter, decide_eq_true_eq] using member
      · exact earlier
      · exact protect_stable sound sameTriggers candidate (decide_eq_true chosen)
    · intro member
      obtain ⟨chosen, filtered⟩ := sound.selected
      have candidate := (List.mem_filter.mp (filtered ▸ member)).1
      simp [Closure.protectTriggers, Closure.protect, candidate, member]
  have keptIslands : ∀ row ∈ closure.evaluations, (∃ runId ∈ row.triggerRunId,
      runId ∈ (closure.protectTriggers runs).protectedRuns) → row.disposition = .island := by
    intro row member triggered
    rw [keepTriggered_islands_length, islands_length] at sameIslands
    have island := imp_of_length_filter_eq (fun other _ island => by
      simp only [decide_eq_true_eq] at island ⊢
      exact .inl island) sameIslands member (by
        simp only [decide_eq_true_eq]
        exact .inr triggered)
    simpa using island
  have sameEvaluations : (closure.protectTriggers runs).keepTriggered.evaluations = closure.evaluations := by
    refine (List.map_congr_left fun row member => ?_).trans (List.map_id _)
    by_cases triggered : ∃ runId ∈ row.triggerRunId,
        runId ∈ (closure.protectTriggers runs).protectedRuns
    · rw [if_pos triggered, ← keptIslands row member triggered]
      rfl
    · rw [if_neg triggered]
      rfl
  refine ⟨?_, ?_, ?_⟩
  · intro row member island runId triggers candidate
    exact protect_stable sound sameTriggers candidate
      (decide_eq_true ⟨row, member, island, Option.mem_def.mp triggers⟩)
  · intro row member runId triggers inside
    exact keptIslands row member ⟨runId, triggers, (sameRuns runId).mpr inside⟩
  · intro runId candidate cited
    have sameIds : (closure.protectTriggers runs).keepTriggered.islands = closure.islands := by
      rw [Closure.islands, sameEvaluations, Closure.islands]
    refine (sameRuns runId).mp (protect_stable
      (keepTriggered_sound (protectTriggers_sound sound)) sameCited candidate ?_)
    rw [sameIds]
    exact decide_eq_true cited

end Sizes

theorem protectedClosure_sound :
    Closure.Sound state floor runs (state.protectedClosure floor runs) :=
  saturate_preserves _ _ _ (fun _ sound => grow_sound sound) rootClosure_sound

theorem protectedClosure_closed :
    Closure.Closed state floor runs (state.protectedClosure floor runs) := by
  refine closed_of_stable protectedClosure_sound ?_
  refine saturate_stable _ _ (Closure.Sound state floor runs) ?_ rootClosure_sound le_rfl
  intro closure sound
  exact ⟨grow_sound sound, grow_size_le sound, size_le (grow_sound sound)⟩

/-! ## The closure as the least closed set -/

theorem Kept.candidate {evaluationId : String} (kept : Kept state floor runs (.evaluation evaluationId)) :
    ∃ evaluation, state.Candidate floor evaluation ∧ evaluation.evaluationId = evaluationId := by
  cases kept with
  | evaluationRoot candidate => exact ⟨_, candidate, rfl⟩
  | triggered candidate => exact ⟨_, candidate, rfl⟩

theorem eq_of_evaluationId (unique : (state.evaluationRuns.map EvaluationRun.evaluationId).Nodup)
    {left right : EvaluationRun} (leftMember : left ∈ state.evaluationRuns)
    (rightMember : right ∈ state.evaluationRuns) (same : left.evaluationId = right.evaluationId) :
    left = right :=
  List.inj_on_of_nodup_map unique leftMember rightMember same

section Least

variable {floor : Int} (unique : (state.evaluationRuns.map EvaluationRun.evaluationId).Nodup)

include unique

private theorem held_of_kept {node : Node} (kept : Kept state floor runs node) :
    match node with
    | .run runId => runId ∈ (state.protectedClosure floor runs).protectedRuns
    | .evaluation evaluationId => ∀ row ∈ (state.protectedClosure floor runs).evaluations,
        row.evaluationId = evaluationId → row.disposition = .island := by
  have sound : Closure.Sound state floor runs (state.protectedClosure floor runs) :=
    protectedClosure_sound
  have closed : Closure.Closed state floor runs (state.protectedClosure floor runs) :=
    protectedClosure_closed
  induction kept with
  | runRoot candidate root => exact sound.runRoots _ candidate root
  | evaluationRoot candidate root =>
      intro row member same
      by_contra open_
      obtain ⟨other, eligible, sameId, notRoot⟩ := sound.evaluationRoots row member open_
      have equal := eq_of_evaluationId unique eligible.1 candidate.1 (sameId.symm.trans same)
      exact notRoot (equal ▸ root)
  | trigger candidate kept triggered member ih =>
      obtain ⟨row, stored, sameId, sameTrigger⟩ := sound.complete _ candidate
      exact closed.trigger row stored (ih row stored sameId) _
        (Option.mem_def.mpr (sameTrigger.trans triggered)) member
  | triggered candidate kept triggered ih =>
      intro row member same
      obtain ⟨other, eligible, sameId, sameTrigger⟩ := sound.rows row member
      have equal := eq_of_evaluationId unique eligible.1 candidate.1 (sameId.symm.trans same)
      exact closed.triggered row member _
        (Option.mem_def.mpr (sameTrigger.trans (equal ▸ triggered))) ih
  | citedAbove member owned stored cites above =>
      exact closed.cited _ member ⟨_, owned, _, stored, cites, .inl above⟩
  | citedKept member owned stored cites kept ih =>
      obtain ⟨other, eligible, sameId⟩ := kept.candidate
      obtain ⟨row, rowMember, rowId, _⟩ := sound.complete other eligible
      have island := ih row rowMember (rowId.trans sameId)
      refine closed.cited _ member ⟨_, owned, _, stored, cites, .inr ?_⟩
      exact List.mem_map.mpr
        ⟨row, List.mem_filter.mpr ⟨rowMember, decide_eq_true island⟩, rowId.trans sameId⟩

theorem mem_protectedRuns_iff :
    runId ∈ (state.protectedClosure floor runs).protectedRuns ↔ Kept state floor runs (.run runId) :=
  ⟨protectedClosure_sound.protectedKept runId, fun kept => held_of_kept unique kept⟩

theorem island_iff {row : ExpiryEvaluation} (member : row ∈ (state.protectedClosure floor runs).evaluations) :
    row.disposition = .island ↔ Kept state floor runs (.evaluation row.evaluationId) :=
  ⟨protectedClosure_sound.islandKept row member, fun kept => held_of_kept unique kept row member rfl⟩

end Least

end StoreState

end ConstellationNq.Store
