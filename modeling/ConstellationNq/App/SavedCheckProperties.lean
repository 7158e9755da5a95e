import ConstellationNq.App.SavedCheck
import ConstellationNq.Library.Wildcard

/-!
# Maintenance declarations: which one is selected

The rows of the matcher hold its answers for all prefixes of the subject, so it decides the
wildcard relation. The loop over the declarations keeps two sublists of them whatever their
order, and the heads of the two sorted lists are their greatest members.
-/

set_option autoImplicit false

namespace ConstellationNq.App.SavedCheck

open Library.Sorting Library.Wildcard Library.Loop Library.Text

/-! ## Wildcards -/

/-- One cell for each prefix of the subject, from the part already read on. -/
def Cells (holds : List UInt8 → Prop) : List UInt8 → List UInt8 → List Bool → Prop
  | read, [], cells => ∃ cell, cells = [cell] ∧ (cell = true ↔ holds read)
  | read, byte :: subject, cells => ∃ cell rest, cells = cell :: rest ∧ (cell = true ↔ holds read) ∧
      Cells holds (read ++ [byte]) subject rest

section Wildcards

variable {subject read : List UInt8}

theorem Cells.head {holds : List UInt8 → Prop} {cells : List Bool} (row : Cells holds read subject cells) :
    ∃ cell rest, cells = cell :: rest ∧ (cell = true ↔ holds read) := by
  cases subject with
  | nil =>
      obtain ⟨cell, rfl, exact_⟩ := row
      exact ⟨cell, [], rfl, exact_⟩
  | cons byte subject =>
      obtain ⟨cell, rest, rfl, exact_, -⟩ := row
      exact ⟨cell, rest, rfl, exact_⟩

theorem Cells.last {holds : List UInt8 → Prop} {cells : List Bool} (default : Bool)
    (row : Cells holds read subject cells) : cells.getLastD default = true ↔ holds (read ++ subject) := by
  induction subject generalizing read cells default with
  | nil =>
      obtain ⟨cell, rfl, exact_⟩ := row
      simpa using exact_
  | cons byte subject ih =>
      obtain ⟨cell, rest, rfl, -, row⟩ := row
      rw [List.getLastD_cons, ih cell row, List.append_assoc, List.singleton_append]

variable {token : UInt8} {cell : Bool} {pattern : List UInt8}

theorem matches_next {byte : UInt8} {before above : Bool}
    (beforeExact : before = true ↔ Matches wildcard pattern read)
    (aboveExact : above = true ↔ Matches wildcard pattern (read ++ [byte]))
    (cellExact : cell = true ↔ Matches wildcard (pattern ++ [token]) read) :
    (if token = wildcard then above || cell else token == byte && before) = true ↔
      Matches wildcard (pattern ++ [token]) (read ++ [byte]) := by
  by_cases isStar : token = wildcard
  · subst isStar
    rw [if_pos rfl, Bool.or_eq_true, aboveExact, cellExact, matches_concat_star_concat]
  · rw [if_neg isStar, Bool.and_eq_true, beq_iff_eq, beforeExact, matches_concat_symbol isStar]
    constructor
    · rintro ⟨rfl, matched⟩
      exact ⟨read, rfl, matched⟩
    · rintro ⟨front, split, matched⟩
      obtain ⟨rfl, same⟩ := List.append_inj' split rfl
      exact ⟨(List.singleton_inj.mp same).symm, matched⟩

variable {previous : List Bool}

theorem nextCells_row (row : Cells (Matches wildcard pattern) read subject previous)
    (cellExact : cell = true ↔ Matches wildcard (pattern ++ [token]) read) :
    Cells (Matches wildcard (pattern ++ [token])) read subject (nextCells token cell subject previous) := by
  induction subject generalizing read previous cell with
  | nil =>
      obtain ⟨before, rfl, -⟩ := row
      exact ⟨cell, rfl, cellExact⟩
  | cons byte subject ih =>
      obtain ⟨before, rest, rfl, beforeExact, row⟩ := row
      obtain ⟨above, tail, rfl, aboveExact⟩ := row.head
      exact ⟨cell, _, rfl, cellExact, ih row (matches_next beforeExact aboveExact cellExact)⟩

theorem nextRow_row (row : Cells (Matches wildcard pattern) [] subject previous) :
    Cells (Matches wildcard (pattern ++ [token])) [] subject (nextRow subject previous token) := by
  obtain ⟨first, rest, rfl, firstExact⟩ := row.head
  refine nextCells_row row ?_
  rw [List.headD_cons, Bool.and_eq_true, beq_iff_eq, firstExact]
  by_cases isStar : token = wildcard
  · subst isStar
    rw [matches_concat_star_nil, and_iff_right rfl]
  · rw [matches_concat_symbol isStar]
    constructor
    · exact fun both => absurd both.1 isStar
    · rintro ⟨front, split, -⟩
      simp at split

theorem firstRow_row (started : read ≠ []) (subject : List UInt8) :
    Cells (Matches wildcard []) read subject (false :: subject.map fun _ => false) := by
  have refused : false = true ↔ Matches wildcard [] read := by
    rw [matches_nil]
    exact iff_of_false Bool.false_ne_true started
  induction subject generalizing read with
  | nil => exact ⟨false, rfl, refused⟩
  | cons byte subject ih =>
      have further : read ++ [byte] ≠ [] := by simp
      exact ⟨false, _, rfl, refused, ih further
        (by rw [matches_nil]; exact iff_of_false Bool.false_ne_true further)⟩

theorem wildcardMatches_iff (pattern subject : List UInt8) :
    wildcardMatches pattern subject = true ↔ Matches wildcard pattern subject := by
  have start : Cells (Matches wildcard []) [] subject (true :: subject.map fun _ => false) := by
    have matched : true = true ↔ Matches wildcard ([] : List UInt8) [] := iff_of_true rfl (matches_nil.mpr rfl)
    cases subject with
    | nil => exact ⟨true, rfl, matched⟩
    | cons byte subject => exact ⟨true, _, rfl, matched, firstRow_row (List.cons_ne_nil byte []) subject⟩
  -- The invariant of the outer loop: the row is that of the tokens read so far.
  have rows : ∀ tokens done row, Cells (Matches wildcard done) [] subject row →
      Cells (Matches wildcard (done ++ tokens)) [] subject (tokens.foldl (nextRow subject) row) := by
    intro tokens
    induction tokens with
    | nil => simp
    | cons token tokens ih =>
        intro done row holds
        simpa using ih (done ++ [token]) _ (nextRow_row holds)
  simpa [wildcardMatches] using (rows pattern [] _ start).last false

/-! ## The table of the matcher -/

theorem fillRow_eq {front passed : List Bool} {updates : Nat} (aligned : passed.length = front.length)
    (size : previous.length = subject.length + 1) :
    fillRow token (passed ++ previous) subject front.length
        ⟨front ++ cell :: List.replicate subject.length false, updates⟩ =
      some ⟨front ++ nextCells token cell subject previous, updates + subject.length⟩ := by
  induction subject generalizing front passed previous cell updates with
  | nil => simp [fillRow, nextCells]
  | cons byte subject ih =>
      match previous, size with
      | before :: above :: previous, size =>
          have beforeRead : (passed ++ before :: above :: previous)[front.length]? = some before := by
            simp [← aligned]
          have aboveRead : (passed ++ before :: above :: previous)[front.length + 1]? = some above := by
            simp [← aligned]
          have cellRead : (front ++ cell :: List.replicate (subject.length + 1) false)[front.length]? = some cell := by
            simp
          have written (value : Bool) : RowTable.write
              ⟨front ++ cell :: List.replicate (subject.length + 1) false, updates⟩ (front.length + 1) value =
              some ⟨(front ++ [cell]) ++ value :: List.replicate subject.length false, updates + 1⟩ := by
            simp [RowTable.write, List.replicate_succ]
          have rest (value : Bool) := @ih value (above :: previous) (front ++ [cell]) (passed ++ [before]) (updates + 1)
            (by simp [aligned]) (by simpa using size)
          simp only [List.length_append, List.length_singleton, List.append_assoc, List.singleton_append] at rest written
          rw [fillRow, nextCells, List.length_cons]
          by_cases isStar : token = wildcard
          · simp only [isStar, if_true, aboveRead, cellRead, Option.bind_eq_bind, Option.bind_some, Option.pure_def,
              written]
            rw [← isStar, rest, Nat.add_assoc, Nat.add_comm 1]
          · simp only [isStar, if_false, beforeRead, Option.bind_eq_bind, Option.bind_some, Option.pure_def, written]
            rw [rest, Nat.add_assoc, Nat.add_comm 1]

theorem length_nextCells (size : previous.length = subject.length + 1) :
    (nextCells token cell subject previous).length = subject.length + 1 := by
  induction subject generalizing previous cell with
  | nil => rfl
  | cons byte subject ih =>
      match previous, size with
      | before :: above :: previous, size =>
          have size : (above :: previous).length = subject.length + 1 := by simpa using size
          rw [nextCells, List.length_cons, ih size, List.length_cons]

theorem fillNext_eq (token : UInt8) (updates : Nat) (size : previous.length = subject.length + 1) :
    fillNext subject ⟨previous, updates⟩ token =
      some ⟨nextRow subject previous token, updates + (subject.length + 1)⟩ := by
  match previous, size with
  | first :: previous, size =>
      have written : RowTable.write ⟨List.replicate (subject.length + 1) false, updates⟩ 0 (token == wildcard && first) =
          some ⟨(token == wildcard && first) :: List.replicate subject.length false, updates + 1⟩ := by
        simp [RowTable.write, List.replicate_succ]
      have filled := @fillRow_eq subject token (token == wildcard && first) (first :: previous) [] [] (updates + 1)
        rfl size
      simp only [List.nil_append, List.length_nil] at filled
      simp only [fillNext, List.getElem?_cons_zero, Option.bind_eq_bind, Option.bind_some, written, filled, nextRow,
        List.headD_cons]
      rw [Nat.add_assoc, Nat.add_comm 1]

theorem foldlM_fillNext (pattern : List UInt8) (updates : Nat) (size : previous.length = subject.length + 1) :
    pattern.foldlM (fillNext subject) ⟨previous, updates⟩ =
        some ⟨pattern.foldl (nextRow subject) previous, updates + pattern.length * (subject.length + 1)⟩ ∧
      (pattern.foldl (nextRow subject) previous).length = subject.length + 1 := by
  induction pattern generalizing previous updates with
  | nil => simp [size]
  | cons token pattern ih =>
      obtain ⟨folded, folded_size⟩ := @ih (nextRow subject previous token) (updates + (subject.length + 1))
        (length_nextCells size)
      refine ⟨?_, folded_size⟩
      rw [List.foldlM_cons, fillNext_eq token updates size, Option.bind_eq_bind, Option.bind_some, folded,
        List.foldl_cons, List.length_cons, Nat.succ_mul, Nat.add_assoc, Nat.add_comm (subject.length + 1)]

/-- The matcher stays within its rows, answers the wildcard relation and writes each cell of
a row once for each byte of the pattern. -/
theorem wildcardLoop_exact (pattern subject : List UInt8) :
    ∃ matched updates, wildcardLoop pattern subject = some (matched, updates) ∧
      (matched = true ↔ Matches wildcard pattern subject) ∧ updates ≤ pattern.length * (subject.length + 1) := by
  have start : (List.replicate (subject.length + 1) false).set 0 true = true :: subject.map fun _ => false := by
    rw [List.replicate_succ, List.set_cons_zero, List.map_const']
  obtain ⟨folded, size⟩ := @foldlM_fillNext subject (true :: subject.map fun _ => false) pattern 0 (by simp)
  have last : (pattern.foldl (nextRow subject) (true :: subject.map fun _ => false))[subject.length]? =
      some (wildcardMatches pattern subject) := by
    rw [wildcardMatches, List.getLastD_eq_getLast?, List.getLast?_eq_getElem?, size, Nat.add_sub_cancel]
    rw [List.getElem?_eq_getElem (by rw [size]; exact Nat.lt_succ_self _), Option.getD_some]
  refine ⟨_, _, ?_, wildcardMatches_iff pattern subject, Nat.le_refl _⟩
  rw [wildcardLoop, start, folded, Option.bind_eq_bind, Option.bind_some, last, Nat.zero_add]
  rfl

end Wildcards

/-! ## Valid declarations -/

def BoundedText (value : String) (maximum : Nat) : Prop :=
  value.isEmpty = false ∧ value.utf8ByteSize ≤ maximum ∧ value.toList.any isControl = false

theorem bounded_eq_ok {field value : String} {maximum : Nat} :
    bounded field value maximum = .ok () ↔ BoundedText value maximum := by
  unfold bounded BoundedText
  split
  · rename_i refused
    refine iff_of_false (fun passed => by cases passed) fun bounded => ?_
    rcases refused with empty | long | control
    · rw [bounded.1] at empty
      cases empty
    · omega
    · rw [bounded.2.2] at control
      cases control
  · rename_i passed
    rw [not_or, not_or, Bool.not_eq_true, Nat.not_lt, Bool.not_eq_true] at passed
    exact iff_of_true rfl passed

theorem boundedOption_eq_ok {field : String} {value : Option String} {maximum : Nat} :
    boundedOption field value maximum = .ok () ↔ ∀ text, value = some text → BoundedText text maximum := by
  cases value with
  | none => simp [boundedOption]
  | some value => simp [boundedOption, bounded_eq_ok]

section Declarations

variable {Instant : Type} [LinearOrder Instant] (parseRfc3339 : String → Option Instant)

structure MaintenanceDeclaration.Valid (declaration : MaintenanceDeclaration) : Prop where
  required : ∀ text ∈ declaration.requiredTexts, BoundedText text.2.1 text.2.2
  optional : ∀ text ∈ declaration.optionalTexts, ∀ value, text.2.1 = some value → BoundedText value text.2.2
  utc : declaration.startAt.toList.getLast? = some 'Z' ∧ declaration.endAt.toList.getLast? = some 'Z'
  window : ∃ start stop, parseRfc3339 declaration.startAt = some start ∧ parseRfc3339 declaration.endAt = some stop ∧
    start < stop

theorem MaintenanceDeclaration.validate_eq_ok {declaration : MaintenanceDeclaration} :
    declaration.validate parseRfc3339 = .ok () ↔ declaration.Valid parseRfc3339 := by
  unfold validate
  rw [check_bind_eq_ok, check_bind_eq_ok, forM_eq_ok_iff, forM_eq_ok_iff]
  simp only [bounded_eq_ok, boundedOption_eq_ok]
  constructor
  · rintro ⟨requiredTexts, optionalTexts, rest⟩
    split at rest
    · cases rest
    · rename_i utc
      rw [not_or, not_not, not_not] at utc
      refine ⟨requiredTexts, optionalTexts, utc, ?_⟩
      split at rest
      · cases rest
      · cases rest
      · rename_i start stop started stopped
        split at rest
        · cases rest
        · rename_i later
          exact ⟨start, stop, started, stopped, not_le.mp later⟩
  · rintro ⟨requiredTexts, optionalTexts, utc, start, stop, started, stopped, later⟩
    refine ⟨requiredTexts, optionalTexts, ?_⟩
    rw [if_neg (by simp [utc]), started, stopped]
    exact if_neg (not_le.mpr later)

/-! ## What the loop keeps -/

variable (component kind subject : String) (now : Instant)

structure Applies (declared : MaintenanceDeclaration × Instant) : Prop where
  declaredBefore : declared.2 ≤ now
  component_eq : declared.1.component = component
  kind_eq : declared.1.kind = kind
  subject_matches : ∀ pattern, declared.1.subject = some pattern →
    Matches wildcard (utf8Bytes pattern) (utf8Bytes subject)

def Open (declaration : MaintenanceDeclaration) : Prop :=
  ∃ start stop, parseRfc3339 declaration.startAt = some start ∧ parseRfc3339 declaration.endAt = some stop ∧
    start ≤ now ∧ now < stop

def EndedAt (declaration : MaintenanceDeclaration) (stop : Instant) : Prop :=
  parseRfc3339 declaration.endAt = some stop ∧ stop ≤ now

def applies (declared : MaintenanceDeclaration × Instant) : Bool :=
  decide (declared.2 ≤ now) && declared.1.covers component kind subject

def isActive (declared : MaintenanceDeclaration × Instant) : Bool :=
  applies component kind subject now declared &&
    match parseRfc3339 declared.1.startAt, parseRfc3339 declared.1.endAt with
    | some start, some stop => decide (start ≤ now ∧ now < stop)
    | _, _ => false

def asExpired (declared : MaintenanceDeclaration × Instant) : Option (MaintenanceDeclaration × Instant × Instant) :=
  match parseRfc3339 declared.1.endAt with
  | some stop =>
      if applies component kind subject now declared = true ∧ stop ≤ now then some (declared.1, declared.2, stop)
      else none
  | none => none

theorem covers_iff {declaration : MaintenanceDeclaration} :
    declaration.covers component kind subject = true ↔ declaration.component = component ∧ declaration.kind = kind ∧
      ∀ pattern, declaration.subject = some pattern → Matches wildcard (utf8Bytes pattern) (utf8Bytes subject) := by
  unfold MaintenanceDeclaration.covers
  rw [Bool.and_eq_true, Bool.and_eq_true, beq_iff_eq, beq_iff_eq, and_assoc, Option.all_eq_true]
  simp only [wildcardMatches_iff]

section Kept

variable {declared : MaintenanceDeclaration × Instant}

theorem applies_iff :
    applies component kind subject now declared = true ↔ Applies component kind subject now declared := by
  rw [applies, Bool.and_eq_true, decide_eq_true_iff, covers_iff]
  exact ⟨fun ⟨before, same, sameKind, matched⟩ => ⟨before, same, sameKind, matched⟩,
    fun holds => ⟨holds.1, holds.2, holds.3, holds.4⟩⟩

theorem isActive_iff :
    isActive parseRfc3339 component kind subject now declared = true ↔
      Applies component kind subject now declared ∧ Open parseRfc3339 now declared.1 := by
  rw [isActive, Bool.and_eq_true, applies_iff]
  refine and_congr_right fun _ => ?_
  unfold Open
  cases started : parseRfc3339 declared.1.startAt with
  | none => simp
  | some start =>
      cases stopped : parseRfc3339 declared.1.endAt with
      | none => simp
      | some stop => simp

theorem asExpired_eq_some {candidate : MaintenanceDeclaration × Instant × Instant} :
    asExpired parseRfc3339 component kind subject now declared = some candidate ↔
      Applies component kind subject now declared ∧ EndedAt parseRfc3339 now declared.1 candidate.2.2 ∧
        candidate.1 = declared.1 ∧ candidate.2.1 = declared.2 := by
  obtain ⟨declaration, declaredAt, stop⟩ := candidate
  unfold asExpired EndedAt
  cases stopped : parseRfc3339 declared.1.endAt with
  | none => simp
  | some last =>
      simp only [applies_iff, Option.ite_none_right_eq_some, Option.some.injEq, Prod.mk.injEq]
      constructor
      · rintro ⟨⟨holds, ended⟩, rfl, rfl, rfl⟩
        exact ⟨holds, ⟨rfl, ended⟩, rfl, rfl⟩
      · rintro ⟨holds, ⟨rfl, ended⟩, rfl, rfl⟩
        exact ⟨⟨holds, ended⟩, rfl, rfl, rfl⟩

theorem valid_of_consider {candidates next : Candidates Instant}
    (considered : consider parseRfc3339 component kind subject now candidates declared = .ok next) :
    declared.1.Valid parseRfc3339 :=
  (MaintenanceDeclaration.validate_eq_ok parseRfc3339).mp (check_bind_eq_ok.mp considered).1

theorem consider_of_valid (candidates : Candidates Instant) (valid : declared.1.Valid parseRfc3339) :
    consider parseRfc3339 component kind subject now candidates declared = .ok {
      active := candidates.active ++ [declared].filter (isActive parseRfc3339 component kind subject now)
      expired := candidates.expired ++ [declared].filterMap (asExpired parseRfc3339 component kind subject now) } := by
  obtain ⟨start, stop, started, stopped, window⟩ := valid.window
  refine check_bind_eq_ok.mpr ⟨(MaintenanceDeclaration.validate_eq_ok parseRfc3339).mpr valid, ?_⟩
  simp only [List.filter_cons, List.filter_nil, List.filterMap_cons, List.filterMap_nil, isActive, asExpired, applies,
    started, stopped]
  by_cases later : now < declared.2
  · simp [later, not_le.mpr later, pure, Except.pure]
  by_cases inScope : declared.1.covers component kind subject = true
  · by_cases active : start ≤ now ∧ now < stop
    · simp [later, not_lt.mp later, inScope, active, not_le.mpr active.2, pure, Except.pure]
    · by_cases ended : stop ≤ now
      · simp [not_lt.mp later, inScope, not_lt.mpr ended, ended, pure, Except.pure]
      · simp [not_lt.mp later, inScope, active, ended, pure, Except.pure]
  · simp [not_lt.mp later, inScope, pure, Except.pure]

variable {declarations : List (MaintenanceDeclaration × Instant)}

theorem candidates_of_valid (valid : ∀ declared ∈ declarations, declared.1.Valid parseRfc3339)
    (candidates : Candidates Instant) :
    declarations.foldlM (consider parseRfc3339 component kind subject now) candidates = .ok {
      active := candidates.active ++ declarations.filter (isActive parseRfc3339 component kind subject now)
      expired := candidates.expired ++ declarations.filterMap (asExpired parseRfc3339 component kind subject now) } := by
  induction declarations generalizing candidates with
  | nil => simp [pure, Except.pure]
  | cons declared declarations ih =>
      rw [List.forall_mem_cons] at valid
      rw [List.foldlM_cons, consider_of_valid parseRfc3339 component kind subject now candidates valid.1]
      refine (ih valid.2 _).trans ?_
      simp only [List.append_assoc, ← List.filter_append, ← List.filterMap_append, List.singleton_append]

theorem valid_of_candidates {candidates last : Candidates Instant}
    (folded : declarations.foldlM (consider parseRfc3339 component kind subject now) candidates = .ok last) :
    ∀ declared ∈ declarations, declared.1.Valid parseRfc3339 := by
  induction declarations generalizing candidates with
  | nil => simp
  | cons declared declarations ih =>
      rw [List.foldlM_cons] at folded
      obtain ⟨next, considered, rest⟩ := bind_eq_ok.mp folded
      exact List.forall_mem_cons.mpr
        ⟨valid_of_consider parseRfc3339 component kind subject now considered, ih rest⟩

/-- What is selected when every declaration is valid. -/
def selection (declarations : List (MaintenanceDeclaration × Instant)) :
    Option (MaintenanceDeclaration × MaintenanceAnnotation) :=
  Candidates.select {
    active := declarations.filter (isActive parseRfc3339 component kind subject now)
    expired := declarations.filterMap (asExpired parseRfc3339 component kind subject now) }

theorem maintenanceAnnotation_of_valid (valid : ∀ declared ∈ declarations, declared.1.Valid parseRfc3339) :
    maintenanceAnnotation parseRfc3339 component kind subject now declarations =
      .ok (selection parseRfc3339 component kind subject now declarations) := by
  unfold maintenanceAnnotation
  rw [candidates_of_valid parseRfc3339 component kind subject now valid]
  rfl

theorem maintenanceAnnotation_fails_iff (declarations : List (MaintenanceDeclaration × Instant)) :
    (∃ message, maintenanceAnnotation parseRfc3339 component kind subject now declarations = .error message) ↔
      ∃ declared ∈ declarations, ¬ declared.1.Valid parseRfc3339 := by
  constructor
  · rintro ⟨message, failed⟩
    by_contra! valid
    rw [maintenanceAnnotation_of_valid parseRfc3339 component kind subject now valid] at failed
    cases failed
  · rintro ⟨declared, member, invalid⟩
    cases annotated : maintenanceAnnotation parseRfc3339 component kind subject now declarations with
    | error message => exact ⟨message, rfl⟩
    | ok answer =>
        obtain ⟨candidates, folded, -⟩ := bind_eq_ok.mp annotated
        exact absurd (valid_of_candidates parseRfc3339 component kind subject now folded declared member) invalid

end Kept

/-! ## Which declaration is selected -/

/-- The answer about one condition, from the declarations alone. -/
inductive Selected (declarations : List (MaintenanceDeclaration × Instant)) :
    Option (MaintenanceDeclaration × MaintenanceAnnotation) → Prop where
  | covered {declared} (member : declared ∈ declarations) (applies : Applies component kind subject now declared)
      (isOpen : Open parseRfc3339 now declared.1)
      (last : ∀ other ∈ declarations, Applies component kind subject now other → Open parseRfc3339 now other.1 →
        toLex (other.2, other.1.maintenanceId) ≤ toLex (declared.2, declared.1.maintenanceId)) :
      Selected declarations (some (declared.1, .covered))
  | overrun {declared stop} (member : declared ∈ declarations) (applies : Applies component kind subject now declared)
      (ended : EndedAt parseRfc3339 now declared.1 stop)
      (uncovered : ∀ other ∈ declarations, Applies component kind subject now other → ¬ Open parseRfc3339 now other.1)
      (last : ∀ other ∈ declarations, Applies component kind subject now other →
        ∀ otherStop, EndedAt parseRfc3339 now other.1 otherStop →
        toLex (otherStop, toLex (other.2, other.1.maintenanceId)) ≤
          toLex (stop, toLex (declared.2, declared.1.maintenanceId))) :
      Selected declarations (some (declared.1, .overrun))
  | none
      (uncovered : ∀ other ∈ declarations, Applies component kind subject now other → ¬ Open parseRfc3339 now other.1)
      (unended : ∀ other ∈ declarations, Applies component kind subject now other →
        ∀ stop, ¬ EndedAt parseRfc3339 now other.1 stop) :
      Selected declarations none

theorem selection_selected (declarations : List (MaintenanceDeclaration × Instant)) :
    Selected parseRfc3339 component kind subject now declarations
      (selection parseRfc3339 component kind subject now declarations) := by
  unfold selection Candidates.select
  cases active : sortBy activeKey (declarations.filter (isActive parseRfc3339 component kind subject now)) with
  | cons first rest =>
      obtain ⟨member, greatest⟩ := sortBy_head active
      obtain ⟨member, firstActive⟩ := List.mem_filter.mp member
      obtain ⟨applies, isOpen⟩ := (isActive_iff parseRfc3339 component kind subject now).mp firstActive
      refine .covered member applies isOpen fun other otherMember otherApplies otherOpen => ?_
      have kept := List.mem_filter.mpr
        ⟨otherMember, (isActive_iff parseRfc3339 component kind subject now).mpr ⟨otherApplies, otherOpen⟩⟩
      exact OrderDual.toDual_le_toDual.mp (greatest other kept)
  | nil =>
      have uncovered : ∀ other ∈ declarations, Applies component kind subject now other →
          ¬ Open parseRfc3339 now other.1 := by
        intro other member otherApplies otherOpen
        have kept := List.mem_filter.mpr
          ⟨member, (isActive_iff parseRfc3339 component kind subject now).mpr ⟨otherApplies, otherOpen⟩⟩
        rw [sortBy_eq_nil_iff.mp active] at kept
        cases kept
      have collected : ∀ other ∈ declarations, Applies component kind subject now other →
          ∀ stop, EndedAt parseRfc3339 now other.1 stop → (other.1, other.2, stop) ∈
            declarations.filterMap (asExpired parseRfc3339 component kind subject now) := by
        intro other member otherApplies stop ended
        exact List.mem_filterMap.mpr ⟨other, member,
          (asExpired_eq_some parseRfc3339 component kind subject now).mpr ⟨otherApplies, ended, rfl, rfl⟩⟩
      cases expired : sortBy expiredKey
          (declarations.filterMap (asExpired parseRfc3339 component kind subject now)) with
      | nil =>
          refine .none uncovered fun other member otherApplies stop ended => ?_
          have kept := collected other member otherApplies stop ended
          rw [sortBy_eq_nil_iff.mp expired] at kept
          cases kept
      | cons first rest =>
          obtain ⟨member, greatest⟩ := sortBy_head expired
          obtain ⟨declared, member, firstExpired⟩ := List.mem_filterMap.mp member
          obtain ⟨applies, ended, same, sameTime⟩ :=
            (asExpired_eq_some parseRfc3339 component kind subject now).mp firstExpired
          simp only [List.head?_cons, Option.map_some, same]
          refine .overrun member applies ended uncovered fun other otherMember otherApplies stop otherEnded => ?_
          have above := OrderDual.toDual_le_toDual.mp (greatest _ (collected other otherMember otherApplies stop otherEnded))
          rwa [same, sameTime] at above

/-! ## The order of the declarations -/

theorem map_filterMap_sublist {α β κ : Type} {keep : α → Option β} {before : α → κ} {after : β → κ}
    (same : ∀ row kept, keep row = some kept → after kept = before row) (rows : List α) :
    ((rows.filterMap keep).map after).Sublist (rows.map before) := by
  induction rows with
  | nil => exact List.Sublist.slnil
  | cons row rows ih =>
      cases kept : keep row with
      | none => simpa [kept] using ih.cons (before row)
      | some result => simpa [kept, same row result kept] using ih.cons_cons (before row)

theorem selection_perm {declarations others : List (MaintenanceDeclaration × Instant)}
    (distinct : (declarations.map fun declared => declared.1.maintenanceId).Nodup) (perm : declarations.Perm others) :
    selection parseRfc3339 component kind subject now declarations =
      selection parseRfc3339 component kind subject now others := by
  have active : sortBy activeKey (declarations.filter (isActive parseRfc3339 component kind subject now)) =
      sortBy activeKey (others.filter (isActive parseRfc3339 component kind subject now)) := by
    refine sortBy_congr (perm.filter _) (List.Nodup.of_map (fun key => (ofLex (OrderDual.ofDual key)).2) ?_)
    rw [List.map_map]
    exact distinct.sublist (List.filter_sublist.map _)
  have expired : sortBy expiredKey (declarations.filterMap (asExpired parseRfc3339 component kind subject now)) =
      sortBy expiredKey (others.filterMap (asExpired parseRfc3339 component kind subject now)) := by
    refine sortBy_congr (perm.filterMap _)
      (List.Nodup.of_map (fun key => (ofLex (ofLex (OrderDual.ofDual key)).2).2) ?_)
    rw [List.map_map]
    refine distinct.sublist (map_filterMap_sublist (fun declared candidate kept => ?_) declarations)
    exact congrArg MaintenanceDeclaration.maintenanceId
      ((asExpired_eq_some parseRfc3339 component kind subject now).mp kept).2.2.1
  unfold selection Candidates.select
  rw [active, expired]

/-- The annotation fails exactly on an invalid declaration, selects as described, and does not
depend on the order of the declarations. -/
theorem maintenanceAnnotation_exact (declarations : List (MaintenanceDeclaration × Instant))
    (distinct : (declarations.map fun declared => declared.1.maintenanceId).Nodup) :
    ((∃ message, maintenanceAnnotation parseRfc3339 component kind subject now declarations = .error message) ↔
      ∃ declared ∈ declarations, ¬ declared.1.Valid parseRfc3339) ∧
    (∀ answer, maintenanceAnnotation parseRfc3339 component kind subject now declarations = .ok answer →
      Selected parseRfc3339 component kind subject now declarations answer) ∧
    ∀ others answer, declarations.Perm others →
      (.ok answer = maintenanceAnnotation parseRfc3339 component kind subject now others ↔
        .ok answer = maintenanceAnnotation parseRfc3339 component kind subject now declarations) := by
  by_cases valid : ∀ declared ∈ declarations, declared.1.Valid parseRfc3339
  · have annotated := maintenanceAnnotation_of_valid parseRfc3339 component kind subject now valid
    refine ⟨maintenanceAnnotation_fails_iff parseRfc3339 component kind subject now declarations, fun answer answered => ?_,
      fun others answer perm => ?_⟩
    · obtain rfl := Except.ok.inj (annotated.symm.trans answered)
      exact selection_selected parseRfc3339 component kind subject now declarations
    · have othersValid : ∀ declared ∈ others, declared.1.Valid parseRfc3339 :=
        fun declared member => valid declared (perm.mem_iff.mpr member)
      rw [annotated, maintenanceAnnotation_of_valid parseRfc3339 component kind subject now othersValid,
        selection_perm parseRfc3339 component kind subject now distinct perm]
  · push Not at valid
    have failed := maintenanceAnnotation_fails_iff parseRfc3339 component kind subject now declarations
    obtain ⟨message, refused⟩ := failed.mpr valid
    refine ⟨failed, fun answer answered => ?_, fun others answer perm => ?_⟩
    · rw [answered] at refused
      cases refused
    · obtain ⟨declared, member, isInvalid⟩ := valid
      have othersFail := maintenanceAnnotation_fails_iff parseRfc3339 component kind subject now others
      obtain ⟨otherMessage, othersRefused⟩ := othersFail.mpr ⟨declared, perm.mem_iff.mp member, isInvalid⟩
      rw [refused, othersRefused]
      simp

end Declarations

/-! Instants of the examples are the numbers that their texts begin with. -/

def parseSample (text : String) : Option Nat :=
  match text.toList with
  | digit :: _ => some (digit.toNat - 48)
  | [] => none

def sampleDeclaration (maintenanceId startAt endAt : String) (subject : Option String) : MaintenanceDeclaration where
  maintenanceId := maintenanceId
  declaredBy := none
  startAt := startAt
  endAt := endAt
  component := "storage"
  kind := "pressure"
  subject := subject
  reason := none

theorem maintenanceAnnotation_exact_overlapping :
    Selected parseSample "storage" "pressure" "disk-1" 5
        [(sampleDeclaration "m1" "1Z" "7Z" none, 2), (sampleDeclaration "m2" "4Z" "6Z" (some "disk-*"), 2),
          (sampleDeclaration "m3" "1Z" "9Z" (some "net*"), 4)]
        (some (sampleDeclaration "m2" "4Z" "6Z" (some "disk-*"), .covered)) := by
  obtain ⟨-, selected, -⟩ := maintenanceAnnotation_exact parseSample "storage" "pressure" "disk-1" 5
    [(sampleDeclaration "m1" "1Z" "7Z" none, 2), (sampleDeclaration "m2" "4Z" "6Z" (some "disk-*"), 2),
      (sampleDeclaration "m3" "1Z" "9Z" (some "net*"), 4)] (by decide)
  exact selected _ (by decide +kernel)

end ConstellationNq.App.SavedCheck
