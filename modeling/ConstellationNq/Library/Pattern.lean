import Mathlib.Data.List.Infix
import Mathlib.Data.Nat.Find
import Mathlib.Algebra.Order.Ring.Int

/-!
# Patterns and lines

The first place of a pattern in a list depends only on what stands up to its end.
A list is cut into lines at a pair of items; a reader that also cuts at either item
alone finds the same lines if neither stands alone.
-/

set_option autoImplicit false

namespace ConstellationNq.Library.Pattern

universe u

variable {α : Type u} [DecidableEq α] {pattern text before after : List α}

/-! ## The first place -/

/-- The first place at which a pattern starts. -/
def firstAt (pattern : List α) : List α → Option Nat
  | [] => if pattern.isPrefixOf [] then some 0 else none
  | item :: rest => if pattern.isPrefixOf (item :: rest) then some 0 else (firstAt pattern rest).map (· + 1)

theorem firstAt_eq_some {place : Nat} : firstAt pattern text = some place ↔
    place ≤ text.length ∧ pattern <+: text.drop place ∧ ∀ earlier < place, ¬ pattern <+: text.drop earlier := by
  induction text generalizing place with
  | nil =>
      rw [firstAt]
      by_cases starts : pattern <+: []
      · rw [if_pos (List.isPrefixOf_iff_prefix.mpr starts)]
        cases place <;> simp [starts]
      · rw [if_neg (mt List.isPrefixOf_iff_prefix.mp starts)]
        simp [starts]
  | cons item rest ih =>
      rw [firstAt]
      by_cases starts : pattern <+: item :: rest
      · rw [if_pos (List.isPrefixOf_iff_prefix.mpr starts)]
        cases place with
        | zero => simp [starts]
        | succ place =>
            refine iff_of_false (by simp) ?_
            rintro ⟨-, -, first⟩
            exact first 0 (Nat.succ_pos place) starts
      · rw [if_neg (mt List.isPrefixOf_iff_prefix.mp starts)]
        cases place with
        | zero => simp [starts]
        | succ place =>
            have below : (∀ earlier < place + 1, ¬ pattern <+: (item :: rest).drop earlier) ↔
                ∀ earlier < place, ¬ pattern <+: rest.drop earlier := by
              constructor
              · intro first earlier before
                exact first (earlier + 1) (Nat.succ_lt_succ before)
              · intro first earlier before
                cases earlier with
                | zero => exact starts
                | succ earlier => exact first earlier (Nat.lt_of_succ_lt_succ before)
            rw [below]
            simp [ih]

/-- A pattern that occurs has a first place, no later than any of its places. -/
theorem firstAt_of_occurs {place : Nat} (within : place ≤ text.length) (occurs : pattern <+: text.drop place) :
    ∃ first ≤ place, firstAt pattern text = some first := by
  classical
  have some_place : ∃ first, pattern <+: text.drop first := ⟨place, occurs⟩
  have earliest : Nat.find some_place ≤ place := Nat.find_min' some_place occurs
  exact ⟨_, earliest, firstAt_eq_some.mpr
    ⟨earliest.trans within, Nat.find_spec some_place, fun _ earlier => Nat.find_min some_place earlier⟩⟩

theorem firstAt_length {place : Nat} (found : firstAt pattern text = some place) :
    place + pattern.length ≤ text.length := by
  obtain ⟨within, occurs, _⟩ := firstAt_eq_some.mp found
  have fits := occurs.length_le
  rw [List.length_drop] at fits
  omega

/-- What follows a place does not move it. -/
theorem firstAt_append {place : Nat} (found : firstAt pattern before = some place) :
    firstAt pattern (before ++ after) = some place := by
  have fits := firstAt_length found
  obtain ⟨within, occurs, first⟩ := firstAt_eq_some.mp found
  refine firstAt_eq_some.mpr ⟨by simp; omega, ?_, fun earlier early starts => first earlier early ?_⟩
  · rw [List.drop_append_of_le_length within]
    exact occurs.trans (List.prefix_append _ _)
  · rw [List.drop_append_of_le_length (by omega)] at starts
    exact List.prefix_of_prefix_length_le starts (List.prefix_append _ _) (by simp; omega)

theorem firstAt_of_append {place : Nat} (found : firstAt pattern (before ++ after) = some place)
    (within : place + pattern.length ≤ before.length) : firstAt pattern before = some place := by
  obtain ⟨_, occurs, first⟩ := firstAt_eq_some.mp found
  refine firstAt_eq_some.mpr ⟨by omega, ?_, fun earlier early starts => first earlier early ?_⟩
  · rw [List.drop_append_of_le_length (by omega)] at occurs
    exact List.prefix_of_prefix_length_le occurs (List.prefix_append _ _) (by simp; omega)
  · rw [List.drop_append_of_le_length (by omega)]
    exact starts.trans (List.prefix_append _ _)

/-- A text that ends with a pattern which occurs nowhere else in it. -/
structure EndsAtFirst (pattern text : List α) : Prop where
  ends : pattern <:+ text
  first : ∀ before after, text = before ++ pattern ++ after → after = []

omit [DecidableEq α] in
theorem EndsAtFirst.length_le (ended : EndsAtFirst pattern text) : pattern.length ≤ text.length :=
  ended.ends.length_le

theorem endsAtFirst_iff : EndsAtFirst pattern text ↔ firstAt pattern text = some (text.length - pattern.length) ∧
    pattern.length ≤ text.length := by
  constructor
  · intro ended
    have fits := ended.length_le
    obtain ⟨before, rfl⟩ := ended.ends
    have last : pattern <+: (before ++ pattern).drop before.length := by simp
    obtain ⟨place, _, found⟩ := firstAt_of_occurs (by simp) last
    obtain ⟨within, ⟨after, occurs⟩, _⟩ := firstAt_eq_some.mp found
    have split : before ++ pattern = (before ++ pattern).take place ++ pattern ++ after := by
      rw [List.append_assoc, occurs, List.take_append_drop]
    have lengths := congrArg List.length split
    rw [ended.first _ _ split] at lengths
    simp only [List.length_append, List.length_take, List.append_nil] at lengths within fits ⊢
    exact ⟨found.trans (congrArg some (by omega)), by omega⟩
  · rintro ⟨found, fits⟩
    obtain ⟨_, occurs, first⟩ := firstAt_eq_some.mp found
    constructor
    case ends =>
      have whole := occurs.eq_of_length (by simp; omega)
      exact whole ▸ List.drop_suffix _ _
    case first =>
      rintro before after rfl
      have late : ¬ before.length < (before ++ pattern ++ after).length - pattern.length := fun early =>
        first _ early (by simp)
      simp only [List.length_append] at late
      exact List.length_eq_zero_iff.mp (by omega)

/-! ## Lines -/

/-- The text before and after the first separator. -/
def splitOnce (separator : α) : List α → Option (List α × List α)
  | [] => none
  | item :: rest =>
      if item == separator then some ([], rest)
      else (splitOnce separator rest).map fun (before, after) => (item :: before, after)

theorem eq_of_splitOnce {separator : α} (found : splitOnce separator text = some (before, after)) :
    text = before ++ separator :: after := by
  induction text generalizing before with
  | nil => cases found
  | cons item rest ih =>
      rw [splitOnce] at found
      split at found
      · rename_i same
        cases found
        rw [eq_of_beq same, List.nil_append]
      · obtain ⟨⟨start, finish⟩, split, same⟩ := Option.map_eq_some_iff.mp found
        cases same
        rw [ih split, List.cons_append]

theorem splitOnce_append {separator : α} (plain : separator ∉ before) :
    splitOnce separator (before ++ separator :: after) = some (before, after) := by
  induction before with
  | nil => simp [splitOnce]
  | cons item before ih =>
      obtain ⟨other, plain⟩ := List.ne_and_not_mem_of_not_mem_cons plain
      rw [List.cons_append, splitOnce, if_neg (by simpa using Ne.symm other), ih plain]
      rfl

section Lines

variable (first second : α)

/-- The item stands at the start of the first line. -/
def extend (item : α) : List (List α) → List (List α)
  | [] => [[item]]
  | line :: lines => (item :: line) :: lines

/-- Lines are ended by a pair of items. -/
def lines : List α → List (List α)
  | [] => [[]]
  | [item] => [[item]]
  | item :: next :: rest =>
      if item == first && next == second then [] :: lines rest else extend item (lines (next :: rest))

/-- Lines are ended by the pair or by either item alone. -/
def lenientLines : List α → List (List α)
  | [] => [[]]
  | [item] => if item == first || item == second then [[], []] else [[item]]
  | item :: next :: rest =>
      if item == first && next == second then [] :: lenientLines rest
      else if item == first || item == second then [] :: lenientLines (next :: rest)
      else extend item (lenientLines (next :: rest))

/-- Every item is one of the pair in its place or meets the condition. -/
def endedBy (ordinary : α → Bool) : List α → Bool
  | [] => true
  | [item] => ordinary item
  | item :: next :: rest =>
      if item == first && next == second then endedBy ordinary rest
      else ordinary item && endedBy ordinary (next :: rest)

variable {first second}

omit [DecidableEq α] in
theorem extend_append (item : α) {left : List (List α)} (nonempty : left ≠ []) (right : List (List α)) :
    extend item (left ++ right) = extend item left ++ right := by
  cases left with
  | nil => exact absurd rfl nonempty
  | cons line left => rfl

theorem lines_ne_nil : lines first second text ≠ [] := by
  fun_cases lines first second text with
  | case4 item next rest _ => cases lines first second (next :: rest) <;> exact List.cons_ne_nil _ _
  | _ => exact List.cons_ne_nil _ _

theorem lines_append (apart : first ≠ second) :
    lines first second (before ++ first :: second :: after) = lines first second before ++ lines first second after := by
  induction before using lines.induct first second with
  | case1 => simp [lines]
  | case2 item => simp [lines, apart, extend]
  | case3 item next rest pair ih => simp [lines, pair, ih]
  | case4 item next rest other ih =>
      rw [List.cons_append, List.cons_append, lines, if_neg other, lines, if_neg other, ← List.cons_append, ih,
        extend_append item lines_ne_nil]

theorem endedBy_iff {ordinary : α → Bool} :
    endedBy first second ordinary text = true ↔ ∀ line ∈ lines first second text, line.all ordinary = true := by
  induction text using lines.induct first second with
  | case1 => simp [endedBy, lines]
  | case2 item => simp [endedBy, lines]
  | case3 item next rest pair ih => simp [endedBy, lines, pair, ih]
  | case4 item next rest other ih =>
      rw [endedBy, if_neg other, lines, if_neg other, Bool.and_eq_true, ih]
      cases split : lines first second (next :: rest) with
      | nil => exact absurd split lines_ne_nil
      | cons line lines => simp [extend, and_assoc]

theorem lenientLines_of_endedBy {ordinary : α → Bool} (firstNot : ordinary first = false)
    (secondNot : ordinary second = false) (ended : endedBy first second ordinary text = true) :
    lenientLines first second text = lines first second text := by
  have alone {item : α} (passes : ordinary item = true) : ¬ (item == first || item == second) = true := by
    rw [Bool.or_eq_true, beq_iff_eq, beq_iff_eq]
    rintro (rfl | rfl)
    · exact Bool.false_ne_true (firstNot.symm.trans passes)
    · exact Bool.false_ne_true (secondNot.symm.trans passes)
  induction text using lines.induct first second with
  | case1 => rfl
  | case2 item =>
      rw [lenientLines, if_neg (alone ended), lines]
  | case3 item next rest pair ih =>
      rw [endedBy, if_pos pair] at ended
      rw [lenientLines, if_pos pair, lines, if_pos pair, ih ended]
  | case4 item next rest other ih =>
      rw [endedBy, if_neg other, Bool.and_eq_true] at ended
      rw [lenientLines, if_neg other, if_neg (alone ended.1), lines, if_neg other, ih ended.2]

end Lines

end ConstellationNq.Library.Pattern
