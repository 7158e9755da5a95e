import Mathlib.Algebra.Order.Group.Int
import Mathlib.Data.Int.Interval
import Mathlib.Data.List.Nodup
import Mathlib.Tactic.Ring

/-!
# Sequence numbers

Runs of consecutive integers, the highest number of a list, keys that stay distinct when
rows are dropped or rewritten, and counts over the pairs of two lists.
-/

set_option autoImplicit false

namespace ConstellationNq.Library.Sequence

universe u v

/-! ## Consecutive numbers -/

/-- `count` integers from the one after `last`. -/
def consecutive (last : Int) (count : Nat) : List Int :=
  (List.range count).map fun index : Nat => last + 1 + (index : Int)

theorem mem_consecutive {last sequence : Int} {count : Nat} :
    sequence ∈ consecutive last count ↔ last < sequence ∧ sequence ≤ last + count := by
  simp only [consecutive, List.mem_map, List.mem_range]
  constructor
  · rintro ⟨index, small, rfl⟩
    omega
  · rintro ⟨above, below⟩
    exact ⟨(sequence - last - 1).toNat, by omega, by omega⟩

theorem consecutive_succ (last : Int) (count : Nat) :
    consecutive last (count + 1) = consecutive last count ++ [last + (count + 1 : Nat)] := by
  simp only [consecutive, List.range_succ, List.map_append, List.map_cons, List.map_nil]
  congr 2
  push_cast
  ring

variable {values : List Int}

theorem consecutive_succ_eq {last value : Int} {count : Nat}
    (filled : values ++ [value] = consecutive last (count + 1)) :
    values = consecutive last count ∧ value = last + (count + 1 : Nat) := by
  rw [consecutive_succ] at filled
  obtain ⟨earlier, single⟩ := List.append_inj' filled rfl
  exact ⟨earlier, List.singleton_inj.mp single⟩

theorem consecutive_append (last : Int) (count more : Nat) :
    consecutive last count ++ consecutive (last + count) more = consecutive last (count + more) := by
  induction more with
  | zero => simp [consecutive]
  | succ more ih =>
      rw [consecutive_succ, ← List.append_assoc, ih, ← Nat.add_assoc, consecutive_succ]
      congr 2
      push_cast
      ring

/-- The highest of a list that ends with the successor of the highest so far. -/
theorem max_getD_append_succ (values : List Int) :
    (values ++ [values.max?.getD 0 + 1]).max?.getD 0 = values.max?.getD 0 + 1 := by
  cases top : values.max? with
  | none =>
      rw [List.max?_eq_none_iff] at top
      simp [top]
  | some last =>
      have highest := (List.max?_eq_some_iff.mp top).2
      have : (values ++ [last + 1]).max? = some (last + 1) := by
        refine List.max?_eq_some_iff.mpr ⟨by simp, ?_⟩
        intro value member
        rcases List.mem_append.mp member with old | new
        · have := highest value old
          omega
        · rw [List.mem_singleton.mp new]
      simp [this]

theorem le_max_getD {value : Int} (member : value ∈ values) :
    value ≤ values.max?.getD 0 := by
  cases top : values.max? with
  | none =>
      rw [List.max?_eq_none_iff] at top
      simp [top] at member
  | some last => exact (List.max?_eq_some_iff.mp top).2 value member

theorem max_getD_le {top : Int} (reached : 0 ≤ top) (bounded : ∀ value ∈ values, value ≤ top) :
    values.max?.getD 0 ≤ top := by
  cases highest : values.max? with
  | none => exact reached
  | some last => exact bounded last (List.max?_eq_some_iff.mp highest).1

theorem max_getD_consecutive (count : Nat) : (consecutive 0 count).max?.getD 0 = count := by
  have above : (consecutive 0 count).max?.getD 0 ≤ count := by
    refine max_getD_le (by omega) fun value member => ?_
    have within := (mem_consecutive.mp member).2
    omega
  cases count with
  | zero => rfl
  | succ count =>
      have reached : ((count + 1 : Nat) : Int) ≤ (consecutive 0 (count + 1)).max?.getD 0 :=
        le_max_getD (mem_consecutive.mpr ⟨by omega, by omega⟩)
      omega

theorem max_getD_mem (positive : 0 < values.max?.getD 0) :
    values.max?.getD 0 ∈ values := by
  cases highest : values.max? with
  | none =>
      rw [highest] at positive
      exact absurd positive (lt_irrefl 0)
  | some last => exact (List.max?_eq_some_iff.mp highest).1

theorem max_getD_nonneg (nonnegative : ∀ value ∈ values, 0 ≤ value) :
    0 ≤ values.max?.getD 0 := by
  cases highest : values.max? with
  | none => exact le_rfl
  | some last => exact nonnegative last (List.max?_eq_some_iff.mp highest).1

/-! ## Lists that fill an interval -/

/-- The values are those above `low` and at most `high`. -/
def Fills (low high : Int) (values : List Int) : Prop :=
  ∀ value, value ∈ values ↔ low < value ∧ value ≤ high

theorem Fills.length {low high : Int} (order : low ≤ high) (distinct : values.Nodup) (fills : Fills low high values) :
    (values.length : Int) = high - low := by
  have same : values.toFinset = Finset.Ioc low high := by
    ext value
    rw [List.mem_toFinset, Finset.mem_Ioc]
    exact fills value
  have counted := List.toFinset_card_of_nodup distinct
  rw [same, Int.card_Ioc] at counted
  omega

/-- Distinct values fill an interval as soon as its ends and their number fit. -/
theorem fills_iff {low : Int} (distinct : values.Nodup) :
    Fills low (low + values.length) values ↔
      (values ≠ [] → values.min? = some (low + 1) ∧ values.max? = some (low + values.length)) := by
  constructor
  · intro fills nonempty
    have positive : 0 < values.length := List.length_pos_iff.mpr nonempty
    refine ⟨List.min?_eq_some_iff.mpr ⟨?_, ?_⟩, List.max?_eq_some_iff.mpr ⟨?_, ?_⟩⟩
    · exact (fills _).mpr ⟨by omega, by omega⟩
    · exact fun value member => ((fills value).mp member).1
    · exact (fills _).mpr ⟨by omega, by omega⟩
    · exact fun value member => ((fills value).mp member).2
  · intro ends
    have subset : values.toFinset ⊆ Finset.Ioc low (low + values.length) := by
      intro value member
      rw [List.mem_toFinset] at member
      obtain ⟨first, last⟩ := ends (List.ne_nil_of_mem member)
      have above := (List.min?_eq_some_iff.mp first).2 value member
      have below := (List.max?_eq_some_iff.mp last).2 value member
      exact Finset.mem_Ioc.mpr ⟨by omega, below⟩
    have counted : (Finset.Ioc low (low + values.length)).card ≤ values.toFinset.card := by
      rw [List.toFinset_card_of_nodup distinct, Int.card_Ioc]
      omega
    have same := Finset.eq_of_subset_of_card_le subset counted
    intro value
    rw [← Finset.mem_Ioc, ← same, List.mem_toFinset]

/-- Values that continue a filled interval fill the next one. -/
theorem fills_append_iff {low middle : Int} {earlier later : List Int} (order : low ≤ middle)
    (distinct : (earlier ++ later).Nodup) (filled : Fills low middle earlier) :
    Fills low (low + (earlier ++ later).length) (earlier ++ later) ↔
      Fills middle (middle + later.length) later := by
  obtain ⟨earlierDistinct, _, disjoint⟩ := List.nodup_append.mp distinct
  have counted := filled.length order earlierDistinct
  have top : low + ((earlier ++ later).length : Int) = middle + later.length := by
    rw [List.length_append]
    omega
  rw [top]
  constructor
  · intro fills value
    constructor
    · intro member
      obtain ⟨above, below⟩ := (fills value).mp (List.mem_append_right _ member)
      refine ⟨?_, below⟩
      by_contra within
      exact disjoint value ((filled value).mpr ⟨above, by omega⟩) value member rfl
    · rintro ⟨above, below⟩
      rcases List.mem_append.mp ((fills value).mpr ⟨by omega, below⟩) with member | member
      · have := ((filled value).mp member).2
        omega
      · exact member
  · intro fills value
    rw [List.mem_append, filled value, fills value]
    omega

/-! ## Numbers without gaps above a floor -/

/-- No value passes `last`, and every number above `floor` up to `last` is one of them. -/
structure Dense (floor last : Int) (values : List Int) : Prop where
  bounded : ∀ value ∈ values, value ≤ last
  present : ∀ value, floor < value → value ≤ last → value ∈ values

theorem Dense.append {floor last : Int} (dense : Dense floor last values) (count : Nat) :
    Dense floor (last + count) (values ++ consecutive last count) where
  bounded := by
    intro value member
    rcases List.mem_append.mp member with old | new
    · have := dense.bounded value old
      omega
    · exact (mem_consecutive.mp new).2
  present := by
    intro value above below
    by_cases old : value ≤ last
    · exact List.mem_append_left _ (dense.present value above old)
    · exact List.mem_append_right _ (mem_consecutive.mpr ⟨by omega, below⟩)

/-- Values may be dropped at or below a floor that rises. -/
theorem Dense.drop {floor raised last : Int} {kept : List Int} (dense : Dense floor last values)
    (rises : floor ≤ raised) (subset : kept ⊆ values) (stays : ∀ value ∈ values, raised < value → value ∈ kept) :
    Dense raised last kept where
  bounded := fun value member => dense.bounded value (subset member)
  present := fun value above below => stays value (dense.present value (by omega) below) above

/-! ## Lookups -/

/-- Dropping rows that a lookup does not want leaves its result. -/
theorem find?_filter_of_imp {α : Type u} {rows : List α} {wanted kept : α → Bool}
    (keeps : ∀ row, wanted row → kept row) : (rows.filter kept).find? wanted = rows.find? wanted := by
  induction rows with
  | nil => rfl
  | cons row rows ih =>
      by_cases chosen : wanted row
      · rw [List.filter_cons_of_pos (keeps row chosen), List.find?_cons_of_pos chosen,
          List.find?_cons_of_pos chosen]
      · rw [List.find?_cons_of_neg chosen]
        by_cases stays : kept row
        · rw [List.filter_cons_of_pos stays, List.find?_cons_of_neg chosen, ih]
        · rw [List.filter_cons_of_neg stays, ih]

/-- Dropping the rows that a lookup wants leaves nothing to find. -/
theorem find?_filter_eq_none {α : Type u} {rows : List α} {wanted kept : α → Bool}
    (drops : ∀ row, wanted row → ¬ kept row) : (rows.filter kept).find? wanted = none := by
  refine List.find?_eq_none.mpr fun row member chosen => ?_
  exact drops row chosen (List.mem_filter.mp member).2

/-- A lookup that only one row answers finds it. -/
theorem find?_eq_some_of_unique {α : Type u} {test : α → Bool} {rows : List α} {row : α} (member : row ∈ rows)
    (holds : test row = true) (only : ∀ other ∈ rows, test other = true → other = row) :
    rows.find? test = some row := by
  cases found : rows.find? test with
  | none => exact absurd holds (List.find?_eq_none.mp found row member)
  | some other => rw [only other (List.mem_of_find?_eq_some found) (List.find?_some found)]

/-! ## Distinct keys -/

section Keys

variable {α : Type u} {β : Type v} {rows : List α} {key : α → β}

theorem nodup_key_filter (distinct : (rows.map key).Nodup) (keep : α → Bool) :
    ((rows.filter keep).map key).Nodup :=
  distinct.sublist (List.filter_sublist.map key)

theorem nodup_key_map (distinct : (rows.map key).Nodup) {rewrite : α → α}
    (same : ∀ row, key (rewrite row) = key row) : ((rows.map rewrite).map key).Nodup := by
  have unchanged : key ∘ rewrite = key := funext same
  rw [List.map_map, unchanged]
  exact distinct

theorem nodup_key_append_left {more : List α} (distinct : ((rows ++ more).map key).Nodup) :
    (rows.map key).Nodup :=
  distinct.sublist ((List.sublist_append_left rows more).map key)

/-- Two parts of a table share no key. -/
theorem key_ne_of_append {more : List α} (distinct : ((rows ++ more).map key).Nodup) {old new : α}
    (oldMember : old ∈ rows) (newMember : new ∈ more) : key old ≠ key new := by
  intro same
  rw [List.map_append, List.nodup_append] at distinct
  exact distinct.2.2 _ (List.mem_map_of_mem oldMember) _ (List.mem_map_of_mem newMember) same

theorem eq_of_key (distinct : (rows.map key).Nodup) {left right : α} (leftMember : left ∈ rows)
    (rightMember : right ∈ rows) (same : key left = key right) : left = right :=
  List.inj_on_of_nodup_map distinct leftMember rightMember same

/-- The same where a row may have no key. -/
theorem eq_of_optional_key {key : α → Option β} (distinct : (rows.filterMap key).Nodup) {left right : α}
    (leftMember : left ∈ rows) (rightMember : right ∈ rows) {value : β} (leftKey : key left = some value)
    (rightKey : key right = some value) : left = right := by
  induction rows with
  | nil => cases leftMember
  | cons row rows ih =>
      have apart : ∀ {other : α}, other ∈ rows → key other = some value → key row ≠ some value := by
        intro other member found same
        rw [List.filterMap_cons_some same, List.nodup_cons] at distinct
        exact distinct.1 (List.mem_filterMap.mpr ⟨other, member, found⟩)
      have rest : (rows.filterMap key).Nodup := by
        refine distinct.sublist ?_
        cases found : key row with
        | none => rw [List.filterMap_cons_none found]
        | some value => rw [List.filterMap_cons_some found]; exact List.sublist_cons_self ..
      rcases List.mem_cons.mp leftMember with rfl | inRows
      · rcases List.mem_cons.mp rightMember with rfl | rightMember
        · rfl
        · exact absurd leftKey (apart rightMember rightKey)
      · rcases List.mem_cons.mp rightMember with rfl | rightMember
        · exact absurd rightKey (apart inRows leftKey)
        · exact ih rest inRows rightMember

theorem le_of_maxOn? {number : α → Int} {row other : α} (last : rows.maxOn? number = some row)
    (member : other ∈ rows) : number other ≤ number row := by
  have below := List.le_apply_get_maxOn?_of_mem (f := number) member
  simpa only [last, Option.get_some] using below

/-- The last row stays the last one if it is kept and no row gains a number. -/
theorem maxOn?_eq_of_origins {kept : List α} {number : α → Int}
    (distinct : (kept.map number).Nodup) (origins : ∀ row ∈ kept, ∃ old ∈ rows, number old = number row)
    (stays : ∀ row, rows.maxOn? number = some row → row ∈ kept) : kept.maxOn? number = rows.maxOn? number := by
  cases found : kept.maxOn? number with
  | none =>
      cases last : rows.maxOn? number with
      | none => rfl
      | some row =>
          have nonempty := List.isSome_maxOn?_iff (f := number).mpr (List.ne_nil_of_mem (stays row last))
          simp [found] at nonempty
  | some other =>
      obtain ⟨old, stored, same⟩ := origins other (List.maxOn?_mem found)
      obtain ⟨row, last⟩ := Option.isSome_iff_exists.mp
        (List.isSome_maxOn?_iff (f := number).mpr (List.ne_nil_of_mem stored))
      have member := stays row last
      have below : number old ≤ number row := le_of_maxOn? last stored
      have above : number row ≤ number other := le_of_maxOn? found member
      rw [last, eq_of_key distinct (List.maxOn?_mem found) member (by omega)]

end Keys

/-! ## Counting -/

section Counting

variable {α : Type u} {β : Type v}

/-- The pairs of two lists that stand in a relation, with one more row on the right. -/
theorem sum_countP_cons (related : α → β → Bool) (left : List α) (row : β) (right : List β) :
    (left.map fun item => (row :: right).countP (related item)).sum =
      left.countP (related · row) + (left.map fun item => right.countP (related item)).sum := by
  induction left with
  | nil => rfl
  | cons item left ih =>
      rw [List.map_cons, List.sum_cons, ih, List.map_cons, List.sum_cons, List.countP_cons, List.countP_cons]
      omega

/-- Pairs counted from the left are the rows on the right that have one. -/
theorem sum_countP_eq_countP {related : α → β → Bool} {left : List α} {right : List β} {holds : β → Bool}
    (once : ∀ row ∈ right, left.countP (related · row) = if holds row then 1 else 0) :
    (left.map fun item => right.countP (related item)).sum = right.countP holds := by
  induction right with
  | nil => simp
  | cons row right ih =>
      rw [sum_countP_cons, once row List.mem_cons_self, List.countP_cons, Nat.add_comm]
      rw [ih fun other member => once other (List.mem_cons_of_mem _ member)]
theorem countP_add {either first second : α → Bool} {rows : List α}
    (splits : ∀ row ∈ rows, either row = (first row || second row))
    (apart : ∀ row ∈ rows, first row = true → second row = false) :
    rows.countP either = rows.countP first + rows.countP second := by
  induction rows with
  | nil => rfl
  | cons row rows ih =>
      rw [List.countP_cons, List.countP_cons, List.countP_cons, splits row List.mem_cons_self]
      rw [ih (fun other member => splits other (List.mem_cons_of_mem _ member))
        fun other member => apart other (List.mem_cons_of_mem _ member)]
      cases isFirst : first row with
      | false =>
          simp only [Bool.false_or, Bool.false_eq_true, if_false]
          omega
      | true =>
          simp only [Bool.true_or, apart row List.mem_cons_self isFirst, Bool.false_eq_true, if_true, if_false]
          omega

end Counting

end ConstellationNq.Library.Sequence
