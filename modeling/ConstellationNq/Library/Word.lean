import Mathlib.Data.Nat.Basic
import Mathlib.Algebra.Order.Ring.Int

/-!
# Checked word arithmetic

Operations on 64-bit words that report when their result does not fit, each with what
it computes on the numbers that the words stand for, and computations with a statement
about their value and one about their error.
-/

set_option autoImplicit false

namespace ConstellationNq.Library.Word

section Checked

variable {left right result : UInt64}

def checkedAdd (left right : UInt64) : Option UInt64 :=
  if left.toNat + right.toNat < 2 ^ 64 then some (left + right) else none

def checkedSub (left right : UInt64) : Option UInt64 :=
  if right ≤ left then some (left - right) else none

def checkedMul (left right : UInt64) : Option UInt64 :=
  if left.toNat * right.toNat < 2 ^ 64 then some (left * right) else none

def saturatingSub (left right : UInt64) : UInt64 := if right ≤ left then left - right else 0

def saturatingAdd (left right : UInt64) : UInt64 :=
  if left.toNat + right.toNat < 2 ^ 64 then left + right else 18446744073709551615

def divCeil (left right : UInt64) : UInt64 := left / right + if left % right = 0 then 0 else 1

theorem checkedAdd_eq_some :
    checkedAdd left right = some result ↔ result.toNat = left.toNat + right.toNat := by
  unfold checkedAdd
  by_cases fits : left.toNat + right.toNat < 2 ^ 64
  · rw [if_pos fits, Option.some.injEq, eq_comm, ← UInt64.toNat_inj, UInt64.toNat_add, Nat.mod_eq_of_lt fits]
  · rw [if_neg fits]
    have := result.toNat_lt
    constructor
    · intro impossible
      cases impossible
    · intro sum
      omega

theorem checkedSub_eq_some :
    checkedSub left right = some result ↔ result.toNat + right.toNat = left.toNat := by
  unfold checkedSub
  by_cases fits : right ≤ left
  · rw [if_pos fits, Option.some.injEq, eq_comm, ← UInt64.toNat_inj, UInt64.toNat_sub_of_le left right fits]
    have := UInt64.le_iff_toNat_le.mp fits
    omega
  · rw [if_neg fits]
    rw [UInt64.le_iff_toNat_le] at fits
    constructor
    · intro impossible
      cases impossible
    · intro difference
      omega

theorem checkedMul_eq_some :
    checkedMul left right = some result ↔ result.toNat = left.toNat * right.toNat := by
  unfold checkedMul
  by_cases fits : left.toNat * right.toNat < 2 ^ 64
  · rw [if_pos fits, Option.some.injEq, eq_comm, ← UInt64.toNat_inj, UInt64.toNat_mul, Nat.mod_eq_of_lt fits]
  · rw [if_neg fits]
    have := result.toNat_lt
    constructor
    · intro impossible
      cases impossible
    · intro product
      omega

theorem toNat_saturatingSub : (saturatingSub left right).toNat = left.toNat - right.toNat := by
  unfold saturatingSub
  split
  · rename_i fits
    exact UInt64.toNat_sub_of_le left right fits
  · rename_i exceeds
    rw [UInt64.le_iff_toNat_le] at exceeds
    have : (0 : UInt64).toNat = 0 := rfl
    omega

theorem toNat_saturatingAdd : (saturatingAdd left right).toNat = min (left.toNat + right.toNat) (2 ^ 64 - 1) := by
  unfold saturatingAdd
  split
  · rename_i fits
    rw [UInt64.toNat_add, Nat.mod_eq_of_lt fits]
    omega
  · rename_i exceeds
    change 18446744073709551615 = _
    omega

theorem toNat_divCeil (positive : 0 < right.toNat) :
    (divCeil left right).toNat = (left.toNat + (right.toNat - 1)) / right.toNat := by
  have fits := left.toNat_lt
  have split := Nat.div_add_mod left.toNat right.toNat
  have remainder := Nat.mod_lt left.toNat positive
  unfold divCeil
  by_cases exact : left % right = 0
  · have none : left.toNat % right.toNat = 0 := by rw [← UInt64.toNat_mod, exact]; rfl
    rw [if_pos exact, UInt64.add_zero, UInt64.toNat_div]
    symm
    rw [Nat.div_eq_iff positive]
    constructor <;> rw [Nat.mul_comm] <;> omega
  · have some : left.toNat % right.toNat ≠ 0 := by
      intro none
      exact exact (UInt64.toNat_inj.mp (by rw [UInt64.toNat_mod, none]; rfl))
    have room : left.toNat / right.toNat + 1 < 2 ^ 64 := by
      have : left.toNat / right.toNat ≤ right.toNat * (left.toNat / right.toNat) := Nat.le_mul_of_pos_left _ positive
      omega
    rw [if_neg exact, UInt64.toNat_add, UInt64.toNat_div]
    change (_ + 1) % 2 ^ 64 = _
    rw [Nat.mod_eq_of_lt room]
    symm
    rw [Nat.div_eq_iff positive, Nat.mul_comm, Nat.mul_add]
    omega

theorem toNat_min : (min left right).toNat = min left.toNat right.toNat := by
  change (if left ≤ right then left else right).toNat = _
  split
  · rename_i below
    exact (Nat.min_eq_left (UInt64.le_iff_toNat_le.mp below)).symm
  · rename_i above
    rw [UInt64.le_iff_toNat_le] at above
    exact (Nat.min_eq_right (by omega)).symm

theorem toNat_max : (max left right).toNat = max left.toNat right.toNat := by
  change (if left ≤ right then right else left).toNat = _
  split
  · rename_i below
    exact (Nat.max_eq_right (UInt64.le_iff_toNat_le.mp below)).symm
  · rename_i above
    rw [UInt64.le_iff_toNat_le] at above
    exact (Nat.max_eq_left (by omega)).symm

end Checked

/-! ## Computations with a value or an error -/

section Outcome

universe u v

variable {ε : Type u} {α β : Type v}

/-- What holds of the value of a computation, and what of its error. -/
structure Meets (computation : Except ε α) (value : α → Prop) (fault : ε → Prop) : Prop where
  value : ∀ result, computation = .ok result → value result
  fault : ∀ error, computation = .error error → fault error

variable {fault : ε → Prop}

theorem Meets.pure {value : α → Prop} {result : α} (holds : value result) :
    Meets (ε := ε) (.ok result) value fault where
  value := by
    intro same returned
    cases returned
    exact holds
  fault := by
    intro error impossible
    cases impossible

theorem Meets.bind {computation : Except ε α} {next : α → Except ε β} {value : α → Prop} {after : β → Prop}
    (first : Meets computation value fault) (rest : ∀ result, value result → Meets (next result) after fault) :
    Meets (computation >>= next) after fault := by
  cases computation with
  | error error =>
      constructor
      case value =>
        intro result impossible
        cases impossible
      case fault =>
        intro same raised
        cases raised
        exact first.fault error rfl
  | ok result => exact rest result (first.value result rfl)

end Outcome

end ConstellationNq.Library.Word
