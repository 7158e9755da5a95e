import Mathlib.Algebra.Order.Ring.Int
import Mathlib.Tactic.LinearCombination
import Mathlib.Tactic.Ring

/-!
# Fixed-length big-endian numbers

Addition and subtraction byte by byte from the right, with a carry or a
borrow. Read as residues modulo `256 ^ n`, byte strings of length `n` are
added and subtracted exactly.
-/

set_option autoImplicit false

namespace ConstellationNq.Library.BigEndian

/-- The low digits of a number determine it modulo a power of the base. -/
theorem mod_pow_eq_of_digits {base left right : Nat} (count : Nat)
    (digits : ∀ position < count, left / base ^ position % base = right / base ^ position % base) :
    left % base ^ count = right % base ^ count := by
  induction count with
  | zero => rw [Nat.pow_zero, Nat.mod_one, Nat.mod_one]
  | succ count ih =>
      rw [Nat.mod_pow_succ, Nat.mod_pow_succ, digits count (Nat.lt_succ_self count),
        ih fun position inside => digits position (Nat.lt_succ_of_lt inside)]

def value : List UInt8 → Nat
  | [] => 0
  | byte :: bytes => byte.toNat * 256 ^ bytes.length + value bytes

theorem value_lt (bytes : List UInt8) : value bytes < 256 ^ bytes.length := by
  induction bytes with
  | nil => simp [value]
  | cons byte bytes ih =>
      have byteLt := byte.toNat_lt
      have step : byte.toNat * 256 ^ bytes.length ≤ 255 * 256 ^ bytes.length :=
        Nat.mul_le_mul_right _ (by omega)
      rw [value, List.length_cons, Nat.pow_succ]
      omega

variable {left right : List UInt8}

/-- Two strings of one length are taken apart together. -/
theorem lengths_induction {motive : (left right : List UInt8) → left.length = right.length → Prop}
    (nil : motive [] [] rfl) (cons : ∀ byte other left right tails, motive left right tails →
      motive (byte :: left) (other :: right) (congrArg Nat.succ tails)) : ∀ left right lengths, motive left right lengths
  | [], [], _ => nil
  | _ :: _, _ :: _, lengths => cons _ _ _ _ _ (lengths_induction nil cons _ _ (Nat.succ.inj lengths))

theorem value_injective (lengths : left.length = right.length) (same : value left = value right) : left = right := by
  induction left, right, lengths using lengths_induction with
  | nil => rfl
  | cons byte other left right tails ih =>
      have leftLt := value_lt left
      have rightLt := value_lt right
      rw [← tails] at rightLt
      rw [value, value, ← tails] at same
      have heads : byte.toNat = other.toNat := by
        rcases Nat.lt_trichotomy byte.toNat other.toNat with less | equal | more
        · have := Nat.mul_le_mul_right (256 ^ left.length) (Nat.succ_le_of_lt less)
          rw [Nat.succ_mul] at this
          omega
        · exact equal
        · have := Nat.mul_le_mul_right (256 ^ left.length) (Nat.succ_le_of_lt more)
          rw [Nat.succ_mul] at this
          omega
      rw [heads] at same
      rw [UInt8.toNat_inj.mp heads, ih (by omega)]

def addCarry : List UInt8 → List UInt8 → List UInt8 × Nat
  | left :: lefts, right :: rights =>
      let (tail, carry) := addCarry lefts rights
      let sum := left.toNat + right.toNat + carry
      (UInt8.ofNat (sum % 256) :: tail, sum / 256)
  | _, _ => ([], 0)

def subBorrow : List UInt8 → List UInt8 → List UInt8 × Int
  | left :: lefts, right :: rights =>
      let (tail, borrow) := subBorrow lefts rights
      let difference := (left.toNat : Int) - right.toNat - borrow
      if difference < 0 then (UInt8.ofNat (difference + 256).toNat :: tail, 1)
      else (UInt8.ofNat difference.toNat :: tail, 0)
  | _, _ => ([], 0)

theorem length_addCarry (lengths : left.length = right.length) :
    (addCarry left right).1.length = left.length := by
  induction left, right, lengths using lengths_induction with
  | nil => rfl
  | cons byte other left right tails ih => simpa [addCarry] using ih

theorem value_addCarry (lengths : left.length = right.length) :
    value (addCarry left right).1 + (addCarry left right).2 * 256 ^ left.length = value left + value right := by
  induction left, right, lengths using lengths_induction with
  | nil => rfl
  | cons byte other left right tails step =>
      have split := Nat.div_add_mod (byte.toNat + other.toNat + (addCarry left right).2) 256
      simp only [addCarry, value, UInt8.toNat_ofNat', Nat.reducePow, Nat.mod_mod, length_addCarry tails,
        List.length_cons, ← tails, Nat.pow_succ]
      generalize (byte.toNat + other.toNat + (addCarry left right).2) / 256 = carry at split ⊢
      generalize (byte.toNat + other.toNat + (addCarry left right).2) % 256 = digit at split ⊢
      generalize 256 ^ left.length = weight at step ⊢
      generalize value (addCarry left right).1 = sum at step ⊢
      calc digit * weight + sum + carry * (weight * 256)
          = (256 * carry + digit) * weight + sum := by ring
        _ = (byte.toNat + other.toNat) * weight + (sum + (addCarry left right).2 * weight) := by rw [split]; ring
        _ = byte.toNat * weight + value left + (other.toNat * weight + value right) := by rw [step]; ring

theorem length_subBorrow (lengths : left.length = right.length) :
    (subBorrow left right).1.length = left.length := by
  induction left, right, lengths using lengths_induction with
  | nil => rfl
  | cons byte other left right tails tail =>
      simp only [subBorrow]
      split <;> simpa using tail

theorem subBorrow_bit (left right : List UInt8) :
    (subBorrow left right).2 = 0 ∨ (subBorrow left right).2 = 1 := by
  cases left with
  | nil => simp [subBorrow]
  | cons byte left =>
      cases right with
      | nil => simp [subBorrow]
      | cons other right =>
          simp only [subBorrow]
          split <;> simp

theorem value_subBorrow (lengths : left.length = right.length) :
    (value (subBorrow left right).1 : Int) + value right =
      value left + (subBorrow left right).2 * 256 ^ left.length := by
  induction left, right, lengths using lengths_induction with
  | nil => rfl
  | cons byte other left right tails step =>
      have byteLt := byte.toNat_lt
      have otherLt := other.toNat_lt
      have bit := subBorrow_bit left right
      -- the digit that is written, with the borrow it leaves behind
      obtain ⟨digit, borrow, written, kept, balance⟩ : ∃ (digit : Nat) (borrow : Int),
          (subBorrow (byte :: left) (other :: right)).1 = UInt8.ofNat digit :: (subBorrow left right).1 ∧
          (subBorrow (byte :: left) (other :: right)).2 = borrow ∧ digit < 256 ∧
          (digit : Int) = byte.toNat - other.toNat - (subBorrow left right).2 + 256 * borrow := by
        simp only [subBorrow]
        split
        next negative => exact ⟨_, 1, rfl, rfl, by omega, by omega⟩
        next positive => exact ⟨_, 0, rfl, rfl, by omega, by omega⟩
      obtain ⟨digitLt, balance⟩ := balance
      rw [written, kept]
      simp only [value, length_subBorrow tails, UInt8.toNat_ofNat', List.length_cons, ← tails]
      rw [Nat.mod_eq_of_lt digitLt]
      push_cast
      rw [balance]
      generalize (value (subBorrow left right).1 : Int) = rest at step ⊢
      linear_combination step

/-- Byte strings of a fixed length. -/
structure Bytes (n : Nat) where
  bytes : List UInt8
  length_eq : bytes.length = n
deriving DecidableEq

namespace Bytes

variable {n : Nat}

theorem ext_bytes {left right : Bytes n} (same : left.bytes = right.bytes) : left = right := by
  cases left
  cases right
  cases same
  rfl

def add (left right : Bytes n) : Bytes n where
  bytes := (addCarry left.bytes right.bytes).1
  length_eq := (length_addCarry (left.length_eq.trans right.length_eq.symm)).trans left.length_eq

def sub (left right : Bytes n) : Bytes n where
  bytes := (subBorrow left.bytes right.bytes).1
  length_eq := (length_subBorrow (left.length_eq.trans right.length_eq.symm)).trans left.length_eq

theorem value_bound (bytes : Bytes n) : value bytes.bytes < 256 ^ n := by
  have bound := value_lt bytes.bytes
  rwa [bytes.length_eq] at bound

theorem eq_of_value {left right : Bytes n} (same : value left.bytes = value right.bytes) : left = right :=
  ext_bytes (value_injective (left.length_eq.trans right.length_eq.symm) same)

theorem value_add (left right : Bytes n) :
    value (left.add right).bytes = (value left.bytes + value right.bytes) % 256 ^ n := by
  have sum := value_addCarry (left.length_eq.trans right.length_eq.symm)
  rw [left.length_eq] at sum
  rw [← sum, Nat.add_mul_mod_self_right]
  exact (Nat.mod_eq_of_lt (left.add right).value_bound).symm

theorem value_sub (left right : Bytes n) :
    (value (left.sub right).bytes : Int) = ((value left.bytes : Int) - value right.bytes) % 256 ^ n := by
  have difference := value_subBorrow (left.length_eq.trans right.length_eq.symm)
  rw [left.length_eq] at difference
  have bound : (value (left.sub right).bytes : Int) < 256 ^ n := by exact_mod_cast (left.sub right).value_bound
  have split : (value left.bytes : Int) - value right.bytes =
      value (left.sub right).bytes + -(subBorrow left.bytes right.bytes).2 * 256 ^ n := by
    change (value (left.sub right).bytes : Int) + _ = _ at difference
    linear_combination -difference
  rw [split, Int.add_mul_emod_self_right]
  exact (Int.emod_eq_of_lt (Int.natCast_nonneg _) bound).symm

end Bytes

end ConstellationNq.Library.BigEndian
