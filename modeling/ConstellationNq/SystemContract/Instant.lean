import Mathlib.Order.Lattice
import Mathlib.Tactic.Linarith

/-!
# Instants

`captured_at` is a `DateTime<Utc>`: a day, a second of that day and a
nanosecond part that reaches two billion inside a leap second. Instants are
compared field by field. Their difference adds the days to the difference of
the times of day, which counts a leap second only when it lies between them.
-/

set_option autoImplicit false

namespace ConstellationNq.SystemContract

/-- The first day of year -262143, counted from 1970-01-01. -/
def minDay : Int := -96465292

/-- The last day of year 262142. -/
def maxDay : Int := 95026236

def nanosPerSecond : Int := 1000000000

structure Instant where
  day : Int
  secs : Nat
  frac : Nat
  minDay_le : minDay ≤ day
  le_maxDay : day ≤ maxDay
  secs_lt : secs < 86400
  frac_lt : frac < 2000000000
  leap : 1000000000 ≤ frac → secs % 60 = 59
deriving DecidableEq

namespace Instant

/-- Reads the fields as one number; the nanosecond part never carries. -/
def orderKey (instant : Instant) : Int :=
  (instant.day * 86400 + instant.secs) * 2000000000 + instant.frac

theorem orderKey_injective : Function.Injective orderKey := by
  rintro ⟨day, secs, frac, _, _, secsLt, fracLt, _⟩ ⟨day', secs', frac', _, _, secsLt', fracLt', _⟩ same
  simp only [orderKey] at same
  obtain ⟨rfl, rfl, rfl⟩ : day = day' ∧ secs = secs' ∧ frac = frac' := by omega
  rfl

instance : LinearOrder Instant := LinearOrder.lift' orderKey orderKey_injective

/-- The leap second that lies between the two times of day, if there is one. -/
def leapAdjust (left right : Instant) : Int :=
  if right.secs < left.secs then
    if 1000000000 ≤ right.frac then 1 else 0
  else if left.secs < right.secs then
    if 1000000000 ≤ left.frac then -1 else 0
  else 0

/-- `left - right` in nanoseconds. -/
def signedDurationSince (left right : Instant) : Int :=
  (left.day - right.day) * 86400 * nanosPerSecond +
    ((left.secs - right.secs : Int) + leapAdjust left right) * nanosPerSecond +
    (left.frac - right.frac : Int)

/-- `num_seconds` drops the fraction of a second. -/
def numSeconds (nanos : Int) : Int :=
  nanos.tdiv nanosPerSecond

theorem signedDurationSince_le (left right : Instant) :
    left.signedDurationSince right ≤ 20000000000000 * nanosPerSecond := by
  have := left.minDay_le
  have := left.le_maxDay
  have := right.minDay_le
  have := right.le_maxDay
  have := left.secs_lt
  have := right.secs_lt
  have := left.frac_lt
  have := right.frac_lt
  simp only [signedDurationSince, leapAdjust, nanosPerSecond, minDay, maxDay] at *
  split_ifs <;> omega

/-- The whole seconds of a difference are within a window exactly when the
difference falls short of the second after it. -/
theorem numSeconds_le_iff {nanos window : Int} (nonneg : 0 ≤ window) :
    numSeconds nanos ≤ window ↔ nanos < (window + 1) * nanosPerSecond := by
  have cut : numSeconds nanos = if 0 ≤ nanos then nanos / nanosPerSecond else -(-nanos / nanosPerSecond) := by
    split
    next positive => rw [numSeconds, Int.tdiv_eq_ediv_of_nonneg positive]
    next negative =>
      have positive : 0 ≤ -nanos := by omega
      rw [numSeconds, ← neg_neg nanos, Int.neg_tdiv, Int.tdiv_eq_ediv_of_nonneg positive, neg_neg]
  rw [cut]
  simp only [nanosPerSecond]
  split <;> omega

end Instant

end ConstellationNq.SystemContract
