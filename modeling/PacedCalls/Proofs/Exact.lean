import Mathlib.Algebra.Order.Field.Rat
import Mathlib.Algebra.Order.Floor.Semiring
import Mathlib.Data.Rat.Floor
import Mathlib.Tactic.Ring
import PacedCalls.Scalar

/-!
Exact numbers. Rates and growth factors that are fractions, and not doubles, are neither rounded
nor ever too large; only where they become whole numbers are they cut, as doubles are.
-/

set_option autoImplicit false

namespace PacedCalls

namespace Exact

def whole (x : ℚ) : ℕ := min ⌊x⌋₊ (2 ^ 64 - 1)

/-- A fraction of a second that is not negative, as whole nanoseconds; a half goes to the even
one. -/
def nanos? (x : ℚ) : Option ℕ :=
  if x < 0 then none
  else
    let n := Decimal.roundDiv .even (x.num.toNat * Duration.second) x.den
    if n ≤ Duration.longest then some n else none

end Exact

instance : Scalar ℚ where
  ofNat n := n
  mul := (· * ·)
  div := (· / ·)
  le a b := a ≤ b
  lt a b := a < b
  isFinite _ := true
  whole := Exact.whole
  nanos? := Exact.nanos?

namespace Exact

@[simp] theorem ofNat_eq (n : ℕ) : (Scalar.ofNat n : ℚ) = n := rfl

@[simp] theorem mul_eq (x y : ℚ) : Scalar.mul x y = x * y := rfl

@[simp] theorem le_iff (x y : ℚ) : Scalar.le x y = true ↔ x ≤ y := decide_eq_true_iff

@[simp] theorem lt_iff (x y : ℚ) : Scalar.lt x y = true ↔ x < y := decide_eq_true_iff

@[simp] theorem isUsable_iff (x : ℚ) : Scalar.isUsable x = true ↔ 0 < x :=
  lt_iff 0 x

theorem clamp_eq (x : ℚ) {low high : ℚ} (h : low ≤ high) :
    Scalar.clamp x low high = max low (min x high) := by
  simp only [Scalar.clamp, lt_iff]
  split
  · next below =>
    rw [if_neg h.not_gt, max_eq_left (min_le_of_left_le below.le)]
  · next not_below =>
    split
    · next above => rw [min_eq_right above.le, max_eq_right h]
    · next not_above => rw [min_eq_left (not_lt.mp not_above), max_eq_right (not_lt.mp not_below)]

/-- In each round the base is squared and the exponent halved; what an odd exponent loses goes into
the accumulated factor. -/
theorem powFrom_eq {fuel n : ℕ} (enough : n < 2 ^ fuel) (base acc : ℚ) :
    Scalar.powFrom fuel base n acc = acc * base ^ n := by
  induction fuel generalizing n base acc with
  | zero => simp [Scalar.powFrom, show n = 0 by omega]
  | succ fuel ih =>
    have halved : n / 2 < 2 ^ fuel := by rw [pow_succ] at enough; omega
    have split : base ^ n = base ^ (n % 2) * (base * base) ^ (n / 2) := by
      rw [← pow_two, ← pow_mul, ← pow_add, Nat.mod_add_div]
    have odd : (if n % 2 = 1 then acc * base else acc) = acc * base ^ (n % 2) := by
      rcases Nat.mod_two_eq_zero_or_one n with h | h <;> simp [h]
    simp only [Scalar.powFrom, mul_eq, odd]
    split
    · next last => rw [split, last, pow_zero, mul_one]
    · rw [ih halved, split, mul_assoc]

@[simp] theorem pow_eq (base : ℚ) (n : ℕ) : Scalar.pow base n = base ^ n := by
  rw [Scalar.pow, powFrom_eq Nat.lt_log2_self, ofNat_eq, Nat.cast_one, one_mul]

theorem whole_natCast (n : ℕ) : Scalar.whole (n : ℚ) = min n (2 ^ 64 - 1) := by
  change min ⌊(n : ℚ)⌋₊ _ = _
  rw [Nat.floor_natCast]

theorem whole_mono {x y : ℚ} (h : x ≤ y) : Scalar.whole x ≤ Scalar.whole y :=
  min_le_min_right _ (Nat.floor_mono h)

end Exact

end PacedCalls
