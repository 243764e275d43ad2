import PacedCalls.Proofs.Decimal.Whole
import PacedCalls.Proofs.Exact
import PacedCalls.Retry.Policy

set_option autoImplicit false

namespace PacedCalls

/-- Numbers that have no greater whole part than a whole number they are less than, though this one
may itself have been rounded. -/
class Scalar.Truncates (R : Type) [Scalar R] : Prop where
  whole_le {x : R} {n : ℕ} : Scalar.lt x (Scalar.ofNat n) = true → Scalar.whole x ≤ n

instance : Scalar.Truncates Float where
  whole_le := Decimal.whole_le_of_lt

instance : Scalar.Truncates ℚ where
  whole_le {x n} h := by
    have less : x ≤ n := ((Exact.lt_iff _ _).mp h).le
    calc Scalar.whole x ≤ ⌊x⌋₊ := min_le_left _ _
      _ ≤ ⌊(n : ℚ)⌋₊ := Nat.floor_mono less
      _ = n := Nat.floor_natCast n

theorem Duration.ofMillis_toMillis_le (d : ℕ) : ofMillis (toMillis d) ≤ d := Nat.div_mul_le_self _ _

theorem Duration.ofMillis_mono {m n : ℕ} (h : m ≤ n) : ofMillis m ≤ ofMillis n :=
  Nat.mul_le_mul_right _ h

namespace Retry.Backoff

section

variable {R : Type} [Scalar R]

/-- So many milliseconds, if these are a number and less than what the bound has of them. -/
def capped (most : ℕ) (millis : R) : ℕ :=
  if Scalar.isFinite millis && Scalar.lt millis (Scalar.ofNat (Duration.toMillis most)) then
    Duration.ofMillis (Scalar.whole millis)
  else most

theorem delay_exponential (initial most : ℕ) (factor : R) (n : ℕ) :
    (exponential initial most factor).delay n =
      capped most (Scalar.mul (Scalar.ofNat (Duration.toMillis initial))
        (Scalar.pow factor (min n 2147483647))) := rfl

theorem capped_le [Scalar.Truncates R] (most : ℕ) (millis : R) : capped most millis ≤ most := by
  rw [capped]
  split
  · next short =>
    rw [Bool.and_eq_true] at short
    calc Duration.ofMillis (Scalar.whole millis)
        ≤ Duration.ofMillis (Duration.toMillis most) :=
          Duration.ofMillis_mono (Scalar.Truncates.whole_le short.2)
      _ ≤ most := Duration.ofMillis_toMillis_le most
  · exact le_rfl

theorem delay_linear {most : ℕ} (h : most ≤ Duration.longest) (step n : ℕ) :
    (linear step most : Backoff R).delay n = min (step * min (n + 1) lastAttempt) most := by
  change min (min _ Duration.longest) most = _
  rw [min_assoc, min_eq_right h]

end

theorem capped_exact (most : ℕ) (millis : ℚ) :
    capped most millis =
      if millis < Duration.toMillis most then Duration.ofMillis (Scalar.whole millis) else most := by
  simp [capped, Scalar.isFinite]

theorem capped_mono (most : ℕ) {x y : ℚ} (h : x ≤ y) : capped most x ≤ capped most y := by
  rw [capped_exact most y]
  split
  · next short =>
    rw [capped_exact, if_pos (h.trans_lt short)]
    exact Duration.ofMillis_mono (Exact.whole_mono h)
  · exact capped_le most x

theorem delay_mono (initial most : ℕ) {factor : ℚ} (grows : 1 ≤ factor) :
    Monotone (exponential initial most factor).delay := by
  intro m n h
  rw [delay_exponential, delay_exponential]
  refine capped_mono most ?_
  rw [Exact.mul_eq, Exact.mul_eq, Exact.pow_eq, Exact.pow_eq]
  exact mul_le_mul_of_nonneg_left (pow_le_pow_right₀ grows (min_le_min_right _ h))
    (Nat.cast_nonneg _)

end Retry.Backoff

namespace Retry

/-- A linear wait is the exact multiple of its step, attempts counted as far as they are, or its
bound, and nothing on the way is too long for a duration. An exponential one is never longer than
its bound, whatever number of milliseconds comes out; and if it is counted exactly and its factor
is not below one, it is never shorter than an earlier one. -/
theorem waits_within_bounds :
    (∀ step most n : ℕ, most ≤ Duration.longest →
      (Backoff.linear step most : Backoff Float).delay n =
          min (step * min (n + 1) (2 ^ 32 - 1)) most ∧
        Duration.saturatingMul step (min (n + 1) (2 ^ 32 - 1)) ≤ Duration.longest ∧
          (Backoff.linear step most : Backoff Float).delay n ≤ Duration.longest) ∧
    (∀ (most : ℕ) (millis : Float), Backoff.capped most millis ≤ most) ∧
    (∀ (initial most n : ℕ) (factor : Float),
      (Backoff.exponential initial most factor).delay n ≤ most) ∧
    ∀ (initial most : ℕ) (factor : ℚ), 1 ≤ factor →
      ∀ m n, m ≤ n → (Backoff.exponential initial most factor).delay m ≤
        (Backoff.exponential initial most factor).delay n := by
  refine ⟨fun step most n short => ?_, Backoff.capped_le, fun initial most n factor => ?_,
    fun initial most factor grows m n h => Backoff.delay_mono initial most grows h⟩
  · have exactly := Backoff.delay_linear (R := Float) short step n
    exact ⟨exactly, min_le_right _ _, exactly ▸ (min_le_right _ _).trans short⟩
  · exact Backoff.delay_exponential initial most factor n ▸ Backoff.capped_le most _

/-- At the last attempt of all, for a step of a millisecond; with no number for a factor; and
between two attempts with a factor of one and a half. -/
theorem waits_within_bounds_lastAttempt :
    (Backoff.linear Duration.milli Duration.longest : Backoff Float).delay lastAttempt =
        min (Duration.milli * min (lastAttempt + 1) (2 ^ 32 - 1)) Duration.longest ∧
      (Backoff.exponential Duration.second (Duration.ofSecs 60) (0 / 0 : Float)).delay 3 ≤
        Duration.ofSecs 60 ∧
      (Backoff.exponential Duration.second (Duration.ofSecs 60) (3 / 2 : ℚ)).delay 3 ≤
        (Backoff.exponential Duration.second (Duration.ofSecs 60) (3 / 2 : ℚ)).delay 20 := by
  obtain ⟨linear, -, exponential, growing⟩ := waits_within_bounds
  exact ⟨(linear Duration.milli Duration.longest lastAttempt le_rfl).1, exponential _ _ 3 _,
    growing _ _ (3 / 2) (by norm_num) 3 20 (by decide)⟩

end Retry

end PacedCalls
