import PacedCalls.Proofs.Retry.Waits

/-!
The wait that doubles, in exact numbers. It is counted in whole milliseconds from the start, so that
what the initial wait has beyond them is doubled by nobody; and it has room for `2 ^ 64` milliseconds
only, though a bound may be longer. Where neither matters, the wait is the doubled one to the
millisecond; an initial wait of less than a millisecond stays at nothing for ever.
-/

set_option autoImplicit false

namespace PacedCalls

def Duration.Near (d e : ℕ) : Prop := d < e + milli ∧ e < d + milli

instance (d e : ℕ) : Decidable (Duration.Near d e) := inferInstanceAs (Decidable (_ ∧ _))

namespace Retry

variable {initial most : ℕ}

/-- The wait after attempt `n` of a backoff that doubles, in exact numbers. -/
def doubling (initial most n : ℕ) : ℕ := (Policy.exponential initial most : Policy ℚ).backoff.delay n

theorem Backoff.capped_natCast (most millis : ℕ) :
    capped most (millis : ℚ) =
      if millis < Duration.toMillis most then Duration.ofMillis (min millis (2 ^ 64 - 1))
      else most := by
  rw [capped_exact, Exact.whole_natCast]
  simp only [Nat.cast_lt]

theorem toMillis_lt (h : most ≤ Duration.longest) : Duration.toMillis most < 2 ^ 74 := by
  simp only [Duration.toMillis, Duration.milli, Duration.longest] at h ⊢
  omega

theorem bound_le_doubled (h : most ≤ Duration.longest) {millis n : ℕ} (some : millis ≠ 0)
    (late : 74 ≤ n) : Duration.toMillis most ≤ millis * 2 ^ n :=
  calc Duration.toMillis most ≤ 2 ^ 74 := (toMillis_lt h).le
    _ ≤ 2 ^ n := Nat.pow_le_pow_right two_pos late
    _ ≤ millis * 2 ^ n := Nat.le_mul_of_pos_left _ (Nat.pos_of_ne_zero some)

theorem doubling_capped (initial most n : ℕ) :
    ∃ p, (p = n ∨ 74 ≤ p ∧ 74 ≤ n) ∧
      doubling initial most n =
        Backoff.capped most ((Duration.toMillis initial * 2 ^ p : ℕ) : ℚ) := by
  refine ⟨min n 2147483647, by omega, ?_⟩
  generalize hp : min n 2147483647 = p
  rw [doubling, Policy.exponential, Backoff.delay_exponential, hp, Exact.mul_eq, Exact.pow_eq,
    Exact.ofNat_eq, Exact.ofNat_eq]
  push_cast
  rfl

theorem doubling_eq (h : most ≤ Duration.longest) (n : ℕ) :
    doubling initial most n =
      if Duration.toMillis initial * 2 ^ n < Duration.toMillis most then
        Duration.ofMillis (min (Duration.toMillis initial * 2 ^ n) (2 ^ 64 - 1))
      else most := by
  obtain ⟨p, exponent, in_millis⟩ := doubling_capped initial most n
  rw [in_millis, Backoff.capped_natCast]
  rcases exponent with rfl | ⟨late, late'⟩
  · rfl
  · rcases eq_or_ne (Duration.toMillis initial) 0 with none | some
    · rw [none, zero_mul, zero_mul]
    · rw [if_neg (bound_le_doubled h some late).not_gt,
        if_neg (bound_le_doubled h some late').not_gt]

/-- The wait is the doubled one to the millisecond, if the bound is reached, or else if what has
been cut off is still less than a millisecond when it is doubled as often, and there is room. -/
theorem doubling_near_iff (h : most ≤ Duration.longest) (n : ℕ) :
    Duration.Near (doubling initial most n) (min (initial * 2 ^ n) most) ↔
      (Duration.toMillis initial * 2 ^ n < Duration.toMillis most →
        initial % Duration.milli * 2 ^ n < Duration.milli ∧
          Duration.toMillis initial * 2 ^ n < 2 ^ 64) := by
  have parts : initial * 2 ^ n =
      Duration.ofMillis (Duration.toMillis initial * 2 ^ n) + initial % Duration.milli * 2 ^ n := by
    conv_lhs => rw [← Nat.div_add_mod initial Duration.milli]
    simp only [Duration.ofMillis, Duration.toMillis]
    ring
  rw [doubling_eq h, parts]
  generalize Duration.toMillis initial * 2 ^ n = millis
  generalize initial % Duration.milli * 2 ^ n = rest
  rcases Nat.lt_or_ge millis (Duration.toMillis most) with short | reached
  · rw [if_pos short]
    simp only [Duration.Near, Duration.ofMillis, Duration.toMillis, Duration.milli] at short ⊢
    omega
  · rw [if_neg reached.not_gt]
    simp only [Duration.Near, Duration.ofMillis, Duration.toMillis, Duration.milli] at reached ⊢
    omega

theorem doubling_settles (h : most ≤ Duration.longest)
    (counts : Duration.milli ≤ initial ∨ most < Duration.milli) {n : ℕ} (late : 74 ≤ n) :
    doubling initial most n = most := by
  rw [doubling_eq h, if_neg]
  rw [not_lt]
  rcases counts with long | short
  · exact bound_le_doubled h (Nat.div_pos long (by decide)).ne' late
  · rw [Duration.toMillis, Nat.div_eq_of_lt short]
    exact Nat.zero_le _

theorem doubling_zero (h : most ≤ Duration.longest) (short : initial < Duration.milli)
    (bound : Duration.milli ≤ most) (n : ℕ) : doubling initial most n = 0 := by
  have none : Duration.toMillis initial = 0 := Nat.div_eq_of_lt short
  have bound_pos : 0 < Duration.toMillis most := Nat.div_pos bound (by decide)
  rw [doubling_eq h, none, zero_mul, if_pos bound_pos]
  rfl

theorem doubling_mono (initial most : ℕ) : Monotone (doubling initial most) :=
  Backoff.delay_mono initial most (by simp)

/-- The wait is never longer than its bound, it does not get shorter, and it is the doubled initial
wait to the millisecond just as long as what has been cut off does not add up to one and the
milliseconds have room. From an initial wait of a millisecond on the bound is reached. With less
than a millisecond there is no wait at all, however often it is doubled. -/
theorem doubles_iff_whole_millis (h : most ≤ Duration.longest) :
    (∀ n, Duration.Near (doubling initial most n) (min (initial * 2 ^ n) most) ↔
      (Duration.toMillis initial * 2 ^ n < Duration.toMillis most →
        initial % Duration.milli * 2 ^ n < Duration.milli ∧
          Duration.toMillis initial * 2 ^ n < 2 ^ 64)) ∧
    (∀ n, doubling initial most n ≤ most) ∧
    (∀ m n, m ≤ n → doubling initial most m ≤ doubling initial most n) ∧
    (Duration.milli ≤ initial ∨ most < Duration.milli →
      ∀ n, 74 ≤ n → doubling initial most n = most) ∧
    (initial < Duration.milli → Duration.milli ≤ most → ∀ n, doubling initial most n = 0) :=
  ⟨doubling_near_iff h, fun _ => Backoff.capped_le most _, doubling_mono initial most,
    fun counts _ => doubling_settles h counts, doubling_zero h⟩

/-- A second and a half with a bound of a minute: on the way, and at the bound. -/
theorem doubles_iff_whole_millis_untilMinute :
    Duration.ofSecs 60 ≤ Duration.longest ∧
      Duration.Near (doubling (Duration.ofMillis 1500) (Duration.ofSecs 60) 5)
        (min (Duration.ofMillis 1500 * 2 ^ 5) (Duration.ofSecs 60)) ∧
      doubling (Duration.ofMillis 1500) (Duration.ofSecs 60) 74 = Duration.ofSecs 60 := by
  have bound : Duration.ofSecs 60 ≤ Duration.longest := by decide
  obtain ⟨near, -, -, settles, -⟩ :=
    @doubles_iff_whole_millis (Duration.ofMillis 1500) (Duration.ofSecs 60) bound
  exact ⟨bound, (near 5).mpr (by decide), settles (by decide) 74 le_rfl⟩

/-- Half a millisecond is to be sixteen after five doublings, and there is no wait at all, in exact
numbers and in doubles. -/
theorem stays_at_nothing :
    doubling 500000 (Duration.ofSecs 10) 5 = 0 ∧
      (Policy.exponential 500000 (Duration.ofSecs 10) : Policy Float).backoff.delay 5 = 0 ∧
      min (500000 * 2 ^ 5) (Duration.ofSecs 10) = Duration.ofMillis 16 ∧
      ¬ Duration.Near (doubling 500000 (Duration.ofSecs 10) 5)
        (min (500000 * 2 ^ 5) (Duration.ofSecs 10)) := by
  have nothing : doubling 500000 (Duration.ofSecs 10) 5 = 0 :=
    doubling_zero (by decide) (by decide) (by decide) 5
  refine ⟨nothing, by decide +kernel, by decide, ?_⟩
  rw [nothing]
  decide

end Retry

end PacedCalls
