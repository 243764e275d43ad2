import Mathlib.Algebra.Order.Field.Rat
import Mathlib.Algebra.Ring.Parity
import Mathlib.Tactic.FieldSimp
import Mathlib.Tactic.Linarith
import Mathlib.Tactic.Positivity
import PacedCalls.Decimal.Parts

set_option autoImplicit false

namespace PacedCalls.Decimal

/-- `n` lies nearest to `x`; if another number is as near, `n` is even. -/
structure Nearest (x : ℚ) (n : ℕ) : Prop where
  above : 2 * x ≤ 2 * n + 1
  below : 2 * (n : ℚ) ≤ 2 * x + 1
  tieAbove : 2 * x = 2 * n + 1 → Even n
  tieBelow : 2 * (n : ℚ) = 2 * x + 1 → Even n

namespace Nearest

theorem mono {x y : ℚ} {n m : ℕ} (hx : Nearest x n) (hy : Nearest y m) (h : x ≤ y) : n ≤ m := by
  by_contra hc
  have next : m + 1 ≤ n := by omega
  have next' : (m : ℚ) + 1 ≤ n := by exact_mod_cast next
  -- Only the fraction halfway between `m` and `m + 1` could be rounded both ways.
  have upper := hy.above
  have lower := hx.below
  have same : (n : ℚ) = m + 1 := by linarith
  have even_n : Even n := hx.tieBelow (by linarith)
  have even_m : Even m := hy.tieAbove (by linarith)
  have hn : n = m + 1 := by exact_mod_cast same
  rw [hn] at even_n
  exact Nat.not_even_iff_odd.mpr even_m.add_one even_n

theorem down {x : ℚ} {n : ℕ} (low : (n : ℚ) ≤ x) (high : 2 * x < 2 * n + 1) : Nearest x n where
  above := high.le
  below := by linarith
  tieAbove := fun h => absurd h high.ne
  tieBelow := fun h => by linarith

theorem up {x : ℚ} {n : ℕ} (low : 2 * (n : ℚ) + 1 < 2 * x) (high : x ≤ n + 1) :
    Nearest x (n + 1) where
  above := by push_cast; linarith
  below := by push_cast; linarith
  tieAbove := fun h => by push_cast at h; linarith
  tieBelow := fun h => by push_cast at h; linarith

theorem half {x : ℚ} {n : ℕ} (h : 2 * x = 2 * n + 1) : Nearest x (n + n % 2) := by
  rcases Nat.mod_two_eq_zero_or_one n with hn | hn
  · have even : Even n := Nat.even_iff.mpr hn
    rw [hn, Nat.add_zero]
    exact ⟨h.le, by linarith, fun _ => even, fun _ => even⟩
  · have even : Even (n + 1) := (Nat.odd_iff.mpr hn).add_one
    rw [hn]
    exact ⟨by push_cast; linarith, by push_cast; linarith, fun _ => even, fun _ => even⟩

theorem lower {x : ℚ} {n m : ℕ} (h : Nearest x n) (hm : (m : ℚ) ≤ x) : m ≤ n :=
  (down le_rfl (by linarith) : Nearest (m : ℚ) m).mono h hm

theorem upper {x : ℚ} {n m : ℕ} (h : Nearest x n) (hm : x ≤ m) : n ≤ m :=
  h.mono (down le_rfl (by linarith) : Nearest (m : ℚ) m) hm

end Nearest

theorem div_eq_add_rest (num : ℕ) {den : ℕ} (pos : 0 < den) :
    (num : ℚ) / den = (num / den : ℕ) + (num % den : ℕ) / (den : ℚ) := by
  have hd : (den : ℚ) ≠ 0 := by positivity
  have hdiv : (num : ℚ) = den * (num / den : ℕ) + (num % den : ℕ) := by
    exact_mod_cast (Nat.div_add_mod num den).symm
  rw [div_eq_iff hd, add_mul, div_mul_cancel₀ _ hd]
  linarith

theorem rest_lt_one (num : ℕ) {den : ℕ} (pos : 0 < den) :
    ((num % den : ℕ) : ℚ) / den < 1 := by
  rw [div_lt_one (by exact_mod_cast pos)]
  exact_mod_cast Nat.mod_lt num pos

theorem two_rest_lt_one {rest den : ℕ} (pos : 0 < den) (h : 2 * rest < den) :
    (2 : ℚ) * (rest / den) < 1 := by
  rw [← mul_div_assoc, div_lt_one (by exact_mod_cast pos)]
  exact_mod_cast h

theorem two_rest_eq_one {rest den : ℕ} (pos : 0 < den) (h : 2 * rest = den) :
    (2 : ℚ) * (rest / den) = 1 := by
  have hd : (den : ℚ) ≠ 0 := by positivity
  rw [← mul_div_assoc, div_eq_one_iff_eq hd]
  exact_mod_cast h

theorem one_lt_two_rest {rest den : ℕ} (pos : 0 < den) (h : den < 2 * rest) :
    (1 : ℚ) < 2 * (rest / den) := by
  rw [← mul_div_assoc, one_lt_div (by exact_mod_cast pos)]
  exact_mod_cast h

theorem roundDiv_nearest (num : ℕ) {den : ℕ} (pos : 0 < den) :
    Nearest ((num : ℚ) / den) (roundDiv .even num den) := by
  have split := div_eq_add_rest num pos
  have rest_nonneg : (0 : ℚ) ≤ (num % den : ℕ) / (den : ℚ) := by positivity
  have rest_lt := rest_lt_one num pos
  rcases lt_trichotomy (2 * (num % den)) den with h | h | h
  · have below := two_rest_lt_one pos h
    have down : roundDiv .even num den = num / den := by
      simp [roundDiv, Tie.roundsUp, Nat.compare_eq_lt.mpr h]
    rw [down]
    exact .down (by linarith) (by linarith)
  · have at_half := two_rest_eq_one pos h
    have even : roundDiv .even num den = num / den + num / den % 2 := by
      rcases Nat.mod_two_eq_zero_or_one (num / den) with hm | hm <;>
        simp [roundDiv, Tie.roundsUp, Nat.compare_eq_eq.mpr h, hm]
    rw [even]
    exact .half (by linarith)
  · have beyond := one_lt_two_rest pos h
    have up : roundDiv .even num den = num / den + 1 := by
      simp [roundDiv, Tie.roundsUp, Nat.compare_eq_gt.mpr h]
    rw [up]
    exact .up (by linarith) (by linarith)

end PacedCalls.Decimal
