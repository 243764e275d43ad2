import Mathlib.Algebra.Order.Field.Power
import Mathlib.Data.Nat.Log
import Mathlib.Tactic.GCongr
import Mathlib.Tactic.NormNum
import PacedCalls.Proofs.Decimal.Nearest

/-!
Rounding to doubles. A fraction is put on the grid of the power of two that leaves it 53 bits, or
on the finest grid there is, and goes to the nearest point there. The order of fractions is kept
across all grids.
-/

set_option autoImplicit false

namespace PacedCalls.Decimal

open Float.Model Float.Model.UnpackedFloat

/-- The mantissa is the whole part of `x`; the bits tell where `x` lies above it. -/
def Shows (m : ExtendedMantissa) (x : ℚ) : Prop :=
  match m.roundBit, m.stickyBit with
  | false, false => x = m.mantissa
  | false, true => (m.mantissa : ℚ) < x ∧ 2 * x < 2 * m.mantissa + 1
  | true, false => 2 * x = 2 * m.mantissa + 1
  | true, true => 2 * (m.mantissa : ℚ) + 1 < 2 * x ∧ x < m.mantissa + 1

namespace Shows

theorem quotient (num : ℕ) {den : ℕ} (pos : 0 < den) :
    Shows (.ofMantissaAndAccuracy (num / den) (accuracyOfFraction (num % den) den))
      ((num : ℚ) / den) := by
  have rest_lt := rest_lt_one num pos
  rw [div_eq_add_rest num pos]
  rcases Nat.eq_zero_or_pos (num % den) with hz | hp
  · simp [accuracyOfFraction, hz, ExtendedMantissa.ofMantissaAndAccuracy, Shows]
  have rest_pos : (0 : ℚ) < (num % den : ℕ) / (den : ℚ) := by positivity
  simp only [accuracyOfFraction, hp.ne', if_false]
  rcases lt_trichotomy (2 * (num % den)) den with h | h | h
  · have below := two_rest_lt_one pos h
    rw [Nat.compare_eq_lt.mpr h]
    simp only [Shows, ExtendedMantissa.ofMantissaAndAccuracy]
    constructor <;> linarith
  · have at_half := two_rest_eq_one pos h
    rw [Nat.compare_eq_eq.mpr h]
    simp only [Shows, ExtendedMantissa.ofMantissaAndAccuracy]
    linarith
  · have beyond := one_lt_two_rest pos h
    rw [Nat.compare_eq_gt.mpr h]
    simp only [Shows, ExtendedMantissa.ofMantissaAndAccuracy]
    constructor <;> linarith

theorem floor {m : ExtendedMantissa} {x : ℚ} (h : Shows m x) :
    (m.mantissa : ℚ) ≤ x ∧ x < m.mantissa + 1 := by
  obtain ⟨n, round, sticky⟩ := m
  cases round <;> cases sticky <;> simp only [Shows] at h ⊢ <;> constructor <;> linarith

theorem shiftRightOne {m : ExtendedMantissa} {x : ℚ} (h : Shows m x) :
    Shows m.shiftRightOne (x / 2) := by
  obtain ⟨n, round, sticky⟩ := m
  have split : (n : ℚ) = 2 * (n / 2 : ℕ) + (n % 2 : ℕ) := by
    exact_mod_cast (Nat.div_add_mod n 2).symm
  rcases Nat.mod_two_eq_zero_or_one n with hn | hn <;> rw [hn] at split <;> push_cast at split <;>
    cases round <;> cases sticky <;>
    simp only [Shows, ExtendedMantissa.shiftRightOne, hn, bne_self_eq_false, Bool.or_self,
      Bool.or_true, Bool.or_false, show ((1 : ℕ) != 0) = true from rfl] at h ⊢ <;>
    first
      | linarith
      | constructor <;> linarith

theorem shiftRight {m : ExtendedMantissa} {x : ℚ} (h : Shows m x) (k : ℕ) :
    Shows (m >>> k) (x / 2 ^ k) := by
  change Shows (k.repeat ExtendedMantissa.shiftRightOne m) _
  induction k with
  | zero => simpa [Nat.repeat] using h
  | succ k ih =>
    rw [pow_succ, ← div_div]
    exact ih.shiftRightOne

theorem nearest {m : ExtendedMantissa} {x : ℚ} (h : Shows m x) : Nearest x m.roundedMantissa := by
  obtain ⟨n, round, sticky⟩ := m
  cases round <;> cases sticky <;> simp only [Shows] at h
  · change Nearest x n
    exact .down h.ge (by linarith)
  · change Nearest x n
    exact .down h.1.le h.2
  · exact .half h
  · exact .up h.1 h.2.le

end Shows

theorem two_zpow_pos (e : ℤ) : (0 : ℚ) < 2 ^ e := zpow_pos (by norm_num) e

theorem two_zpow_le {e f : ℤ} (h : e ≤ f) : (2 : ℚ) ^ e ≤ 2 ^ f :=
  zpow_le_zpow_right₀ (by norm_num) h

theorem two_zpow_add (e f : ℤ) : (2 : ℚ) ^ (e + f) = 2 ^ e * 2 ^ f :=
  zpow_add₀ (by norm_num) e f

structure Rounds (x : ℚ) (m : ℕ) (e : ℤ) : Prop where
  nearest : Nearest (x / 2 ^ e) m
  fits : x < 2 ^ (53 + e)
  least : -1074 ≤ e
  full : e = -1074 ∨ 2 ^ (52 + e) ≤ x

namespace Rounds

variable {x y : ℚ} {m n : ℕ} {e f : ℤ}

theorem upper (h : Rounds x m e) : m ≤ 2 ^ 53 := by
  refine h.nearest.upper ?_
  rw [div_le_iff₀ (two_zpow_pos e)]
  have hf := h.fits
  rw [two_zpow_add] at hf
  exact_mod_cast hf.le

theorem lower (h : Rounds x m e) (he : e ≠ -1074) : 2 ^ 52 ≤ m := by
  refine h.nearest.lower ?_
  rw [le_div_iff₀ (two_zpow_pos e)]
  have hf := h.full.resolve_left he
  rw [two_zpow_add] at hf
  exact_mod_cast hf

theorem grid_mono (hx : Rounds x m e) (hy : Rounds y n f) (h : x ≤ y) : e ≤ f := by
  rcases hx.full with he | he
  · exact he ▸ hy.least
  · have hlt : (2 : ℚ) ^ (52 + e) < 2 ^ (53 + f) := (he.trans h).trans_lt hy.fits
    have := (zpow_lt_zpow_iff_right₀ (by norm_num : (1 : ℚ) < 2)).mp hlt
    omega

theorem mono (hx : Rounds x m e) (hy : Rounds y n f) (h : x ≤ y) :
    (m : ℚ) * 2 ^ e ≤ n * 2 ^ f := by
  rcases (hx.grid_mono hy h).eq_or_lt with rfl | hlt
  · have hm : m ≤ n := hx.nearest.mono hy.nearest (div_le_div_of_nonneg_right h (two_zpow_pos e).le)
    exact mul_le_mul_of_nonneg_right (by exact_mod_cast hm) (two_zpow_pos e).le
  · -- The finer grid ends where the points of the coarser one begin.
    have hm : (m : ℚ) ≤ 2 ^ (53 : ℤ) := by exact_mod_cast hx.upper
    have hn : (2 : ℚ) ^ (52 : ℤ) ≤ n := by
      exact_mod_cast hy.lower (by have := hx.least; omega)
    calc (m : ℚ) * 2 ^ e ≤ 2 ^ (53 : ℤ) * 2 ^ e :=
          mul_le_mul_of_nonneg_right hm (two_zpow_pos e).le
      _ = 2 ^ (53 + e) := (two_zpow_add _ _).symm
      _ ≤ 2 ^ (52 + f) := two_zpow_le (by omega)
      _ = 2 ^ (52 : ℤ) * 2 ^ f := two_zpow_add _ _
      _ ≤ n * 2 ^ f := mul_le_mul_of_nonneg_right hn (two_zpow_pos f).le

end Rounds

def Rounded (x v : ℚ) : Prop := ∃ m e, Rounds x m e ∧ v = m * 2 ^ e

theorem Rounded.mono {x y v w : ℚ} (hx : Rounded x v) (hy : Rounded y w) (h : x ≤ y) : v ≤ w := by
  obtain ⟨m, e, hx, rfl⟩ := hx
  obtain ⟨n, f, hy, rfl⟩ := hy
  exact hx.mono hy h

structure Canonical (m : ℕ) (e : ℤ) : Prop where
  fits : m < 2 ^ 53
  least : -1074 ≤ e
  full : e = -1074 ∨ 2 ^ 52 ≤ m

/-- A number that is not negative, in the form of a double, and its value. -/
inductive Stands (v : ℚ) : Float.Model.UnpackedFloat → Prop where
  | zero (value : v = 0) : Stands v (.zero .positive)
  | finite (m : ℕ) (e : ℤ) (pos : 0 < m) (canonical : Canonical m e) (value : v = m * 2 ^ e) :
    Stands v (.finite .positive m e pos)

end PacedCalls.Decimal
