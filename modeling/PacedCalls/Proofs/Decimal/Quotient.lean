import Mathlib
import PacedCalls.Proofs.Decimal.Rounding

set_option autoImplicit false

namespace PacedCalls.Decimal

open Float.Model Float.Model.UnpackedFloat

theorem targetExponent_binary64 (t : ℤ) :
    Format.binary64.targetExponent t = max (t - 53) (-1074) := by
  simp [Format.targetExponent, Format.mantissaBits, Format.minExponent]

@[simp] theorem mantissa_ofMantissaAndAccuracy (m : ℕ) (accuracy : Accuracy) :
    (ExtendedMantissa.ofMantissaAndAccuracy m accuracy).mantissa = m := by
  rcases accuracy with _ | _ | _ | _ <;> rfl

theorem rounds_of_shows {x : ℚ} {m : ℕ} {e : ℤ} {accuracy : Accuracy}
    (h : Shows (.ofMantissaAndAccuracy m accuracy) (x / 2 ^ e)) (fine : e ≤ -1074 ∨ 2 ^ 52 ≤ m) :
    Rounds x (shiftToTargetExponent Format.binary64 m e accuracy).1.roundedMantissa
      (shiftToTargetExponent Format.binary64 m e accuracy).2 := by
  obtain ⟨low, high⟩ := h.floor
  rw [mantissa_ofMantissaAndAccuracy] at low high
  have le_x : (m : ℚ) * 2 ^ e ≤ x := (le_div_iff₀ (two_zpow_pos e)).mp low
  have x_lt : x < (m + 1) * 2 ^ e := (div_lt_iff₀ (two_zpow_pos e)).mp high
  have log_lt : (m : ℚ) + 1 ≤ 2 ^ ((m.log2 : ℤ) + 1) := by exact_mod_cast Nat.lt_log2_self
  have log_fine : e ≤ -1074 ∨ 52 ≤ m.log2 :=
    fine.imp_right fun hm => (Nat.le_log2 (by omega)).mpr hm
  have target := targetExponent_binary64 (totalExponent m e)
  simp only [totalExponent] at target
  generalize hk : (Format.binary64.targetExponent (totalExponent m e) - e).toNat = k
  have shifted : shiftToTargetExponent Format.binary64 m e accuracy =
      (ExtendedMantissa.ofMantissaAndAccuracy m accuracy >>> k, e + k) := by
    simp only [shiftToTargetExponent, shiftToExponent, hk]
  simp only [totalExponent] at hk
  have grid : e + k = max ((m.log2 : ℤ) + 1 + e - 53) (-1074) := by omega
  rw [shifted]
  refine ⟨?_, ?_, by omega, ?_⟩
  · have shown := (h.shiftRight k).nearest
    rwa [div_div, ← zpow_natCast, ← two_zpow_add] at shown
  · calc x < (m + 1) * 2 ^ e := x_lt
      _ ≤ 2 ^ ((m.log2 : ℤ) + 1) * 2 ^ e := mul_le_mul_of_nonneg_right log_lt (two_zpow_pos e).le
      _ = 2 ^ ((m.log2 : ℤ) + 1 + e) := (two_zpow_add _ _).symm
      _ ≤ 2 ^ (53 + (e + k)) := two_zpow_le (by omega)
  · rcases Nat.eq_zero_or_pos m with hz | hp
    · left
      simp only [hz, Nat.log2_zero] at grid log_fine
      omega
    · refine or_iff_not_imp_left.mpr fun coarse => ?_
      have log_le : (2 : ℚ) ^ (m.log2 : ℤ) ≤ m := by
        exact_mod_cast Nat.log2_self_le hp.ne'
      calc (2 : ℚ) ^ (52 + (e + k)) = 2 ^ ((m.log2 : ℤ) + e) := by congr 1; omega
        _ = 2 ^ (m.log2 : ℤ) * 2 ^ e := two_zpow_add _ _
        _ ≤ m * 2 ^ e := mul_le_mul_of_nonneg_right log_le (two_zpow_pos e).le
        _ ≤ x := le_x

theorem shiftToTargetExponent_small {m : ℕ} {e : ℤ} (hm : m < 2 ^ 53) (he : -1074 ≤ e) :
    shiftToTargetExponent Format.binary64 m e .exact = (⟨m, false, false⟩, e) := by
  have log_le : m.log2 ≤ 52 := by
    rcases Nat.eq_zero_or_pos m with hz | hp
    · simp [hz]
    · have := (Nat.log2_lt hp.ne').mpr hm
      omega
  have none : (Format.binary64.targetExponent (totalExponent m e) - e).toNat = 0 := by
    rw [targetExponent_binary64, totalExponent]
    omega
  simp only [shiftToTargetExponent, shiftToExponent, none]
  exact congrArg (Prod.mk _) (by simp)

theorem shiftToTargetExponent_carry {e : ℤ} (he : -1074 ≤ e) :
    shiftToTargetExponent Format.binary64 (2 ^ 53) e .exact = (⟨2 ^ 52, false, false⟩, e + 1) := by
  have one : (Format.binary64.targetExponent (totalExponent (2 ^ 53) e) - e).toNat = 1 := by
    rw [targetExponent_binary64, totalExponent, Nat.log2_two_pow]
    omega
  simp only [shiftToTargetExponent, shiftToExponent, one]
  rfl

theorem roundWithAccuracy_stands {x : ℚ} {m : ℕ} {e : ℤ} {accuracy : Accuracy}
    (h : Shows (.ofMantissaAndAccuracy m accuracy) (x / 2 ^ e)) (fine : e ≤ -1074 ∨ 2 ^ 52 ≤ m) :
    ∃ v, Rounded x v ∧ Stands v (roundWithAccuracy Format.binary64 .positive m e accuracy) := by
  have rounds := rounds_of_shows h fine
  refine ⟨_, ⟨_, _, rounds, rfl⟩, ?_⟩
  simp only [roundWithAccuracy]
  generalize (shiftToTargetExponent Format.binary64 m e accuracy).1.roundedMantissa = n,
    (shiftToTargetExponent Format.binary64 m e accuracy).2 = f at rounds ⊢
  rcases rounds.upper.eq_or_lt with rfl | small
  · simp only [shiftToTargetExponent_carry rounds.least]
    refine .finite _ _ _ ⟨by norm_num, by have := rounds.least; omega, .inr le_rfl⟩ ?_
    rw [two_zpow_add]
    push_cast
    ring
  · simp only [shiftToTargetExponent_small small rounds.least]
    by_cases hz : n = 0
    · simp only [hz, dite_true]
      exact .zero (by simp)
    · simp only [hz, dite_false]
      refine .finite _ _ _ ⟨small, rounds.least, ?_⟩ rfl
      exact or_iff_not_imp_left.mpr rounds.lower

theorem le_value (m : ℕ) (e : ℤ) (pos : 0 < m) :
    (2 : ℚ) ^ (totalExponent m e - 1) ≤ m * 2 ^ e := by
  have log_le : (2 : ℚ) ^ (m.log2 : ℤ) ≤ m := by exact_mod_cast Nat.log2_self_le pos.ne'
  calc (2 : ℚ) ^ (totalExponent m e - 1) = 2 ^ ((m.log2 : ℤ) + e) := by
        congr 1
        simp only [totalExponent]
        omega
    _ = 2 ^ (m.log2 : ℤ) * 2 ^ e := two_zpow_add _ _
    _ ≤ m * 2 ^ e := mul_le_mul_of_nonneg_right log_le (two_zpow_pos e).le

theorem value_lt (m : ℕ) (e : ℤ) : (m : ℚ) * 2 ^ e < 2 ^ totalExponent m e := by
  have log_lt : (m : ℚ) < 2 ^ ((m.log2 : ℤ) + 1) := by exact_mod_cast Nat.lt_log2_self
  rw [totalExponent, two_zpow_add]
  exact mul_lt_mul_of_pos_right log_lt (two_zpow_pos e)

theorem value_pos {m : ℕ} (e : ℤ) (pos : 0 < m) : (0 : ℚ) < m * 2 ^ e :=
  mul_pos (by exact_mod_cast pos) (two_zpow_pos e)

theorem div_stands (m : ℕ) (e : ℤ) (hm : 0 < m) (n : ℕ) (f : ℤ) (hn : 0 < n) :
    ∃ v, Rounded ((m * 2 ^ e) / (n * 2 ^ f)) v ∧
      Stands v (UnpackedFloat.div Format.binary64 (.finite .positive m e hm)
        (.finite .positive n f hn)) := by
  have hn' : (n : ℚ) ≠ 0 := by positivity
  simp only [UnpackedFloat.div, divCore]
  have target := targetExponent_binary64 (totalExponent m e - totalExponent n f)
  generalize ht : Format.binary64.targetExponent (totalExponent m e - totalExponent n f) = t
    at target ⊢
  generalize hg : min (e - f) t = g
  generalize hk : (e - f - g).toNat = k
  have exponents : e - f - g = k := by omega
  have quotient : ((m : ℚ) * 2 ^ e) / (n * 2 ^ f) / 2 ^ g = ((m <<< k : ℕ) : ℚ) / n := by
    rw [Nat.shiftLeft_eq]
    push_cast
    rw [← zpow_natCast, ← exponents, zpow_sub₀ (by norm_num), zpow_sub₀ (by norm_num)]
    field_simp
  refine roundWithAccuracy_stands (by rw [quotient]; exact Shows.quotient _ hn) ?_
  refine or_iff_not_imp_left.mpr fun coarse => ?_
  rw [Nat.le_div_iff_mul_le hn]
  have : (2 : ℚ) ^ (52 : ℤ) ≤ ((m <<< k : ℕ) : ℚ) / n := by
    rw [← quotient, le_div_iff₀ (two_zpow_pos g), le_div_iff₀ (value_pos f hn)]
    calc (2 : ℚ) ^ (52 : ℤ) * 2 ^ g * (n * 2 ^ f)
        ≤ 2 ^ (52 : ℤ) * 2 ^ g * 2 ^ totalExponent n f :=
          mul_le_mul_of_nonneg_left (value_lt n f).le (by positivity)
      _ = 2 ^ (52 + g + totalExponent n f) := by rw [two_zpow_add, two_zpow_add]
      _ ≤ 2 ^ (totalExponent m e - 1) := two_zpow_le (by omega)
      _ ≤ m * 2 ^ e := le_value m e hm
  rw [le_div_iff₀ (by positivity)] at this
  exact_mod_cast this

end PacedCalls.Decimal
