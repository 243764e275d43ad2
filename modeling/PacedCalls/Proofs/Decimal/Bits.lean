import PacedCalls.Proofs.Decimal.Quotient
import PacedCalls.Scalar

set_option autoImplicit false

namespace PacedCalls.Decimal

open Float.Model Float.Model.UnpackedFloat

theorem unpack_canonical {x : Float.Model} {sign : Sign} {m : ℕ} {e : ℤ} {pos : 0 < m}
    (h : x.unpack = .finite sign m e pos) : Canonical m e := by
  have mantissa_lt : (@unpackMantissa Format.binary64 x.toBits.toBitVec).toNat < 2 ^ 52 :=
    BitVec.isLt _
  simp only [Float.Model.unpack, UnpackedFloat.unpack] at h
  split at h
  · split at h <;> cases h
  split at h
  · split at h
    · cases h
    · rename_i zero _
      cases h
      refine ⟨by omega, ?_, .inl ?_⟩ <;> rw [zero] <;> rfl
  · rename_i nonzero
    have exponent_pos : 0 < (@unpackExponent Format.binary64 x.toBits.toBitVec).toNat :=
      Nat.pos_of_ne_zero fun hz => nonzero (BitVec.eq_of_toNat_eq hz)
    cases h
    have full : (1#1 ++ @unpackMantissa Format.binary64 x.toBits.toBitVec).toNat =
        2 ^ 52 + (@unpackMantissa Format.binary64 x.toBits.toBitVec).toNat := by
      rw [BitVec.toNat_append, ← Nat.shiftLeft_add_eq_or_of_lt mantissa_lt]
      rfl
    have bias : (Format.binary64.exponentBias : ℤ) = 1023 := rfl
    rw [full]
    refine ⟨by omega, ?_, .inr (by omega)⟩
    simp only [bias]
    omega

theorem Canonical.value_le {m n : ℕ} {e f : ℤ} (hm : Canonical m e) (hn : Canonical n f)
    (h : (compare e f).then (compare m n) ≠ .gt) : (m : ℚ) * 2 ^ e ≤ n * 2 ^ f := by
  rcases lt_trichotomy e f with hlt | rfl | hgt
  · have fits : (m : ℚ) ≤ 2 ^ (53 : ℤ) := by exact_mod_cast hm.fits.le
    have full : (2 : ℚ) ^ (52 : ℤ) ≤ n := by
      exact_mod_cast hn.full.resolve_left (by have := hm.least; omega)
    calc (m : ℚ) * 2 ^ e ≤ 2 ^ (53 : ℤ) * 2 ^ e :=
          mul_le_mul_of_nonneg_right fits (two_zpow_pos e).le
      _ = 2 ^ (53 + e) := (two_zpow_add _ _).symm
      _ ≤ 2 ^ (52 + f) := two_zpow_le (by omega)
      _ = 2 ^ (52 : ℤ) * 2 ^ f := two_zpow_add _ _
      _ ≤ n * 2 ^ f := mul_le_mul_of_nonneg_right full (two_zpow_pos f).le
  · rw [compare_eq_iff_eq.mpr rfl, Ordering.then] at h
    have hle : m ≤ n := compare_le_iff_le.mp h
    exact mul_le_mul_of_nonneg_right (by exact_mod_cast hle) (two_zpow_pos e).le
  · rw [compare_gt_iff_gt.mpr hgt] at h
    exact absurd rfl h

theorem lt_iff (x y : Float) :
    Scalar.lt x y = true ↔ x.toModel.unpack.compare y.toModel.unpack = some .lt := by
  change decide (decide (x.toModel < y.toModel) = true) = true ↔ _
  rw [decide_eq_true_iff, decide_eq_true_iff]
  change (x.toModel.unpack.compare y.toModel.unpack == some .lt) = true ↔ _
  rw [beq_iff_eq]

theorem le_iff (x y : Float) :
    Scalar.le x y = true ↔ (x.toModel.unpack.compare y.toModel.unpack).any (·.isLE) = true := by
  change decide (decide (x.toModel ≤ y.toModel) = true) = true ↔ _
  rw [decide_eq_true_iff, decide_eq_true_iff]
  rfl

theorem compare_swap (x y : Float.Model.UnpackedFloat) :
    y.compare x = (x.compare y).map Ordering.swap := by
  have exponents (e f : ℤ) : compare f e = (compare e f).swap := (Std.OrientedOrd.eq_swap)
  have mantissas (m n : ℕ) : compare n m = (compare m n).swap := (Std.OrientedOrd.eq_swap)
  rcases x with s | _ | s | ⟨s, m, e, _⟩ <;> rcases y with t | _ | t | ⟨t, n, f, _⟩ <;>
    first
      | rfl
      | cases s <;> rfl
      | cases t <;> rfl
      | cases s <;> cases t <;> first
          | rfl
          | simp [UnpackedFloat.compare, exponents e f, mantissas m n, Ordering.swap_then]

theorem lt_irrefl (x : Float) : Scalar.lt x x = false := by
  rw [Bool.eq_false_iff, ne_eq, lt_iff]
  intro h
  have swapped := compare_swap x.toModel.unpack x.toModel.unpack
  rw [h] at swapped
  cases swapped

theorem not_lt_of_le {x y : Float} (h : Scalar.le x y = true) : Scalar.lt y x = false := by
  rw [Bool.eq_false_iff, ne_eq, lt_iff]
  rw [le_iff] at h
  intro hlt
  rw [compare_swap, hlt] at h
  cases h

theorem ofFloat_fields {x : Float} {field frac : ℕ} (bits : x.toBits.toNat = field * 2 ^ 52 + frac)
    (hfield : field < 2048) (hfrac : frac < 2 ^ 52) :
    Parts.ofFloat x =
      if field = 2047 then if frac = 0 then .infinite false else .nan
      else if field = 0 then .finite false frac (-1074)
      else .finite false (frac + 2 ^ 52) ((field : ℤ) - 1075) := by
  have quotient : x.toBits.toNat / 2 ^ 52 % 2048 = field := by omega
  have rest : x.toBits.toNat % 2 ^ 52 = frac := by omega
  have sign : ¬ 2 ^ 63 ≤ x.toBits.toNat := by omega
  simp only [Parts.ofFloat, Nat.pow_eq, quotient, rest, sign, decide_false]

theorem toNat_packComponents (exponent : BitVec 11) (mantissa : BitVec 52) :
    (packComponents Format.binary64 .positive exponent mantissa).toNat =
      exponent.toNat * 2 ^ 52 + mantissa.toNat := by
  have hm : mantissa.toNat < 2 ^ 52 := mantissa.isLt
  change ((0#1 ++ exponent) ++ mantissa).toNat = _
  rw [BitVec.toNat_append, BitVec.toNat_append, ← Nat.shiftLeft_add_eq_or_of_lt hm]
  simp [Nat.shiftLeft_eq]

/-- A number is written as it is, or as infinite if it is too large. -/
theorem ofFloat_pack {v : ℚ} {u : Float.Model.UnpackedFloat} (h : Stands v u) :
    (Parts.ofFloat (.ofModel (.pack u)) = .infinite false ∧ 2 ^ 1024 ≤ v) ∨
      ∃ significand exponent,
        Parts.ofFloat (.ofModel (.pack u)) = .finite false significand exponent ∧
          v = significand * 2 ^ exponent ∧ v < 2 ^ 1024 := by
  cases h with
  | zero value =>
    refine .inr ⟨0, -1074, by decide, by simp [value], ?_⟩
    rw [value]
    positivity
  | finite m e pos canonical value =>
    obtain ⟨fits, least, full⟩ := canonical
    have bias : (Format.binary64.exponentBias : ℤ) = 1023 := rfl
    have written : (Float.ofModel (.pack (.finite .positive m e pos))).toBits.toNat =
        (UnpackedFloat.pack Format.binary64 (.finite .positive m e pos)).toNat := rfl
    simp only [UnpackedFloat.pack, bias] at written
    by_cases large : 972 ≤ e
    · left
      refine ⟨?_, ?_⟩
      · rw [if_pos (by omega)] at written
        rw [packedInfinity, toNat_packComponents] at written
        rw [ofFloat_fields written (by decide) (by decide)]
        rfl
      · have hm : (2 : ℚ) ^ (52 : ℤ) ≤ m := by
          exact_mod_cast full.resolve_left (by omega)
        calc (2 : ℚ) ^ 1024 = 2 ^ (1024 : ℤ) := (zpow_natCast 2 1024).symm
          _ ≤ 2 ^ (52 + e) := two_zpow_le (by omega)
          _ = 2 ^ (52 : ℤ) * 2 ^ e := two_zpow_add _ _
          _ ≤ m * 2 ^ e := mul_le_mul_of_nonneg_right hm (two_zpow_pos e).le
          _ = v := value.symm
    · right
      refine ⟨m, e, ?_, value, ?_⟩
      · rw [if_neg (by omega)] at written
        rcases Nat.lt_or_ge m (2 ^ 52) with short | long
        · have log_lt : m.log2 < 52 := (Nat.log2_lt pos.ne').mpr short
          rw [if_neg (by simp only [Format.mantissaBits]; omega), toNat_packComponents] at written
          simp only [BitVec.toNat_ofNat, Nat.mod_eq_of_lt short] at written
          rw [ofFloat_fields written (by decide) short, full.resolve_right (by omega)]
          simp
        · have log_eq : m.log2 = 52 := (Nat.log2_eq_iff pos.ne').mpr ⟨long, fits⟩
          rw [if_pos (by simp only [Format.mantissaBits, log_eq]), toNat_packComponents] at written
          simp only [BitVec.toNat_ofNat] at written
          rw [ofFloat_fields written (Nat.mod_lt _ (by decide)) (Nat.mod_lt _ (by decide)),
            if_neg (by omega), if_neg (by omega)]
          congr 1 <;> omega
      · have hm : (m : ℚ) < 2 ^ (53 : ℤ) := by exact_mod_cast fits
        calc v = m * 2 ^ e := value
          _ < 2 ^ (53 : ℤ) * 2 ^ e := mul_lt_mul_of_pos_right hm (two_zpow_pos e)
          _ = 2 ^ (53 + e) := (two_zpow_add _ _).symm
          _ ≤ 2 ^ (1024 : ℤ) := two_zpow_le (by omega)
          _ = 2 ^ 1024 := zpow_natCast 2 1024

end PacedCalls.Decimal
