import PacedCalls.Proofs.Decimal.Numbers

set_option autoImplicit false

namespace PacedCalls.Decimal

open Float.Model Float.Model.UnpackedFloat

def Parts.ofUnpacked : Float.Model.UnpackedFloat → Parts
  | .notANumber => .nan
  | .infinity sign => .infinite (sign == .negative)
  | .zero sign => .finite (sign == .negative) 0 (-1074)
  | .finite sign m e _ => .finite (sign == .negative) m e

theorem ofBitVec_beq_negative (bit : BitVec 1) :
    (Sign.ofBitVec bit == .negative) = decide (bit.toNat = 1) := by
  rcases BitVec.eq_zero_or_eq_one bit with rfl | rfl <;> rfl

theorem toNat_unpackMantissa (b : BitVec 64) :
    (@unpackMantissa Format.binary64 b).toNat = b.toNat % 2 ^ 52 := by
  simp [unpackMantissa]

theorem toNat_unpackExponent (b : BitVec 64) :
    (@unpackExponent Format.binary64 b).toNat = b.toNat / 2 ^ 52 % 2048 := by
  simp [unpackExponent, Nat.shiftRight_eq_div_pow]

theorem toNat_unpackSign (b : BitVec 64) :
    (@unpackSign Format.binary64 b).toNat = b.toNat / 2 ^ 63 := by
  have := b.isLt
  simp [unpackSign, Nat.shiftRight_eq_div_pow]
  omega

theorem toNat_append_one (m : BitVec 52) : (1#1 ++ m).toNat = m.toNat + 2 ^ 52 := by
  rw [BitVec.toNat_append, ← Nat.shiftLeft_add_eq_or_of_lt m.isLt, Nat.add_comm]
  rfl

theorem ofFloat_eq (x : Float) : Parts.ofFloat x = Parts.ofUnpacked x.toModel.unpack := by
  have bound : x.toBits.toNat < 2 ^ 64 := x.toBits.toBitVec.isLt
  have sign := toNat_unpackSign x.toModel.toBits.toBitVec
  have mantissa := toNat_unpackMantissa x.toModel.toBits.toBitVec
  have exponent := toNat_unpackExponent x.toModel.toBits.toBitVec
  change _ = x.toBits.toNat / _ at sign
  change _ = x.toBits.toNat % _ at mantissa
  change _ = x.toBits.toNat / _ % _ at exponent
  have negative : decide (2 ^ 63 ≤ x.toBits.toNat) =
      (Sign.ofBitVec (@unpackSign Format.binary64 x.toModel.toBits.toBitVec) == .negative) := by
    rw [ofBitVec_beq_negative, decide_eq_decide, sign]
    omega
  have full : @unpackExponent Format.binary64 x.toModel.toBits.toBitVec = -1#11 ↔
      (@unpackExponent Format.binary64 x.toModel.toBits.toBitVec).toNat = 2047 :=
    BitVec.toNat_inj.symm
  have empty : @unpackExponent Format.binary64 x.toModel.toBits.toBitVec = 0#11 ↔
      (@unpackExponent Format.binary64 x.toModel.toBits.toBitVec).toNat = 0 :=
    BitVec.toNat_inj.symm
  have none : @unpackMantissa Format.binary64 x.toModel.toBits.toBitVec = 0#52 ↔
      (@unpackMantissa Format.binary64 x.toModel.toBits.toBitVec).toNat = 0 :=
    BitVec.toNat_inj.symm
  simp only [Parts.ofFloat, Nat.pow_eq, ← mantissa, ← exponent, negative, Float.Model.unpack,
    UnpackedFloat.unpack, full, empty, none]
  split
  · split <;> rfl
  · split
    · split
      · next zero => rw [zero]; rfl
      · next subnormal _ => simp only [Parts.ofUnpacked, subnormal]; rfl
    · simp only [Parts.ofUnpacked, toNat_append_one]
      rfl

theorem ofUnpacked_infinite {u : Float.Model.UnpackedFloat}
    (h : Parts.ofUnpacked u = .infinite false) : u = .infinity .positive := by
  rcases u with ⟨_ | _⟩ | _ | ⟨_ | _⟩ | ⟨_ | _, m, e, pos⟩ <;> first | rfl | cases h

theorem ofUnpacked_finite {u : Float.Model.UnpackedFloat} {significand : ℕ} {exponent : ℤ}
    (h : Parts.ofUnpacked u = .finite false significand exponent) :
    (u = .zero .positive ∧ significand = 0) ∨
      ∃ pos, u = .finite .positive significand exponent pos := by
  rcases u with ⟨_ | _⟩ | _ | ⟨_ | _⟩ | ⟨_ | _, m, e, pos⟩ <;> cases h
  · exact .inl ⟨rfl, rfl⟩
  · exact .inr ⟨pos, rfl⟩

theorem Stands.unpack_pack {v : ℚ} {u : Float.Model.UnpackedFloat} (h : Stands v u) :
    ((Float.Model.pack u).unpack = .infinity .positive ∧ 2 ^ 1024 ≤ v) ∨
      Stands v (Float.Model.pack u).unpack := by
  have read := ofFloat_eq (.ofModel (.pack u))
  change _ = Parts.ofUnpacked (Float.Model.pack u).unpack at read
  rcases ofFloat_pack h with ⟨parts, large⟩ | ⟨significand, exponent, parts, value, -⟩
  · exact .inl ⟨ofUnpacked_infinite (read.symm.trans parts), large⟩
  · rcases ofUnpacked_finite (read.symm.trans parts) with ⟨eq, zero⟩ | ⟨pos, eq⟩
    · rw [eq]
      exact .inr (.zero (by simp [value, zero]))
    · rw [eq]
      exact .inr (.finite _ _ pos (unpack_canonical eq) value)

theorem Canonical.rounds {m : ℕ} {e : ℤ} (h : Canonical m e) : Rounds (m * 2 ^ e) m e where
  nearest := by
    rw [mul_div_cancel_right₀ _ (two_zpow_pos e).ne']
    exact .down le_rfl (by linarith)
  fits := by
    rw [two_zpow_add]
    exact mul_lt_mul_of_pos_right (by exact_mod_cast h.fits) (two_zpow_pos e)
  least := h.least
  full := h.full.imp_right fun full => by
    rw [two_zpow_add]
    exact mul_le_mul_of_nonneg_right (by exact_mod_cast full) (two_zpow_pos e).le

theorem Canonical.rounded {m : ℕ} {e : ℤ} (h : Canonical m e) : Rounded (m * 2 ^ e) (m * 2 ^ e) :=
  ⟨m, e, h.rounds, rfl⟩

theorem rounded_zero : Rounded 0 0 := by
  have empty : Canonical 0 (-1074) := ⟨by decide, le_rfl, .inl rfl⟩
  simpa using empty.rounded

theorem rounded_two_pow (k : ℕ) : Rounded (2 ^ k) (2 ^ k) := by
  have full : Canonical (2 ^ 52) (k - 52) := ⟨by decide, by omega, .inr le_rfl⟩
  have value : ((2 ^ 52 : ℕ) : ℚ) * 2 ^ ((k : ℤ) - 52) = 2 ^ k := by
    rw [zpow_sub₀ (by norm_num), zpow_natCast]
    norm_num
    field_simp
  simpa only [value] using full.rounded

theorem Rounded.unique {x v w : ℚ} (h : Rounded x v) (again : Rounded x w) : v = w :=
  le_antisymm (h.mono again le_rfl) (again.mono h le_rfl)

theorem shows_exact (m : ℕ) : Shows (.ofMantissaAndAccuracy m .exact) m := rfl

theorem normalize_stands (n : ℕ) :
    ∃ v, Rounded n v ∧ Stands v (UnpackedFloat.normalize Format.binary64 n 0 .positive) := by
  rcases Nat.eq_zero_or_pos n with rfl | pos
  · exact ⟨0, by exact_mod_cast rounded_zero, .zero rfl⟩
  have sign : compare (n : ℤ) 0 = .gt := compare_gt_iff_gt.mpr (by exact_mod_cast pos)
  simp only [UnpackedFloat.normalize, sign, UnpackedFloat.round, decreaseExponent,
    Int.toNat_natCast, targetExponent_binary64, totalExponent]
  generalize hk : (0 - max ((n.log2 : ℤ) + 1 + 0 - 53) (-1074)).toNat = k
  have shifted : (n : ℚ) / 2 ^ (0 - (k : ℤ)) = (n <<< k : ℕ) := by
    rw [Nat.shiftLeft_eq, zero_sub, zpow_neg, zpow_natCast, div_inv_eq_mul]
    push_cast
    rfl
  refine roundWithAccuracy_stands (by rw [shifted]; exact shows_exact _) (.inr ?_)
  calc 2 ^ 52 ≤ 2 ^ (n.log2 + k) := Nat.pow_le_pow_right two_pos (by omega)
    _ = 2 ^ n.log2 * 2 ^ k := pow_add _ _ _
    _ ≤ n * 2 ^ k := Nat.mul_le_mul_right _ (Nat.log2_self_le pos.ne')
    _ = n <<< k := (Nat.shiftLeft_eq _ _).symm

theorem mul_stands {m : ℕ} {e : ℤ} (hm : 0 < m) {n : ℕ} {f : ℤ} (hn : 0 < n)
    (fine : 2 ^ 52 ≤ m * n) :
    ∃ v, Rounded ((m * 2 ^ e) * (n * 2 ^ f)) v ∧
      Stands v (UnpackedFloat.mul Format.binary64 (.finite .positive m e hm)
        (.finite .positive n f hn)) := by
  have product : ((m : ℚ) * 2 ^ e) * (n * 2 ^ f) / 2 ^ (e + f) = (m * n : ℕ) := by
    have grid_pos := mul_pos (two_zpow_pos e) (two_zpow_pos f)
    rw [two_zpow_add, mul_mul_mul_comm, mul_div_cancel_right₀ _ grid_pos.ne']
    push_cast
    rfl
  exact roundWithAccuracy_stands (by rw [product]; exact shows_exact _) (.inr fine)

theorem ofNat_small {n : ℕ} (h : n < 2 ^ 53) :
    (Scalar.ofNat n : Float).toModel = .pack (UnpackedFloat.mul Format.binary64
      (Float.Model.pack (UnpackedFloat.normalize Format.binary64 n 0 .positive)).unpack
      (.finite .positive (2 ^ 52) (-52) (by decide))) := by
  have word : n.toUInt64.toNat = n := UInt64.toNat_ofNat_of_lt (h.trans (by decide))
  have fast : (Scalar.ofNat n : Float) =
      n.toUInt64.toFloat * Float.exactlyRepresentablePowersOfTen[0] := by
    change Float.ofScientific n false 0 = _
    rw [Float.ofScientific, dif_pos ⟨h, by decide⟩, if_neg Bool.false_ne_true]
  have first : (n.toUInt64.toFloat).toModel =
      .pack (UnpackedFloat.normalize Format.binary64 n 0 .positive) := by
    change Float.Model.pack (UnpackedFloat.normalize Format.binary64 (n.toUInt64.toNat : ℕ) 0
      .positive) = _
    rw [word]
  have one : Float.exactlyRepresentablePowersOfTen[0].toModel.unpack =
      .finite .positive (2 ^ 52) (-52) (by decide) := rfl
  rw [fast, ← first, ← one]
  rfl

theorem ofNat_large {n : ℕ} (pos : 0 < n) (h : 2 ^ 53 ≤ n) :
    (Scalar.ofNat n : Float).toModel = .pack (UnpackedFloat.mul Format.binary64
      (.finite .positive (n <<< 53) (-53) (by rw [Nat.shiftLeft_eq]; positivity))
      (.finite .positive 1 0 (by decide))) := by
  change (Float.ofScientific n false 0).toModel = _
  rw [Float.ofScientific, dif_neg (by omega)]
  change Float.Model.pack (UnpackedFloat.ofScientific Format.binary64 n 0) = _
  have bits : (2 : ℤ) ^ Format.binary64.exponentBits = 2048 := rfl
  rw [UnpackedFloat.ofScientific, dif_neg pos.ne', bits, if_neg (by decide), if_neg (by omega),
    if_pos le_rfl]
  rfl

theorem ofNat_stands (n : ℕ) :
    ∃ v u, Rounded n v ∧ Stands v u ∧ (Scalar.ofNat n : Float).toModel = .pack u := by
  rcases Nat.lt_or_ge n (2 ^ 53) with small | large
  · obtain ⟨v, rounded, stands⟩ := normalize_stands n
    have bounded : v ≤ 2 ^ 53 := rounded.mono (rounded_two_pow 53) (by exact_mod_cast small.le)
    refine ⟨v, _, rounded, ?_, ofNat_small small⟩
    rcases stands.unpack_pack with ⟨-, huge⟩ | read
    · exact absurd (huge.trans bounded) (pow_lt_pow_right₀ one_lt_two (by decide)).not_ge
    generalize (Float.Model.pack (UnpackedFloat.normalize Format.binary64 n 0 .positive)).unpack = w
      at read
    cases read with
    | zero value => exact .zero value
    | finite m e pos canonical value =>
      obtain ⟨w, again, product⟩ :=
        mul_stands (e := e) (f := -52) pos (n := 2 ^ 52) (by decide) (by omega)
      have one : ((2 ^ 52 : ℕ) : ℚ) * 2 ^ (-52 : ℤ) = 1 := by norm_num
      rw [one, mul_one] at again
      rwa [value, canonical.rounded.unique again]
  · have pos : 0 < n := by omega
    have shifted : ((n <<< 53 : ℕ) : ℚ) * 2 ^ (-53 : ℤ) * ((1 : ℕ) * 2 ^ (0 : ℤ)) = n := by
      rw [Nat.shiftLeft_eq]
      push_cast
      rw [mul_assoc, mul_assoc]
      norm_num
    obtain ⟨v, rounded, stands⟩ := mul_stands (m := n <<< 53) (e := -53) (n := 1) (f := 0)
      (by rw [Nat.shiftLeft_eq]; positivity) (by decide) (by rw [Nat.shiftLeft_eq]; omega)
    exact ⟨v, _, shifted ▸ rounded, stands, ofNat_large pos large⟩

theorem Canonical.value_lt {m n : ℕ} {e f : ℤ} (hm : Canonical m e) (hn : Canonical n f)
    (h : (compare e f).then (compare m n) = .lt) : (m : ℚ) * 2 ^ e < n * 2 ^ f := by
  rcases lt_trichotomy e f with hlt | rfl | hgt
  · have fits : (m : ℚ) < 2 ^ (53 : ℤ) := by exact_mod_cast hm.fits
    have full : (2 : ℚ) ^ (52 : ℤ) ≤ n := by
      exact_mod_cast hn.full.resolve_left (by have := hm.least; omega)
    calc (m : ℚ) * 2 ^ e < 2 ^ (53 : ℤ) * 2 ^ e := mul_lt_mul_of_pos_right fits (two_zpow_pos e)
      _ = 2 ^ (53 + e) := (two_zpow_add _ _).symm
      _ ≤ 2 ^ (52 + f) := two_zpow_le (by omega)
      _ = 2 ^ (52 : ℤ) * 2 ^ f := two_zpow_add _ _
      _ ≤ n * 2 ^ f := mul_le_mul_of_nonneg_right full (two_zpow_pos f).le
  · rw [compare_eq_iff_eq.mpr rfl, Ordering.then] at h
    have hlt : m < n := compare_lt_iff_lt.mp h
    exact mul_lt_mul_of_pos_right (by exact_mod_cast hlt) (two_zpow_pos e)
  · rw [compare_gt_iff_gt.mpr hgt] at h
    cases h

theorem toNat_ofNatClamp_le (n : ℕ) : (UInt64.ofNatClamp n).toNat ≤ n := by
  rw [UInt64.ofNatClamp]
  split
  · exact le_rfl
  · next large => exact Nat.le_of_lt (Nat.lt_of_lt_of_le (by decide) (not_lt.mp large))

theorem roundToInt_le (m : ℕ) (e : ℤ) : ((roundToInt .positive m e).toNat : ℚ) ≤ m * 2 ^ e := by
  simp only [roundToInt, decreaseExponent, shiftToExponent, Sign.apply, Int.toNat_natCast,
    sub_zero, zero_sub]
  generalize hk : (-(e - e.toNat)).toNat = k
  have exponents : (e.toNat : ℤ) - k = e := by omega
  have shown := (shows_exact (m <<< e.toNat)).shiftRight k
  have value : ((m <<< e.toNat : ℕ) : ℚ) / 2 ^ k = m * 2 ^ e := by
    conv_rhs => rw [← exponents, zpow_sub₀ (by norm_num), zpow_natCast, zpow_natCast]
    rw [Nat.shiftLeft_eq, mul_div_assoc']
    push_cast
    rfl
  exact value ▸ shown.floor.1

theorem whole_eq (x : Float) : Scalar.whole x =
    (UInt64.ofNatClamp (x.toModel.unpack.toInt 0 (UInt64.size - 1)).toNat).toNat := rfl

theorem whole_lt (x : Float) : Scalar.whole x < 2 ^ 64 := x.toUInt64.toBitVec.isLt

theorem positive_of_whole {x : Float} (h : Scalar.whole x ≠ 0) :
    x.toModel.unpack = .infinity .positive ∨
      ∃ m e pos, x.toModel.unpack = .finite .positive m e pos := by
  rw [whole_eq] at h
  rcases hx : x.toModel.unpack with ⟨_ | _⟩ | _ | s | ⟨_ | _, m, e, pos⟩ <;> rw [hx] at h
  · exact absurd rfl h
  · exact .inl rfl
  · exact absurd rfl h
  · exact absurd rfl h
  · have negative :
        (UnpackedFloat.toInt 0 (UInt64.size - 1) (.finite .negative m e pos)).toNat = 0 := by
      simp [UnpackedFloat.toInt, roundToInt, Sign.apply]
    rw [negative] at h
    exact absurd rfl h
  · exact .inr ⟨m, e, pos, rfl⟩

theorem whole_le {x : Float} {m : ℕ} {e : ℤ} {pos : 0 < m}
    (h : x.toModel.unpack = .finite .positive m e pos) : (Scalar.whole x : ℚ) ≤ m * 2 ^ e := by
  have clamped : Scalar.whole x ≤ (roundToInt .positive m e).toNat := by
    rw [whole_eq, h]
    exact toNat_ofNatClamp_le _
  exact (Nat.cast_le.mpr clamped).trans (roundToInt_le m e)

/-- A double that is less than the one nearest to a whole number has no greater whole part than
this number, which may itself be less than the double. -/
theorem whole_le_of_lt {x : Float} {n : ℕ} (h : Scalar.lt x (Scalar.ofNat n) = true) :
    Scalar.whole x ≤ n := by
  by_contra! beyond
  obtain ⟨v, u, rounded, stands, model⟩ := ofNat_stands n
  rw [lt_iff, model] at h
  rcases positive_of_whole (Nat.ne_zero_of_lt beyond) with hx | ⟨m, e, pos, hx⟩ <;> rw [hx] at h
  · -- Nothing is above what is infinite.
    rcases stands.unpack_pack with ⟨hu, -⟩ | read
    · rw [hu] at h
      cases h
    · generalize (Float.Model.pack u).unpack = w at h read
      cases read <;> cases h
  · have above : (n : ℚ) < m * 2 ^ e := (Nat.cast_lt.mpr beyond).trans_le (whole_le hx)
    have canonical := unpack_canonical hx
    rcases stands.unpack_pack with ⟨-, huge⟩ | read
    · -- A number that is rounded to infinity is not below a word.
      have small : (n : ℚ) ≤ 2 ^ 64 := by exact_mod_cast (beyond.trans (whole_lt x)).le
      have bounded : v ≤ 2 ^ 64 := rounded.mono (rounded_two_pow 64) small
      exact (huge.trans bounded).not_gt (pow_lt_pow_right₀ one_lt_two (by decide))
    · generalize (Float.Model.pack u).unpack = w at h read
      cases read with
      | zero value => cases h
      | finite k f pos' canonical' value =>
        have less : (m : ℚ) * 2 ^ e < v :=
          value ▸ canonical.value_lt canonical' (Option.some.inj h)
        exact less.not_ge (rounded.mono canonical.rounded above.le)

end PacedCalls.Decimal
