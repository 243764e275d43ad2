import PacedCalls.Proofs.Decimal.Bits

set_option autoImplicit false

namespace PacedCalls.Decimal

open Float.Model Float.Model.UnpackedFloat

def IsPositive (x : Float) (v : ℚ) : Prop :=
  ∃ m e, ∃ pos : 0 < m, x.toModel.unpack = .finite .positive m e pos ∧ v = m * 2 ^ e

theorem unpack_one :
    (Scalar.ofNat 1 : Float).toModel.unpack = .finite .positive (2 ^ 52) (-52) (by decide) := rfl

theorem IsPositive.pos {x : Float} {v : ℚ} (h : IsPositive x v) : 0 < v := by
  obtain ⟨m, e, pos, -, rfl⟩ := h
  exact value_pos e pos

theorem isPositive_of_usable {x : Float} (h : Scalar.isUsable x = true) : ∃ v, IsPositive x v := by
  simp only [Scalar.isUsable, Bool.and_eq_true, lt_iff] at h
  obtain ⟨finite, above⟩ := h
  change x.toModel.unpack.isFinite = true at finite
  rcases hx : x.toModel.unpack with s | _ | s | ⟨s, m, e, pos⟩ <;> rw [hx] at finite above
  · cases finite
  · cases finite
  · cases above
  · cases s with
    | negative => cases above
    | positive => exact ⟨_, m, e, pos, hx, rfl⟩

theorem isPositive_of_between {x low high : Float} {v w : ℚ} (hl : IsPositive low v)
    (hh : IsPositive high w) (not_low : Scalar.lt x low = false)
    (not_high : Scalar.lt high x = false) (number : x.toModel.unpack ≠ .notANumber) :
    ∃ u, IsPositive x u := by
  obtain ⟨m, e, hm, low_eq, -⟩ := hl
  obtain ⟨n, f, hn, high_eq, -⟩ := hh
  rw [Bool.eq_false_iff, ne_eq, lt_iff] at not_low not_high
  rw [low_eq] at not_low
  rw [high_eq] at not_high
  rcases hx : x.toModel.unpack with s | _ | s | ⟨s, k, g, pos⟩ <;> rw [hx] at not_low not_high number
  · cases s with
    | negative => exact absurd rfl not_low
    | positive => exact absurd rfl not_high
  · exact absurd rfl number
  · exact absurd rfl not_low
  · cases s with
    | negative => exact absurd rfl not_low
    | positive => exact ⟨_, k, g, pos, hx, rfl⟩

theorem IsPositive.le_of_not_lt {x y : Float} {v w : ℚ} (hx : IsPositive x v) (hy : IsPositive y w)
    (h : Scalar.lt y x = false) : v ≤ w := by
  obtain ⟨m, e, hm, x_eq, rfl⟩ := hx
  obtain ⟨n, f, hn, y_eq, rfl⟩ := hy
  refine (unpack_canonical x_eq).value_le (unpack_canonical y_eq) fun greater => ?_
  rw [Bool.eq_false_iff, ne_eq, lt_iff, compare_swap, x_eq, y_eq] at h
  simp [UnpackedFloat.compare, greater] at h

theorem IsPositive.reciprocal {x : Float} {v : ℚ} (h : IsPositive x v) :
    ∃ w, Rounded (1 / v) w ∧
      ((Parts.ofFloat (Scalar.div (Scalar.ofNat 1) x) = .infinite false ∧ 2 ^ 1024 ≤ w) ∨
        ∃ significand exponent,
          Parts.ofFloat (Scalar.div (Scalar.ofNat 1) x) = .finite false significand exponent ∧
            w = significand * 2 ^ exponent ∧ w < 2 ^ 1024) := by
  obtain ⟨m, e, pos, x_eq, rfl⟩ := h
  obtain ⟨w, rounded, stands⟩ := div_stands (2 ^ 52) (-52) (by decide) m e pos
  have one : ((2 ^ 52 : ℕ) : ℚ) * 2 ^ (-52 : ℤ) = 1 := by norm_num
  rw [one] at rounded
  have quotient : Scalar.div (Scalar.ofNat 1) x = .ofModel (.pack (UnpackedFloat.div
      Format.binary64 (.finite .positive (2 ^ 52) (-52) (by decide)) (.finite .positive m e pos))) := by
    rw [← unpack_one, ← x_eq]
    rfl
  exact ⟨w, rounded, quotient ▸ ofFloat_pack stands⟩

theorem pow2_value (e : ℤ) : ((pow2 e).1 : ℚ) / (pow2 e).2 = 2 ^ e := by
  have split : (e.toNat : ℤ) - (-e).toNat = e := by omega
  conv_rhs => rw [← split, zpow_sub₀ (by norm_num), zpow_natCast, zpow_natCast]
  simp [pow2]

theorem nanosOf?_finite {x : Float} {significand : ℕ} {exponent : ℤ}
    (h : Parts.ofFloat x = .finite false significand exponent) :
    ∃ n, Nearest (significand * 2 ^ exponent * 1000000000) n ∧
      nanosOf? x = if n ≤ Duration.longest then some n else none := by
  have pos : 0 < (pow2 exponent).2 := Nat.pow_pos (by decide)
  refine ⟨_, ?_, by simp only [nanosOf?, h, Bool.false_and, Bool.false_eq_true, if_false]; rfl⟩
  have nearest := roundDiv_nearest (significand * (pow2 exponent).1 * 1000000000) pos
  have value : ((significand * (pow2 exponent).1 * 1000000000 : ℕ) : ℚ) / (pow2 exponent).2 =
      significand * 2 ^ exponent * 1000000000 := by
    rw [← pow2_value]
    push_cast
    ring
  rwa [value] at nearest

theorem nanos_reciprocal_antitone {x y : Float} {v w : ℚ} (hx : IsPositive x v)
    (hy : IsPositive y w) (h : v ≤ w) {k : ℕ}
    (hk : Scalar.nanos? (Scalar.div (Scalar.ofNat 1) x) = some k) :
    ∃ n ≤ k, Scalar.nanos? (Scalar.div (Scalar.ofNat 1) y) = some n := by
  change nanosOf? _ = some k at hk
  change ∃ n ≤ k, nanosOf? _ = some n
  obtain ⟨p, rounds_x, infinite_x | ⟨s, e, parts_x, rfl, small_x⟩⟩ := hx.reciprocal
  · simp [nanosOf?, infinite_x.1] at hk
  obtain ⟨q, rounds_y, parts_y⟩ := hy.reciprocal
  have le : q ≤ s * 2 ^ e := rounds_y.mono rounds_x (one_div_le_one_div_of_le hx.pos h)
  obtain infinite_y | ⟨t, f, parts_y, rfl, -⟩ := parts_y
  · exact absurd (infinite_y.2.trans le) small_x.not_ge
  obtain ⟨n, nearest_x, nanos_x⟩ := nanosOf?_finite parts_x
  obtain ⟨m, nearest_y, nanos_y⟩ := nanosOf?_finite parts_y
  have hmn : m ≤ n := nearest_y.mono nearest_x (mul_le_mul_of_nonneg_right le (by norm_num))
  rw [nanos_x] at hk
  split at hk
  · cases hk
    exact ⟨m, hmn, by rw [nanos_y, if_pos (by omega)]⟩
  · cases hk

end PacedCalls.Decimal
