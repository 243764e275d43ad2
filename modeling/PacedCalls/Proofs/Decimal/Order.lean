import PacedCalls.Proofs.Decimal.Whole

set_option autoImplicit false

namespace PacedCalls.Decimal

open Float.Model Float.Model.UnpackedFloat

theorem eq_of_ofFloat {x y : Float} {m : ℕ} {e : ℤ} (hx : Parts.ofFloat x = .finite false m e)
    (hy : Parts.ofFloat y = .finite false m e) : x = y := by
  have boundx : x.toBits.toNat < 2 ^ 64 := x.toBits.toBitVec.isLt
  have boundy : y.toBits.toNat < 2 ^ 64 := y.toBits.toBitVec.isLt
  refine Float.toBits_inj.mp (UInt64.toNat_inj.mp ?_)
  simp only [Parts.ofFloat, Nat.pow_eq] at hx hy
  split at hx
  · split at hx <;> cases hx
  split at hy
  · split at hy <;> cases hy
  -- A subnormal has no leading one, so it is no normal one with the same parts.
  split at hx <;> split at hy <;>
    simp only [Parts.finite.injEq, decide_eq_false_iff_not] at hx hy <;> omega

theorem eq_of_unpack {x y : Float} {m : ℕ} {e : ℤ} {pos : 0 < m}
    (hx : x.toModel.unpack = .finite .positive m e pos)
    (hy : y.toModel.unpack = .finite .positive m e pos) : x = y := by
  have read (z : Float) (hz : z.toModel.unpack = .finite .positive m e pos) :
      Parts.ofFloat z = .finite false m e := by
    rw [ofFloat_eq, hz]
    rfl
  exact eq_of_ofFloat (read x hx) (read y hy)

theorem eq_of_not_lt {x y : Float} (hx : Scalar.isUsable x = true) (hy : Scalar.isUsable y = true)
    (below : Scalar.lt x y = false) (above : Scalar.lt y x = false) : x = y := by
  obtain ⟨v, m, e, pos, hx, -⟩ := isPositive_of_usable hx
  obtain ⟨w, n, f, pos', hy, -⟩ := isPositive_of_usable hy
  rw [Bool.eq_false_iff, ne_eq, lt_iff, hx, hy] at below
  rw [Bool.eq_false_iff, ne_eq, lt_iff, compare_swap, hx, hy] at above
  have same : (compare e f).then (compare m n) = .eq := by
    simp only [UnpackedFloat.compare, Option.some.injEq, Option.map_some] at below above
    cases order : (compare e f).then (compare m n) with
    | lt => exact absurd order below
    | eq => rfl
    | gt => exact absurd (congrArg Ordering.swap order) above
  obtain ⟨exponents, mantissas⟩ := Ordering.then_eq_eq.mp same
  obtain rfl := compare_eq_iff_eq.mp exponents
  obtain rfl := compare_eq_iff_eq.mp mantissas
  exact eq_of_unpack hx hy

end PacedCalls.Decimal
