import PacedCalls.Proofs.Decimal.Reciprocal

set_option autoImplicit false

namespace PacedCalls.Decimal

open Float.Model Float.Model.UnpackedFloat

theorem compare_isSome {x y : Float.Model.UnpackedFloat} (hx : x ≠ .notANumber)
    (hy : y ≠ .notANumber) : ∃ order, x.compare y = some order := by
  rcases x with s | _ | s | ⟨s, m, e, _⟩ <;> rcases y with t | _ | t | ⟨t, n, f, _⟩ <;>
    first
      | exact absurd rfl hx
      | exact absurd rfl hy
      | exact ⟨_, rfl⟩
      | (cases s <;> exact ⟨_, rfl⟩)
      | (cases t <;> exact ⟨_, rfl⟩)
      | (cases s <;> cases t <;> exact ⟨_, rfl⟩)

theorem number_iff (x : Float) : Scalar.le x x = true ↔ x.toModel.unpack ≠ .notANumber := by
  rw [le_iff]
  constructor
  · intro h hx
    rw [hx] at h
    cases h
  · intro h
    obtain ⟨order, compared⟩ := compare_isSome h h
    have swapped := compare_swap x.toModel.unpack x.toModel.unpack
    rw [compared] at swapped ⊢
    cases order with
    | lt => cases swapped
    | eq => rfl
    | gt => cases swapped

theorem number_of_le {x y : Float} (h : Scalar.le x y = true) : Scalar.le x x = true := by
  rw [number_iff]
  intro hx
  rw [le_iff, hx] at h
  cases h

theorem le_of_not_lt {x y : Float} (hx : Scalar.le x x = true) (hy : Scalar.le y y = true)
    (h : Scalar.lt y x = false) : Scalar.le x y = true := by
  rw [number_iff] at hx hy
  rw [Bool.eq_false_iff, ne_eq, lt_iff, compare_swap] at h
  rw [le_iff]
  obtain ⟨order, compared⟩ := compare_isSome hx hy
  rw [compared] at h ⊢
  cases order with
  | lt => rfl
  | eq => rfl
  | gt => exact absurd rfl h

theorem IsPositive.usable {x : Float} {v : ℚ} (h : IsPositive x v) : Scalar.isUsable x = true := by
  obtain ⟨m, e, pos, hx, -⟩ := h
  simp only [Scalar.isUsable, Bool.and_eq_true, lt_iff, hx]
  refine ⟨?_, rfl⟩
  change x.toModel.unpack.isFinite = true
  rw [hx]
  rfl

theorem number_of_usable {x : Float} (h : Scalar.isUsable x = true) : Scalar.le x x = true := by
  obtain ⟨v, m, e, pos, hx, -⟩ := isPositive_of_usable h
  rw [number_iff, hx]
  exact nofun

theorem usable_of_between {low x high : Float} (hl : Scalar.isUsable low = true)
    (hh : Scalar.isUsable high = true) (above : Scalar.le low x = true)
    (below : Scalar.le x high = true) : Scalar.isUsable x = true := by
  obtain ⟨v, low_pos⟩ := isPositive_of_usable hl
  obtain ⟨w, high_pos⟩ := isPositive_of_usable hh
  obtain ⟨u, pos⟩ := isPositive_of_between low_pos high_pos (not_lt_of_le above)
    (not_lt_of_le below) ((number_iff x).mp (number_of_le below))
  exact pos.usable

theorem unpack_packComponents_ne (sign : Sign) {exponent : BitVec 11} {mantissa : BitVec 52}
    (h : exponent = -1#11 → mantissa = 0#52) :
    UnpackedFloat.unpack Format.binary64 (packComponents Format.binary64 sign exponent mantissa) ≠
      .notANumber := by
  simp only [UnpackedFloat.unpack, unpackMantissa_packComponents, unpackExponent_packComponents]
  split
  · next full =>
    rw [if_pos (h full)]
    exact nofun
  · split
    · split <;> exact nofun
    · exact nofun

theorem unpack_pack_ne {u : Float.Model.UnpackedFloat} (h : u ≠ .notANumber) :
    (Float.Model.pack u).unpack ≠ .notANumber := by
  change UnpackedFloat.unpack Format.binary64 (UnpackedFloat.pack Format.binary64 u) ≠ .notANumber
  cases u with
  | infinity sign => exact unpack_packComponents_ne sign fun _ => rfl
  | notANumber => exact absurd rfl h
  | zero sign => exact unpack_packComponents_ne sign fun _ => rfl
  | finite sign m e pos =>
    simp only [UnpackedFloat.pack]
    split
    · exact unpack_packComponents_ne sign fun _ => rfl
    · next small =>
      split
      · refine unpack_packComponents_ne sign fun full => ?_
        have wrapped := congrArg BitVec.toNat full
        change ¬2048 ≤ _ + 1 at small
        simp only [BitVec.toNat_ofNat, BitVec.toNat_neg] at wrapped
        omega
      · exact unpack_packComponents_ne sign fun full => by cases full

theorem roundWithAccuracy_ne (format : Format) (sign : Sign) (m : ℕ) (e : ℤ)
    (accuracy : Accuracy) : roundWithAccuracy format sign m e accuracy ≠ .notANumber := by
  simp only [roundWithAccuracy]
  split <;> rintro ⟨⟩

theorem number_mul {x y : Float} (hx : Scalar.le x x = true) (hy : Scalar.isUsable y = true) :
    Scalar.le (Scalar.mul x y) (Scalar.mul x y) = true := by
  rw [number_iff] at hx ⊢
  obtain ⟨v, m, e, pos, hy, -⟩ := isPositive_of_usable hy
  refine unpack_pack_ne ?_
  rw [hy]
  cases hu : x.toModel.unpack with
  | infinity sign => exact nofun
  | notANumber => exact absurd hu hx
  | zero sign => exact nofun
  | finite sign n f pos' => exact roundWithAccuracy_ne _ _ _ _ _

theorem number_div {x y : Float} (hx : Scalar.isUsable x = true) (hy : Scalar.isUsable y = true) :
    Scalar.le (Scalar.div x y) (Scalar.div x y) = true := by
  rw [number_iff]
  obtain ⟨v, m, e, pos, hx, -⟩ := isPositive_of_usable hx
  obtain ⟨w, n, f, pos', hy, -⟩ := isPositive_of_usable hy
  refine unpack_pack_ne ?_
  rw [hx, hy]
  exact roundWithAccuracy_ne _ _ _ _ _

end PacedCalls.Decimal
