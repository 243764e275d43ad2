import PacedCalls.Proofs.Decimal.Reciprocal
import PacedCalls.Rate.Controller

set_option autoImplicit false

namespace PacedCalls

/-- Numbers whose comparisons are sane, and whose reciprocals do not get shorter from a usable
ceiling down to a usable floor. -/
class Scalar.Lawful (R : Type) [Scalar R] : Prop where
  lt_irrefl (x : R) : Scalar.lt x x = false
  not_lt_of_le {x y : R} : Scalar.le x y = true → Scalar.lt y x = false
  nanos_reciprocal {low x high : R} {d : ℕ} : Scalar.isUsable low = true →
    Scalar.isUsable high = true → Scalar.lt x low = false → Scalar.lt high x = false →
    Scalar.nanos? (Scalar.div (Scalar.ofNat 1) x) = some d →
    ∃ n ≤ d, Scalar.nanos? (Scalar.div (Scalar.ofNat 1) high) = some n

theorem Decimal.number_of_nanos {x : Float} {d : ℕ}
    (h : Scalar.nanos? (Scalar.div (Scalar.ofNat 1) x) = some d) :
    x.toModel.unpack ≠ .notANumber := by
  intro hx
  have quotient : Scalar.div (Scalar.ofNat 1) x =
      .ofModel (.pack (Float.Model.UnpackedFloat.div .binary64
        (Scalar.ofNat 1 : Float).toModel.unpack x.toModel.unpack)) := rfl
  rw [quotient, hx, Decimal.unpack_one] at h
  cases h

instance : Scalar.Lawful Float where
  lt_irrefl := Decimal.lt_irrefl
  not_lt_of_le := Decimal.not_lt_of_le
  nanos_reciprocal {low x high d} hlow hhigh not_low not_high hd := by
    obtain ⟨u, low_pos⟩ := Decimal.isPositive_of_usable hlow
    obtain ⟨w, high_pos⟩ := Decimal.isPositive_of_usable hhigh
    obtain ⟨v, x_pos⟩ := Decimal.isPositive_of_between low_pos high_pos not_low not_high
      (Decimal.number_of_nanos hd)
    exact Decimal.nanos_reciprocal_antitone x_pos high_pos
      (x_pos.le_of_not_lt high_pos not_high) hd

namespace Rate

variable {R : Type} [Scalar R]

/-- Limits under a ceiling, with the current rate between the bounds. -/
structure Limits.Within (base : R) (l : Limits R) : Prop where
  ceiling : l.base = base
  usableBase : Scalar.isUsable base = true
  usableMin : Scalar.isUsable l.min = true
  ordered : Scalar.le l.min base = true
  notBelow : Scalar.lt l.current l.min = false
  notAbove : Scalar.lt base l.current = false

/-- What may happen to a controller's rate while its ceiling stays where it is. -/
inductive Signal (R : Type) where
  | increase
  | decrease
  | reset
  | setMin (min : R)

def Controller.heed (c : Controller R) : Signal R → Controller R
  | .increase => c.increase.1
  | .decrease => c.decrease.1
  | .reset => c.reset
  | .setMin min =>
    match c.setMin min with
    | .ok (c, _) => c
    | .error _ => c

theorem checkRate_ok {bound : Bound} {value value' : R} (h : checkRate bound value = .ok value') :
    Scalar.isUsable value = true ∧ value' = value := by
  simp only [checkRate] at h
  split at h
  · cases h
    exact ⟨‹_›, rfl⟩
  · cases h

theorem checkBounds_ok {min base : R} (h : checkBounds min base = .ok ()) :
    Scalar.le min base = true := by
  simp only [checkBounds] at h
  split at h
  · assumption
  · cases h

theorem Limits.setMin_ok {l l' : Limits R} {min : R} (h : l.setMin min = .ok l') :
    Scalar.isUsable min = true ∧ Scalar.le min l.base = true ∧
      l' = { l with min := min, current := Scalar.clamp l.current min l.base } := by
  simp only [Limits.setMin, bind, Except.bind] at h
  split at h
  · cases h
  · rename_i value hrate
    obtain ⟨usable, rfl⟩ := checkRate_ok hrate
    split at h
    · cases h
    · rename_i hbounds
      cases h
      exact ⟨usable, checkBounds_ok hbounds, rfl⟩

theorem Config.validate_ok {c : Config R} (h : c.validate = .ok ()) :
    Scalar.isUsable c.base = true ∧ Scalar.isUsable c.min = true ∧
      Scalar.le c.min c.base = true := by
  simp only [Config.validate, bind, Except.bind] at h
  split at h
  · cases h
  · rename_i base hbase
    split at h
    · cases h
    · rename_i min hmin
      exact ⟨(checkRate_ok hbase).1, (checkRate_ok hmin).1, checkBounds_ok h⟩

variable [Scalar.Lawful R]

theorem clamp_not_below (x : R) {low high : R} (h : Scalar.le low high = true) :
    Scalar.lt (Scalar.clamp x low high) low = false := by
  have raised : Scalar.lt (if Scalar.lt x low then low else x) low = false := by
    split
    · exact Scalar.Lawful.lt_irrefl low
    · exact Bool.eq_false_iff.mpr ‹_›
  simp only [Scalar.clamp]
  generalize (if Scalar.lt x low then low else x) = y at raised ⊢
  split
  · exact Scalar.Lawful.not_lt_of_le h
  · exact raised

theorem clamp_not_above (x low high : R) : Scalar.lt high (Scalar.clamp x low high) = false := by
  simp only [Scalar.clamp]
  generalize (if Scalar.lt x low then low else x) = y
  split
  · exact Scalar.Lawful.lt_irrefl high
  · exact Bool.eq_false_iff.mpr ‹_›

theorem Limits.within_clamp {l : Limits R} (usableBase : Scalar.isUsable l.base = true)
    (usableMin : Scalar.isUsable l.min = true) (ordered : Scalar.le l.min l.base = true)
    (rate : R) : ({ l with current := l.clamp rate }).Within l.base where
  ceiling := rfl
  usableBase := usableBase
  usableMin := usableMin
  ordered := ordered
  notBelow := clamp_not_below rate ordered
  notAbove := clamp_not_above rate l.min l.base

theorem Limits.within_base {l : Limits R} (usableBase : Scalar.isUsable l.base = true)
    (usableMin : Scalar.isUsable l.min = true) (ordered : Scalar.le l.min l.base = true) :
    ({ l with current := l.base }).Within l.base where
  ceiling := rfl
  usableBase := usableBase
  usableMin := usableMin
  ordered := ordered
  notBelow := Scalar.Lawful.not_lt_of_le ordered
  notAbove := Scalar.Lawful.lt_irrefl l.base

namespace Limits.Within

variable {base : R} {l : Limits R}

theorem clamp (h : l.Within base) (rate : R) :
    ({ l with current := l.clamp rate }).Within base := by
  obtain ⟨rfl, usableBase, usableMin, ordered, -, -⟩ := h
  exact within_clamp usableBase usableMin ordered rate

theorem reset (h : l.Within base) : l.reset.Within base := by
  obtain ⟨rfl, usableBase, usableMin, ordered, -, -⟩ := h
  exact within_base usableBase usableMin ordered

theorem setMin (h : l.Within base) {min : R} {l' : Limits R} (made : l.setMin min = .ok l') :
    l'.Within base := by
  obtain ⟨rfl, usableBase, -, -, -, -⟩ := h
  obtain ⟨usableMin, ordered, rfl⟩ := Limits.setMin_ok made
  exact @within_clamp R _ _ { l with min := min } usableBase usableMin ordered l.current

theorem gap_le (h : l.Within base) : gap base ≤ gap l.current := by
  rcases hd : Scalar.nanos? (Scalar.div (Scalar.ofNat 1) l.current) with _ | d
  · have longest : gap l.current = longestGap := by simp only [gap, hd]
    rw [longest, gap]
    split
    · exact min_le_right _ _
    · exact le_rfl
  · obtain ⟨n, hn, hb⟩ := Scalar.Lawful.nanos_reciprocal h.usableMin h.usableBase h.notBelow
      h.notAbove hd
    simp only [gap, hd, hb]
    exact min_le_min_right _ hn

end Limits.Within

omit [Scalar.Lawful R] in
theorem create_ok {config : Config R} {c : Controller R} {events : List (Event R)}
    (h : Controller.create config = .ok (c, events)) :
    config.validate = .ok () ∧ c = .ofConfig config := by
  simp only [Controller.create, bind, Except.bind] at h
  split at h
  · cases h
  · next valid =>
    cases h
    exact ⟨valid, rfl⟩

theorem within_of_create {config : Config R} {c : Controller R} {events : List (Event R)}
    (h : Controller.create config = .ok (c, events)) : c.limits.Within config.base := by
  obtain ⟨valid, rfl⟩ := create_ok h
  obtain ⟨usableBase, usableMin, ordered⟩ := Config.validate_ok valid
  exact @Limits.within_base R _ _ (Limits.ofConfig config) usableBase usableMin ordered

omit [Scalar.Lawful R] in
theorem lastSlot_of_create {config : Config R} {c : Controller R} {events : List (Event R)}
    (h : Controller.create config = .ok (c, events)) : c.lastSlot = none := by
  obtain ⟨-, rfl⟩ := create_ok h
  rfl

theorem within_heed {base : R} {c : Controller R} (h : c.limits.Within base) (signal : Signal R) :
    (c.heed signal).limits.Within base := by
  cases signal with
  | increase => exact h.clamp _
  | decrease => exact h.clamp _
  | reset => exact h.reset
  | setMin min =>
    simp only [Controller.heed, Controller.setMin, bind, Except.bind]
    rcases hm : c.limits.setMin min with e | limits
    · exact h
    · exact h.setMin hm

omit [Scalar.Lawful R] in
theorem lastSlot_heed (c : Controller R) (signal : Signal R) :
    (c.heed signal).lastSlot = c.lastSlot := by
  cases signal with
  | increase => rfl
  | decrease => rfl
  | reset => rfl
  | setMin min =>
    simp only [Controller.heed, Controller.setMin, bind, Except.bind]
    rcases c.limits.setMin min with e | limits <;> rfl

end Rate

end PacedCalls
