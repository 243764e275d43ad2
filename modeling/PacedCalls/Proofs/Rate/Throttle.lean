import Mathlib.Analysis.SpecialFunctions.Log.Base
import PacedCalls.Proofs.Exact
import PacedCalls.Proofs.Rate.Bounds

/-!
Doubling and halving in exact numbers. Between floor and ceiling the rate moves on two grids, the
halves of the ceiling and the doubles of the floor; so many steps one way take it so far and no
farther, and a controller that is turned down more often is never the faster one.
-/

set_option autoImplicit false

namespace PacedCalls

instance : Scalar.Numeric ℚ where
  number_of_usable _ := (Exact.le_iff _ _).mpr le_rfl
  le_of_not_lt _ _ h := by simpa [← Bool.not_eq_true] using h
  usable_of_between hl _ above _ :=
    (Exact.isUsable_iff _).mpr
      (((Exact.isUsable_iff _).mp hl).trans_le ((Exact.le_iff _ _).mp above))
  usable_two := by simp
  number_mul _ _ := (Exact.le_iff _ _).mpr le_rfl
  number_div _ _ := (Exact.le_iff _ _).mpr le_rfl
  number_share _ _ _ := (Exact.le_iff _ _).mpr le_rfl

namespace Rate

section

variable {R : Type} [Scalar R]

def Direction.adjustment : Direction → Adjustment R
  | increase => .increase
  | decrease => .decrease

def Controller.steer (c : Controller R) (path : List Direction) : Controller R :=
  (path.map Direction.adjustment).foldl adjust c

def Limits.turn (l : Limits R) : Direction → Limits R
  | .increase => l.raise
  | .decrease => l.lower

theorem Controller.limits_adjust (c : Controller R) (d : Direction) :
    (c.adjust d.adjustment).limits = c.limits.turn d := by
  cases d <;> rfl

theorem Controller.limits_steer (c : Controller R) (path : List Direction) :
    (c.steer path).limits = path.foldl Limits.turn c.limits := by
  induction path generalizing c with
  | nil => rfl
  | cons d path ih => rw [List.foldl_cons, ← limits_adjust, ← ih]; rfl

theorem Limits.base_path (l : Limits R) (path : List Direction) :
    (path.foldl turn l).base = l.base := by
  induction path generalizing l with
  | nil => rfl
  | cons d path ih => rw [List.foldl_cons, ih]; cases d <;> rfl

theorem Limits.min_path (l : Limits R) (path : List Direction) :
    (path.foldl turn l).min = l.min := by
  induction path generalizing l with
  | nil => rfl
  | cons d path ih => rw [List.foldl_cons, ih]; cases d <;> rfl

theorem Limits.Bounded.turn [Scalar.Numeric R] {l : Limits R} (h : l.Bounded) (d : Direction) :
    (l.turn d).Bounded :=
  Controller.limits_adjust { limits := l } d ▸ Controller.bounded_adjust h d.adjustment

end

def Direction.NoFaster (low high : Direction) : Prop := low = .increase → high = .increase

variable {l low high : Limits ℚ}

theorem bounded_iff (l : Limits ℚ) :
    l.Bounded ↔ 0 < l.min ∧ l.min ≤ l.current ∧ l.current ≤ l.base := by
  constructor
  · intro h
    exact ⟨(Exact.isUsable_iff _).mp h.usableMin, (Exact.le_iff _ _).mp h.above,
      (Exact.le_iff _ _).mp h.below⟩
  · rintro ⟨pos, above, below⟩
    exact {
      usableBase := (Exact.isUsable_iff _).mpr (pos.trans_le (above.trans below))
      usableMin := (Exact.isUsable_iff _).mpr pos
      ordered := (Exact.le_iff _ _).mpr (above.trans below)
      above := (Exact.le_iff _ _).mpr above
      below := (Exact.le_iff _ _).mpr below }

theorem clamp_eq (ordered : l.min ≤ l.base) (rate : ℚ) :
    l.clamp rate = max l.min (min rate l.base) := Exact.clamp_eq rate ordered

theorem current_lower (h : l.Bounded) : l.lower.current = max (l.current / 2) l.min := by
  obtain ⟨pos, above, below⟩ := (bounded_iff l).mp h
  have small : l.current / 2 ≤ l.base := by linarith
  change l.clamp (l.current / 2) = _
  rw [clamp_eq (above.trans below), min_eq_left small, max_comm]

theorem current_raise (h : l.Bounded) : l.raise.current = min (l.current * 2) l.base := by
  obtain ⟨pos, above, below⟩ := (bounded_iff l).mp h
  have large : l.min ≤ min (l.current * 2) l.base := le_min (by linarith) (above.trans below)
  change l.clamp (l.current * 2) = _
  rw [clamp_eq (above.trans below), max_eq_right large]

theorem current_falls (h : l.Bounded) (n : ℕ) :
    ((List.replicate n .decrease).foldl Limits.turn l).current =
      max (l.current / 2 ^ n) l.min := by
  induction n generalizing l with
  | zero =>
    rw [pow_zero, div_one]
    exact (max_eq_left ((bounded_iff l).mp h).2.1).symm
  | succ n ih =>
    have pos : 0 < l.min := ((bounded_iff l).mp h).1
    have lost : l.min / 2 ^ n ≤ l.min := div_le_self pos.le (one_le_pow₀ one_le_two)
    calc ((List.replicate (n + 1) .decrease).foldl Limits.turn l).current
        = max (l.lower.current / 2 ^ n) l.min := ih (h.turn .decrease)
      _ = max (max (l.current / 2) l.min / 2 ^ n) l.min := by rw [current_lower h]
      _ = max (max (l.current / 2 / 2 ^ n) (l.min / 2 ^ n)) l.min := by
          rw [max_div_div_right (by positivity)]
      _ = max (l.current / 2 ^ (n + 1)) l.min := by
          rw [max_assoc, max_eq_right lost, div_div, pow_succ']

theorem current_climbs (h : l.Bounded) (n : ℕ) :
    ((List.replicate n .increase).foldl Limits.turn l).current =
      min (l.current * 2 ^ n) l.base := by
  induction n generalizing l with
  | zero =>
    rw [pow_zero, mul_one]
    exact (min_eq_left ((bounded_iff l).mp h).2.2).symm
  | succ n ih =>
    obtain ⟨pos, above, below⟩ := (bounded_iff l).mp h
    have gained : l.base ≤ l.base * 2 ^ n :=
      le_mul_of_one_le_right (pos.le.trans (above.trans below)) (one_le_pow₀ one_le_two)
    calc ((List.replicate (n + 1) .increase).foldl Limits.turn l).current
        = min (l.raise.current * 2 ^ n) l.base := ih (h.turn .increase)
      _ = min (min (l.current * 2) l.base * 2 ^ n) l.base := by rw [current_raise h]
      _ = min (min (l.current * 2 * 2 ^ n) (l.base * 2 ^ n)) l.base := by
          rw [min_mul_of_nonneg _ _ (by positivity)]
      _ = min (l.current * 2 ^ (n + 1)) l.base := by
          rw [min_assoc, min_eq_right gained, mul_assoc, pow_succ']

/-- The rate is a half of the ceiling, of a half of it and so on, or a double of the floor. -/
def Limits.OnGrid (l : Limits ℚ) : Prop :=
  (∃ k : ℕ, l.current = l.base / 2 ^ k) ∨ ∃ j : ℕ, l.current = l.min * 2 ^ j

namespace Limits

theorem OnGrid.turn (h : l.Bounded) (grid : l.OnGrid) (d : Direction) : (l.turn d).OnGrid := by
  obtain ⟨pos, above, below⟩ := (bounded_iff l).mp h
  cases d with
  | decrease =>
    have fallen : (l.turn .decrease).current = Max.max (l.current / 2) l.min := current_lower h
    rcases le_total (l.current / 2) l.min with floor | clear
    · rw [max_eq_right floor] at fallen
      exact .inr ⟨0, by rw [fallen, pow_zero, mul_one]; rfl⟩
    · rw [max_eq_left clear] at fallen
      rcases grid with ⟨k, hk⟩ | ⟨j, hj⟩
      · exact .inl ⟨k + 1, by rw [fallen, hk, div_div, ← pow_succ]; rfl⟩
      · cases j with
        | zero =>
          -- At the floor itself a half of the rate would lie below it.
          rw [pow_zero, mul_one] at hj
          linarith
        | succ j =>
          refine .inr ⟨j, ?_⟩
          rw [fallen, hj, pow_succ]
          change _ = l.min * _
          ring
  | increase =>
    have climbed : (l.turn .increase).current = Min.min (l.current * 2) l.base := current_raise h
    rcases le_total l.base (l.current * 2) with ceiling | clear
    · rw [min_eq_right ceiling] at climbed
      exact .inl ⟨0, by rw [climbed, pow_zero, div_one]; rfl⟩
    · rw [min_eq_left clear] at climbed
      rcases grid with ⟨k, hk⟩ | ⟨j, hj⟩
      · cases k with
        | zero =>
          rw [pow_zero, div_one] at hk
          linarith
        | succ k =>
          refine .inl ⟨k, ?_⟩
          rw [climbed, hk, pow_succ]
          change _ = l.base / _
          field_simp
      · exact .inr ⟨j + 1, by rw [climbed, hj, mul_assoc, ← pow_succ]; rfl⟩

theorem OnGrid.path (h : l.Bounded) (grid : l.OnGrid) (path : List Direction) :
    (path.foldl Limits.turn l).Bounded ∧ (path.foldl Limits.turn l).OnGrid := by
  induction path generalizing l with
  | nil => exact ⟨h, grid⟩
  | cons d path ih => exact ih (h.turn d) (grid.turn h d)

/-- How many steps there are from the ceiling to the floor, the last one perhaps a short one. -/
noncomputable def height (l : Limits ℚ) : ℕ := ⌈Real.logb 2 ((l.base / l.min : ℚ) : ℝ)⌉₊

namespace Bounded

theorem base_le (h : l.Bounded) {n : ℕ} (enough : l.height ≤ n) : l.base ≤ l.min * 2 ^ n := by
  obtain ⟨pos, above, below⟩ := (bounded_iff l).mp h
  have ratio_pos : 0 < l.base / l.min := div_pos (pos.trans_le (above.trans below)) pos
  have log_le : Real.logb 2 ((l.base / l.min : ℚ) : ℝ) ≤ n := Nat.ceil_le.mp enough
  rw [Real.logb_le_iff_le_rpow one_lt_two (by exact_mod_cast ratio_pos), Real.rpow_natCast]
    at log_le
  have ratio_le : l.base / l.min ≤ 2 ^ n := by exact_mod_cast log_le
  rwa [div_le_iff₀ pos, mul_comm] at ratio_le

theorem falls_to_floor (h : l.Bounded) {n : ℕ} (enough : l.height ≤ n) :
    ((List.replicate n .decrease).foldl Limits.turn l).current = l.min := by
  rw [current_falls h, max_eq_right]
  rw [div_le_iff₀ (by positivity)]
  exact ((bounded_iff l).mp h).2.2.trans (h.base_le enough)

theorem climbs_to_ceiling (h : l.Bounded) {n : ℕ} (enough : l.height ≤ n) :
    ((List.replicate n .increase).foldl Limits.turn l).current = l.base := by
  rw [current_climbs h, min_eq_right]
  exact (h.base_le enough).trans
    (mul_le_mul_of_nonneg_right ((bounded_iff l).mp h).2.1 (by positivity))

end Bounded

structure Under (low high : Limits ℚ) : Prop where
  base : low.base = high.base
  min : low.min = high.min
  current : low.current ≤ high.current

namespace Under

theorem turn (h : low.Under high) (bounded_low : low.Bounded) (bounded_high : high.Bounded)
    {d e : Direction} (slower : d.NoFaster e) : (low.turn d).Under (high.turn e) := by
  obtain ⟨base, min, current⟩ := h
  obtain ⟨pos, above, -⟩ := (bounded_iff low).mp bounded_low
  have ordered : high.min ≤ high.base := (Exact.le_iff _ _).mp bounded_high.ordered
  have clamped {x y : ℚ} (le : x ≤ y) : low.clamp x ≤ high.clamp y := by
    rw [clamp_eq ordered, clamp_eq (by rwa [base, min]), base, min]
    exact max_le_max_left _ (min_le_min_right _ le)
  cases d with
  | increase =>
    rw [slower rfl]
    exact ⟨base, min, clamped (mul_le_mul_of_nonneg_right current zero_le_two)⟩
  | decrease =>
    cases e with
    | decrease => exact ⟨base, min, clamped (div_le_div_of_nonneg_right current zero_le_two)⟩
    | increase =>
      refine ⟨base, min, clamped ?_⟩
      change low.current / 2 ≤ high.current * 2
      linarith

theorem path (h : low.Under high) (bounded_low : low.Bounded) (bounded_high : high.Bounded)
    {lowPath path : List Direction} (slower : List.Forall₂ Direction.NoFaster lowPath path) :
    (lowPath.foldl Limits.turn low).Under (path.foldl Limits.turn high) := by
  induction slower generalizing low high with
  | nil => exact h
  | @cons d e _ _ first _ ih =>
    exact ih (h.turn bounded_low bounded_high first) (bounded_low.turn d) (bounded_high.turn e)

end Under

end Limits

/-- However a fresh controller has been turned up and down, its rate is the ceiling halved so often
or the floor doubled so often. From any state so many turns one way take the rate exactly so far,
and it is at the bound when it has been turned as often as there are steps between the bounds. And
who starts no faster, and is turned up only where the other one is, is never the faster one. -/
theorem steers_in_closed_form {config : Config ℚ} {fresh : Controller ℚ} {events : List (Event ℚ)}
    (made : Controller.create config = .ok (fresh, events)) :
    (∀ path : List Direction,
      (fresh.steer path).limits.Bounded ∧
        ((∃ k : ℕ, (fresh.steer path).limits.current = config.base / 2 ^ k) ∨
          ∃ j : ℕ, (fresh.steer path).limits.current = config.min * 2 ^ j)) ∧
    ∀ c : Controller ℚ, c.limits.Bounded →
      (∀ n : ℕ,
        (c.steer (.replicate n .decrease)).limits.current =
            max (c.limits.current / 2 ^ n) c.limits.min ∧
          (c.steer (.replicate n .increase)).limits.current =
            min (c.limits.current * 2 ^ n) c.limits.base) ∧
      (∀ n : ℕ, ⌈Real.logb 2 ((c.limits.base / c.limits.min : ℚ) : ℝ)⌉₊ ≤ n →
        (c.steer (.replicate n .decrease)).limits.current = c.limits.min ∧
          (c.steer (.replicate n .increase)).limits.current = c.limits.base) ∧
      ∀ (low : Controller ℚ) (lowPath path : List Direction), low.limits.Bounded →
        low.limits.Under c.limits → List.Forall₂ Direction.NoFaster lowPath path →
          (low.steer lowPath).limits.current ≤ (c.steer path).limits.current := by
  simp only [Controller.limits_steer]
  refine ⟨fun path => ?_, fun c bounded => ⟨fun n => ?_, fun n enough => ?_, ?_⟩⟩
  · have bounded := bounded_of_create made
    obtain ⟨-, rfl⟩ := create_ok made
    have start : (Limits.ofConfig config).OnGrid := .inl ⟨0, by rw [pow_zero, div_one]; rfl⟩
    obtain ⟨kept, grid⟩ := start.path bounded path
    refine ⟨kept, ?_⟩
    rwa [Limits.OnGrid, Limits.base_path, Limits.min_path] at grid
  · exact ⟨current_falls bounded n, current_climbs bounded n⟩
  · exact ⟨bounded.falls_to_floor enough, bounded.climbs_to_ceiling enough⟩
  · intro low lowPath path bounded_low under slower
    exact (under.path bounded_low bounded slower).current

def threeToTen : Config ℚ := { base := 10, min := 3 }

/-- From the ceiling 10 twice down and once up it is 6, which is no half of 10; from 4 it is at a
bound after two turns; and from 4 a turn down ends no higher than a turn up from 6. -/
theorem steers_in_closed_form_threeToTen :
    let at4 : Controller ℚ := { limits := { current := 4, base := 10, min := 3 } }
    let at6 := (Controller.ofConfig threeToTen).steer [.decrease, .decrease, .increase]
    at6.limits = { current := 6, base := 10, min := 3 } ∧
      ((∃ k : ℕ, at6.limits.current = 10 / 2 ^ k) ∨ ∃ j : ℕ, at6.limits.current = 3 * 2 ^ j) ∧
      (at4.steer [.decrease, .decrease]).limits.current = 3 ∧
      (at4.steer [.increase, .increase]).limits.current = 10 ∧
      (at4.steer [.increase]).limits.current = min (4 * 2 ^ 1) 10 ∧
      (at4.steer [.decrease]).limits.current ≤ (at6.steer [.increase]).limits.current := by
  intro at4 at6
  have made : Controller.create threeToTen = .ok (.ofConfig threeToTen, _) := rfl
  have law := steers_in_closed_form made
  have limits : at6.limits = { current := 6, base := 10, min := 3 } := by decide +kernel
  have bounded4 : at4.limits.Bounded :=
    (bounded_iff _).mpr ⟨by norm_num [at4], by norm_num [at4], by norm_num [at4]⟩
  obtain ⟨bounded6, grid⟩ := law.1 [.decrease, .decrease, .increase]
  obtain ⟨exact4, ends4, -⟩ := law.2 at4 bounded4
  have two_steps : ⌈Real.logb 2 ((at4.limits.base / at4.limits.min : ℚ) : ℝ)⌉₊ ≤ 2 := by
    rw [Nat.ceil_le, Real.logb_le_iff_le_rpow one_lt_two (by norm_num [at4])]
    norm_num [at4]
  have under : at4.limits.Under at6.limits := by
    rw [limits]
    exact ⟨rfl, rfl, by norm_num [at4]⟩
  exact ⟨limits, grid, (ends4 2 two_steps).1, (ends4 2 two_steps).2, (exact4 1).2,
    (law.2 at6 bounded6).2.2 at4 [.decrease] [.increase] bounded4 under (.cons (fun _ => rfl) .nil)⟩

end Rate

end PacedCalls
