import PacedCalls.Proofs.Decimal.Numbers
import PacedCalls.Proofs.Rate.Pace

/-!
The bounds of a controller. Whatever it is told to do with its rate, floor and ceiling stay usable
and the rate stays between them; what it refuses, it refuses before it has written anything.

To say so the adjustments are taken apart into their reads and writes, one after another, with a
clamp that stops an adjustment half-way if the bounds that it finds are crossed.
-/

set_option autoImplicit false

namespace PacedCalls

def Scalar.isNumber {R : Type} [Scalar R] (x : R) : Bool := le x x

/-- Numbers in a total order, whose products and quotients may be rounded in any way, but are
numbers: those of two usable numbers, and the product of such a quotient and a usable number. -/
class Scalar.Numeric (R : Type) [Scalar R] : Prop where
  number_of_usable {x : R} : Scalar.isUsable x = true → Scalar.isNumber x = true
  le_of_not_lt {x y : R} : Scalar.isNumber x = true → Scalar.isNumber y = true →
    Scalar.lt y x = false → Scalar.le x y = true
  usable_of_between {low x high : R} : Scalar.isUsable low = true → Scalar.isUsable high = true →
    Scalar.le low x = true → Scalar.le x high = true → Scalar.isUsable x = true
  usable_two : Scalar.isUsable (Scalar.ofNat 2 : R) = true
  number_mul {x y : R} : Scalar.isUsable x = true → Scalar.isUsable y = true →
    Scalar.isNumber (Scalar.mul x y) = true
  number_div {x y : R} : Scalar.isUsable x = true → Scalar.isUsable y = true →
    Scalar.isNumber (Scalar.div x y) = true
  number_share {x y z : R} : Scalar.isUsable x = true → Scalar.isUsable y = true →
    Scalar.isUsable z = true → Scalar.isNumber (Scalar.mul (Scalar.div x y) z) = true

instance : Scalar.Numeric Float where
  number_of_usable := Decimal.number_of_usable
  le_of_not_lt := Decimal.le_of_not_lt
  usable_of_between := Decimal.usable_of_between
  usable_two := by decide
  number_mul hx hy := Decimal.number_mul (Decimal.number_of_usable hx) hy
  number_div := Decimal.number_div
  number_share hx hy hz := Decimal.number_mul (Decimal.number_div hx hy) hz

namespace Rate

section

variable {R : Type}

inductive Adjustment (R : Type) where
  | increase
  | decrease
  | reset
  | set (bound : Bound) (value : R)

def Limits.moved (l : Limits R) (bound : Bound) (value : R) : Limits R :=
  match bound with
  | .base => { l with base := value }
  | .min => { l with min := value }

inductive Halt (R : Type) where
  | refused (e : ConfigError R)
  | crossed

/-- Reads and writes one after another; what is written stays, also when there is a halt. -/
abbrev Steps (R α : Type) := ExceptT (Halt R) (StateM (Controller R)) α

namespace Steps

def check {α : Type} : Except (ConfigError R) α → Steps R α
  | .ok a => pure a
  | .error e => throw (.refused e)

def write (f : Limits R → Limits R) : Steps R Unit :=
  modify fun c => { c with limits := f c.limits }

end Steps

end

variable {R : Type} [Scalar R]

/-- The rate that is aimed at when a bound moves: the same share of the ceiling, or the same rate. -/
def Limits.aim (l : Limits R) (bound : Bound) (value : R) : R :=
  match bound with
  | .base => Scalar.mul (Scalar.div l.current l.base) value
  | .min => l.current

/-- What a controller becomes, unless it refuses. -/
def Controller.adjusted (c : Controller R) : Adjustment R → Except (ConfigError R) (Controller R)
  | .increase => .ok c.increase.1
  | .decrease => .ok c.decrease.1
  | .reset => .ok c.reset
  | .set .base value => (c.setBase value).map Prod.fst
  | .set .min value => (c.setMin value).map Prod.fst

def Controller.adjust (c : Controller R) (a : Adjustment R) : Controller R :=
  match c.adjusted a with
  | .ok c => c
  | .error _ => c

/-- The adjustments that are refused: a bound that is not usable, and one on the wrong side of the
other bound. -/
inductive Adjustment.Refused (l : Limits R) : Adjustment R → ConfigError R → Prop where
  | unusable (bound : Bound) (value : R) (bad : Scalar.isUsable value = false) :
      Refused l (.set bound value) (.invalidRate bound value)
  | inverted (bound : Bound) (value : R) (usable : Scalar.isUsable value = true)
      (crossed : Scalar.le (l.moved bound value).min (l.moved bound value).base = false) :
      Refused l (.set bound value)
        (.invertedBounds (l.moved bound value).min (l.moved bound value).base)

def Steps.clampTo (rate : R) : Steps R Unit := do
  let l := (← get).limits
  if Scalar.le l.min l.base then write ({ · with current := l.clamp rate }) else throw .crossed

def Adjustment.steps : Adjustment R → Steps R Unit
  | .increase => do
    modify fun c => { c with increases := c.increases + 1 }
    let l := (← get).limits
    Steps.clampTo (Scalar.mul l.current (Scalar.ofNat 2))
  | .decrease => do
    modify fun c => { c with decreases := c.decreases + 1 }
    let l := (← get).limits
    Steps.clampTo (Scalar.div l.current (Scalar.ofNat 2))
  | .reset => Steps.write fun l => { l with current := l.base }
  | .set bound value => do
    let value ← Steps.check (checkRate bound value)
    let l := (← get).limits
    Steps.check (checkBounds (l.moved bound value).min (l.moved bound value).base)
    Steps.write (·.moved bound value)
    Steps.clampTo (l.aim bound value)

structure Limits.Framed (l : Limits R) : Prop where
  usableBase : Scalar.isUsable l.base = true
  usableMin : Scalar.isUsable l.min = true
  ordered : Scalar.le l.min l.base = true

structure Limits.Bounded (l : Limits R) : Prop extends l.Framed where
  above : Scalar.le l.min l.current = true
  below : Scalar.le l.current l.base = true

theorem checkRate_of_usable (bound : Bound) {value : R} (h : Scalar.isUsable value = true) :
    checkRate bound value = .ok value := if_pos h

theorem checkRate_of_bad (bound : Bound) {value : R} (h : Scalar.isUsable value = false) :
    checkRate bound value = .error (.invalidRate bound value) := by
  simp [checkRate, h]

theorem checkBounds_of_ordered {min base : R} (h : Scalar.le min base = true) :
    checkBounds min base = .ok () := if_pos h

theorem checkBounds_of_crossed {min base : R} (h : Scalar.le min base = false) :
    checkBounds min base = .error (.invertedBounds min base) := by
  simp [checkBounds, h]

theorem Controller.adjusted_set (c : Controller R) (bound : Bound) (value : R) :
    c.adjusted (.set bound value) = (do
      let value ← checkRate bound value
      let l := c.limits.moved bound value
      checkBounds l.min l.base
      pure { c with limits := { l with current := l.clamp (c.limits.aim bound value) } }) := by
  cases bound with
  | base =>
    simp only [adjusted, setBase, Limits.setBase, bind, Except.bind]
    cases checkRate .base value with
    | error e => rfl
    | ok value => cases h : checkBounds c.limits.min value <;> simp [h, Limits.moved] <;> rfl
  | min =>
    simp only [adjusted, setMin, Limits.setMin, bind, Except.bind]
    cases checkRate .min value with
    | error e => rfl
    | ok value => cases h : checkBounds value c.limits.base <;> simp [h, Limits.moved] <;> rfl

theorem Controller.set_cases (c : Controller R) (bound : Bound) (value : R) :
    (Scalar.isUsable value = false ∧
      c.adjusted (.set bound value) = .error (.invalidRate bound value)) ∨
    (Scalar.isUsable value = true ∧
      Scalar.le (c.limits.moved bound value).min (c.limits.moved bound value).base = false ∧
      c.adjusted (.set bound value) = .error
        (.invertedBounds (c.limits.moved bound value).min (c.limits.moved bound value).base)) ∨
    (Scalar.isUsable value = true ∧
      Scalar.le (c.limits.moved bound value).min (c.limits.moved bound value).base = true ∧
      c.adjusted (.set bound value) = .ok
        { c with
          limits :=
            { c.limits.moved bound value with
              current := (c.limits.moved bound value).clamp (c.limits.aim bound value) } }) := by
  rw [adjusted_set]
  cases usable : Scalar.isUsable value with
  | false =>
    rw [checkRate_of_bad bound usable]
    exact .inl ⟨rfl, rfl⟩
  | true =>
    rw [checkRate_of_usable bound usable]
    cases ordered : Scalar.le (c.limits.moved bound value).min (c.limits.moved bound value).base with
    | false =>
      exact .inr (.inl ⟨rfl, rfl, by
        simp only [bind, Except.bind, checkBounds_of_crossed ordered]⟩)
    | true =>
      exact .inr (.inr ⟨rfl, rfl, by
        simp only [bind, Except.bind, checkBounds_of_ordered ordered]
        rfl⟩)

theorem Controller.adjusted_error_iff (c : Controller R) (a : Adjustment R) (e : ConfigError R) :
    c.adjusted a = .error e ↔ a.Refused c.limits e := by
  cases a with
  | increase => exact ⟨nofun, nofun⟩
  | decrease => exact ⟨nofun, nofun⟩
  | reset => exact ⟨nofun, nofun⟩
  | set bound value =>
    rcases c.set_cases bound value with ⟨bad, eq⟩ | ⟨usable, crossed, eq⟩ |
      ⟨usable, ordered, eq⟩ <;> rw [eq]
    · constructor
      · rintro ⟨⟩
        exact .unusable bound value bad
      · rintro (_ | ⟨_, _, usable, _⟩)
        · rfl
        · exact absurd (usable.symm.trans bad) nofun
    · constructor
      · rintro ⟨⟩
        exact .inverted bound value usable crossed
      · rintro (⟨_, _, bad⟩ | _)
        · exact absurd (usable.symm.trans bad) nofun
        · rfl
    · constructor
      · nofun
      · rintro (⟨_, _, bad⟩ | ⟨_, _, _, crossed⟩)
        · exact absurd (usable.symm.trans bad) nofun
        · exact absurd (ordered.symm.trans crossed) nofun

theorem Steps.run_clampTo {c : Controller R} (ordered : Scalar.le c.limits.min c.limits.base = true)
    (rate : R) :
    (clampTo rate).run c =
      (.ok (), { c with limits := { c.limits with current := c.limits.clamp rate } }) := by
  show (if Scalar.le c.limits.min c.limits.base = true then
    write ({ · with current := c.limits.clamp rate }) else throw .crossed : Steps R Unit).run c = _
  rw [if_pos ordered]
  rfl

/-- Taken apart, an adjustment does what it does in one go, and a refused one has written nothing. -/
theorem Adjustment.run_steps {c : Controller R} (h : c.limits.Bounded) (a : Adjustment R) :
    a.steps.run c =
      match c.adjusted a with
      | .ok c' => (.ok (), c')
      | .error e => (.error (.refused e), c) := by
  cases a with
  | increase => exact Steps.run_clampTo (c := { c with increases := c.increases + 1 }) h.ordered _
  | decrease => exact Steps.run_clampTo (c := { c with decreases := c.decreases + 1 }) h.ordered _
  | reset => rfl
  | set bound value =>
    rcases c.set_cases bound value with ⟨bad, eq⟩ | ⟨usable, crossed, eq⟩ | ⟨usable, ordered, eq⟩
    · rw [eq]
      simp only [steps, checkRate_of_bad bound bad]
      rfl
    · rw [eq]
      simp only [steps, checkRate_of_usable bound usable]
      show (do Steps.check (checkBounds _ _); _ : Steps R Unit).run c = _
      rw [checkBounds_of_crossed crossed]
      rfl
    · rw [eq]
      simp only [steps, checkRate_of_usable bound usable]
      show (do Steps.check (checkBounds _ _); _ : Steps R Unit).run c = _
      rw [checkBounds_of_ordered ordered]
      exact Steps.run_clampTo (c := { c with limits := c.limits.moved bound value }) ordered _

variable [Scalar.Numeric R]

theorem Limits.Framed.clamp {l : Limits R} (h : l.Framed) {rate : R}
    (number : Scalar.isNumber rate = true) : ({ l with current := l.clamp rate }).Bounded := by
  have low := Scalar.Numeric.number_of_usable h.usableMin
  have high := Scalar.Numeric.number_of_usable h.usableBase
  -- What is raised to the floor is a number that is not below it.
  have raised : Scalar.isNumber (if Scalar.lt rate l.min then l.min else rate) = true ∧
      Scalar.le l.min (if Scalar.lt rate l.min then l.min else rate) = true := by
    split
    · exact ⟨low, low⟩
    · next not_below =>
      exact ⟨number, Scalar.Numeric.le_of_not_lt low number (Bool.eq_false_iff.mpr not_below)⟩
  have between : Scalar.le l.min (l.clamp rate) = true ∧ Scalar.le (l.clamp rate) l.base = true := by
    simp only [Limits.clamp, Scalar.clamp]
    generalize (if Scalar.lt rate l.min then l.min else rate) = x at raised ⊢
    split
    · exact ⟨h.ordered, high⟩
    · next not_above =>
      exact ⟨raised.2, Scalar.Numeric.le_of_not_lt raised.1 high (Bool.eq_false_iff.mpr not_above)⟩
  exact { h with above := between.1, below := between.2 }

theorem Limits.Framed.ceiling {l : Limits R} (h : l.Framed) :
    ({ l with current := l.base }).Bounded :=
  { h with above := h.ordered, below := Scalar.Numeric.number_of_usable h.usableBase }

namespace Limits.Bounded

variable {l : Limits R}

theorem usable (h : l.Bounded) : Scalar.isUsable l.current = true :=
  Scalar.Numeric.usable_of_between h.usableMin h.usableBase h.above h.below

theorem number_aim (h : l.Bounded) (bound : Bound) {value : R}
    (usable : Scalar.isUsable value = true) : Scalar.isNumber (l.aim bound value) = true := by
  cases bound with
  | base => exact Scalar.Numeric.number_share h.usable h.usableBase usable
  | min => exact Scalar.Numeric.number_of_usable h.usable

omit [Scalar.Numeric R] in
theorem moved (h : l.Bounded) (bound : Bound) {value : R} (usable : Scalar.isUsable value = true)
    (ordered : Scalar.le (l.moved bound value).min (l.moved bound value).base = true) :
    (l.moved bound value).Framed := by
  cases bound with
  | base => exact ⟨usable, h.usableMin, ordered⟩
  | min => exact ⟨h.usableBase, usable, ordered⟩

end Limits.Bounded

theorem Controller.bounded_adjust {c : Controller R} (h : c.limits.Bounded) (a : Adjustment R) :
    (c.adjust a).limits.Bounded := by
  cases a with
  | increase =>
    exact h.toFramed.clamp (Scalar.Numeric.number_mul h.usable Scalar.Numeric.usable_two)
  | decrease =>
    exact h.toFramed.clamp (Scalar.Numeric.number_div h.usable Scalar.Numeric.usable_two)
  | reset => exact h.toFramed.ceiling
  | set bound value =>
    rcases c.set_cases bound value with ⟨-, eq⟩ | ⟨-, -, eq⟩ | ⟨usable, ordered, eq⟩
    · rwa [adjust, eq]
    · rwa [adjust, eq]
    · rw [adjust, eq]
      exact (h.moved bound usable ordered).clamp (h.number_aim bound usable)

theorem Controller.bounded_adjusts {c : Controller R} (h : c.limits.Bounded)
    (adjustments : List (Adjustment R)) : (adjustments.foldl adjust c).limits.Bounded := by
  induction adjustments generalizing c with
  | nil => exact h
  | cons a more ih => exact ih (bounded_adjust h a)

theorem bounded_of_create {config : Config R} {c : Controller R} {events : List (Event R)}
    (h : Controller.create config = .ok (c, events)) : c.limits.Bounded := by
  obtain ⟨valid, rfl⟩ := create_ok h
  obtain ⟨usableBase, usableMin, ordered⟩ := Config.validate_ok valid
  exact Limits.Framed.ceiling (l := Limits.ofConfig config) ⟨usableBase, usableMin, ordered⟩

/-- Whatever a controller has been told, its bounds are usable and its rate is between them; it
refuses what is not a usable bound, and what would cross the bounds, and nothing else; and step by
step an adjustment never comes to a clamp between crossed bounds, nor has it written anything when
it is refused. -/
theorem adjusts_within_bounds {config : Config R} {c : Controller R} {events : List (Event R)}
    (made : Controller.create config = .ok (c, events)) (before : List (Adjustment R))
    (a : Adjustment R) :
    let now := before.foldl Controller.adjust c
    now.limits.Bounded ∧ (∀ e, now.adjusted a = .error e ↔ a.Refused now.limits e) ∧
      a.steps.run now =
        match now.adjusted a with
        | .ok next => (.ok (), next)
        | .error e => (.error (.refused e), now) := by
  have bounded := Controller.bounded_adjusts (bounded_of_create made) before
  exact ⟨bounded, Controller.adjusted_error_iff _ a, a.run_steps bounded⟩

def fourASecond : Config Float := { base := 4, min := 1 }

/-- The rate is halved, the ceiling doubled, which takes the rate along, and the floor raised above
it; on the way a ceiling is refused for being infinite, and a floor for being no number. -/
def toAndFro : List (Adjustment Float) :=
  [.decrease, .set .base (1 / 0), .set .base 8, .set .min (0 / 0), .set .min 5]

/-- Then a ceiling below the floor is refused, and the controller is left as it was. -/
theorem adjusts_within_bounds_toAndFro :
    let now := toAndFro.foldl Controller.adjust (.ofConfig fourASecond)
    now.limits = { current := 5, base := 8, min := 5 } ∧ now.limits.Bounded ∧
      (Adjustment.set .base 3).steps.run now = (.error (.refused (.invertedBounds 5 3)), now) := by
  have made : Controller.create fourASecond = .ok (.ofConfig fourASecond, _) := rfl
  have law := adjusts_within_bounds made toAndFro (.set .base 3)
  have limits : (toAndFro.foldl Controller.adjust (.ofConfig fourASecond)).limits =
      { current := 5, base := 8, min := 5 } := by decide +kernel
  generalize toAndFro.foldl Controller.adjust (.ofConfig fourASecond) = now at law limits ⊢
  obtain ⟨bounded, refused, run⟩ := law
  have error : now.adjusted (.set .base 3) = .error (.invertedBounds 5 3) := by
    refine (refused _).mpr ?_
    rw [limits]
    exact .inverted .base 3 (by decide) (by decide)
  rw [error] at run
  exact ⟨limits, bounded, run⟩

end Rate

end PacedCalls
