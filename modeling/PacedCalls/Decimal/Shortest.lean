import PacedCalls.Decimal.Parts

set_option autoImplicit false

namespace PacedCalls.Decimal

structure Digits where
  digits : Nat
  exponent : Int
  deriving DecidableEq, Repr

/-- Moves zeros at the end of the digits into the exponent; `fuel` bounds their number. -/
def Digits.trim : Nat → Digits → Digits
  | 0, d => d
  | fuel + 1, d =>
    if d.digits ≠ 0 ∧ d.digits % 10 = 0 then trim fuel ⟨d.digits / 10, d.exponent + 1⟩ else d

/-- The largest `e` with `10 ^ e ≤ significand * 2 ^ exponent`, for a positive double. -/
def magnitude (significand : Nat) (exponent : Int) : Int :=
  let (num, den) := pow2 exponent
  ((Nat.repr (significand * num * Nat.pow 10 400 / den)).length : Int) - 401

/-- The doubles between which `significand * 2 ^ exponent` is the nearest lie at a quarter of
these, in units of `2 ^ exponent`: the lower end, the value and the upper end. -/
def quarters (significand : Nat) (exponent : Int) : Nat × Nat × Nat :=
  let down := if significand = Nat.pow 2 52 ∧ exponent ≠ -1074 then 1 else 2
  (4 * significand - down, 4 * significand, 4 * significand + 2)

/-- The decimal with `count` digits that is nearest to the double, if one of them reads back. -/
def ofLength? (tie : Tie) (significand : Nat) (exponent : Int) (count : Nat) : Option Digits :=
  let unit := magnitude significand exponent - count + 1
  let (low, mid, high) := quarters significand exponent
  let (twoNum, twoDen) := pow2 (exponent - 2)
  let (tenNum, tenDen) := pow10 unit
  -- one unit of the grid, and the three marks, over a common denominator
  let grid := tenNum * twoDen
  let mark := fun x => x * twoNum * tenDen
  let below := mark mid / grid
  let inside := fun d =>
    if significand % 2 = 0 then mark low ≤ d * grid ∧ d * grid ≤ mark high
    else mark low < d * grid ∧ d * grid < mark high
  let choose := fun d : Nat => some (Digits.trim count ⟨d, unit⟩)
  if mark mid % grid = 0 then choose below
  else
    match decide (inside below), decide (inside (below + 1)) with
    | true, true =>
      if tie.roundsUp below (mark mid % grid) grid then choose (below + 1) else choose below
    | true, false => choose below
    | false, true => choose (below + 1)
    | false, false => none

def shortest (tie : Tie) (significand : Nat) (exponent : Int) : Digits :=
  match (List.range 17).findSome? (fun n => ofLength? tie significand exponent (n + 1)) with
  | some d => d
  | none => ⟨significand, exponent⟩

end PacedCalls.Decimal
