import PacedCalls.Decimal.Parts
import PacedCalls.Time

/-!
The numbers that rates and growth factors are measured in. The rules of this library are stated
for any such numbers: doubles when it runs, exact ones when its laws are stated.
-/

set_option autoImplicit false

namespace PacedCalls

class Scalar (R : Type) where
  ofNat : Nat → R
  mul : R → R → R
  div : R → R → R
  le : R → R → Bool
  lt : R → R → Bool
  isFinite : R → Bool
  /-- The whole part, at least 0 and below `2 ^ 64`. -/
  whole : R → Nat
  /-- A number of seconds as whole nanoseconds, the nearest; nothing if no duration has it. -/
  nanos? : R → Option Nat

namespace Scalar

def isUsable {R : Type} [Scalar R] (x : R) : Bool := isFinite x && lt (ofNat 0) x

def clamp {R : Type} [Scalar R] (x low high : R) : R :=
  let x := if lt x low then low else x
  if lt high x then high else x

/-- The power with a whole exponent by repeated squaring: `base ^ n * acc`. The exponent halves in
each round, so `fuel` need not be larger than it. -/
def powFrom {R : Type} [Scalar R] : (fuel : Nat) → (base : R) → (n : Nat) → (acc : R) → R
  | 0, _, _, acc => acc
  | fuel + 1, base, n, acc =>
    let acc := if n % 2 = 1 then mul acc base else acc
    if n / 2 = 0 then acc else powFrom fuel (mul base base) (n / 2) acc

def pow {R : Type} [Scalar R] (base : R) (n : Nat) : R := powFrom (n.log2 + 1) base n (ofNat 1)

end Scalar

namespace Decimal

/-- A finite double that is not negative, as whole nanoseconds; a half goes to the even one. -/
def nanosOf? (x : Float) : Option Nat :=
  match Parts.ofFloat x with
  | .finite negative significand exponent =>
    if negative && significand ≠ 0 then none
    else
      let (num, den) := pow2 exponent
      let n := roundDiv .even (significand * num * 1000000000) den
      if n ≤ Duration.longest then some n else none
  | _ => none

end Decimal

instance : Scalar Float where
  ofNat n := Float.ofScientific n false 0
  mul := (· * ·)
  div := (· / ·)
  le a b := a ≤ b
  lt a b := a < b
  isFinite := Float.isFinite
  whole x := x.toUInt64.toNat
  nanos? := Decimal.nanosOf?

end PacedCalls
