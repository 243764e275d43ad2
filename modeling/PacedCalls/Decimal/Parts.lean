set_option autoImplicit false

namespace PacedCalls.Decimal

/-- What the bits of a double stand for; a finite one is `significand * 2 ^ exponent`. -/
inductive Parts where
  | nan
  | infinite (negative : Bool)
  | finite (negative : Bool) (significand : Nat) (exponent : Int)
  deriving DecidableEq, Repr

def Parts.ofFloat (x : Float) : Parts :=
  let bits := x.toBits.toNat
  let negative : Bool := Nat.pow 2 63 ≤ bits
  let field : Nat := bits / Nat.pow 2 52 % 2048
  let frac := bits % Nat.pow 2 52
  if field = 2047 then
    if frac = 0 then .infinite negative else .nan
  else if field = 0 then .finite negative frac (-1074)
  else .finite negative (frac + Nat.pow 2 52) ((field : Int) - 1075)

inductive Tie where
  | up
  | even
  deriving DecidableEq, Repr

/-- Whether `low + 1` is taken for a value that lies `part` of `whole` above `low`. -/
def Tie.roundsUp (tie : Tie) (low part whole : Nat) : Bool :=
  match compare (2 * part) whole with
  | .lt => false
  | .gt => true
  | .eq => match tie with
    | .up => true
    | .even => low % 2 == 1

def roundDiv (tie : Tie) (num den : Nat) : Nat :=
  let low := num / den
  if tie.roundsUp low (num % den) den then low + 1 else low

def pow2 (e : Int) : Nat × Nat := (Nat.pow 2 e.toNat, Nat.pow 2 (-e).toNat)

def pow10 (e : Int) : Nat × Nat := (Nat.pow 10 e.toNat, Nat.pow 10 (-e).toNat)

end PacedCalls.Decimal
