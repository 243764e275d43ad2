import PacedCalls.Decimal.Shortest

set_option autoImplicit false

namespace PacedCalls.Decimal

structure Layout where
  /-- Below this power of ten the number is written with an exponent. -/
  least : Option Int := none
  /-- From this power of ten on the number is written with an exponent. -/
  most : Option Int := none
  pointZero : Bool := false
  plus : Bool := false
  tie : Tie := .up

def positional (pointZero : Bool) (digits : List Char) (exponent : Int) : List Char :=
  if 0 ≤ exponent then
    digits ++ List.replicate exponent.toNat '0' ++ (if pointZero then ['.', '0'] else [])
  else
    let places := (-exponent).toNat
    if places < digits.length then
      digits.take (digits.length - places) ++ '.' :: digits.drop (digits.length - places)
    else '0' :: '.' :: (List.replicate (places - digits.length) '0' ++ digits)

def scientific (plus : Bool) (digits : List Char) (power : Int) : List Char :=
  let mantissa := match digits with
    | first :: next :: rest => first :: '.' :: next :: rest
    | short => short
  let sign := if plus && 0 ≤ power then ['+'] else []
  mantissa ++ 'e' :: sign ++ (toString power).toList

def Layout.magnitudeText (layout : Layout) (significand : Nat) (exponent : Int) : List Char :=
  if significand = 0 then positional layout.pointZero ['0'] 0
  else
    let d := shortest layout.tie significand exponent
    let digits := (Nat.repr d.digits).toList
    let power := d.exponent + digits.length - 1
    if layout.least.any (power < ·) || layout.most.any (· ≤ power) then
      scientific layout.plus digits power
    else positional layout.pointZero digits d.exponent

def Layout.text (layout : Layout) (x : Float) : String :=
  match Parts.ofFloat x with
  | .nan => "NaN"
  | .infinite negative => if negative then "-inf" else "inf"
  | .finite negative significand exponent =>
    let body := layout.magnitudeText significand exponent
    String.ofList (if negative then '-' :: body else body)

/-- Messages write a number in full, never with an exponent. -/
def Layout.message : Layout := {}

/-- Listings mark a whole number by `.0` and write very large and very small ones with an
exponent. -/
def Layout.listing : Layout := { least := some (-4), most := some 16, pointZero := true }

end PacedCalls.Decimal
