set_option autoImplicit false

namespace PacedCalls.Decimal

/-- The number that a run of digits stands for, continuing from `acc`. -/
def digitsValue (acc : Nat) (digits : List Char) : Nat :=
  digits.foldl (fun n c => n * 10 + (c.toNat - '0'.toNat)) acc

def takeSign : List Char → Bool × List Char
  | '-' :: rest => (true, rest)
  | '+' :: rest => (false, rest)
  | rest => (false, rest)

/-- The exponent part: `e`, a sign, digits; nothing stands for zero. -/
def readExponent? : List Char → Option Int
  | [] => some 0
  | c :: rest =>
    if c = 'e' ∨ c = 'E' then
      let (negative, digits) := takeSign rest
      if digits.isEmpty || !digits.all Char.isDigit then none
      else
        let n : Int := digitsValue 0 digits
        some (if negative then -n else n)
    else none

/-- Digits with an optional point and exponent, as the nearest double. -/
def readUnsigned? (text : List Char) : Option Float :=
  let whole := text.takeWhile Char.isDigit
  let afterWhole := text.dropWhile Char.isDigit
  let (frac, afterFrac) := match afterWhole with
    | '.' :: rest => (rest.takeWhile Char.isDigit, rest.dropWhile Char.isDigit)
    | rest => ([], rest)
  if whole.isEmpty && frac.isEmpty then none
  else do
    let e ← readExponent? afterFrac
    let m := digitsValue (digitsValue 0 whole) frac
    let power : Int := e - frac.length
    -- far outside the range of doubles the digits no longer matter
    if m = 0 then some 0.0
    else if power + (whole.length + frac.length : Nat) < -400 then some 0.0
    else if 400 < power then some (1.0 / 0.0)
    else some (Float.ofScientific m (power < 0) power.natAbs)

/-- Reads a double: decimal text, or a name in any case, with a sign or without. -/
def read? (text : String) : Option Float :=
  let (negative, body) := takeSign text.toList
  let signed := fun x : Float => if negative then -x else x
  let name := String.ofList (body.map Char.toLower)
  if name = "nan" then some (0.0 / 0.0)
  else if name = "inf" ∨ name = "infinity" then some (signed (1.0 / 0.0))
  else (readUnsigned? body).map signed

end PacedCalls.Decimal
