import PacedCalls.Decimal.Layout
import PacedCalls.Decimal.Reading
import PacedCalls.Outside.Log.Pattern

set_option autoImplicit false

namespace PacedCalls.Log

inductive Criterion where
  | flag (b : Bool)
  | decimal (x : Float)
  | notANumber
  | count (n : Nat)
  | integer (n : Int)
  | pattern (text : String)

namespace Criterion

/-- The value of a run of digits; `none` if there is none, or something else among them. -/
def digits? (cs : List Char) : Option Nat :=
  if cs.isEmpty || !cs.all Char.isDigit then none else some (Decimal.digitsValue 0 cs)

/-- A whole number from 0 on that fits in 64 bits; a plus sign may stand before it. -/
def count? (s : String) : Option Nat := do
  let n ← digits? (match s.toList with
    | '+' :: rest => rest
    | all => all)
  if n < Nat.pow 2 64 then some n else none

def negative? (s : String) : Option Int :=
  match s.toList with
  | '-' :: rest => do
    let n ← digits? rest
    if n ≤ Nat.pow 2 63 then some (-n) else none
  | _ => none

/-- Reads a criterion: the first form that fits the text. What fits none is a pattern, or it is
unreadable. -/
def ofText? (s : String) : Option Criterion :=
  if s = "true" then some (.flag true)
  else if s = "false" then some (.flag false)
  else match count? s, negative? s, Decimal.read? s with
    | some n, _, _ => some (.count n)
    | _, some n, _ => some (.integer n)
    | _, _, some x => some (if x.isNaN then .notANumber else .decimal x)
    | _, _, none => if Pattern.isPattern s then some (.pattern s) else none

def text : Criterion → String
  | flag b => if b then "true" else "false"
  | decimal x => Decimal.Layout.message.text x
  | notANumber => "NaN"
  | count n => Nat.repr n
  | integer n => toString n
  | pattern s => s

def rank : Criterion → Nat
  | flag _ => 0
  | decimal _ => 1
  | notANumber => 2
  | count _ => 3
  | integer _ => 4
  | pattern _ => 5

def order (a b : Criterion) : Ordering :=
  match a, b with
  | flag x, flag y => compare x.toNat y.toNat
  | decimal x, decimal y => if x < y then .lt else if y < x then .gt else .eq
  | count x, count y => compare x y
  | integer x, integer y => compare x y
  | pattern x, pattern y => compare x y
  | _, _ => compare a.rank b.rank

end Criterion

end PacedCalls.Log
