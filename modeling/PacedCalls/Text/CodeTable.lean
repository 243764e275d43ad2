/-!
Tables of characters, written as text: rows with blanks or line ends between them. A row is a code
point or a range of code points in hexadecimal, `61` or `61-7a`. A mark and numbers with commas
between them may follow, `c0:41,300`; a table says itself what they mean.
-/

set_option autoImplicit false

namespace PacedCalls.Text

structure CodeRange where
  low : Nat
  high : Nat
  mark : Option Char := none
  values : List Nat := []
  deriving DecidableEq, Repr

abbrev CodeTable := List CodeRange

namespace CodeRange

def has (r : CodeRange) (c : Char) : Bool := r.low ≤ c.toNat && c.toNat ≤ r.high

def number (digits : List Char) : Nat :=
  digits.foldl (fun n d => n * 16 + (if d.isDigit then d.toNat - 48 else d.toNat - 87)) 0

def cut (mark : Char) (cs : List Char) : List Char × List Char :=
  (cs.takeWhile (· != mark), (cs.dropWhile (· != mark)).drop 1)

def numbers (cs : List Char) : List Nat :=
  if cs.isEmpty then [] else ((String.ofList cs).splitOn ",").map fun s => number s.toList

def ofText (s : String) : CodeRange :=
  let cs := s.toList
  let range := cs.takeWhile fun c => c.isAlphanum || c == '-'
  let (low, high) := cut '-' range
  let rest := cs.drop range.length
  { low := number low
    high := number (if high.isEmpty then low else high)
    mark := rest.head?
    values := numbers (rest.drop 1) }

end CodeRange

namespace CodeTable

def ofText (s : String) : CodeTable :=
  ((s.splitOn "\n").flatMap fun line =>
    (line.splitOn " ").filter (! ·.isEmpty)).map CodeRange.ofText

def has (t : CodeTable) (c : Char) : Bool := t.any (·.has c)

def row? (t : CodeTable) (c : Char) : Option CodeRange := t.find? (·.has c)

end CodeTable

end PacedCalls.Text
