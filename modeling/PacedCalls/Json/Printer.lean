import PacedCalls.Decimal.Layout
import PacedCalls.Json.Value

set_option autoImplicit false

namespace PacedCalls.Json

/-- Numbers that are not whole numbers of 64 bits keep a point or an exponent, and the exponent
its sign. -/
def numberLayout : Decimal.Layout :=
  { least := some (-5), most := some 16, pointZero := true, plus := true, tie := .even }

def escape (c : Char) : List Char :=
  match c with
  | '"' => ['\\', '"']
  | '\\' => ['\\', '\\']
  | '\x08' => ['\\', 'b']
  | '\x0c' => ['\\', 'f']
  | '\n' => ['\\', 'n']
  | '\r' => ['\\', 'r']
  | '\t' => ['\\', 't']
  | c =>
    if c.toNat < 0x20 then
      ['\\', 'u', '0', '0', Nat.digitChar (c.toNat / 16), Nat.digitChar (c.toNat % 16)]
    else [c]

def stringText (s : String) : String := String.ofList ('"' :: s.toList.flatMap escape ++ ['"'])

/-- A number; what is not finite has no JSON form and is written `null`. -/
def numberText (x : Float) : String := if x.isFinite then numberLayout.text x else "null"

mutual

def text : Json → String
  | .null => "null"
  | .bool b => if b then "true" else "false"
  | .int n => toString n
  | .num x => numberText x
  | .str s => stringText s
  | .arr items => "[" ++ ",".intercalate (itemTexts items) ++ "]"
  | .obj members => "\x7b" ++ ",".intercalate (memberTexts members) ++ "\x7d"

def itemTexts : List Json → List String
  | [] => []
  | v :: rest => text v :: itemTexts rest

def memberTexts : List (String × Json) → List String
  | [] => []
  | (k, v) :: rest => (stringText k ++ ":" ++ text v) :: memberTexts rest

end

end PacedCalls.Json
