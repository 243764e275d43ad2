import PacedCalls.Text.Mark
import PacedCalls.Text.Printing

set_option autoImplicit false

namespace PacedCalls.Text

def hexDigits (n : Nat) : List Char := Nat.toDigits 16 n

/-- A character as it stands inside quotation marks. One that would not show, or that would be
put on the character before it, is shown by its number. -/
def escapeChar (c : Char) : List Char :=
  if c = '"' then ['\\', '"']
  else if c = '\\' then ['\\', '\\']
  else if c = '\n' then ['\\', 'n']
  else if c = '\r' then ['\\', 'r']
  else if c = '\t' then ['\\', 't']
  else if c.toNat = 0 then ['\\', '0']
  else if isHidden c || isExtending c then
    ['\\', 'u', Char.ofNat 0x7B] ++ hexDigits c.toNat ++ [Char.ofNat 0x7D]
  else [c]

def quoted (s : String) : String :=
  String.ofList (['"'] ++ s.toList.flatMap escapeChar ++ ['"'])

end PacedCalls.Text
