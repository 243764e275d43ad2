set_option autoImplicit false

namespace PacedCalls

abbrev Bytes := List UInt8

def Bytes.ofText (s : String) : Bytes := s.toList.flatMap String.utf8EncodeChar

namespace Text.Utf8

/-- What stands at the head of a run of octets. -/
inductive Head where
  /-- A character, and how many octets after the first belong to it. -/
  | char (c : Char) (more : Nat)
  /-- Octets that no text has; `width` of them make up the fault. -/
  | broken (width : Nat)
  | cut
  deriving DecidableEq, Repr

/-- For the first octet of a longer character: how many octets follow, the bounds of the next
one, and the bits it contributes. -/
def lead? (b : UInt8) : Option (Nat × UInt8 × UInt8 × Nat) :=
  let n := b.toNat
  if b < 0xC2 then none
  else if b < 0xE0 then some (1, 0x80, 0xBF, n - 0xC0)
  else if b = 0xE0 then some (2, 0xA0, 0xBF, 0)
  else if b = 0xED then some (2, 0x80, 0x9F, 0xD)
  else if b < 0xF0 then some (2, 0x80, 0xBF, n - 0xE0)
  else if b = 0xF0 then some (3, 0x90, 0xBF, 0)
  else if b < 0xF4 then some (3, 0x80, 0xBF, n - 0xF0)
  else if b = 0xF4 then some (3, 0x80, 0x8F, 4)
  else none

/-- Reads `need` further octets; `width` octets are read so far. -/
def follow : (need : Nat) → (low high : UInt8) → (value width : Nat) → Bytes → Head
  | 0, _, _, value, width, _ => .char (Char.ofNat value) (width - 1)
  | _ + 1, _, _, _, _, [] => .cut
  | need + 1, low, high, value, width, b :: rest =>
    if low ≤ b ∧ b ≤ high then
      follow need 0x80 0xBF (value * 64 + (b.toNat - 0x80)) (width + 1) rest
    else .broken width

def head (b : UInt8) (rest : Bytes) : Head :=
  if b < 0x80 then .char (Char.ofNat b.toNat) 0
  else match lead? b with
    | none => .broken 1
    | some (need, low, high, value) => follow need low high value 1 rest

/-- Why octets are no text, and how many characters' octets come before. -/
inductive Fault where
  | invalid (width index : Nat)
  | incomplete (index : Nat)
  deriving DecidableEq, Repr

def Fault.message : Fault → String
  | .invalid width index =>
    "invalid utf-8 sequence of " ++ Nat.repr width ++ " bytes from index " ++ Nat.repr index
  | .incomplete index => "incomplete utf-8 byte sequence from index " ++ Nat.repr index

def decodeFrom (index : Nat) : Bytes → Except Fault (List Char)
  | [] => .ok []
  | b :: rest =>
    match head b rest with
    | .char c more => (decodeFrom (index + more + 1) (rest.drop more)).map (c :: ·)
    | .broken width => .error (.invalid width index)
    | .cut => .error (.incomplete index)
  termination_by bs => bs.length
  decreasing_by simp only [List.length_cons, List.length_drop]; omega

def decode (bs : Bytes) : Except Fault String := (decodeFrom 0 bs).map String.ofList

/-- Reads octets as text, one replacement character for each fault. -/
def lossyChars : Bytes → List Char
  | [] => []
  | b :: rest =>
    match head b rest with
    | .char c more => c :: lossyChars (rest.drop more)
    | .broken width => '\uFFFD' :: lossyChars (rest.drop (width - 1))
    | .cut => ['\uFFFD']
  termination_by bs => bs.length
  decreasing_by all_goals (simp only [List.length_cons, List.length_drop]; omega)

def lossy (bs : Bytes) : String := String.ofList (lossyChars bs)

end Text.Utf8

end PacedCalls
