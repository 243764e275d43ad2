import PacedCalls.Json.Reader

set_option autoImplicit false

namespace PacedCalls.Http.Address

/-- A number in one part of an IPv4 address: hexadecimal after `0x`, octal after `0`. -/
def ipv4Part? (part : List Char) : Option Nat :=
  let (base, digits) := match part with
    | '0' :: x :: rest => if x = 'x' ∨ x = 'X' then (16, rest) else (8, x :: rest)
    | other => (10, other)
  if part.isEmpty then none
  else
    digits.foldl (fun acc c => do
      let n ← acc
      let d ← Json.hexValue? (UInt8.ofNat c.toNat)
      if c.toNat < 128 ∧ d < base then some (n * base + d) else none) (some 0)

def labels (name : List Char) : List (List Char) :=
  let parts := (String.ofList name).splitOn "." |>.map String.toList
  match parts.reverse with
  | [] :: rest => if rest.isEmpty then parts else rest.reverse
  | _ => parts

/-- Whether the last part of a name is a number, so that the name must be an address. -/
def endsInNumber (name : List Char) : Bool :=
  match (labels name).getLast? with
  | some last => (!last.isEmpty && last.all Char.isDigit) ||
      (match last with
        | '0' :: x :: _ => (x == 'x' || x == 'X') && (ipv4Part? last).isSome
        | _ => false)
  | none => false

/-- An IPv4 address of one to four numbers, the last of which fills the octets left. -/
def ipv4? (name : List Char) : Option Nat := do
  let parts ← (labels name).mapM ipv4Part?
  let last ← parts.getLast?
  let front := parts.dropLast
  if 3 < front.length ∨ front.any (255 < ·) ∨ Nat.pow 256 (4 - front.length) ≤ last then none
  else some (front.foldl (fun n p => n * 256 + p) 0 * Nat.pow 256 (4 - front.length) + last)

def dotted? (text : List Char) : Option (List Nat) := do
  let parts := (String.ofList text).splitOn "." |>.map String.toList
  if parts.length ≠ 4 then none
  else
    let numbers ← parts.mapM fun p =>
      if p.isEmpty || !p.all Char.isDigit || 3 < p.length || (p.head? == some '0' && 1 < p.length)
      then none
      else
        let n := p.foldl (fun n c => n * 10 + (c.toNat - '0'.toNat)) 0
        if n ≤ 255 then some n else none
    match numbers with
    | [a, b, c, d] => some [a * 256 + b, c * 256 + d]
    | _ => none

/-- The 16-bit pieces of an IPv6 address between colons; the last part may be dotted. -/
def pieces? (parts : List (List Char)) (mayDot : Bool) : Option (List Nat) :=
  match parts with
  | [] => some []
  | part :: rest => do
    if rest.isEmpty && mayDot && part.contains '.' then dotted? part
    else if part.isEmpty ∨ 4 < part.length then none
    else
      let n ← part.foldl (fun acc c => do
        let n ← acc
        let d ← if c.toNat < 128 then Json.hexValue? (UInt8.ofNat c.toNat) else none
        some (n * 16 + d)) (some 0)
      let more ← pieces? rest mayDot
      some (n :: more)

def ipv6? (text : List Char) : Option (List Nat) :=
  let split := fun s : String => if s.isEmpty then [] else (s.splitOn ":").map String.toList
  match (String.ofList text).splitOn "::" with
  | [whole] => do
    let pieces ← pieces? (split whole) true
    if pieces.length = 8 then some pieces else none
  | [front, back] => do
    let front ← pieces? (split front) false
    let back ← pieces? (split back) true
    if front.length + back.length ≤ 7 then
      some (front ++ List.replicate (8 - front.length - back.length) 0 ++ back)
    else none
  | _ => none

/-- The longest run of zeros, if it is longer than one: where it starts and how long it is. Of two
of one length the first counts. -/
def longestZeros (pieces : List Nat) : Option (Nat × Nat) :=
  let runs := (List.range pieces.length).map fun i =>
    (i, ((pieces.drop i).takeWhile (· == 0)).length)
  (runs.filter fun (_, n) => 2 ≤ n).foldl (fun best run =>
    match best with
    | some (i, n) => if n < run.2 then some run else some (i, n)
    | none => some run) none

def piecesText (pieces : List Nat) : String :=
  ":".intercalate (pieces.map fun p => String.ofList (Nat.toDigits 16 p))

def ipv4Text (address : Nat) : String :=
  let octets := [address / Nat.pow 2 24, address / Nat.pow 2 16 % 256, address / 256 % 256,
    address % 256]
  ".".intercalate (octets.map Nat.repr)

def ipv6Text (pieces : List Nat) : String :=
  match longestZeros pieces with
  | some (i, n) =>
    "[" ++ piecesText (pieces.take i) ++ "::" ++ piecesText (pieces.drop (i + n)) ++ "]"
  | none => "[" ++ piecesText pieces ++ "]"

end PacedCalls.Http.Address
