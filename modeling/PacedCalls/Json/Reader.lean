import PacedCalls.Json.Value
import PacedCalls.Text.Utf8

/-!
Reading JSON as RFC 8259 has it: no more than 127 levels of nesting, no number outside the range
of doubles, and of two members with one key the later. A member that nobody asks for is passed
over with fewer checks: its strings need not be text, its numbers need no range and its nesting
no bound.
-/

set_option autoImplicit false

namespace PacedCalls.Json

def nestingLimit : Nat := 127

def significandLimit : Nat := 18446744073709551615

def isBlank (b : UInt8) : Bool := b == 0x20 || b == 0x0A || b == 0x09 || b == 0x0D

def skipBlanks (bs : Bytes) : Bytes := bs.dropWhile isBlank

def isDigit (b : UInt8) : Bool := 0x30 ≤ b && b ≤ 0x39

/-- Reads digits into a significand as long as it stays within its limit; returns it with the
number of digits taken and the digits left over. -/
def takeDigits (significand : Nat) : List UInt8 → Nat × Nat × List UInt8
  | [] => (significand, 0, [])
  | b :: rest =>
    let next := significand * 10 + (b.toNat - 0x30)
    if next ≤ significandLimit then
      let (s, taken, left) := takeDigits next rest
      (s, taken + 1, left)
    else (significand, 0, b :: rest)

def topPower : Float := Float.ofScientific 1 false 308

/-- Divides by powers of ten that are no doubles, the largest one at a time. -/
def divideDown : (fuel : Nat) → Float → Nat → Float
  | 0, f, _ => f
  | fuel + 1, f, down =>
    if down ≤ 308 then f / Float.ofScientific 1 false down
    else if f == 0.0 then f
    else divideDown fuel (f / topPower) (down - 308)

/-- A significand times a power of ten, each step rounded; nothing past the largest double. -/
def scaled? (significand : Nat) (power : Int) : Option Float :=
  let f := Float.ofScientific significand false 0
  if power < 0 then some (divideDown power.natAbs f power.natAbs)
  else if power ≤ 308 then
    let product := f * Float.ofScientific 1 false power.toNat
    if product.isInf then none else some product
  else if f == 0.0 then some f
  else none

/-- The exponent part after its letter: nothing if it has no digits. -/
def readPower? (bs : Bytes) : Option (Int × Bytes) :=
  let (negative, bs) := match bs with
    | 0x2B :: rest => (false, rest)
    | 0x2D :: rest => (true, rest)
    | rest => (false, rest)
  let digits := bs.takeWhile isDigit
  if digits.isEmpty then none
  else
    let n : Int := digits.foldl (fun n b => n * 10 + (b.toNat - 0x30)) 0
    some (if negative then -n else n, bs.drop digits.length)

/-- A number without a point or exponent: exact if 64 bits hold it. -/
def wholeNumber (negative : Bool) (significand : Nat) : Json :=
  if negative then
    if 0 < significand ∧ significand ≤ 9223372036854775808 then .int (-significand)
    else .num (-(Float.ofScientific significand false 0))
  else .int significand

/-- A number with a point or exponent, or too long for 64 bits. A power of ten past 32 bits is
out of range, or zero for good. -/
def broadNumber? (negative : Bool) (significand : Nat) (start exponent : Int) : Option Json :=
  let signed := fun f : Float => Json.num (if negative then -f else f)
  if 2147483647 < exponent.natAbs then
    if significand ≠ 0 ∧ 0 < exponent then none else some (signed 0.0)
  else
    let power := max (-2147483648) (min 2147483647 (start + exponent))
    (scaled? significand power).map signed

/-- What may follow the digits before the point. With `broad` the number is a double even if
nothing follows. -/
def readTail? (negative broad : Bool) (significand : Nat) (start : Int) (bs : Bytes) :
    Option (Json × Bytes) := do
  let (hasPoint, bs) := match bs with
    | 0x2E :: rest => (true, rest)
    | rest => (false, rest)
  let decimals := if hasPoint then bs.takeWhile isDigit else []
  if hasPoint && decimals.isEmpty then none
  let (significand, taken, _) := takeDigits significand decimals
  let start := start - taken
  match bs.drop decimals.length with
  | b :: rest =>
    if b = 0x65 ∨ b = 0x45 then
      let (exponent, rest) ← readPower? rest
      (broadNumber? negative significand start exponent).map (·, rest)
    else if hasPoint || broad then
      (broadNumber? negative significand start 0).map (·, b :: rest)
    else some (wholeNumber negative significand, b :: rest)
  | [] =>
    if hasPoint || broad then (broadNumber? negative significand start 0).map (·, [])
    else some (wholeNumber negative significand, [])

def readUnsigned? (negative : Bool) (bs : Bytes) : Option (Json × Bytes) :=
  let digits := bs.takeWhile isDigit
  match digits with
  | [] => none
  | [0x30] => readTail? negative false 0 0 (bs.drop 1)
  | 0x30 :: _ => none
  | _ =>
    let (significand, _, left) := takeDigits 0 digits
    readTail? negative (!left.isEmpty) significand left.length (bs.drop digits.length)

def passNumber? (bs : Bytes) : Option Bytes :=
  let bs := if bs.head? = some 0x2D then bs.tail else bs
  let digits := bs.takeWhile isDigit
  if digits.isEmpty || (digits.head? == some 0x30 && digits.length ≠ 1) then none
  else
    let passPower := fun bs : Bytes => match bs with
      | b :: rest => if b = 0x65 ∨ b = 0x45 then (readPower? rest).map (·.2) else some bs
      | [] => some bs
    match bs.drop digits.length with
    | 0x2E :: rest =>
      let decimals := rest.takeWhile isDigit
      if decimals.isEmpty then none else passPower (rest.drop decimals.length)
    | rest => passPower rest

def hexValue? (b : UInt8) : Option Nat :=
  if isDigit b then some (b.toNat - 0x30)
  else if 0x61 ≤ b ∧ b ≤ 0x66 then some (b.toNat - 0x57)
  else if 0x41 ≤ b ∧ b ≤ 0x46 then some (b.toNat - 0x37)
  else none

def readHex4? : Bytes → Option (Nat × Bytes)
  | a :: b :: c :: d :: rest => do
    let a ← hexValue? a
    let b ← hexValue? b
    let c ← hexValue? c
    let d ← hexValue? d
    some (((a * 16 + b) * 16 + c) * 16 + d, rest)
  | _ => none

/-- The escape after `\u`: one code unit, or the two of a surrogate pair. -/
def readUnits? (bs : Bytes) : Option (Char × Bytes) := do
  let (first, rest) ← readHex4? bs
  if 0xDC00 ≤ first ∧ first ≤ 0xDFFF then none
  else if 0xD800 ≤ first ∧ first ≤ 0xDBFF then
    match rest with
    | 0x5C :: 0x75 :: rest => do
      let (second, rest) ← readHex4? rest
      if 0xDC00 ≤ second ∧ second ≤ 0xDFFF then
        some (Char.ofNat (0x10000 + (first - 0xD800) * 1024 + (second - 0xDC00)), rest)
      else none
    | _ => none
  else some (Char.ofNat first, rest)

/-- The octet that a one-letter escape stands for. -/
def shortEscape? (b : UInt8) : Option UInt8 :=
  match b with
  | 0x22 => some 0x22
  | 0x5C => some 0x5C
  | 0x2F => some 0x2F
  | 0x62 => some 0x08
  | 0x66 => some 0x0C
  | 0x6E => some 0x0A
  | 0x72 => some 0x0D
  | 0x74 => some 0x09
  | _ => none

/-- The octets of a string after its first quotation mark; `strict` asks that code units pair up.
Each round uses up at least one octet, so `fuel` is the number of octets. -/
def readOctets? (strict : Bool) : (fuel : Nat) → Bytes → Option (Bytes × Bytes)
  | 0, _ => none
  | _ + 1, [] => none
  | fuel + 1, b :: rest =>
    if b = 0x22 then some ([], rest)
    else if b = 0x5C then
      match rest with
      | [] => none
      | 0x75 :: rest =>
        if strict then do
          let (c, rest) ← readUnits? rest
          let (more, rest) ← readOctets? strict fuel rest
          some (String.utf8EncodeChar c ++ more, rest)
        else do
          let (_, rest) ← readHex4? rest
          readOctets? strict fuel rest
      | e :: rest => do
        let octet ← shortEscape? e
        let (more, rest) ← readOctets? strict fuel rest
        some (octet :: more, rest)
    else if b < 0x20 then none
    else do
      let (more, rest) ← readOctets? strict fuel rest
      some (b :: more, rest)

def readString? (bs : Bytes) : Option (String × Bytes) := do
  let (octets, rest) ← readOctets? true bs.length bs
  let text ← (Text.Utf8.decode octets).toOption
  some (text, rest)

def afterWord? (word : String) (bs : Bytes) : Option Bytes :=
  let octets := Bytes.ofText word
  if bs.take octets.length = octets then some (bs.drop octets.length) else none

def readWord? (bs : Bytes) : Option (Json × Bytes) :=
  ((afterWord? "null" bs).map (Json.null, ·)).or <|
  ((afterWord? "true" bs).map (Json.bool true, ·)).or <|
  (afterWord? "false" bs).map (Json.bool false, ·)

mutual

/-- A value, blanks before it skipped; `room` is how many levels deeper it may go. Every call uses
up an octet or two calls stand for one, so twice the number of octets is `fuel` enough. -/
def readValue? : (fuel room : Nat) → Bytes → Option (Json × Bytes)
  | 0, _, _ => none
  | fuel + 1, room, bs =>
    match skipBlanks bs with
    | [] => none
    | 0x22 :: rest => do
      let (s, rest) ← readString? rest
      some (.str s, rest)
    | 0x5B :: rest =>
      if room = 0 then none
      else match skipBlanks rest with
        | 0x5D :: rest => some (.arr [], rest)
        | rest => do
          let (items, rest) ← readItems? fuel (room - 1) rest
          some (.arr items, rest)
    | 0x7B :: rest =>
      if room = 0 then none
      else match skipBlanks rest with
        | 0x7D :: rest => some (.obj [], rest)
        | rest => do
          let (members, rest) ← readMembers? fuel (room - 1) rest
          some (Json.object members, rest)
    | 0x2D :: rest => readUnsigned? true rest
    | b :: rest => if isDigit b then readUnsigned? false (b :: rest) else readWord? (b :: rest)

/-- The values of a list that is not empty, with its closing bracket. -/
def readItems? : (fuel room : Nat) → Bytes → Option (List Json × Bytes)
  | 0, _, _ => none
  | fuel + 1, room, bs => do
    let (v, rest) ← readValue? fuel room bs
    match skipBlanks rest with
    | 0x2C :: rest => do
      let (more, rest) ← readItems? fuel room rest
      some (v :: more, rest)
    | 0x5D :: rest => some ([v], rest)
    | _ => none

/-- The members of an object that is not empty, with its closing brace. -/
def readMembers? : (fuel room : Nat) → Bytes → Option (List (String × Json) × Bytes)
  | 0, _, _ => none
  | fuel + 1, room, bs =>
    match skipBlanks bs with
    | 0x22 :: rest => do
      let (k, rest) ← readString? rest
      match skipBlanks rest with
      | 0x3A :: rest => do
        let (v, rest) ← readValue? fuel room rest
        match skipBlanks rest with
        | 0x2C :: rest => do
          let (more, rest) ← readMembers? fuel room rest
          some ((k, v) :: more, rest)
        | 0x7D :: rest => some ([(k, v)], rest)
        | _ => none
      | _ => none
    | _ => none

end

/-- Fuel that no document of these octets uses up. -/
def fuelFor (bs : Bytes) : Nat := 2 * bs.length + 2

/-- Reads a document whose values nest at most `room` levels deep. -/
def readWithin? (room : Nat) (bs : Bytes) : Option Json := do
  let (v, rest) ← readValue? (fuelFor bs) room bs
  if (skipBlanks rest).isEmpty then some v else none

def read? (bs : Bytes) : Option Json := readWithin? nestingLimit bs

mutual

def passValue? : (fuel : Nat) → Bytes → Option Bytes
  | 0, _ => none
  | fuel + 1, bs =>
    match skipBlanks bs with
    | [] => none
    | 0x22 :: rest => (readOctets? false rest.length rest).map (·.2)
    | 0x5B :: rest =>
      match skipBlanks rest with
      | 0x5D :: rest => some rest
      | rest => passItems? fuel rest
    | 0x7B :: rest =>
      match skipBlanks rest with
      | 0x7D :: rest => some rest
      | rest => passMembers? fuel rest
    | b :: rest =>
      if b = 0x2D ∨ isDigit b then passNumber? (b :: rest)
      else (readWord? (b :: rest)).map (·.2)

def passItems? : (fuel : Nat) → Bytes → Option Bytes
  | 0, _ => none
  | fuel + 1, bs => do
    let rest ← passValue? fuel bs
    match skipBlanks rest with
    | 0x2C :: rest => passItems? fuel rest
    | 0x5D :: rest => some rest
    | _ => none

def passMembers? : (fuel : Nat) → Bytes → Option Bytes
  | 0, _ => none
  | fuel + 1, bs =>
    match skipBlanks bs with
    | 0x22 :: rest => do
      let (_, rest) ← readOctets? false rest.length rest
      match skipBlanks rest with
      | 0x3A :: rest => do
        let rest ← passValue? fuel rest
        match skipBlanks rest with
        | 0x2C :: rest => passMembers? fuel rest
        | 0x7D :: rest => some rest
        | _ => none
      | _ => none
    | _ => none

end

/-- The members of a record: those named are read and may not repeat, others are passed over. -/
def readKnown? (names : List String) :
    (fuel : Nat) → List (String × Json) → Bytes → Option (List (String × Json) × Bytes)
  | 0, _, _ => none
  | fuel + 1, found, bs =>
    match skipBlanks bs with
    | 0x22 :: rest => do
      let (k, rest) ← readString? rest
      match skipBlanks rest with
      | 0x3A :: rest => do
        let (found, rest) ←
          if names.contains k then
            if (found.lookup k).isSome then none
            else do
              let (v, rest) ← readValue? (fuelFor rest) (nestingLimit - 1) rest
              some ((k, v) :: found, rest)
          else (passValue? (fuelFor rest) rest).map (found, ·)
        match skipBlanks rest with
        | 0x2C :: rest => readKnown? names fuel found rest
        | 0x7D :: rest => some (found, rest)
        | _ => none
      | _ => none
    | _ => none

/-- Reads a document that is a record with these fields, written as an object or as the list of
their values; the answer has the values in the order of the names. -/
def readRecord? (names : List String) (bs : Bytes) : Option (List Json) := do
  let (values, rest) ←
    match skipBlanks bs with
    | 0x7B :: rest =>
      match skipBlanks rest with
      | 0x7D :: rest => (names.mapM fun _ => none).map (·, rest)
      | rest => do
        let (found, rest) ← readKnown? names (fuelFor bs) [] rest
        let values ← names.mapM (found.lookup ·)
        some (values, rest)
    | 0x5B :: _ => do
      let (v, rest) ← readValue? (fuelFor bs) nestingLimit bs
      match v with
      | .arr items => if items.length = names.length then some (items, rest) else none
      | _ => none
    | _ => none
  if (skipBlanks rest).isEmpty then some values else none

def number? : Json → Option Float
  | .int n => some (if n < 0 then -(Float.ofScientific n.natAbs false 0)
      else Float.ofScientific n.natAbs false 0)
  | .num x => some x
  | _ => none

def below? (bound : Nat) : Json → Option Nat
  | .int n => if 0 ≤ n ∧ n.toNat < bound then some n.toNat else none
  | _ => none

end PacedCalls.Json
