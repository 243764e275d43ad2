/-!
Punycode (RFC 3492): a text beyond ASCII as letters, digits and hyphens. The characters of ASCII
come first. The others follow, the smallest code points first: each is a number that says how many
places were passed over since the one before.
-/

set_option autoImplicit false

namespace PacedCalls.Text.Punycode

def digitChar (d : Nat) : Char := Char.ofNat (if d < 26 then 97 + d else 22 + d)

def digit? (c : Char) : Option Nat :=
  if 'a' ≤ c ∧ c ≤ 'z' then some (c.toNat - 97)
  else if 'A' ≤ c ∧ c ≤ 'Z' then some (c.toNat - 65)
  else if '0' ≤ c ∧ c ≤ '9' then some (c.toNat - 22)
  else none

/-- A digit under the threshold of its place ends a number. Places count 36, 72 and so on. -/
def threshold (place bias : Nat) : Nat := max 1 (min 26 (place - bias))

def settle (delta bias : Nat) : Nat × Nat :=
  if 455 < delta then settle (delta / 35) (bias + 36) else (delta, bias)
  termination_by delta
  decreasing_by exact Nat.div_lt_self (by omega) (by omega)

def adapt (delta count : Nat) (first : Bool) : Nat :=
  let delta := if first then delta / 700 else delta / 2
  let (delta, bias) := settle (delta + delta / count) 0
  bias + 36 * delta / (delta + 38)

def limit : Nat := Nat.pow 2 32

structure Reader where
  text : List Char
  code : Nat := 128
  bias : Nat := 72
  start : Nat := 0
  index : Nat := 0
  weight : Nat := 1
  place : Nat := 36

def Reader.insert? (r : Reader) : Option Reader :=
  let count := r.text.length + 1
  let code := r.code + r.index / count
  if code < 0xD800 ∨ 0xDFFF < code ∧ code < 0x110000 then
    some {
      text := r.text.insertIdx (r.index % count) (Char.ofNat code)
      code := code
      bias := adapt (r.index - r.start) count (r.start == 0)
      start := r.index % count + 1
      index := r.index % count + 1 }
  else none

def Reader.step? (r : Reader) (c : Char) : Option Reader := do
  let d ← digit? c
  let r := { r with index := r.index + d * r.weight }
  let t := threshold r.place r.bias
  if limit ≤ r.index then none
  else if d < t then r.insert?
  else if limit ≤ r.weight * (36 - t) then none
  else some { r with weight := r.weight * (36 - t), place := r.place + 36 }

/-- What stands before the last hyphen, and what follows it. A text that has none, or only at its
head, has no characters of ASCII. -/
def cutAscii (cs : List Char) : List Char × List Char :=
  let back := cs.reverse.takeWhile (· ≠ '-')
  let front := cs.take (cs.length - back.length - 1)
  if front.isEmpty then ([], cs) else (front, back.reverse)

def decode? (cs : List Char) : Option (List Char) := do
  let (front, digits) := cutAscii cs
  let r ← digits.foldlM Reader.step? ({ text := front } : Reader)
  if r.place = 36 then some r.text else none

def number (bias place n : Nat) : List Char :=
  let t := threshold place bias
  if n < t then [digitChar n]
  else digitChar (t + (n - t) % (36 - t)) :: number bias (place + 36) ((n - t) / (36 - t))
  termination_by n
  decreasing_by
    have low : 1 ≤ threshold place bias := Nat.le_max_left ..
    exact Nat.lt_of_le_of_lt (Nat.div_le_self _ _) (by omega)

structure Writer where
  out : List Char := []
  delta : Nat := 0
  bias : Nat := 72
  count : Nat

def Writer.step (ascii code : Nat) (w : Writer) (c : Char) : Writer :=
  if c.toNat < code then { w with delta := w.delta + 1 }
  else if c.toNat = code then
    { out := w.out ++ number w.bias 36 w.delta
      bias := adapt w.delta (w.count + 1) (w.count == ascii)
      count := w.count + 1 }
  else w

/-- Writes the characters of one code point; `next` is the first that was not dealt with. -/
def Writer.pass (cs : List Char) (ascii : Nat) (state : Writer × Nat) (code : Nat) :
    Writer × Nat :=
  let (w, next) := state
  let w := { w with delta := w.delta + (code - next) * (w.count + 1) }
  let w := cs.foldl (Writer.step ascii code) w
  ({ w with delta := w.delta + 1 }, code + 1)

def encode (cs : List Char) : List Char :=
  let front := cs.filter (·.toNat < 0x80)
  let codes := (((cs.map Char.toNat).filter (0x80 ≤ ·)).mergeSort).eraseDups
  let (w, _) := codes.foldl (Writer.pass cs front.length) ({ count := front.length }, 128)
  front ++ (if front.isEmpty then [] else ['-']) ++ w.out

end PacedCalls.Text.Punycode
