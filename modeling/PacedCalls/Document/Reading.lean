import PacedCalls.Decimal.Reading
import PacedCalls.Json.Reader
import PacedCalls.Time

set_option autoImplicit false

namespace PacedCalls.Document

abbrev Reading := Except String

def expected {α : Type} (what : String) : Reading α := .error (what ++ " expected")

def field (key : String) (j : Json) : Json := (j.get? key).getD .null

def has (key : String) (j : Json) : Bool := (j.get? key).isSome

def isNull : Json → Bool
  | .null => true
  | _ => false

def readText : Json → Reading String
  | .str s => .ok s
  | _ => expected "text"

def readNat : Json → Reading Nat
  | .int n => if 0 ≤ n then .ok n.toNat else expected "natural number"
  | .str s =>
    match s.toNat? with
    | some n => .ok n
    | none => expected "natural number"
  | _ => expected "natural number"

def readBool : Json → Reading Bool
  | .bool b => .ok b
  | _ => expected "boolean"

def readList : Json → Reading (List Json)
  | .arr items => .ok items
  | .null => .ok []
  | _ => expected "list"

def readFloat (j : Json) : Reading Float := do
  match Decimal.read? (← readText j) with
  | some x => .ok x
  | none => expected "decimal"

def readOption {α : Type} (f : Json → Reading α) (j : Json) : Reading (Option α) :=
  if isNull j then .ok none else (f j).map some

def readPair {α β : Type} (f : Json → Reading α) (g : Json → Reading β) : Json → Reading (α × β)
  | .arr [a, b] => do .ok (← f a, ← g b)
  | _ => expected "pair"

def readListOf {α : Type} (f : Json → Reading α) (j : Json) : Reading (List α) := do
  (← readList j).mapM f

def readMillis (j : Json) : Reading Nat := (readNat j).map Duration.ofMillis

/-- A step is a name, or an object whose one member has the name and the argument. -/
def readStep : Json → Reading (String × Json)
  | .str s => .ok (s, .null)
  | .obj [(k, v)] => .ok (k, v)
  | _ => expected "step"

def readHex : List Char → Reading Bytes
  | [] => .ok []
  | a :: b :: rest => do
    match Json.hexValue? (UInt8.ofNat a.toNat), Json.hexValue? (UInt8.ofNat b.toNat) with
    | some x, some y => .ok (UInt8.ofNat (x * 16 + y) :: (← readHex rest))
    | _, _ => expected "hex digits"
  | _ => expected "hex digits"

theorem sizeOf_lookup {key : String} {v : Json} (members : List (String × Json))
    (h : members.lookup key = some v) : sizeOf v < sizeOf members := by
  induction members with
  | nil => simp at h
  | cons m rest ih =>
    obtain ⟨k, w⟩ := m
    rw [List.lookup_cons] at h
    split at h
    · cases h; simp; omega
    · have := ih h; simp; omega

theorem sizeOf_get? {key : String} {j v : Json} (h : j.get? key = some v) :
    sizeOf v < sizeOf j := by
  cases j <;> simp only [Json.get?, reduceCtorEq] at h
  have := sizeOf_lookup _ h
  simp; omega

/-- Octets: a text, hex digits, or shorter octets so many times over; null has none. -/
def readBytes (j : Json) : Reading Bytes :=
  match j with
  | .null => .ok []
  | .str s => .ok (Bytes.ofText s)
  | j =>
    match _h : j.get? "repeat" with
    | some part => do
      let part ← readBytes part
      .ok (List.replicate (← readNat (field "times" j)) part).flatten
    | none => do readHex (← readText (field "hex" j)).toList
termination_by sizeOf j
decreasing_by exact sizeOf_get? (by assumption)

def readHeaderLines : Json → Reading (List (String × Bytes)) :=
  readListOf (readPair readText readBytes)

def readTextPairs : Json → Reading (List (String × String)) :=
  readListOf (readPair readText readText)

def readSteps {α : Type} (start : α) (change : α → String → Json → Reading α) (j : Json) :
    Reading α := do
  (← readList j).foldlM (fun a s => do
    let (name, arg) ← readStep s
    change a name arg) start

end PacedCalls.Document
