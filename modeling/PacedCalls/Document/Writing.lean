import PacedCalls.Http.Headers
import PacedCalls.Json.Value
import PacedCalls.Time

set_option autoImplicit false

namespace PacedCalls.Document

def hexDigits (width n : Nat) : List Char :=
  let digits := Nat.toDigits 16 n
  List.replicate (width - digits.length) '0' ++ digits

def ofFloat (x : Float) : Json := .str (String.ofList (hexDigits 16 x.toBits.toNat))

/-- A duration in nanoseconds; it may be too long for a number. -/
def ofDuration (d : Nat) : Json := .str (Nat.repr d)

def ofInstant (t : Nat) : Json := .int (Duration.toMillis t)

def ofBytes (bs : Bytes) : Json :=
  match Text.Utf8.decode bs with
  | .ok s => .str s
  | .error _ =>
    Json.object [("hex", .str (String.ofList (bs.flatMap fun b => hexDigits 2 b.toNat)))]

def ofHeaders (h : Http.Headers) : Json :=
  .arr (h.lines.map fun (name, value) => .arr [.str name.text, ofBytes value.octets])

/-- A value that may be missing, told apart from a value that is null. -/
def ofPresence (o : Option Json) : Json :=
  match o with
  | some v => Json.object [("some", v)]
  | none => .str "none"

end PacedCalls.Document
