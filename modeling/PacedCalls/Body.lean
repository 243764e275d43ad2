import PacedCalls.Json.Reader
import PacedCalls.Response

set_option autoImplicit false

namespace PacedCalls.Body

structure Error where
  reason : Option String := none
  deriving DecidableEq, Repr

abbrev Reader (α : Type) := Response → Except Error α

def ignore : Reader Unit := fun _ => .ok ()

def size : Reader Nat := fun r => .ok r.body.length

def lenient : Reader String := fun r => .ok r.text

def text : Reader String := fun r =>
  (Text.Utf8.decode r.body).mapError fun e => { reason := some e.message }

def json : Reader Json := fun r =>
  match Json.read? r.body with
  | some v => .ok v
  | none => .error {}

def wholeBelow (bound : Nat) : Reader Nat := fun r =>
  match (Json.read? r.body).bind (·.below? bound) with
  | some n => .ok n
  | none => .error {}

structure Named where
  id : Nat
  name : String
  deriving DecidableEq, Repr

def named : Reader Named := fun r =>
  match Json.readRecord? ["id", "name"] r.body with
  | some [id, .str name] =>
    match id.below? (Nat.pow 2 64) with
    | some id => .ok { id := id, name := name }
    | none => .error {}
  | _ => .error {}

def members : Reader (List (String × Json)) := fun r =>
  match Json.read? r.body with
  | some (.obj members) => .ok members
  | _ => .error {}

def fail {α : Type} (reason : String) : Reader α := fun _ => .error { reason := some reason }

def saying {α : Type} (reader : Reader α) (reason : String) : Reader α := fun r =>
  (reader r).mapError fun _ => { reason := some reason }

def map {α β : Type} (reader : Reader α) (f : α → β) : Reader β := fun r => (reader r).map f

end PacedCalls.Body
