import PacedCalls.Http.Headers
import PacedCalls.Json.Printer

set_option autoImplicit false

namespace PacedCalls

inductive NotFoundPolicy where
  | absent
  | report
  deriving DecidableEq, Repr

structure CallOptions where
  notFound : NotFoundPolicy := .absent
  /-- Whether "not found" slows the rate, if the call decides it. -/
  countNotFound : Option Bool := none
  deriving DecidableEq, Repr

structure Request where
  method : Http.Method
  url : String
  headers : Http.Headers := {}
  body : Option Bytes := none
  label : Option String := none
  options : CallOptions := {}
  deriving DecidableEq, Repr

namespace Request

def description (r : Request) : String :=
  match r.label with
  | some label => label
  | none => r.method.name ++ " " ++ r.url

/-- Sets a header; nothing if the name or the value is not allowed. -/
def header? (r : Request) (name value : String) : Option Request :=
  match Http.HeaderName.ofText? name, Http.HeaderValue.ofText? value with
  | some name, some value => some { r with headers := r.headers.insert name value }
  | _, _ => none

def header (r : Request) (name value : String) : Request := (r.header? name value).getD r

def withHeaders (r : Request) (h : Http.Headers) : Request :=
  { r with headers := r.headers.extend h }

def withBody (r : Request) (body : Bytes) : Request := { r with body := some body }

def contentType : Http.HeaderName := ⟨"content-type"⟩

def jsonType : Http.HeaderValue := ⟨Bytes.ofText "application/json"⟩

def json (r : Request) (v : Json) : Request :=
  { r with headers := r.headers.insert contentType jsonType, body := some (Bytes.ofText v.text) }

def describe (r : Request) (label : String) : Request := { r with label := some label }

def notFound (r : Request) (policy : NotFoundPolicy) : Request :=
  { r with options := { r.options with notFound := policy } }

def countNotFound (r : Request) (count : Bool) : Request :=
  { r with options := { r.options with countNotFound := some count } }

def withOptions (r : Request) (options : CallOptions) : Request := { r with options := options }

end Request

/-- A list of key and value pairs is a JSON object only if every key has a form as a string. -/
inductive Json.EntryError where
  | keyNotString
  deriving DecidableEq, Repr

def Json.EntryError.message : Json.EntryError → String
  | .keyNotString => "key must be a string"

def Json.key? : Json → Option String
  | .str s => some s
  | .int n => some (toString n)
  | .bool b => some (if b then "true" else "false")
  | .num x => if x.isFinite then some (Json.numberText x) else none
  | _ => none

def Json.ofEntries (entries : List (Json × Json)) : Except Json.EntryError Json :=
  match entries.mapM fun (k, v) => (k.key?).map (·, v) with
  | some members => .ok (Json.object members)
  | none => .error .keyNotString

end PacedCalls
