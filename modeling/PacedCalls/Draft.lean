import PacedCalls.Event
import PacedCalls.Request

set_option autoImplicit false

namespace PacedCalls

structure Draft where
  method : Http.Method := .get
  url : String
  headers : List (String × String) := []
  json : Option Json := none
  body : Option Bytes := none
  label : Option String := none
  notFound : Option NotFoundPolicy := none
  countNotFound : Option Bool := none

namespace Draft

/-- Sets headers one by one; what is no header is left out and its name is given back. -/
def setHeaders : List (String × String) → Request → Request × List String
  | [], r => (r, [])
  | (name, value) :: rest, r =>
    match r.header? name value with
    | some r => setHeaders rest r
    | none => ((setHeaders rest r).1, name :: (setHeaders rest r).2)

def changed {α : Type} (f : Request → α → Request) (change : Option α) (r : Request) : Request :=
  match change with
  | some a => f r a
  | none => r

def assemble (d : Draft) : Request × List String :=
  let (r, skipped) := setHeaders d.headers { method := d.method, url := d.url }
  let r := changed Request.json d.json r
  let r := changed Request.withBody d.body r
  let r := changed Request.describe d.label r
  let r := changed Request.notFound d.notFound r
  let r := changed Request.countNotFound d.countNotFound r
  (r, skipped)

def request (d : Draft) : Request := d.assemble.1

def events {R : Type} (d : Draft) : List (Event R) := d.assemble.2.map .headerSkipped

def fill (key text : String) : String := key.intercalate (text.splitOn "\x7b\x7d")

/-- A draft for a key: URL and target name have places where it goes. -/
def forKey (d : Draft) (key : String) : Draft :=
  { d with url := fill key d.url, label := d.label.map (fill key) }

end Draft

end PacedCalls
