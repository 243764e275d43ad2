import PacedCalls.Assoc
import PacedCalls.Text.Utf8

/-!
Header maps: each name once, in the order in which the names came in, with all values of a name
together. A write of one value replaces all values of its name and leaves the name where it is.
-/

set_option autoImplicit false

namespace PacedCalls.Http

def isTokenChar (c : Char) : Bool :=
  c.isAlphanum || ("!#$%&'*+-.^_|~".toList.contains c) || c.toNat == 0x60

def isToken (s : String) : Bool := !s.toList.isEmpty && s.toList.all isTokenChar

structure Method where
  name : String
  deriving DecidableEq, Repr

def Method.ofText? (s : String) : Option Method := if isToken s then some ⟨s⟩ else none

namespace Method

def get : Method := ⟨"GET"⟩
def post : Method := ⟨"POST"⟩
def put : Method := ⟨"PUT"⟩
def patch : Method := ⟨"PATCH"⟩
def delete : Method := ⟨"DELETE"⟩
def head : Method := ⟨"HEAD"⟩

end Method

structure HeaderName where
  text : String
  deriving DecidableEq, Repr

def HeaderName.longest : Nat := 65535

def HeaderName.ofText? (s : String) : Option HeaderName :=
  if isToken s && s.toList.length ≤ longest then
    some ⟨String.ofList (s.toList.map Char.toLower)⟩
  else none

/-- A header value: octets that are neither controls nor 0x7F; a tab may stand in it. -/
structure HeaderValue where
  octets : Bytes
  deriving DecidableEq, Repr

namespace HeaderValue

def isValueOctet (b : UInt8) : Bool := (0x20 ≤ b && b != 0x7F) || b == 0x09

def ofBytes? (bs : Bytes) : Option HeaderValue := if bs.all isValueOctet then some ⟨bs⟩ else none

def ofText? (s : String) : Option HeaderValue := ofBytes? (Bytes.ofText s)

/-- The value as text, if it holds nothing but printable ASCII and tabs. -/
def text? (v : HeaderValue) : Option String :=
  if v.octets.all (fun b => (0x20 ≤ b && b < 0x7F) || b == 0x09) then
    some (String.ofList (v.octets.map fun b => Char.ofNat b.toNat))
  else none

end HeaderValue

structure Headers where
  entries : List (HeaderName × List HeaderValue) := []
  deriving DecidableEq, Repr

namespace Headers

def put (name : HeaderName) (values : List HeaderValue) :
    List (HeaderName × List HeaderValue) → List (HeaderName × List HeaderValue)
  | [] => [(name, values)]
  | (n, vs) :: rest => if n = name then (n, values) :: rest else (n, vs) :: put name values rest

def add (name : HeaderName) (value : HeaderValue) :
    List (HeaderName × List HeaderValue) → List (HeaderName × List HeaderValue)
  | [] => [(name, [value])]
  | (n, vs) :: rest =>
    if n = name then (n, vs ++ [value]) :: rest else (n, vs) :: add name value rest

def values (h : Headers) (name : HeaderName) : List HeaderValue :=
  (h.entries.lookup name).getD []

def first? (h : Headers) (name : HeaderName) : Option HeaderValue := (h.values name).head?

def names (h : Headers) : List HeaderName := h.entries.map (·.1)

def insert (h : Headers) (name : HeaderName) (value : HeaderValue) : Headers :=
  ⟨put name [value] h.entries⟩

def append (h : Headers) (name : HeaderName) (value : HeaderValue) : Headers :=
  ⟨add name value h.entries⟩

def extend (h other : Headers) : Headers :=
  ⟨other.entries.foldl (fun acc (name, values) => put name values acc) h.entries⟩

def erase (h : Headers) (name : HeaderName) : Headers := ⟨h.entries.filter (·.1 ≠ name)⟩

def lines (h : Headers) : List (HeaderName × HeaderValue) :=
  h.entries.flatMap fun (name, values) => values.map (name, ·)

theorem lookup_put (name n : HeaderName) (vs : List HeaderValue)
    (entries : List (HeaderName × List HeaderValue)) :
    (put name vs entries).lookup n = if n = name then some vs else entries.lookup n := by
  induction entries with
  | nil => by_cases h : n = name <;> simp [put, Assoc.lookup_cons_eq, h]
  | cons e rest ih =>
    obtain ⟨m, ws⟩ := e
    by_cases hm : m = name
    · subst hm
      by_cases h : n = m <;> simp [put, Assoc.lookup_cons_eq, h]
    · by_cases h : n = m
      · subst h
        simp [put, hm]
      · simp [put, Assoc.lookup_cons_eq, hm, h, ih]

/-- The map of these lines, each added after the one before; lines that are no header are left
out. -/
def ofLines (ls : List (String × Bytes)) : Headers :=
  ls.foldl (fun h (n, v) =>
    match HeaderName.ofText? n, HeaderValue.ofBytes? v with
    | some name, some value => h.append name value
    | _, _ => h) {}

end Headers

end PacedCalls.Http
