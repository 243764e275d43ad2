import PacedCalls.CallError
import PacedCalls.Http.Headers
import PacedCalls.Http.StatusCode
import PacedCalls.Text.Quoted

set_option autoImplicit false

namespace PacedCalls.Http

/-- Statuses that are raised as failures of the exchange instead of being handed over. -/
structure Raised where
  transient : Bool := false
  notFound : Bool := false
  deriving DecidableEq, Repr

namespace Raised

def none : Raised := {}

def proxy : Raised := { transient := true, notFound := true }

def raises (r : Raised) (s : StatusCode) : Bool :=
  match s.val with
  | 500 | 503 => r.transient
  | 404 => r.notFound
  | _ => false

end Raised

/-- Settings as they are given. Durations are in nanoseconds. -/
structure Settings where
  baseUrl : Option String := .none
  timeout : Nat := Duration.ofSecs 30
  connectTimeout : Nat := Duration.ofSecs 10
  defaultHeaders : List (String × String) := []
  userAgent : String := "pacer-client/0.1.1"
  maxRedirects : Nat := 10
  raised : Raised := {}
  deriving DecidableEq, Repr

structure Profile (U : Type) where
  base : Option U
  headers : Headers
  userAgent : HeaderValue
  timeout : Nat
  maxRedirects : Nat
  raised : Raised
  deriving DecidableEq, Repr

namespace Settings

/-- The default headers as a map. Of several lines with one name the last counts. -/
def readHeaders (lines : List (String × String)) : Except CallError Headers :=
  lines.foldlM (fun (h : Headers) (name, value) =>
    match HeaderName.ofText? name with
    | .none =>
      .error (.config ("invalid header name " ++ Text.quoted name ++ ": invalid HTTP header name"))
    | some name =>
      match HeaderValue.ofText? value with
      | .none =>
        .error (.config ("invalid value for " ++ name.text ++ ": failed to parse header value"))
      | some value => .ok (h.insert name value)) {}

/-- Looks through settings: the base URL first, then the headers, then the rest. What a URL is, and
why a text is none, is left to `readUrl`. -/
def check {U : Type} (readUrl : String → Except String U) (s : Settings) :
    Except CallError (Profile U) := do
  let base ←
    match s.baseUrl with
    | .none => pure .none
    | some text =>
      match readUrl text with
      | .ok url => pure (some url)
      | .error message => throw (.config ("invalid base URL: " ++ message))
  let headers ← readHeaders s.defaultHeaders
  match HeaderValue.ofText? s.userAgent with
  | .none => throw (.config "failed to build HTTP client: builder error")
  | some userAgent =>
    pure
      { base := base, headers := headers, userAgent := userAgent, timeout := s.timeout
        maxRedirects := s.maxRedirects, raised := s.raised }

end Settings

end PacedCalls.Http
