import PacedCalls.Http.Headers
import PacedCalls.Http.StatusCode

set_option autoImplicit false

namespace PacedCalls

structure Response where
  status : Http.StatusCode
  headers : Http.Headers := {}
  body : Bytes := []
  deriving DecidableEq, Repr

namespace Response

def ofStatus (n : Nat) (body : Bytes) : Except Http.StatusCode.OutOfRange Response :=
  (Http.StatusCode.ofNat n).map fun status => { status := status, body := body }

def header (r : Response) (name value : String) : Response :=
  match Http.HeaderName.ofText? name, Http.HeaderValue.ofText? value with
  | some name, some value => { r with headers := r.headers.insert name value }
  | _, _ => r

def text (r : Response) : String := Text.Utf8.lossy r.body

end Response

end PacedCalls
