import PacedCalls.Chain.Lane
import PacedCalls.Http.Settings
import PacedCalls.Text.Blank

set_option autoImplicit false

namespace PacedCalls.Http

/-- What a raised response reports: its status line and its body as text. -/
def reportOf (r : Response) : String := Text.trimEnd (r.status.line ++ " " ++ r.text)

def failureOf (r : Response) : TransportError :=
  match r.status.val with
  | 404 => .notFound (reportOf r)
  | 500 => .internalServerError (reportOf r)
  | _ => .serviceUnavailable (reportOf r)

def Raised.deliver (raised : Raised) (r : Response) : Exchange :=
  if raised.raises r.status then .error (failureOf r) else .ok r

structure Raising (T : Type) where
  raised : Raised
  inner : T

instance {T : Type} [Transport T] : Transport (Raising T) where
  exchange request t :=
    let (reply, inner) := Transport.exchange request t.inner
    ({ reply with result := reply.result.bind t.raised.deliver }, { t with inner := inner })

end PacedCalls.Http
