import PacedCalls.Rate.Controller
import PacedCalls.Request
import PacedCalls.Response
import PacedCalls.TransportError

set_option autoImplicit false

namespace PacedCalls

abbrev Exchange := Except TransportError Response

structure Reply where
  result : Exchange
  delay : Nat := 0

class Transport (T : Type) where
  exchange : Request → T → Reply × T

/-- A transport and the requests it was given, newest first, with their instants. -/
structure Remote (T : Type) where
  transport : T
  journal : List (Nat × Request) := []

namespace Remote

variable {T : Type} [Transport T]

def send (r : Remote T) (now : Nat) (request : Request) : Reply × Remote T :=
  let (reply, transport) := Transport.exchange request r.transport
  (reply, { transport := transport, journal := (now, request) :: r.journal })

def requests (r : Remote T) : List Request := (r.journal.map (·.2)).reverse

end Remote

/-- The controller, the remote and the state of the user's middlewares. -/
structure Lane (R T U : Type) where
  governor : Rate.Controller R
  remote : Remote T
  user : U

/-- A transport that plays back a script; its last line is repeated for ever, and an empty script
answers 200 with no body. -/
structure Script where
  lines : List Reply
  last : Reply := { result := .ok { status := Http.StatusCode.success } }

namespace Script

def ofList (lines : List Reply) : Script := { lines := lines }

def next (s : Script) : Reply × Script :=
  match s.lines with
  | [] => (s.last, s)
  | line :: rest => (line, { lines := rest, last := line })

instance : Transport Script where
  exchange _ s := s.next

end Script

end PacedCalls
