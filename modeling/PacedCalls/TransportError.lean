import PacedCalls.Outcome

set_option autoImplicit false

namespace PacedCalls

inductive TransportError where
  | serviceUnavailable (message : String)
  | internalServerError (message : String)
  | connectionReset (message : String)
  | aborted (message : String)
  | notFound (message : String)
  /-- Any other failure of input or output, timeouts included. -/
  | io (message : String) (cause : Cause)
  | request (message : String) (cause : Cause)
  deriving DecidableEq, Repr

namespace TransportError

/-- A failure that is waited out and never reported. -/
def isTransient : TransportError → Bool
  | serviceUnavailable _ | internalServerError _ | connectionReset _ => true
  | _ => false

def message : TransportError → String
  | serviceUnavailable m | internalServerError m | connectionReset m | aborted m | notFound m => m
  | io m _ | request m _ => m

def cause? : TransportError → Option Cause
  | io _ c | request _ c => some c
  | _ => none

def text : TransportError → String
  | serviceUnavailable m => "Service unavailable: " ++ m
  | internalServerError m => "Internal server error: " ++ m
  | connectionReset m => "Connection reset: " ++ m
  | aborted m => "Aborted: " ++ m
  | notFound m => "Not found: " ++ m
  | io m _ => "I/O error: " ++ m
  | request m _ => "Request error: " ++ m

def timedOut : TransportError := io "deadline has elapsed" "deadline has elapsed"

end TransportError

end PacedCalls
