import PacedCalls.Cache.Config
import PacedCalls.Rate.Config
import PacedCalls.TransportError

set_option autoImplicit false

namespace PacedCalls

inductive CallError where
  | transient (failure : TransportError)
  | retryExhausted (description : String) (attempts : Nat) (failure : TransportError)
  /-- The body of a success could not be read; the reader may have said why. -/
  | decode (description : String) (reason : Option String)
  | invalidRequest (message : String)
  | config (message : String)
  | rate (e : Rate.ConfigError Float)
  | cache (reason : String)
  deriving DecidableEq

namespace CallError

def transport? : CallError → Option TransportError
  | transient f | retryExhausted _ _ f => some f
  | _ => none

def isTransient (e : CallError) : Bool := e.transport?.isSome

def message : CallError → String
  | transient f => "Transient failure: " ++ f.text
  | retryExhausted description attempts f =>
    description ++ " failed after " ++ Nat.repr attempts ++ " attempts: " ++ f.text
  | decode description reason =>
    "Failed to decode response from " ++ description ++
      (match reason with
        | some reason => ": " ++ reason
        | none => "")
  | invalidRequest m => "Invalid request: " ++ m
  | config m => "Configuration error: " ++ m
  | rate e => e.message
  | cache reason => Cache.configErrorText reason

def source? : CallError → Option TransportError
  | retryExhausted _ _ f => some f
  | _ => none

end CallError

end PacedCalls
