import PacedCalls.Lookup
import PacedCalls.Status

set_option autoImplicit false

namespace PacedCalls

abbrev Cause := String

structure Outcome (α : Type) where
  status : Status
  entity : Option α := none
  errors : Option String := none
  cause : Option Cause := none
  deriving DecidableEq, Repr

structure Failure where
  status : Status
  message : String
  deriving DecidableEq, Repr

namespace Failure

def isRetryable (f : Failure) : Bool := f.status.needsRetry

def text (f : Failure) : String := f.status.name ++ ": " ++ f.message

end Failure

namespace Outcome

variable {α β : Type}

def success (a : α) : Outcome α := { status := .success, entity := some a }

def absent : Outcome α := { status := .success }

def failed (status : Status) (message : String) : Outcome α :=
  { status := status, errors := some message }

def notNeeded (message : String) : Outcome α := failed .notNeeded message

structure NotAFailure where
  status : Status
  deriving DecidableEq, Repr

def NotAFailure.message (e : NotAFailure) : String :=
  e.status.name ++ " is not a failure status"

def failure (status : Status) (message : String) : Except NotAFailure (Outcome α) :=
  if status.isOk then .error ⟨status⟩ else .ok (failed status message)

def withCause (o : Outcome α) (cause : Cause) : Outcome α := { o with cause := some cause }

def fatal (message : String) (cause : Cause) : Outcome α :=
  (failed .fatalError message).withCause cause

def map (f : α → β) (o : Outcome α) : Outcome β :=
  { status := o.status, entity := o.entity.map f, errors := o.errors, cause := o.cause }

/-- Forgets what the call returned, but not whether it returned something. -/
def discard (o : Outcome α) : Outcome Unit := o.map fun _ => ()

/-- The outcome read as a lookup: no entity on an ok status, or no target, is an absence. -/
def toLookup (o : Outcome α) : Lookup α Failure :=
  match o.status, o.entity with
  | .success, some a => .found a
  | .success, none => .notFound
  | .notNeeded, _ => .notFound
  | .notFound, _ => .notFound
  | status, _ => .error ⟨status, o.errors.getD ""⟩

end Outcome

end PacedCalls
