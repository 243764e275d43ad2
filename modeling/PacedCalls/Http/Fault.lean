import PacedCalls.TransportError

set_option autoImplicit false

namespace PacedCalls.Http

inductive IoKind where
  | refused
  | reset
  | aborted
  | unexpectedEnd
  | brokenPipe
  | other (name : String)
  deriving DecidableEq, Repr

inductive Source where
  | io (kind : IoKind)
  | other
  deriving DecidableEq, Repr

def Source.ioKind? : Source → Option IoKind
  | io kind => some kind
  | other => none

structure Fault where
  unbuilt : Bool := false
  timedOut : Bool := false
  unconnected : Bool := false
  inBody : Bool := false
  text : String
  sources : List Source := []
  deriving DecidableEq, Repr

namespace Fault

/-- The kind of the first error of input or output among the sources. -/
def ioKind? (f : Fault) : Option IoKind := f.sources.findSome? Source.ioKind?

def asIo (f : Fault) : TransportError := .io f.text f.text

def onSend (f : Fault) : TransportError :=
  if f.unbuilt then .request f.text f.text
  else if f.timedOut then f.asIo
  else if f.unconnected then .connectionReset f.text
  else
    match f.ioKind? with
    | some .reset | some .refused => .connectionReset f.text
    | some .aborted | some .unexpectedEnd | some .brokenPipe => .aborted f.text
    | _ => f.asIo

def onBody (f : Fault) : TransportError :=
  if f.timedOut then f.asIo
  else
    match f.ioKind? with
    | some .reset => .connectionReset f.text
    | _ => if f.inBody then .aborted f.text else f.asIo

end Fault

end PacedCalls.Http
