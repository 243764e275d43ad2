set_option autoImplicit false

namespace PacedCalls

inductive Status where
  | success
  | notNeeded
  | notFound
  | error
  | aborted
  | denied
  | invalid
  | fatalError
  deriving DecidableEq, Repr

namespace Status

def all : List Status :=
  [.success, .notNeeded, .notFound, .error, .aborted, .denied, .invalid, .fatalError]

def isOk : Status → Bool
  | success | notNeeded => true
  | _ => false

def needsRetry : Status → Bool
  | notFound | error | aborted => true
  | _ => false

def isPermanent : Status → Bool
  | denied | invalid | fatalError => true
  | _ => false

def name : Status → String
  | success => "SUCCESS"
  | notNeeded => "NOTNEEDED"
  | notFound => "NOTFOUND"
  | error => "ERROR"
  | aborted => "ABORTED"
  | denied => "DENIED"
  | invalid => "INVALID"
  | fatalError => "FATAL_ERROR"

def ofName? (s : String) : Option Status := all.find? (·.name == s)

end Status

end PacedCalls
