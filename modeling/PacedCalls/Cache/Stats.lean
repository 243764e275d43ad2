set_option autoImplicit false

namespace PacedCalls.Cache

structure Stats where
  hits : Nat := 0
  misses : Nat := 0
  loads : Nat := 0
  loadFailures : Nat := 0
  coalesced : Nat := 0
  evictions : Nat := 0
  expirations : Nat := 0
  deriving DecidableEq, Repr

inductive CountError where
  | tooManyReads
  deriving DecidableEq, Repr

def CountError.message : CountError → String
  | tooManyReads => "attempt to add with overflow"

def Stats.reads (s : Stats) : Except CountError Nat :=
  if s.hits + s.misses < Nat.pow 2 64 then .ok (s.hits + s.misses) else .error .tooManyReads

def Stats.hitRate (s : Stats) : Except CountError Float :=
  s.reads.map fun reads =>
    if reads = 0 then 0.0
    else Float.ofScientific s.hits false 0 / Float.ofScientific reads false 0

end PacedCalls.Cache
