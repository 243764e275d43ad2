set_option autoImplicit false

namespace PacedCalls

inductive Lookup (V E : Type) where
  | found (value : V)
  | notFound
  | error (e : E)
  deriving DecidableEq, Repr

namespace Lookup

variable {V W E F : Type}

def isFound : Lookup V E → Bool
  | found _ => true
  | _ => false

def isNotFound : Lookup V E → Bool
  | notFound => true
  | _ => false

def isError : Lookup V E → Bool
  | error _ => true
  | _ => false

def value? : Lookup V E → Option V
  | found v => some v
  | _ => none

def same [BEq V] [BEq E] : Lookup V E → Lookup V E → Bool
  | found a, found b => a == b
  | notFound, notFound => true
  | error a, error b => a == b
  | _, _ => false

def toExcept : Lookup V E → Except E (Option V)
  | found v => .ok (some v)
  | notFound => .ok none
  | error e => .error e

def ofOption : Option V → Lookup V E
  | some v => found v
  | none => notFound

def map (f : V → W) : Lookup V E → Lookup W E
  | found v => found (f v)
  | notFound => notFound
  | error e => error e

def mapError (f : E → F) : Lookup V E → Lookup V F
  | found v => found v
  | notFound => notFound
  | error e => error (f e)

/-- What may be kept of a lookup: a value or its absence, but no failure. -/
def settled? : Lookup V E → Option (Option V)
  | found v => some (some v)
  | notFound => some none
  | error _ => none

@[simp]
theorem settled?_ofOption (v : Option V) : (ofOption v : Lookup V E).settled? = some v := by
  cases v <;> rfl

theorem ofOption_of_settled? {l : Lookup V E} {v : Option V} (h : l.settled? = some v) :
    ofOption v = l := by
  cases l <;> simp_all [settled?] <;> subst h <;> rfl

end Lookup

end PacedCalls
