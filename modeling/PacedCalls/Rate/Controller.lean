import PacedCalls.Event
import PacedCalls.Rate.Limits

/-!
The controller that paces calls. Each caller reserves a slot, one gap after the slot reserved
before it, and waits for it; feedback on how the calls went moves the rate. A slot once reserved
stays reserved, whether or not its caller waits to the end.
-/

set_option autoImplicit false

namespace PacedCalls.Rate

structure Controller (R : Type) where
  limits : Limits R
  lastSlot : Option Nat := none
  granted : Nat := 0
  increases : Nat := 0
  decreases : Nat := 0
  deriving DecidableEq

namespace Controller

variable {R : Type} [Scalar R]

def ofConfig (c : Config R) : Controller R := { limits := Limits.ofConfig c }

def create (c : Config R) : Except (ConfigError R) (Controller R × List (Event R)) := do
  c.validate
  .ok (ofConfig c, [.controllerCreated c.base c.min])

/-- Reserves the next slot: one gap after the last one, but not in the past. Time has no end here:
that a slot past the end of the clock is the last one once more is left out. -/
def reserve (c : Controller R) (now : Nat) : Nat × Controller R :=
  let slot := match c.lastSlot with
    | some last => max (last + gap c.limits.current) now
    | none => now
  (slot, { c with lastSlot := some slot })

def grant (c : Controller R) : Controller R := { c with granted := c.granted + 1 }

def adjustEvents (direction : Direction) (old new : R) : List (Event R) :=
  if Scalar.lt old new || Scalar.lt new old then [.rateAdjusted direction old new] else []

def increase (c : Controller R) : Controller R × List (Event R) :=
  let limits := c.limits.raise
  ({ c with limits := limits, increases := c.increases + 1 },
    adjustEvents .increase c.limits.current limits.current)

def decrease (c : Controller R) : Controller R × List (Event R) :=
  let limits := c.limits.lower
  ({ c with limits := limits, decreases := c.decreases + 1 },
    adjustEvents .decrease c.limits.current limits.current)

def setBase (c : Controller R) (base : R) :
    Except (ConfigError R) (Controller R × List (Event R)) := do
  let limits ← c.limits.setBase base
  .ok ({ c with limits := limits }, [.ceilingChanged limits.base limits.current])

def setMin (c : Controller R) (min : R) :
    Except (ConfigError R) (Controller R × List (Event R)) := do
  let limits ← c.limits.setMin min
  .ok ({ c with limits := limits }, [.floorChanged limits.min limits.current])

def reset (c : Controller R) : Controller R := { c with limits := c.limits.reset }

end Controller

def Controller.jsonText (c : Controller Float) : String :=
  "\x7b\"current_rate\":" ++ Json.numberText c.limits.current ++
    ",\"base_rate\":" ++ Json.numberText c.limits.base ++
    ",\"min_rate\":" ++ Json.numberText c.limits.min ++
    ",\"permits_granted\":" ++ Nat.repr c.granted ++
    ",\"increases\":" ++ Nat.repr c.increases ++
    ",\"decreases\":" ++ Nat.repr c.decreases ++ "\x7d"

def Controller.listing (c : Controller Float) : String :=
  let number := Decimal.Layout.listing.text
  "RateSnapshot \x7b current_rate: " ++ number c.limits.current ++
    ", base_rate: " ++ number c.limits.base ++
    ", min_rate: " ++ number c.limits.min ++
    ", permits_granted: " ++ Nat.repr c.granted ++
    ", increases: " ++ Nat.repr c.increases ++
    ", decreases: " ++ Nat.repr c.decreases ++ " \x7d"

end PacedCalls.Rate
