import PacedCalls.Rate.Config

set_option autoImplicit false

namespace PacedCalls.Rate

structure Limits (R : Type) where
  current : R
  base : R
  min : R
  deriving DecidableEq

namespace Limits

variable {R : Type} [Scalar R]

def ofConfig (c : Config R) : Limits R := { current := c.base, base := c.base, min := c.min }

def clamp (l : Limits R) (rate : R) : R := Scalar.clamp rate l.min l.base

def raise (l : Limits R) : Limits R :=
  { l with current := l.clamp (Scalar.mul l.current (Scalar.ofNat 2)) }

def lower (l : Limits R) : Limits R :=
  { l with current := l.clamp (Scalar.div l.current (Scalar.ofNat 2)) }

def setBase (l : Limits R) (base : R) : Except (ConfigError R) (Limits R) := do
  let base ← checkRate .base base
  checkBounds l.min base
  let share := Scalar.div l.current l.base
  let moved := { l with base := base }
  .ok { moved with current := moved.clamp (Scalar.mul share base) }

def setMin (l : Limits R) (min : R) : Except (ConfigError R) (Limits R) := do
  let min ← checkRate .min min
  checkBounds min l.base
  let moved := { l with min := min }
  .ok { moved with current := moved.clamp moved.current }

def reset (l : Limits R) : Limits R := { l with current := l.base }

end Limits

def longestGap : Nat := Duration.ofSecs (24 * 60 * 60)

def gap {R : Type} [Scalar R] (rate : R) : Nat :=
  match Scalar.nanos? (Scalar.div (Scalar.ofNat 1) rate) with
  | some d => min d longestGap
  | none => longestGap

end PacedCalls.Rate
