import PacedCalls.Decimal.Layout
import PacedCalls.Json.Printer
import PacedCalls.Json.Reader
import PacedCalls.Scalar

set_option autoImplicit false

namespace PacedCalls.Rate

inductive Bound where
  | base
  | min
  deriving DecidableEq, Repr

def Bound.name : Bound → String
  | base => "base_rate"
  | min => "min_rate"

inductive ConfigError (R : Type) where
  | invalidRate (bound : Bound) (value : R)
  | invertedBounds (min base : R)
  deriving DecidableEq

def ConfigError.message : ConfigError Float → String
  | invalidRate bound value =>
    "Invalid rate " ++ Decimal.Layout.message.text value ++ " for " ++ bound.name ++
      ": must be finite and greater than 0"
  | invertedBounds min base =>
    "Rate configuration error: min rate " ++ Decimal.Layout.message.text min ++
      " exceeds base rate " ++ Decimal.Layout.message.text base

/-- The ceiling, at which a controller starts, and the floor, in permits per second. -/
structure Config (R : Type) where
  base : R
  min : R
  deriving DecidableEq

section

variable {R : Type} [Scalar R]

def checkRate (bound : Bound) (value : R) : Except (ConfigError R) R :=
  if Scalar.isUsable value then .ok value else .error (.invalidRate bound value)

def checkBounds (min base : R) : Except (ConfigError R) Unit :=
  if Scalar.le min base then .ok () else .error (.invertedBounds min base)

/-- The ceiling is looked at first, then the floor, then their order. -/
def Config.validate (c : Config R) : Except (ConfigError R) Unit := do
  let _ ← checkRate .base c.base
  let _ ← checkRate .min c.min
  checkBounds c.min c.base

end

/-- High enough not to matter, and a floor that keeps calls trickling. -/
def Config.standard : Config Float := { base := 1000, min := Float.ofScientific 1 true 2 }

def Config.jsonText (c : Config Float) : String :=
  "\x7b\"base_rate\":" ++ Json.numberText c.base ++ ",\"min_rate\":" ++ Json.numberText c.min ++
    "\x7d"

def Config.ofJson? (text : Bytes) : Option (Config Float) := do
  let values ← Json.readRecord? ["base_rate", "min_rate"] text
  match values with
  | [base, min] => do
    let base ← base.number?
    let min ← min.number?
    some { base := base, min := min }
  | _ => none

end PacedCalls.Rate
