import PacedCalls.Decimal.Layout
import PacedCalls.Scalar

set_option autoImplicit false

namespace PacedCalls.Retry

def lastAttempt : Nat := 4294967295

/-- Waits between attempts; durations in nanoseconds. -/
inductive Backoff (R : Type) where
  | constant (wait : Nat)
  | linear (step most : Nat)
  | exponential (initial most : Nat) (factor : R)
  deriving DecidableEq

namespace Backoff

variable {R : Type} [Scalar R]

/-- The wait after attempt `n`, attempts counted from zero. The growing wait is counted in
milliseconds, and bounded as soon as it is not below the bound. -/
def delay (b : Backoff R) (n : Nat) : Nat :=
  match b with
  | constant wait => wait
  | linear step most => min (Duration.saturatingMul step (min (n + 1) lastAttempt)) most
  | exponential initial most factor =>
    let growth := Scalar.pow factor (min n 2147483647)
    let millis := Scalar.mul (Scalar.ofNat (Duration.toMillis initial)) growth
    if Scalar.isFinite millis && Scalar.lt millis (Scalar.ofNat (Duration.toMillis most)) then
      Duration.ofMillis (Scalar.whole millis)
    else most

def listing : Backoff Float → String
  | constant wait => "Constant(" ++ Duration.text wait ++ ")"
  | linear step most =>
    "Linear \x7b delay: " ++ Duration.text step ++ ", max: " ++ Duration.text most ++ " \x7d"
  | exponential initial most factor =>
    "Exponential \x7b initial: " ++ Duration.text initial ++ ", max: " ++ Duration.text most ++
      ", multiplier: " ++ Decimal.Layout.listing.text factor ++ " \x7d"

end Backoff

end PacedCalls.Retry
