import PacedCalls.Retry.Backoff

set_option autoImplicit false

namespace PacedCalls.Retry

structure Policy (R : Type) where
  enabled : Bool := true
  /-- Thirty seconds between attempts unless told otherwise. -/
  backoff : Backoff R := .constant (Duration.ofSecs 30)
  /-- The number of attempts; without one it retries for ever. -/
  maxAttempts : Option Nat := none
  deriving DecidableEq

namespace Policy

variable {R : Type}

def disabled : Policy R := { enabled := false }

def fixed (wait : Nat) : Policy R := { backoff := .constant wait }

def linear (step most : Nat) : Policy R := { backoff := .linear step most }

def exponential [Scalar R] (initial most : Nat) : Policy R :=
  { backoff := .exponential initial most (Scalar.ofNat 2) }

def withMaxAttempts (p : Policy R) (n : Nat) : Policy R := { p with maxAttempts := some (max n 1) }

def withBackoff (p : Policy R) (b : Backoff R) : Policy R := { p with backoff := b }

def listing (p : Policy Float) : String :=
  "RetryConfig \x7b enabled: " ++ (if p.enabled then "true" else "false") ++
    ", backoff: " ++ p.backoff.listing ++
    ", max_attempts: " ++
      (match p.maxAttempts with
        | none => "None"
        | some n => "Some(" ++ Nat.repr n ++ ")") ++ " \x7d"

end Policy

end PacedCalls.Retry
