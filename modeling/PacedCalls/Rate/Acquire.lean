import PacedCalls.Process
import PacedCalls.Rate.Controller

set_option autoImplicit false

namespace PacedCalls.Rate

inductive Acquire where
  | asking
  | waiting (slot : Nat)
  deriving DecidableEq, Repr

namespace Acquire

variable {R : Type} [Scalar R]

def process : Process (Event R) (Controller R) Acquire Nat where
  move now st c :=
    match st with
    | asking =>
      let (slot, c) := c.reserve now
      if now < slot then .goes (waiting slot) c [.permitAwaited (slot - now)]
      else .ends now c.grant []
    | waiting slot => if Instant.due slot now then .ends now c.grant [] else .waits (some slot)

end Acquire

end PacedCalls.Rate
