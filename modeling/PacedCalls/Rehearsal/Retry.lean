import PacedCalls.Rehearsal.Scene
import PacedCalls.Retry.Loop

set_option autoImplicit false

namespace PacedCalls.Rehearsal

/-- Results to play back, each some time after it is asked for; the last one is repeated. -/
structure Playback (α : Type) where
  lines : List (Nat × Except CallError α)
  /-- When a result was asked for, newest first. -/
  starts : List Nat := []

namespace Playback

variable {α : Type}

def next (ν : Type) (now : Nat) (p : Playback α) :
    Move ν (Playback α) (Option (Nat × Except CallError α)) (Except CallError α) :=
  match p.lines with
  | [] => .waits none
  | (delay, result) :: rest =>
    .goes (some (Instant.after now delay, result))
      { lines := if rest.isEmpty then p.lines else rest, starts := now :: p.starts } []

def process (ν : Type) :
    Process ν (Playback α) (Option (Nat × Except CallError α)) (Except CallError α) where
  move now st p :=
    match st with
    | none => p.next ν now
    | some (due, result) =>
      if Instant.due due now then .ends result p [] else .waits (some due)

/-- Runs the retry loop over a playback, for so long at most. The result is none if the time was
up. -/
def run (policy : Retry.Policy Float) (target : String) (patience : Nat) (p : Playback α) :
    Scene (Playback α) Unit × Option (Except CallError α) :=
  ({ world := p } : Scene (Playback α) Unit).runOne
    (Retry.loop policy target (process (Event Float)) none)
    { work := .start none, patience := some patience }

end Playback

end PacedCalls.Rehearsal
