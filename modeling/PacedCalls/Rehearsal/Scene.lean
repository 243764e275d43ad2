import PacedCalls.Event
import PacedCalls.Schedule

set_option autoImplicit false

namespace PacedCalls.Rehearsal

/-- The world `σ` at a moment, what was reported since the step before, and what the last step has
to show. -/
structure Scene (σ ρ : Type) where
  world : σ
  now : Nat := 0
  events : List (Event Float) := []
  shown : Option ρ := none

/-- Work of a group: how long after the group it begins, and how long it may take then. -/
structure Entry (s : Type) where
  work : s
  delay : Nat := 0
  patience : Option Nat := none

/-- The result of work, none if its time was up, and when it was over. -/
structure Ended (α : Type) where
  result : Option α
  moment : Nat

namespace Ended

variable {s α : Type}

/-- What became of a member of a group that was run to its end at an instant. -/
def ofSeat (now : Nat) : Seat s α → Ended α
  | .over result moment => { result := result, moment := moment }
  | _ => { result := none, moment := now }

end Ended

namespace Entry

variable {s t : Type}

def map (f : s → t) (e : Entry s) : Entry t :=
  { work := f e.work, delay := e.delay, patience := e.patience }

def toSeat {α : Type} (now : Nat) (e : Entry s) : Seat s α :=
  .upcoming (now + e.delay) e.patience e.work

end Entry

namespace Scene

variable {σ ρ s α step : Type}

def fresh (sc : Scene σ ρ) : Scene σ ρ := { sc with events := [], shown := none }

def report (sc : Scene σ ρ) (events : List (Event Float)) : Scene σ ρ :=
  { sc with events := sc.events ++ events }

def present (sc : Scene σ ρ) (shown : ρ) : Scene σ ρ := { sc with shown := some shown }

def become (sc : Scene σ ρ) (world : σ) : Scene σ ρ := { sc with world := world }

def advance (sc : Scene σ ρ) (d : Nat) : Scene σ ρ := { sc with now := sc.now + d }

def run (p : Process (Event Float) σ s α) (group : List (Entry s)) (sc : Scene σ ρ) :
    Scene σ ρ × List (Ended α) :=
  let seats := group.map (·.toSeat sc.now)
  let g := Schedule.join p { seats := seats, world := sc.world, now := sc.now }
  ({ sc with world := g.world, now := g.now, events := sc.events ++ g.events.reverse },
    g.seats.map (Ended.ofSeat g.now))

def runOne (p : Process (Event Float) σ s α) (e : Entry s) (sc : Scene σ ρ) :
    Scene σ ρ × Option α :=
  let (sc, ended) := sc.run p [e]
  (sc, ended.head?.bind (·.result))

/-- The scenes of a rehearsal: the first one, and one after each step. -/
def play (take : Scene σ ρ → step → Scene σ ρ) (sc : Scene σ ρ) : List step → List (Scene σ ρ)
  | [] => [sc]
  | x :: rest => sc :: play take (take sc x) rest

end Scene

end PacedCalls.Rehearsal
