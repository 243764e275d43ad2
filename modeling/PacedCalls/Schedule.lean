import PacedCalls.Process
import PacedCalls.Time

/-!
Processes side by side on one clock. In a round every member goes on as far as it can, in order,
and is cut off if its time is up by then; there is another round as long as one changed something,
and when none does the clock goes on to the next instant that somebody waits for.
-/

set_option autoImplicit false

namespace PacedCalls

inductive Seat (s α : Type) where
  /-- Begins at an instant, and may then take so many nanoseconds. -/
  | upcoming (start : Nat) (patience : Option Nat) (state : s)
  | running (deadline : Option Nat) (state : s)
  | over (result : Option α) (moment : Nat)

/-- A group of processes, the world they share, the clock, and what they reported, newest
first. -/
structure Group (ν σ s α : Type) where
  seats : List (Seat s α)
  world : σ
  now : Nat
  events : List ν := []

namespace Schedule

variable {ν σ s α : Type}

def limit : Nat := 1000000000000

def turnRunning (p : Process ν σ s α) (now : Nat) (deadline : Option Nat) (st : s) (w : σ)
    (events : List ν) : Seat s α × σ × List ν :=
  match p.advance now limit st w events with
  | .ended a w events => (.over (some a) now, w, events)
  | .waiting st w events =>
    if deadline.any (Instant.due · now) then (.over none now, p.abandon st w, events)
    else (.running deadline st, w, events)

def turn (p : Process ν σ s α) (now : Nat) (seat : Seat s α) (w : σ) (events : List ν) :
    Seat s α × σ × List ν :=
  match seat with
  | .upcoming start patience st =>
    if Instant.due start now then
      turnRunning p now (patience.map (Instant.after now)) st w events
    else (seat, w, events)
  | .running deadline st => turnRunning p now deadline st w events
  | .over _ _ => (seat, w, events)

def ready (p : Process ν σ s α) (now : Nat) (w : σ) : Seat s α → Bool
  | .upcoming start _ _ => Instant.due start now
  | .running deadline st =>
    deadline.any (Instant.due · now) ||
      match p.move now st w with
      | .waits _ => false
      | _ => true
  | .over _ _ => false

def turns (p : Process ν σ s α) (now : Nat) :
    List (Seat s α) → σ → List ν → List (Seat s α) × σ × List ν
  | [], w, events => ([], w, events)
  | seat :: rest, w, events =>
    let (seat, w, events) := turn p now seat w events
    let (rest, w, events) := turns p now rest w events
    (seat :: rest, w, events)

def wake (p : Process ν σ s α) (now : Nat) (w : σ) : Seat s α → Option Nat
  | .upcoming start _ _ => some start
  | .running deadline st => earlier (p.wake now st w) deadline
  | .over _ _ => none

def nextWake (p : Process ν σ s α) (g : Group ν σ s α) : Option Nat :=
  g.seats.foldl (fun acc seat => earlier acc (wake p g.now g.world seat)) none

/-- Rounds until every member is over, or waits for something that nobody will do. -/
def run (p : Process ν σ s α) : (fuel : Nat) → Group ν σ s α → Group ν σ s α
  | 0, g => g
  | fuel + 1, g =>
    if g.seats.any (ready p g.now g.world) then
      let (seats, world, events) := turns p g.now g.seats g.world g.events
      run p fuel { g with seats := seats, world := world, events := events }
    else
      match nextWake p g with
      | some moment => run p fuel { g with now := max g.now (Instant.tick moment) }
      | none => g

def join (p : Process ν σ s α) (g : Group ν σ s α) : Group ν σ s α := run p limit g

def alone (now : Nat) (st : s) : Seat s α := .upcoming now none st

end Schedule

end PacedCalls
