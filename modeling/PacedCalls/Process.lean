/-!
Resumable work. A process is looked at at some instant; it moves, or it waits for a later instant
or for another process. What it does between two waits it does at one instant. A process that is
given up in the middle is abandoned, and may have to put something back.
-/

set_option autoImplicit false

namespace PacedCalls

/-- What comes of one move: states `s`, a world `σ` that processes share, results `α`, and reports
of type `ν`. -/
inductive Move (ν σ s α : Type) where
  /-- Nothing to do before an instant, or before another process has done something. -/
  | waits (wake : Option Nat)
  | goes (state : s) (world : σ) (events : List ν)
  | ends (value : α) (world : σ) (events : List ν)

/-- The earlier of two instants, where none means never. -/
def earlier : Option Nat → Option Nat → Option Nat
  | none, b => b
  | a, none => a
  | some a, some b => some (min a b)

namespace Move

variable {ν σ τ s t α β : Type}

/-- A move seen from outside: states and results wrapped, the world put into a larger one. -/
def lift (state : s → t) (value : α → β) (world : σ → τ) : Move ν σ s α → Move ν τ t β
  | waits wake => waits wake
  | goes s w events => goes (state s) (world w) events
  | ends a w events => ends (value a) (world w) events

end Move

structure Process (ν σ s α : Type) where
  move : (now : Nat) → s → σ → Move ν σ s α
  abandon : s → σ → σ := fun _ w => w

structure Lens (σ τ : Type) where
  get : σ → τ
  set : τ → σ → σ

namespace Process

variable {ν σ τ s t α β : Type}

def map (p : Process ν σ s α) (f : α → β) : Process ν σ s β where
  move now st w := (p.move now st w).lift id f id
  abandon := p.abandon

def thenReport (p : Process ν σ s α) (f : α → List ν) : Process ν σ s α where
  move now st w :=
    match p.move now st w with
    | .ends a w events => .ends a w (events ++ f a)
    | other => other
  abandon := p.abandon

/-- The same work with a report before its first move; the flag says that it is still to come. -/
def announce (p : Process ν σ s α) (events : List ν) : Process ν σ (Bool × s) α where
  move now st w :=
    if st.1 then .goes (false, st.2) w events
    else (p.move now st.2 w).lift (false, ·) id id
  abandon st w := p.abandon st.2 w

def on (p : Process ν τ s α) (lens : Lens σ τ) : Process ν σ s α where
  move now st w := (p.move now st (lens.get w)).lift id id (lens.set · w)
  abandon st w := lens.set (p.abandon st (lens.get w)) w

def either (p : Process ν σ s α) (q : Process ν σ t α) : Process ν σ (s ⊕ t) α where
  move now st w :=
    match st with
    | .inl st => (p.move now st w).lift Sum.inl id id
    | .inr st => (q.move now st w).lift Sum.inr id id
  abandon st w :=
    match st with
    | .inl st => p.abandon st w
    | .inr st => q.abandon st w

/-- Lets the first part move that can; the world is as the parts before it left it. -/
def moveFirst (p : Process ν σ s α) (now : Nat) :
    List (s ⊕ α) → σ → Move ν σ (List (s ⊕ α)) (List (s ⊕ α))
  | [], _ => .waits none
  | .inr a :: rest, w => (moveFirst p now rest w).lift (.inr a :: ·) (.inr a :: ·) id
  | .inl st :: rest, w =>
    match p.move now st w with
    | .goes st w events => .goes (.inl st :: rest) w events
    | .ends a w events => .goes (.inr a :: rest) w events
    | .waits wake =>
      match moveFirst p now rest w with
      | .waits wake' => .waits (earlier wake wake')
      | other => other.lift (.inl st :: ·) (.inl st :: ·) id

def results? : List (s ⊕ α) → Option (List α)
  | [] => some []
  | .inr a :: rest => (results? rest).map (a :: ·)
  | .inl _ :: _ => none

def abandonAll (p : Process ν σ s α) : List (s ⊕ α) → σ → σ
  | [], w => w
  | .inr _ :: rest, w => abandonAll p rest w
  | .inl st :: rest, w => abandonAll p rest (p.abandon st w)

/-- Parts side by side, the earlier ones first; ends when all have ended. -/
def all (p : Process ν σ s α) : Process ν σ (List (s ⊕ α)) (List α) where
  move now parts w :=
    match results? parts with
    | some values => .ends values w []
    | none =>
      match moveFirst p now parts w with
      | .waits wake => .waits wake
      | .goes parts w events => .goes parts w events
      | .ends parts w events => .goes parts w events
  abandon := abandonAll p

inductive Stop (ν σ s α : Type) where
  | waiting (state : s) (world : σ) (events : List ν)
  | ended (value : α) (world : σ) (events : List ν)

/-- Moves as far as possible at one instant, `fuel` bounds the number of moves. Reports are
collected in front of `events`, the newest first. -/
def advance (p : Process ν σ s α) (now : Nat) :
    (fuel : Nat) → s → σ → (events : List ν) → Stop ν σ s α
  | 0, st, w, events => .waiting st w events
  | fuel + 1, st, w, events =>
    match p.move now st w with
    | .waits _ => .waiting st w events
    | .goes st w more => advance p now fuel st w (more.reverse ++ events)
    | .ends a w more => .ended a w (more.reverse ++ events)

def wake (p : Process ν σ s α) (now : Nat) (st : s) (w : σ) : Option Nat :=
  match p.move now st w with
  | .waits wake => wake
  | _ => some now

end Process

end PacedCalls
