import PacedCalls.Cache.Basic
import PacedCalls.Cache.Loader
import PacedCalls.Event

set_option autoImplicit false

namespace PacedCalls.Cache

/-- A read of one key under way. The store is locked for each look by itself, so others may do
something between the first look and the claim, and time may pass. -/
inductive Read (K L : Type) where
  /-- About to look into the store; the flag says whether the miss is counted already. -/
  | looking (key : K) (missed : Bool)
  /-- The key was not found; who loads it is still to be settled. -/
  | claiming (key : K) (missed : Bool)
  | loading (guard : Guard K) (state : L)
  | waiting (key : K) (flight : Nat)

/-- A load of one key has ended: a settled result is stored, every result is published, and the
guard goes. -/
def State.settle {K V E : Type} [DecidableEq K] (s : State K V E) (g : Guard K)
    (result : Lookup V E) (now : Nat) : State K V E :=
  let s := match result.settled? with
    | some value => s.insert g.key value now
    | none => s.countLoadFailure
  (s.publish g result).retire g

theorem State.settle_store {K V E : Type} [DecidableEq K] (s : State K V E) (g : Guard K)
    (result : Lookup V E) (now : Nat) :
    (s.settle g result now).store =
      match result.settled? with
      | some value => (s.store.insert g.key value now).2
      | none => s.store := by
  simp only [settle, retire_store, publish]
  cases result.settled? with
  | some value => exact s.insert_store g.key value now
  | none => rfl

namespace Read

variable {R K V E σ L B : Type} [DecidableEq K]

def claim (loader : Loader (Event R) K V E σ L B) (now : Nat) (key : K) (missed : Bool)
    (s : State K V E) (w : σ) : Move (Event R) (State K V E × σ) (Read K L) (Lookup V E) :=
  match s.claim key now with
  | (.stored result, s) => .ends result (s, w) []
  | (.owner g, s) =>
    let s := if missed then s else s.countMiss
    .goes (loading g (loader.begin key)) (s.countLoads 1, w) []
  | (.joined flight, s) =>
    let s := if missed then s else s.countMiss
    .goes (waiting key flight) (s.countJoin, w) [.loadJoined]

def process (loader : Loader (Event R) K V E σ L B) :
    Process (Event R) (State K V E × σ) (Read K L) (Lookup V E) where
  move now st w :=
    match st with
    | looking key missed =>
      match w.1.readStore key now with
      | (some hit, s) => .ends hit (s, w.2) []
      | (none, s) => .goes (claiming key missed) (s, w.2) []
    | claiming key missed => claim loader now key missed w.1 w.2
    | loading g l =>
      match loader.load.move now l w.2 with
      | .waits wake => .waits wake
      | .goes l w' events => .goes (loading g l) (w.1, w') events
      | .ends result w' events =>
        .ends result (w.1.settle g result now, w')
          (events ++ if result.isError then [.loadFailed] else [])
    | waiting key flight =>
      match w.1.flight flight with
      | .aloft => .waits none
      | .landed result => .ends result w []
      | .lost => .goes (looking key true) w [.loadAbandoned]
  abandon st w :=
    match st with
    | loading g l => (w.1.retire g, loader.load.abandon l w.2)
    | _ => w

def start (key : K) : Read K L := .looking key false

end Read

end PacedCalls.Cache
