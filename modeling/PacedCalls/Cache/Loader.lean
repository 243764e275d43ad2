import PacedCalls.Lookup
import PacedCalls.Process

set_option autoImplicit false

namespace PacedCalls.Cache

def standardBatch : Nat := 100

/-- A loader in a world `σ`; `L` and `B` are the states of a single load and of a batch. A batch
gives the values that were found; a key that it leaves out has none. -/
structure Loader (ν K V E σ L B : Type) where
  load : Process ν σ L (Lookup V E)
  begin : K → L
  loadBatch : Process ν σ B (Except E (List (K × V)))
  beginBatch : List K → B
  maxBatch : Nat := standardBatch

/-- Puts a value into a list of found values, in the place of an earlier one. -/
def putFound {K V : Type} [DecidableEq K] (key : K) (value : V) : List (K × V) → List (K × V)
  | [] => [(key, value)]
  | (k, v) :: rest => if k = key then (key, value) :: rest else (k, v) :: putFound key value rest

/-- The values found for a list of keys, or the first failure in the order of the keys. -/
def collect {K V E : Type} [DecidableEq K] (found : List (K × V)) :
    List (K × Lookup V E) → Except E (List (K × V))
  | [] => .ok found
  | (k, .found v) :: rest => collect (putFound k v found) rest
  | (_, .notFound) :: rest => collect found rest
  | (_, .error e) :: _ => .error e

/-- Loads one after another: the key being loaded, those to come, and what was found. -/
structure Sequence (K V L : Type) where
  current : Option (K × L)
  upcoming : List K
  found : List (K × V) := []

namespace Sequence

variable {ν K V E σ L : Type}

def next (begin : K → L) (found : List (K × V)) : List K → Sequence K V L
  | [] => { current := none, upcoming := [], found := found }
  | k :: rest => { current := some (k, begin k), upcoming := rest, found := found }

def process [DecidableEq K] (load : Process ν σ L (Lookup V E)) (begin : K → L) :
    Process ν σ (Sequence K V L) (Except E (List (K × V))) where
  move now st w :=
    match st.current with
    | none => .ends (.ok st.found) w []
    | some (k, l) =>
      match load.move now l w with
      | .waits wake => .waits wake
      | .goes l w events => .goes { st with current := some (k, l) } w events
      | .ends result w events =>
        match result with
        | .found v => .goes (next begin (putFound k v st.found) st.upcoming) w events
        | .notFound => .goes (next begin st.found st.upcoming) w events
        | .error e => .ends (.error e) w events
  abandon st w :=
    match st.current with
    | none => w
    | some (_, l) => load.abandon l w

end Sequence

namespace Loader

variable {ν K V E σ L : Type}

def ofLoad [DecidableEq K] (load : Process ν σ L (Lookup V E)) (begin : K → L) :
    Loader ν K V E σ L (Sequence K V L) where
  load := load
  begin := begin
  loadBatch := Sequence.process load begin
  beginBatch := Sequence.next begin []

end Loader

end PacedCalls.Cache
