import Mathlib.Logic.Relation
import PacedCalls.Cache.ReadAll
import PacedCalls.Proofs.Parts

/-!
A reading room: one cache, the world that its loader works on, a clock, and any number of readers
side by side. Readers come at any time, ask for one key or for many, make their moves in any order,
and may be given up between two moves. In between, keys are dropped from the store, time passes, and
the world of the loader changes by itself.

Beside what the cache keeps, a room remembers which loads returned when, and for each reader which
flights its answers came from. Nothing in the cache depends on that; laws about where an answer
came from are stated with it.
-/

set_option autoImplicit false

namespace PacedCalls.Cache

inductive Inquiry (K : Type) where
  | one (key : K)
  | many (keys : List K)

def Inquiry.keys {K : Type} : Inquiry K → List K
  | one key => [key]
  | many keys => keys

inductive Reader (K V E L B : Type) where
  | one (read : Read K L)
  | many (read : ReadAll K V E L B)

/-- An answer that a reader has got for a key, and the flight that it came from. -/
structure Gain (K V E : Type) where
  key : K
  answer : Lookup V E
  flight : Nat
  own : Bool

structure Landing (K V E : Type) where
  key : K
  flight : Nat
  answer : Lookup V E
  moment : Nat

/-- A reader at work; visitors are numbered in order of arrival. -/
structure Visit (K V E L B : Type) where
  number : Nat
  inquiry : Inquiry K
  reader : Reader K V E L B
  gains : List (Gain K V E) := []

structure Record (K V E : Type) where
  number : Nat
  inquiry : Inquiry K
  answers : List (Lookup V E)
  gains : List (Gain K V E)

/-- The cache, the loader's world, the clock, the readers at work, and what has been so far, newest
first. -/
structure Room (K V E σ L B : Type) where
  cache : State K V E
  world : σ
  now : Nat
  visits : List (Visit K V E L B) := []
  admitted : Nat := 0
  landings : List (Landing K V E) := []
  records : List (Record K V E) := []

section

variable {K V E L B : Type}

def Inquiry.start : Inquiry K → Reader K V E L B
  | one key => .one (.start key)
  | many keys => .many (.start keys)

def Read.guards : Read K L → List (Guard K)
  | .loading g _ => [g]
  | _ => []

def Part.guards : Part K L → List (Guard K)
  | .watching _ _ => []
  | .reading _ read => read.guards

def ReadAll.guards : ReadAll K V E L B → List (Guard K)
  | .looking _ _ => []
  | .claiming _ _ claims _ => claims.owned
  | .loading _ _ _ guards _ _ => guards
  | .joining _ _ _ parts => (parts.filterMap Sum.getLeft?).flatMap Part.guards

def Reader.guards : Reader K V E L B → List (Guard K)
  | .one read => read.guards
  | .many read => read.guards

def Read.calls : Read K L → List (List K)
  | .loading g _ => [[g.key]]
  | _ => []

def Part.calls : Part K L → List (List K)
  | .watching _ _ => []
  | .reading _ read => read.calls

def ReadAll.calls : ReadAll K V E L B → List (List K)
  | .looking _ _ => []
  | .claiming _ _ _ _ => []
  | .loading _ _ _ _ chunks _ =>
    (chunks.filterMap Sum.getLeft?).map fun chunk => chunk.guards.map (·.key)
  | .joining _ _ _ parts => (parts.filterMap Sum.getLeft?).flatMap Part.calls

def Reader.calls : Reader K V E L B → List (List K)
  | .one read => read.calls
  | .many read => read.calls

def ReadAll.Passing : ReadAll K V E L B → Prop
  | .looking _ _ => True
  | .claiming _ _ _ _ => True
  | _ => False

/-- Between its first look and its first suspension: it has not settled yet who loads what. -/
def Reader.Passing : Reader K V E L B → Prop
  | .one (.looking _ _) => True
  | .one (.claiming _ _) => True
  | .one _ => False
  | .many read => read.Passing

def Gain.stored (origin : K → Option Nat) (found : K × Lookup V E) : List (Gain K V E) :=
  (origin found.1).toList.map fun flight =>
    { key := found.1, answer := found.2, flight := flight, own := false }

def Read.gains (origin : K → Option Nat) (answer : Lookup V E) : Read K L → List (Gain K V E)
  | .looking key _ => Gain.stored origin (key, answer)
  | .claiming key _ => Gain.stored origin (key, answer)
  | .loading g _ => [{ key := g.key, answer := answer, flight := g.flight, own := true }]
  | .waiting key flight => [{ key := key, answer := answer, flight := flight, own := false }]

def Part.gains (origin : K → Option Nat) (part : Part K L) (found : K × Lookup V E) :
    List (Gain K V E) :=
  match part with
  | .watching key flight => [{ key := key, answer := found.2, flight := flight, own := false }]
  | .reading _ read => read.gains origin found.2

def Chunk.gains (guards : List (Guard K)) (found : List (K × Lookup V E)) : List (Gain K V E) :=
  guards.zipWith
    (fun g x => { key := g.key, answer := x.2, flight := g.flight, own := true }) found

def ReadAll.seen (keys : List K) (slots : List (Option (Lookup V E))) : List (K × Lookup V E) :=
  (keys.zip slots).filterMap fun (key, slot) => slot.map (key, ·)

def ReadAll.gains (origin : K → Option Nat) :
    ReadAll K V E L B → ReadAll K V E L B → List (Gain K V E)
  | .looking keys slots, .looking _ slots' =>
    ((seen keys slots').drop (seen keys slots).length).flatMap (Gain.stored origin)
  | .claiming _ _ claims _, .claiming _ _ claims' _ =>
    (claims'.resolved.drop claims.resolved.length).flatMap (Gain.stored origin)
  | .loading _ _ _ _ chunks _, .loading _ _ _ _ chunks' _ =>
    Process.ofEnded (fun chunk => Chunk.gains chunk.guards) chunks chunks'
  | .joining _ _ _ parts, .joining _ _ _ parts' =>
    Process.ofEnded (Part.gains origin) parts parts'
  | _, _ => []

def Reader.gains (origin : K → Option Nat) :
    Reader K V E L B → Reader K V E L B → List (Gain K V E)
  | .many read, .many read' => read.gains origin read'
  | _, _ => []

def Reader.lastGains (origin : K → Option Nat) (answers : List (Lookup V E)) :
    Reader K V E L B → List (Gain K V E)
  | .one read => answers.flatMap (read.gains origin)
  | .many _ => []

def Gain.landing? (now : Nat) (x : Gain K V E) : Option (Landing K V E) :=
  if x.own then some { key := x.key, flight := x.flight, answer := x.answer, moment := now } else none

def landed (now : Nat) (gains : List (Gain K V E)) (landings : List (Landing K V E)) :
    List (Landing K V E) :=
  (gains.filterMap (Gain.landing? now)).reverse ++ landings

/-- The flight that a key's stored answer came from: the last one that landed with an answer that
may be stored. -/
def origin [DecidableEq K] (landings : List (Landing K V E)) (key : K) : Option Nat :=
  (landings.find? fun l => l.key = key && l.answer.settled?.isSome).map (·.flight)

end

section

variable {R K V E σ L B : Type}

def Reader.process [DecidableEq K] (loader : Loader (Event R) K V E σ L B) :
    Process (Event R) (State K V E × σ) (Reader K V E L B) (List (Lookup V E)) where
  move now reader w :=
    match reader with
    | .one read => ((Read.process loader).move now read w).lift .one ([·]) id
    | .many read => ((ReadAll.process loader).move now read w).lift .many id id
  abandon reader w :=
    match reader with
    | .one read => (Read.process loader).abandon read w
    | .many read => (ReadAll.process loader).abandon read w

theorem ReadAll.passes_many [DecidableEq K] {loader : Loader (Event R) K V E σ L B} {now n : Nat}
    {read read' : ReadAll K V E L B} {x x' : State K V E × σ}
    (h : (process loader).Passes Passing now n read x read' x') :
    (Reader.process loader).Passes Reader.Passing now n (.many read) x (.many read') x' := by
  induction h with
  | done read x => exact .done _ x
  | goes here move _ ih => exact .goes here (by simp only [Reader.process, move]; rfl) ih

namespace Room

def opening (c : Config) (world : σ) (now : Nat) : Room K V E σ L B :=
  { cache := .ofConfig c, world := world, now := now }

def origin [DecidableEq K] (room : Room K V E σ L B) : K → Option Nat :=
  Cache.origin room.landings

def guards (room : Room K V E σ L B) : List (Guard K) := room.visits.flatMap (·.reader.guards)

def calls (room : Room K V E σ L B) : List (List K) := room.visits.flatMap (·.reader.calls)

def invalidate [DecidableEq K] (room : Room K V E σ L B) (key : K) : Room K V E σ L B :=
  { room with cache := room.cache.invalidate key }

def invalidateAll (room : Room K V E σ L B) : Room K V E σ L B :=
  { room with cache := room.cache.invalidateAll }

def arrive (room : Room K V E σ L B) (inquiry : Inquiry K) : Room K V E σ L B :=
  { room with
    visits := room.visits ++
      [{ number := room.admitted, inquiry := inquiry, reader := inquiry.start }]
    admitted := room.admitted + 1 }

/-- One step of a room; `outside` says how the loader's world may change by itself. -/
inductive Step [DecidableEq K] (loader : Loader (Event R) K V E σ L B) (outside : σ → σ → Prop)
    (room : Room K V E σ L B) : Room K V E σ L B → Prop where
  | arrive (inquiry : Inquiry K) : Step loader outside room (room.arrive inquiry)
  | move (before after : List (Visit K V E L B)) (v : Visit K V E L B) (reader : Reader K V E L B)
      (cache : State K V E) (world : σ) (events : List (Event R))
      (here : room.visits = before ++ v :: after)
      (moves : (Reader.process loader).move room.now v.reader (room.cache, room.world) =
        .goes reader (cache, world) events) :
      Step loader outside room
        { room with
          cache := cache
          world := world
          visits := before ++
            { v with
              reader := reader
              gains := v.gains ++ v.reader.gains room.origin reader } :: after
          landings := landed room.now (v.reader.gains room.origin reader) room.landings }
  | finish (before after : List (Visit K V E L B)) (v : Visit K V E L B)
      (answers : List (Lookup V E)) (cache : State K V E) (world : σ) (events : List (Event R))
      (here : room.visits = before ++ v :: after)
      (moves : (Reader.process loader).move room.now v.reader (room.cache, room.world) =
        .ends answers (cache, world) events) :
      Step loader outside room
        { room with
          cache := cache
          world := world
          visits := before ++ after
          landings := landed room.now (v.reader.lastGains room.origin answers) room.landings
          records :=
            { number := v.number
              inquiry := v.inquiry
              answers := answers
              gains := v.gains ++ v.reader.lastGains room.origin answers } :: room.records }
  | cancel (before after : List (Visit K V E L B)) (v : Visit K V E L B) (cache : State K V E)
      (world : σ) (here : room.visits = before ++ v :: after)
      (leaves : (Reader.process loader).abandon v.reader (room.cache, room.world) =
        (cache, world)) :
      Step loader outside room
        { room with cache := cache, world := world, visits := before ++ after }
  | invalidate (key : K) : Step loader outside room (room.invalidate key)
  | invalidateAll : Step loader outside room room.invalidateAll
  | wait (later : Nat) (h : room.now ≤ later) : Step loader outside room { room with now := later }
  | outside (world : σ) (h : outside room.world world) :
      Step loader outside room { room with world := world }

def Reach [DecidableEq K] (loader : Loader (Event R) K V E σ L B) (outside : σ → σ → Prop) :
    Room K V E σ L B → Room K V E σ L B → Prop :=
  Relation.ReflTransGen (Step loader outside)

end Room

end

end PacedCalls.Cache
