import PacedCalls.Cache.Read

/-!
Reads of many keys. Keys that are not stored are loaded in batches, side by side, except those that
others are loading; for these the reader waits once its own batches are done, so that two readers
never wait for each other.
-/

set_option autoImplicit false

namespace PacedCalls.Cache

structure Chunk (K B : Type) where
  guards : List (Guard K)
  state : B

/-- A key that another reader was loading: waited for, or read anew after that one gave up. -/
inductive Part (K L : Type) where
  | watching (key : K) (flight : Nat)
  | reading (key : K) (read : Read K L)

structure Claims (K V E : Type) where
  resolved : List (K × Lookup V E) := []
  owned : List (Guard K) := []
  joined : List (K × Nat) := []

def Claims.add {K V E : Type} (c : Claims K V E) (key : K) : Claim K V E → Claims K V E
  | .stored result => { c with resolved := c.resolved ++ [(key, result)] }
  | .owner g => { c with owned := c.owned ++ [g] }
  | .joined flight => { c with joined := c.joined ++ [(key, flight)] }

/-- A read of many keys under way. A slot holds what the first look at the store gave for its
position. Each look and each claim is a move of its own: the store is locked for each by itself. -/
inductive ReadAll (K V E L B : Type) where
  | looking (keys : List K) (slots : List (Option (Lookup V E)))
  | claiming (keys : List K) (slots : List (Option (Lookup V E))) (claims : Claims K V E)
      (wanted : List K)
  | loading (keys : List K) (slots : List (Option (Lookup V E))) (resolved : List (K × Lookup V E))
      (guards : List (Guard K)) (chunks : List (Chunk K B ⊕ List (K × Lookup V E)))
      (joined : List (K × Nat))
  | joining (keys : List K) (slots : List (Option (Lookup V E))) (resolved : List (K × Lookup V E))
      (parts : List (Part K L ⊕ (K × Lookup V E)))

/-- A list cut into pieces of a size; `fuel` need not be larger than its length. -/
def chunksOf {α : Type} (size : Nat) : (fuel : Nat) → List α → List (List α)
  | 0, _ => []
  | _ + 1, [] => []
  | fuel + 1, xs => xs.take size :: chunksOf size fuel (xs.drop size)

namespace State

variable {K V E : Type}

/-- A claimed key counts as a miss, unless it was stored by then. -/
def countClaim (s : State K V E) : Claim K V E → State K V E
  | .stored _ => s
  | .owner _ => s.countMiss
  | .joined _ => s.countMiss.countJoin

variable [DecidableEq K]

/-- A batch has ended. A key that it left out is stored as absent; a failed batch stores nothing
and answers all its keys. Results are published, but the guards stay. -/
def settleChunk (s : State K V E) (now : Nat) (result : Except E (List (K × V))) :
    List (Guard K) → List (K × Lookup V E) × State K V E
  | [] => ([], s)
  | g :: rest =>
    let (answer, s) := match result with
      | .ok found =>
        let value := found.lookup g.key
        (Lookup.ofOption value, s.insert g.key value now)
      | .error e => (Lookup.error e, s)
    let (answers, s) := settleChunk (s.publish g answer) now result rest
    ((g.key, answer) :: answers, s)

def retireAll (s : State K V E) (guards : List (Guard K)) : State K V E :=
  guards.foldl State.retire s

end State

section

variable {R K V E σ L B : Type} [DecidableEq K]

def Chunk.process (loader : Loader (Event R) K V E σ L B) :
    Process (Event R) (State K V E × σ) (Chunk K B) (List (K × Lookup V E)) where
  move now chunk w :=
    match loader.loadBatch.move now chunk.state w.2 with
    | .waits wake => .waits wake
    | .goes b w' events => .goes { chunk with state := b } (w.1, w') events
    | .ends (.ok found) w' events =>
      let (answers, s) := w.1.settleChunk now (.ok found) chunk.guards
      .ends answers (s, w') events
    | .ends (.error e) w' events =>
      let (answers, s) := w.1.countLoadFailure.settleChunk now (.error e) chunk.guards
      .ends answers (s, w') (events ++ [.batchFailed chunk.guards.length])
  abandon chunk w := (w.1, loader.loadBatch.abandon chunk.state w.2)

def Part.process (loader : Loader (Event R) K V E σ L B) :
    Process (Event R) (State K V E × σ) (Part K L) (K × Lookup V E) where
  move now part w :=
    match part with
    | .watching key flight =>
      match w.1.flight flight with
      | .aloft => .waits none
      | .landed result => .ends (key, result) w []
      | .lost => .goes (.reading key (.start key)) w []
    | .reading key read =>
      ((Read.process loader).move now read w).lift (.reading key ·) (key, ·) id
  abandon part w :=
    match part with
    | .watching _ _ => w
    | .reading _ read => (Read.process loader).abandon read w

namespace ReadAll

/-- The answers in order: from the first look, or else as they were found out later. -/
def assemble (keys : List K) (slots : List (Option (Lookup V E)))
    (resolved : List (K × Lookup V E)) : List (Lookup V E) :=
  (keys.zip slots).map fun (key, slot) => (slot.or (resolved.lookup key)).getD .notFound

/-- The keys without an answer, each once, in order of first appearance. -/
def missing (keys : List K) (slots : List (Option (Lookup V E))) : List K :=
  ((keys.zip slots).filterMap fun (key, slot) => if slot.isNone then some key else none).foldl
    (fun acc k => if acc.contains k then acc else acc ++ [k]) []

def join (keys : List K) (slots : List (Option (Lookup V E))) (resolved : List (K × Lookup V E))
    (joined : List (K × Nat)) : ReadAll K V E L B :=
  .joining keys slots resolved (joined.map fun (k, flight) => .inl (.watching k flight))

/-- All missing keys are claimed: those that this reader owns are loaded in batches. -/
def load (loader : Loader (Event R) K V E σ L B) (keys : List K)
    (slots : List (Option (Lookup V E))) (c : Claims K V E) (s : State K V E) (w : σ) :
    Move (Event R) (State K V E × σ) (ReadAll K V E L B) (List (Lookup V E)) :=
  if c.owned.isEmpty then .goes (join keys slots c.resolved c.joined) (s, w) []
  else
    let chunks := chunksOf (max loader.maxBatch 1) c.owned.length c.owned
    let started := chunks.map fun guards =>
      Sum.inl { guards := guards, state := loader.beginBatch (guards.map (·.key)) }
    .goes (.loading keys slots c.resolved c.owned started c.joined) (s.countLoads chunks.length, w)
      [.missesBatched c.owned.length chunks.length c.joined.length]

def process (loader : Loader (Event R) K V E σ L B) :
    Process (Event R) (State K V E × σ) (ReadAll K V E L B) (List (Lookup V E)) where
  move now st w :=
    match st with
    | .looking keys slots =>
      match keys[slots.length]? with
      | some key =>
        let (slot, s) := w.1.readStore key now
        .goes (.looking keys (slots ++ [slot])) (s, w.2) []
      | none =>
        match missing keys slots with
        | [] => .ends (assemble keys slots []) w []
        | wanted => .goes (.claiming keys slots {} wanted) w []
    | .claiming keys slots claims wanted =>
      match wanted with
      | key :: rest =>
        let (claim, s) := w.1.claim key now
        .goes (.claiming keys slots (claims.add key claim) rest) (s.countClaim claim, w.2) []
      | [] => load loader keys slots claims w.1 w.2
    | .loading keys slots resolved guards chunks joined =>
      match (Chunk.process loader).all.move now chunks w with
      | .waits wake => .waits wake
      | .goes chunks w events => .goes (.loading keys slots resolved guards chunks joined) w events
      | .ends answers w events =>
        .goes (join keys slots (resolved ++ answers.flatten) joined)
          (w.1.retireAll guards, w.2) events
    | .joining keys slots resolved parts =>
      match (Part.process loader).all.move now parts w with
      | .waits wake => .waits wake
      | .goes parts w events => .goes (.joining keys slots resolved parts) w events
      | .ends answers w events => .ends (assemble keys slots (resolved ++ answers)) w events
  abandon st w :=
    match st with
    | .looking _ _ => w
    | .claiming _ _ claims _ => (w.1.retireAll claims.owned, w.2)
    | .loading _ _ _ guards chunks _ =>
      let w := (Chunk.process loader).all.abandon chunks w
      (w.1.retireAll guards, w.2)
    | .joining _ _ _ parts => (Part.process loader).all.abandon parts w

def start (keys : List K) : ReadAll K V E L B := .looking keys []

end ReadAll

end

end PacedCalls.Cache
