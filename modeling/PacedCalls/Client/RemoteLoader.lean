import PacedCalls.Cache.Loader
import PacedCalls.Client.Call

set_option autoImplicit false

namespace PacedCalls

/-- One request for many keys, and what is reported when it is made. -/
structure BatchRequest (R K V : Type) where
  request : List K → Request
  notices : List (Event R) := []
  decode : Body.Reader (List (K × V))
  maxSize : Nat

/-- How keys become requests and responses become values; what is reported when a request for a
key is made. -/
structure RemoteLoader (R U S K V : Type) where
  client : Client R U S
  request : K → Request
  notices : List (Event R) := []
  decode : Body.Reader V
  batch : Option (BatchRequest R K V) := none

def Failure.ofCallError (e : CallError) : Failure :=
  { status := if e.isTransient then .error else .fatalError, message := e.message }

def Client.lookupOf {α : Type} : Except CallError (Outcome α) → Lookup α Failure
  | .ok o => o.toLookup
  | .error e => .error (.ofCallError e)

def Client.lookupEvents {R α : Type} : Except CallError (Outcome α) → List (Event R)
  | .ok _ => []
  | .error e => [.loadWithoutOutcome e.message]

namespace RemoteLoader

variable {R T U S K V : Type}

/-- A call of a loader; the flag says that making its request is still to be reported. -/
abbrev Trip (R U S : Type) := Bool × Call R U S

abbrev Each (R U S K V : Type) := List ((K × Trip R U S) ⊕ (K × Lookup V Failure))

abbrev Batch (R U S K V : Type) := Trip R U S ⊕ Each R U S K V

def begin (l : RemoteLoader R U S K V) (key : K) : Trip R U S :=
  (true, l.client.start ((l.request key).notFound .absent))

def beginBatch (l : RemoteLoader R U S K V) (keys : List K) : Batch R U S K V :=
  match l.batch with
  | some b => .inl (true, l.client.start ((b.request keys).notFound .absent))
  | none => .inr (keys.map fun k => .inl (k, l.begin k))

/-- The largest batch; it is at least one key. -/
def maxBatch (l : RemoteLoader R U S K V) : Nat :=
  match l.batch with
  | some b => max b.maxSize 1
  | none => Cache.standardBatch

variable [Scalar R] [Transport T]

def lookupCall {α : Type} (c : Client R U S) (notices : List (Event R)) (decode : Body.Reader α) :
    Process (Event R) (Lane R T U) (Trip R U S) (Lookup α Failure) :=
  (((c.call decode).thenReport Client.lookupEvents).map Client.lookupOf).announce notices

def load (l : RemoteLoader R U S K V) :
    Process (Event R) (Lane R T U) (Trip R U S) (Lookup V Failure) :=
  lookupCall l.client l.notices l.decode

def loadKey (l : RemoteLoader R U S K V) :
    Process (Event R) (Lane R T U) (K × Trip R U S) (K × Lookup V Failure) where
  move now st lane := (l.load.move now st.2 lane).lift (st.1, ·) (st.1, ·) id
  abandon st lane := l.load.abandon st.2 lane

/-- Single loads side by side; of several failures the first in the order of the keys counts. -/
def loadEach [DecidableEq K] (l : RemoteLoader R U S K V) :
    Process (Event R) (Lane R T U) (Each R U S K V) (Except Failure (List (K × V))) :=
  l.loadKey.all.map (Cache.collect [])

def loadTogether (l : RemoteLoader R U S K V) (notices : List (Event R))
    (decode : Body.Reader (List (K × V))) :
    Process (Event R) (Lane R T U) (Trip R U S) (Except Failure (List (K × V))) :=
  (lookupCall l.client notices decode).map fun
    | .found found => .ok found
    | .notFound => .ok []
    | .error e => .error e

def loadBatch [DecidableEq K] (l : RemoteLoader R U S K V) :
    Process (Event R) (Lane R T U) (Batch R U S K V) (Except Failure (List (K × V))) :=
  (match l.batch with
    | some b => l.loadTogether b.notices b.decode
    | none => l.loadTogether [] fun _ => .ok []).either l.loadEach

def toLoader [DecidableEq K] (l : RemoteLoader R U S K V) :
    Cache.Loader (Event R) K V Failure (Lane R T U) (Trip R U S) (Batch R U S K V) where
  load := l.load
  begin := l.begin
  loadBatch := l.loadBatch
  beginBatch := l.beginBatch
  maxBatch := l.maxBatch

end RemoteLoader

end PacedCalls
