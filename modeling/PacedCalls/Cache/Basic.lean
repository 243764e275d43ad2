import PacedCalls.Cache.Config
import PacedCalls.Cache.Stats
import PacedCalls.Cache.Store
import PacedCalls.Lookup

/-!
The shared state of a read-through cache: the store, the loads under way, and counters. A load
under way is a flight; readers that want its key wait for it to land. Whoever started a flight
holds its guard; when the guard goes, so does the flight, landed or lost.
-/

set_option autoImplicit false

namespace PacedCalls.Cache

inductive Flight (V E : Type) where
  | aloft
  | landed (result : Lookup V E)
  | lost
  deriving DecidableEq, Repr

structure Guard (K : Type) where
  key : K
  flight : Nat
  deriving DecidableEq, Repr

structure State (K V E : Type) where
  config : Config
  store : Store K V
  underWay : List (K × Nat) := []
  flights : Array (Flight V E) := #[]
  stats : Stats := {}

inductive Claim (K V E : Type) where
  | stored (result : Lookup V E)
  | owner (guard : Guard K)
  | joined (flight : Nat)

namespace State

variable {K V E : Type}

def ofConfig (c : Config) : State K V E :=
  { config := c, store := { capacity := c.maxSize, ttl := c.ttl } }

def create (c : Config) : Except CreationError (State K V E) := do
  c.validate.mapError .config
  if c.tableFits then .ok (ofConfig c) else .error .tableTooLarge

instance : Inhabited (State K V E) := ⟨ofConfig {}⟩

def count (s : State K V E) (f : Stats → Stats) : State K V E := { s with stats := f s.stats }

def countMiss (s : State K V E) : State K V E :=
  s.count fun t => { t with misses := t.misses + 1 }

def countJoin (s : State K V E) : State K V E :=
  s.count fun t => { t with coalesced := t.coalesced + 1 }

def countLoads (s : State K V E) (n : Nat) : State K V E :=
  s.count fun t => { t with loads := t.loads + n }

def countLoadFailure (s : State K V E) : State K V E :=
  s.count fun t => { t with loadFailures := t.loadFailures + 1 }

/-- The number of keys stored, those past their lifetime included. -/
def size (s : State K V E) : Nat := s.store.size

def inFlight (s : State K V E) : Nat := s.underWay.length

def invalidateAll (s : State K V E) : State K V E := { s with store := s.store.clear }

def flight (s : State K V E) (n : Nat) : Flight V E := s.flights.getD n .lost

def publish (s : State K V E) (g : Guard K) (result : Lookup V E) : State K V E :=
  { s with flights := s.flights.setIfInBounds g.flight (.landed result) }

theorem flight_publish (s : State K V E) (g : Guard K) (result : Lookup V E) (n : Nat) :
    (s.publish g result).flight n =
      if n = g.flight ∧ n < s.flights.size then .landed result else s.flight n := by
  simp only [flight, publish, Array.getD_eq_getD_getElem?, Array.getElem?_setIfInBounds]
  by_cases h : g.flight = n
  · subst h
    by_cases hs : g.flight < s.flights.size
    · simp [hs]
    · simp [hs]
  · have h' : ¬ n = g.flight := fun e => h e.symm
    simp [h, h']

variable [DecidableEq K]

def invalidate (s : State K V E) (key : K) : State K V E :=
  { s with store := s.store.remove key }

def readStore (s : State K V E) (key : K) (now : Nat) : Option (Lookup V E) × State K V E :=
  let (reading, store) := s.store.read key now
  let s := { s with store := store }
  match reading with
  | .hit value =>
    (some (.ofOption value), s.count fun t => { t with hits := t.hits + 1 })
  | .expired => (none, s.count fun t => { t with expirations := t.expirations + 1 })
  | .miss => (none, s)

/-- Decides who loads a key. The store is read once more, since a load may have ended since the
first read. -/
def claim (s : State K V E) (key : K) (now : Nat) : Claim K V E × State K V E :=
  let (reading, store) := s.store.read key now
  let s := { s with store := store }
  match reading with
  | .hit value =>
    (.stored (.ofOption value), s.count fun t => { t with hits := t.hits + 1 })
  | _ =>
    match s.underWay.lookup key with
    | some flight => (.joined flight, s)
    | none =>
      let number := s.flights.size
      (.owner { key := key, flight := number },
        { s with underWay := (key, number) :: s.underWay, flights := s.flights.push .aloft })

def insert (s : State K V E) (key : K) (value : Option V) (now : Nat) : State K V E :=
  let (evicted, store) := s.store.insert key value now
  let s := { s with store := store }
  if evicted then s.count fun t => { t with evictions := t.evictions + 1 } else s

/-- A guard goes: the flight is no longer under way, and lost if it has not landed. -/
def retire (s : State K V E) (g : Guard K) : State K V E :=
  let s := { s with underWay := s.underWay.filter (· ≠ (g.key, g.flight)) }
  match s.flight g.flight with
  | .aloft => { s with flights := s.flights.setIfInBounds g.flight .lost }
  | _ => s

@[simp]
theorem insert_underWay (s : State K V E) (key : K) (value : Option V) (now : Nat) :
    (s.insert key value now).underWay = s.underWay := by
  simp only [insert]
  split <;> rfl

@[simp]
theorem insert_flights (s : State K V E) (key : K) (value : Option V) (now : Nat) :
    (s.insert key value now).flights = s.flights := by
  simp only [insert]
  split <;> rfl

@[simp]
theorem insert_store (s : State K V E) (key : K) (value : Option V) (now : Nat) :
    (s.insert key value now).store = (s.store.insert key value now).2 := by
  simp only [insert]
  split <;> rfl

@[simp]
theorem retire_store (s : State K V E) (g : Guard K) : (s.retire g).store = s.store := by
  simp only [retire]
  split <;> rfl

@[simp]
theorem retire_underWay (s : State K V E) (g : Guard K) :
    (s.retire g).underWay = s.underWay.filter (· ≠ (g.key, g.flight)) := by
  simp only [retire]
  split <;> rfl

@[simp]
theorem retire_flights_size (s : State K V E) (g : Guard K) :
    (s.retire g).flights.size = s.flights.size := by
  simp only [retire]
  split <;> simp

theorem flight_retire_of_ne {s : State K V E} {g : Guard K} {n : Nat} (h : n ≠ g.flight) :
    (s.retire g).flight n = s.flight n := by
  have h' : g.flight ≠ n := fun e => h e.symm
  simp only [retire]
  split
  · simp [flight, Array.getD_eq_getD_getElem?, h']
  · rfl

theorem flight_retire_landed {s : State K V E} {g : Guard K} {n : Nat} {result : Lookup V E} :
    (s.retire g).flight n = .landed result ↔ s.flight n = .landed result := by
  by_cases h : n = g.flight
  · subst h
    simp only [retire]
    split
    · next ha =>
      have ha : s.flight g.flight = .aloft := ha
      rw [ha]
      simp only [flight, Array.getD_eq_getD_getElem?, Array.getElem?_setIfInBounds]
      by_cases hs : g.flight < s.flights.size <;> simp [hs]
    · rfl
  · rw [flight_retire_of_ne h]

end State

end PacedCalls.Cache
