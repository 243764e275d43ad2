import PacedCalls.Cache.Read
import PacedCalls.Cache.ReadAll
import PacedCalls.Cache.Table
import PacedCalls.Rehearsal.Scene

set_option autoImplicit false

namespace PacedCalls.Rehearsal.Caching

structure World where
  cache : Cache.State String String String
  table : Cache.Table

inductive Query where
  | one (key : String)
  | many (keys : List String)

inductive Answer where
  | one (l : Lookup String String)
  | many (ls : List (Lookup String String))

inductive Reading where
  | one (st : Cache.Read String (Cache.Table.Query String))
  | many (st : Cache.ReadAll String String String (Cache.Table.Query String) Cache.Table.Batch)

def Query.start : Query → Reading
  | one key => .one (.start key)
  | many keys => .many (.start keys)

def parts : Lens World (Cache.State String String String × Cache.Table) where
  get w := (w.cache, w.table)
  set p _ := { cache := p.1, table := p.2 }

def process (batchSize : Option Nat) : Process (Event Float) World Reading Answer where
  move now st w :=
    let loader := Cache.Table.loader batchSize
    match st with
    | .one st => (((Cache.Read.process loader).on parts).move now st w).lift .one .one id
    | .many st => (((Cache.ReadAll.process loader).on parts).move now st w).lift .many .many id
  abandon st w :=
    let loader := Cache.Table.loader (ν := Event Float) batchSize
    match st with
    | .one st => ((Cache.Read.process loader).on parts).abandon st w
    | .many st => ((Cache.ReadAll.process loader).on parts).abandon st w

inductive Edit where
  | put (key value : String)
  | delete (key : String)
  | fail (key : String)
  | heal (key : String)
  | delay (d : Nat)

def Edit.apply (t : Cache.Table) : Edit → Cache.Table
  | put key value => t.put key value
  | delete key => t.delete key
  | fail key => t.fail key
  | heal key => t.heal key
  | delay d => { t with delay := d }

inductive Step where
  | read (q : Query)
  | join (group : List (Entry Query))
  | invalidate (key : String)
  | invalidateAll
  | isEmpty
  | hitRate
  | advance (d : Nat)
  | edit (e : Edit)

inductive Shown where
  | config (c : Cache.Config)
  | answer (a : Option Answer)
  | answers (as : List (Ended Answer))
  | flag (b : Bool)
  | share (x : Except Cache.CountError Float)

abbrev Stage := Scene World Shown

def World.quiet (w : World) : World := { w with table := { w.table with calls := [] } }

def take (batchSize : Option Nat) (sc : Stage) (step : Step) : Stage :=
  let sc := sc.fresh.become sc.world.quiet
  let w := sc.world
  match step with
  | .read q =>
    let (sc, answer) := sc.runOne (process batchSize) { work := q.start }
    sc.present (.answer answer)
  | .join group =>
    let (sc, ended) := sc.run (process batchSize) (group.map (·.map Query.start))
    sc.present (.answers ended)
  | .invalidate key => sc.become { w with cache := w.cache.invalidate key }
  | .invalidateAll => (sc.become { w with cache := w.cache.invalidateAll }).report [.cacheCleared]
  | .isEmpty => sc.present (.flag (w.cache.size == 0))
  | .hitRate => sc.present (.share w.cache.stats.hitRate)
  | .advance d => sc.advance d
  | .edit e => sc.become { w with table := e.apply w.table }

def play (config : Cache.Config) (table : Cache.Table) (batchSize : Option Nat)
    (steps : List Step) : Except Cache.CreationError (List Stage) :=
  (Cache.State.create config).map fun cache =>
    Scene.play (take batchSize)
      { world := { cache := cache, table := table }
        events := [.cacheCreated config.ttl config.maxSize], shown := some (.config config) } steps

end PacedCalls.Rehearsal.Caching
