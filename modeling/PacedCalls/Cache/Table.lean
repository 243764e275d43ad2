import PacedCalls.Cache.Loader
import PacedCalls.Time

set_option autoImplicit false

namespace PacedCalls.Cache

inductive TableCall where
  | single (key : String)
  | batch (keys : List String)
  deriving DecidableEq, Repr

/-- Entries, keys whose loads fail, nanoseconds per load, and the calls so far, newest first. -/
structure Table where
  entries : List (String × String) := []
  failing : List String := []
  delay : Nat := 0
  calls : List TableCall := []
  deriving DecidableEq, Repr

namespace Table

def put (t : Table) (key value : String) : Table :=
  { t with entries := (key, value) :: t.entries.filter (·.1 ≠ key) }

def delete (t : Table) (key : String) : Table :=
  { t with entries := t.entries.filter (·.1 ≠ key) }

def fail (t : Table) (key : String) : Table := { t with failing := key :: t.failing }

def heal (t : Table) (key : String) : Table :=
  { t with failing := t.failing.filter (· ≠ key) }

/-- A call to the table, before it is made or until its answer is due. -/
inductive Query (α : Type) where
  | asking (what : α)
  | sleeping (what : α) (wake : Nat)

def query {ν α β : Type} (note : α → TableCall) (answer : Table → α → β) :
    Process ν Table (Query α) β where
  move now q t :=
    match q with
    | .asking what =>
      .goes (.sleeping what (Instant.after now t.delay)) { t with calls := note what :: t.calls } []
    | .sleeping what wake =>
      if Instant.due wake now then .ends (answer t what) t [] else .waits (some wake)

def answerOne (t : Table) (key : String) : Lookup String String :=
  if t.failing.contains key then .error ("down: " ++ key)
  else .ofOption (t.entries.lookup key)

def answerMany (t : Table) (keys : List String) : Except String (List (String × String)) :=
  if keys.any t.failing.contains then .error ("batch down: " ++ "+".intercalate keys)
  else .ok (keys.filterMap fun k => (t.entries.lookup k).map (k, ·))

def load {ν : Type} : Process ν Table (Query String) (Lookup String String) :=
  query TableCall.single answerOne

/-- The state of a batch: a call of its own, or single loads one after another. -/
abbrev Batch := Query (List String) ⊕ Sequence String String (Query String)

/-- The loader over a table; without a batch size it has no batch call of its own. -/
def loader {ν : Type} (batchSize : Option Nat) :
    Loader ν String String String Table (Query String) Batch where
  load := load
  begin := .asking
  loadBatch := (query TableCall.batch answerMany).either (Sequence.process load .asking)
  beginBatch keys :=
    match batchSize with
    | some _ => .inl (.asking keys)
    | none => .inr (Sequence.next .asking [] keys)
  maxBatch := batchSize.getD standardBatch

end Table

end PacedCalls.Cache
