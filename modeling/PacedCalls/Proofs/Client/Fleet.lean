import Mathlib.Algebra.BigOperators.Group.Finset.Basic
import Mathlib.Logic.Relation
import PacedCalls.Client.Call
import PacedCalls.Proofs.Rate.Pace

/-!
A fleet: clients that share a controller, any number of their calls side by side, and a clock. Calls
begin at any time, make their moves in any order, and may be given up between two moves. The
controller may be told to go faster or slower, others may take slots of it, and what the users'
middlewares keep may change by itself. Time passes only while nobody has anything to do.

A middleware of the user may take its time before it acts, and may run the rest of its chain beside
the call that it was made for, as often as it likes. Such a run is a branch.
-/

set_option autoImplicit false

namespace PacedCalls

/-- A call that is under way, or a run of the rest of a chain on its own. -/
inductive Errand (R U S V : Type) where
  | call (client : Client R U S) (decode : Body.Reader V) (state : Call R U S)
  | branch (pass : Chain.Pass R U S)

/-- An errand and the transport that its client uses. -/
structure Job (R U S V P : Type) where
  place : P
  errand : Errand R U S V

/-- A controller, the transports of its clients, what the users' middlewares keep, the clock, and
the jobs that are under way. -/
structure Fleet (R T U S V P : Type) where
  governor : Rate.Controller R
  remotes : P → Remote T
  user : U
  now : ℕ
  jobs : List (Job R U S V P) := []

section

variable {R T U S V P : Type}

def Remote.starts (remote : Remote T) : Multiset ℕ := (remote.journal.map Prod.fst : List ℕ)

def Chain.Pass.pauses : Chain.Pass R U S → Bool
  | .entering (.custom _ :: _) _ _ => true
  | .leaving _ (.custom _ _ _ _ :: _) => true
  | _ => false

def Retry.Phase.attempt? {s : Type} : Retry.Phase s → Option s
  | .attempting _ state => some state
  | .waiting _ _ => none

def Errand.pass? : Errand R U S V → Option (Chain.Pass R U S)
  | .call _ _ state => state.phase.attempt?
  | .branch pass => some pass

def Job.call (place : P) (client : Client R U S) (decode : Body.Reader V) (request : Request) :
    Job R U S V P :=
  { place := place, errand := .call client decode (client.start request) }

def Job.branch (place : P) (inner : List (Chain.Layer R U S)) (request : Request) :
    Job R U S V P :=
  { place := place, errand := .branch (.start inner request) }

variable [Scalar R] [Transport T]

def Job.process : Process (Event R) (Lane R T U) (Job R U S V P) Unit where
  move now job lane :=
    match job.errand with
    | .call client decode state =>
      ((client.call decode).move now state lane).lift
        (fun state => { job with errand := .call client decode state }) (fun _ => ()) id
    | .branch pass =>
      (Chain.process.move now pass lane).lift
        (fun pass => { job with errand := .branch pass }) (fun _ => ()) id
  abandon job lane :=
    match job.errand with
    | .call client decode state => (client.call decode).abandon state lane
    | .branch pass => Chain.process.abandon pass lane

/-- A job does not mind if the clock goes on: it waits for nothing before that instant, or for a
middleware of the user. -/
def Job.idle (now later : ℕ) (job : Job R U S V P) (lane : Lane R T U) : Bool :=
  job.errand.pass?.any Chain.Pass.pauses ||
    match Job.process.move now job lane with
    | .waits wake => wake.all (later ≤ Instant.tick ·)
    | _ => false

namespace Fleet

/-- A fleet at the outset: a controller and transports that nobody has used. -/
def opening (governor : Rate.Controller R) (transports : P → T) (user : U) (now : ℕ) :
    Fleet R T U S V P :=
  { governor := governor
    remotes := fun place => { transport := transports place }
    user := user
    now := now }

def lane [DecidableEq P] (place : P) : Lens (Fleet R T U S V P) (Lane R T U) where
  get fleet :=
    { governor := fleet.governor, remote := fleet.remotes place, user := fleet.user }
  set lane fleet :=
    { fleet with
      governor := lane.governor
      remotes := Function.update fleet.remotes place lane.remote
      user := lane.user }

def starts [Fintype P] (fleet : Fleet R T U S V P) : Multiset ℕ :=
  ∑ place, (fleet.remotes place).starts

inductive Step [DecidableEq P] (fleet : Fleet R T U S V P) : Fleet R T U S V P → Prop where
  | begin (place : P) (client : Client R U S) (decode : Body.Reader V) (request : Request) :
      Step fleet { fleet with jobs := fleet.jobs ++ [.call place client decode request] }
  | branch (place : P) (client : Client R U S) (outer inner : List (Chain.Layer R U S))
      (m : Chain.Middleware R U S) (request : Request)
      (behind : client.layers = outer ++ .custom m :: inner) :
      Step fleet { fleet with jobs := fleet.jobs ++ [.branch place inner request] }
  | move (before after : List (Job R U S V P)) (job job' : Job R U S V P) (world : Lane R T U)
      (events : List (Event R)) (here : fleet.jobs = before ++ job :: after)
      (moves : Job.process.move fleet.now job ((lane job.place).get fleet) =
        .goes job' world events) :
      Step fleet ((lane job.place).set world { fleet with jobs := before ++ job' :: after })
  | finish (before after : List (Job R U S V P)) (job : Job R U S V P) (world : Lane R T U)
      (events : List (Event R)) (here : fleet.jobs = before ++ job :: after)
      (moves : Job.process.move fleet.now job ((lane job.place).get fleet) =
        .ends () world events) :
      Step fleet ((lane job.place).set world { fleet with jobs := before ++ after })
  | cancel (before after : List (Job R U S V P)) (job : Job R U S V P)
      (here : fleet.jobs = before ++ job :: after) :
      Step fleet ((lane job.place).set
        (Job.process.abandon job ((lane job.place).get fleet))
        { fleet with jobs := before ++ after })
  | heed (signal : Rate.Signal R) :
      Step fleet { fleet with governor := fleet.governor.heed signal }
  | reserve : Step fleet { fleet with governor := (fleet.governor.reserve fleet.now).2 }
  | drift (user : U) : Step fleet { fleet with user := user }
  | wait (later : ℕ) (ahead : fleet.now ≤ later)
      (idle : ∀ job ∈ fleet.jobs, job.idle fleet.now later ((lane job.place).get fleet) = true) :
      Step fleet { fleet with now := later }

def Reach [DecidableEq P] : Fleet R T U S V P → Fleet R T U S V P → Prop :=
  Relation.ReflTransGen Step

end Fleet

end

end PacedCalls
