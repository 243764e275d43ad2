import PacedCalls.Chain.Pass
import PacedCalls.Draft
import PacedCalls.Rehearsal.Scene

set_option autoImplicit false

namespace PacedCalls.Rehearsal

abbrev Notes := List String

abbrev Memo := Option Request

abbrev Layer := PacedCalls.Chain.Layer Float Notes Memo

namespace Chaining

/-- A chain at work, and how many requests had reached the transport before the last step. -/
structure World where
  lane : Lane Float Script Notes
  told : Nat := 0

namespace World

def calls (w : World) : Nat := w.lane.remote.journal.length

def sent (w : World) : List Request := w.lane.remote.requests.drop w.told

def quiet (w : World) : World := { lane := { w.lane with user := [] }, told := w.calls }

def lens : Lens World (Lane Float Script Notes) where
  get := lane
  set lane w := { w with lane := lane }

end World

inductive Step where
  | execute (d : Draft)
  | join (group : List (Entry Draft))
  | advance (d : Nat)

inductive Shown where
  | layers (n : Nat)
  | result (e : Option Exchange)
  | results (es : List (Ended Exchange))

abbrev Stage := Scene World Shown

def process : Process (Event Float) World (PacedCalls.Chain.Pass Float Notes Memo) Exchange :=
  PacedCalls.Chain.process.on World.lens

def take (layers : List Layer) (sc : Stage) (step : Step) : Stage :=
  let sc := sc.fresh.become sc.world.quiet
  let begin := fun d : Draft => PacedCalls.Chain.Pass.start layers d.request
  match step with
  | .execute d =>
    let (sc, e) := (sc.report d.events).runOne process { work := begin d }
    sc.present (.result e)
  | .join group =>
    let (sc, es) :=
      (sc.report (group.flatMap (·.work.events))).run process (group.map (·.map begin))
    sc.present (.results es)
  | .advance d => sc.advance d

def play (rate : Rate.Config Float) (layers : List Layer) (script : Script) (steps : List Step) :
    Except (Rate.ConfigError Float) (List Stage) :=
  (Rate.Controller.create rate).map fun (governor, events) =>
    Scene.play (take layers)
      { world := { lane := { governor := governor, remote := { transport := script }, user := [] } }
        events := events, shown := some (.layers layers.length) } steps

end Chaining

end PacedCalls.Rehearsal
