import PacedCalls.Rate.Acquire
import PacedCalls.Rehearsal.Scene

set_option autoImplicit false

namespace PacedCalls.Rehearsal.Pacing

inductive Step where
  | increase (times : Nat)
  | decrease (times : Nat)
  | setBase (rate : Float)
  | setMin (rate : Float)
  | reset
  | look
  | snapshot
  | acquire
  | acquireEach (n : Nat)
  | acquireAll (n : Nat)
  | acquireWithin (patience : Nat)
  | advance (d : Nat)

inductive Shown where
  | done
  | refused (e : Rate.ConfigError Float)
  | limits (l : Rate.Limits Float)
  | snapshot (text : String)
  | granted (moments : List Nat)
  | admitted (b : Bool)

abbrev Stage := Scene (Rate.Controller Float) Shown

def repeated (change : Rate.Controller Float → Rate.Controller Float × List (Event Float)) :
    Nat → Stage → Stage
  | 0, sc => sc
  | n + 1, sc =>
    let (c, events) := change sc.world
    repeated change n ((sc.become c).report events)

/-- A change that may be refused; then the controller is as it was. -/
def attempted
    (change : Except (Rate.ConfigError Float) (Rate.Controller Float × List (Event Float)))
    (sc : Stage) : Stage :=
  match change with
  | .ok (c, events) => ((sc.become c).report events).present .done
  | .error e => sc.present (.refused e)

def acquireEach : Nat → Stage → Stage × List Nat
  | 0, sc => (sc, [])
  | n + 1, sc =>
    let (sc, moment) := sc.runOne Rate.Acquire.process { work := .asking }
    let (sc, rest) := acquireEach n sc
    (sc, moment.toList ++ rest)

def take (sc : Stage) (step : Step) : Stage :=
  let sc := sc.fresh
  match step with
  | .increase n => repeated (·.increase) n sc
  | .decrease n => repeated (·.decrease) n sc
  | .setBase x => attempted (sc.world.setBase x) sc
  | .setMin x => attempted (sc.world.setMin x) sc
  | .reset => sc.become sc.world.reset
  | .look => sc.present (.limits sc.world.limits)
  | .snapshot => sc.present (.snapshot sc.world.jsonText)
  | .acquire => (sc.runOne Rate.Acquire.process { work := .asking }).1
  | .acquireEach n =>
    let (sc, moments) := acquireEach n sc
    sc.present (.granted moments)
  | .acquireAll n =>
    let (sc, ended) := sc.run Rate.Acquire.process (List.replicate n { work := .asking })
    sc.present (.granted (ended.filterMap (·.result)))
  | .acquireWithin patience =>
    let (sc, moment) :=
      sc.runOne Rate.Acquire.process { work := .asking, patience := some patience }
    sc.present (.admitted moment.isSome)
  | .advance d => sc.advance d

def play (c : Rate.Controller Float) (events : List (Event Float)) : List Step → List Stage :=
  Scene.play take { world := c, events := events }

end PacedCalls.Rehearsal.Pacing
