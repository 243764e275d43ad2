import PacedCalls.Client.Call
import PacedCalls.Draft
import PacedCalls.Outside.Http.Channel
import PacedCalls.Rehearsal.Scene

set_option autoImplicit false

namespace PacedCalls.Rehearsal.Exchanging

def exchange (c : Http.Channel) (d : Draft) : Exchange × List Http.Sighting :=
  let (reply, t) := Transport.exchange d.request c.raising
  (reply.result, t.inner.peer.seen.reverse)

abbrev World := Lane Float (Http.Raising Http.Channel) Unit

/-- What came of a call: its result unless it took too long, the controller and what the peer
saw. -/
structure Finish where
  result : Option (Except CallError (Outcome String))
  governor : Rate.Controller Float
  seen : List Http.Sighting

/-- A call that wants a text, for so long at most. -/
def call (c : Http.Channel) (policy : Retry.Policy Float) (patience : Nat) (d : Draft) : Finish :=
  let client : Client Float Unit Unit := { policy := policy }
  let w : World :=
    { governor := Rate.Controller.ofConfig Rate.Config.standard
      remote := { transport := c.raising }, user := () }
  let (sc, result) :=
    ({ world := w } : Scene World Unit).runOne (client.call Body.text)
      { work := client.start d.request, patience := some patience }
  { result := result, governor := sc.world.governor
    seen := sc.world.remote.transport.inner.peer.seen.reverse }

end PacedCalls.Rehearsal.Exchanging
