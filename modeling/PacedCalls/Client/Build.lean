import PacedCalls.Client.RemoteLoader

set_option autoImplicit false

namespace PacedCalls

/-- What a client is built from. A controller that is handed over takes the place of one for the
rate configuration. -/
structure Client.Plan (U S : Type) where
  hasTransport : Bool := false
  rate : Rate.Config Float := Rate.Config.standard
  shared : Option (Rate.Controller Float) := none
  policy : Retry.Policy Float := {}
  countNotFound : Bool := true
  outer : List (Chain.Layer Float U S) := []

namespace Client.Plan

variable {U S : Type}

def build (p : Plan U S) :
    Except CallError (Client Float U S × Rate.Controller Float × List (Event Float)) := do
  if !p.hasTransport then throw (.config "a transport is required")
  let (governor, events) ←
    match p.shared with
    | some governor => pure (governor, [])
    | none =>
      match Rate.Controller.create p.rate with
      | .ok made => pure made
      | .error e => throw (.rate e)
  let client : Client Float U S :=
    { outer := p.outer, countNotFound := p.countNotFound, policy := p.policy }
  pure (client, governor,
    events ++ [.clientBuilt governor.limits.base governor.limits.min p.policy.enabled])

end Client.Plan

def Client.listing {U S : Type} (c : Client Float U S) (governor : Rate.Controller Float) :
    String :=
  "InvocationRuntime \x7b rate: " ++ governor.listing ++ ", retry: " ++ c.policy.listing ++
    ", middlewares: " ++ Nat.repr c.layers.length ++ " \x7d"

end PacedCalls
