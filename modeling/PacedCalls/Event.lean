import PacedCalls.Http.StatusCode
import PacedCalls.Rate.Config
import PacedCalls.Status

set_option autoImplicit false

namespace PacedCalls

inductive Rate.Direction where
  | increase
  | decrease
  deriving DecidableEq, Repr

def Rate.Direction.name : Rate.Direction → String
  | increase => "increase"
  | decrease => "decrease"

inductive Event (R : Type) where
  | controllerCreated (base min : R)
  | permitAwaited (wait : Nat)
  | rateAdjusted (direction : Rate.Direction) (old new : R)
  | ceilingChanged (base current : R)
  | floorChanged (min current : R)
  | cacheCreated (ttl : Nat) (maxSize : Nat)
  | cacheCleared
  | loadJoined
  | loadAbandoned
  | missesBatched (keys chunks joined : Nat)
  | loadFailed
  | batchFailed (keys : Nat)
  | headerSkipped (name : String)
  | retryWaits (target : String) (attempt wait : Nat) (error : String)
  | retryGivesUp (target : String) (attempts : Nat) (error : String)
  | loadWithoutOutcome (error : String)
  | callFinished (description : String) (status : Status)
  | clientBuilt (base min : R) (retryEnabled : Bool)
  | exchangeOpened (method url description : String)
  | exchangeCompleted (status : Http.StatusCode)
  | exchangeFailed (error : String)
  deriving DecidableEq

end PacedCalls
