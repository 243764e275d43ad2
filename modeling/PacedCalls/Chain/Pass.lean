import PacedCalls.Chain.Middleware
import PacedCalls.Classify
import PacedCalls.Process

set_option autoImplicit false

namespace PacedCalls.Chain

inductive Frame (R U S : Type) where
  | custom (m : Middleware R U S) (memo : S) (limit : Option Nat) (inner : List (Layer R U S))
  | throttle (countNotFound : Bool) (request : Request)
  | tracing

/-- Where a pass stands; the frames are the waiting layers, the innermost first. -/
inductive Pass (R U S : Type) where
  | entering (inner : List (Layer R U S)) (request : Request) (frames : List (Frame R U S))
  | queued (slot : Nat) (countNotFound : Bool) (inner : List (Layer R U S)) (request : Request)
      (frames : List (Frame R U S))
  /-- The transport has the request; its answer will be there at an instant. -/
  | sent (result : Exchange) (arrival : Nat) (frames : List (Frame R U S))
  | leaving (result : Exchange) (frames : List (Frame R U S))

def statusOf? (request : Request) : Exchange → Option Status
  | .ok response => some response.callStatus
  | .error e => (e.toOutcome? (α := Unit) request).map (·.status)

def slows (countNotFound : Bool) (options : CallOptions) (s : Status) : Bool :=
  s.needsRetry && (s != .notFound || options.countNotFound.getD countNotFound)

section

variable {R T U S : Type} [Scalar R]

def feedback (countNotFound : Bool) (request : Request) (result : Exchange)
    (c : Rate.Controller R) : Rate.Controller R × List (Event R) :=
  match statusOf? request result with
  | none => (c, [])
  | some s =>
    if s.isOk then c.increase
    else if slows countNotFound request.options s then c.decrease
    else (c, [])

def Pass.follow (m : Middleware R U S) (inner : List (Layer R U S)) (frames : List (Frame R U S))
    (lane : Lane R T U) (act : Act S × U × List (Event R)) :
    Move (Event R) (Lane R T U) (Pass R U S) Exchange :=
  let (act, user, events) := act
  let lane := { lane with user := user }
  match act with
  | .proceed request memo limit =>
    .goes (.entering inner request (.custom m memo limit inner :: frames)) lane events
  | .reply result => .goes (.leaving result frames) lane events

/-- The innermost layer that has waited long enough, and the frames outside it. -/
def expired? (now : Nat) : List (Frame R U S) →
    Option (Middleware R U S × S × List (Layer R U S) × List (Frame R U S))
  | [] => none
  | .custom m memo limit inner :: frames =>
    if limit.any (Instant.due · now) then some (m, memo, inner, frames) else expired? now frames
  | _ :: frames => expired? now frames

def firstLimit : List (Frame R U S) → Option Nat
  | [] => none
  | .custom _ _ limit _ :: frames => earlier limit (firstLimit frames)
  | _ :: frames => firstLimit frames

/-- Waits for an instant, unless a layer has waited long enough. -/
def Pass.wait (now moment : Nat) (frames : List (Frame R U S)) (lane : Lane R T U) :
    Move (Event R) (Lane R T U) (Pass R U S) Exchange :=
  match expired? now frames with
  | some (m, memo, inner, outer) => Pass.follow m inner outer lane (m.expire now memo lane.user)
  | none => .waits (earlier (some moment) (firstLimit frames))

/-- A request reaches a layer, or the transport behind the last one. -/
def Pass.enter [Transport T] (now : Nat) (layers : List (Layer R U S)) (request : Request)
    (frames : List (Frame R U S)) (lane : Lane R T U) :
    Move (Event R) (Lane R T U) (Pass R U S) Exchange :=
  match layers with
  | [] =>
    let (reply, remote) := lane.remote.send now request
    .goes (.sent reply.result (Instant.after now reply.delay) frames)
      { lane with remote := remote } []
  | .custom m :: inner => Pass.follow m inner frames lane (m.enter now request lane.user)
  | .throttle count :: inner =>
    let (slot, governor) := lane.governor.reserve now
    if now < slot then
      .goes (.queued slot count inner request frames) { lane with governor := governor }
        [.permitAwaited (slot - now)]
    else
      .goes (.entering inner request (.throttle count request :: frames))
        { lane with governor := governor.grant } []
  | .tracing :: inner =>
    .goes (.entering inner request (.tracing :: frames)) lane
      [.exchangeOpened request.method.name request.url request.description]

def Pass.leave (now : Nat) (result : Exchange) (frames : List (Frame R U S)) (lane : Lane R T U) :
    Move (Event R) (Lane R T U) (Pass R U S) Exchange :=
  match frames with
  | [] => .ends result lane []
  | .custom m memo _ inner :: outer =>
    Pass.follow m inner outer lane (m.resume now memo result lane.user)
  | .throttle count request :: outer =>
    let (governor, events) := feedback count request result lane.governor
    .goes (.leaving result outer) { lane with governor := governor } events
  | .tracing :: outer =>
    .goes (.leaving result outer) lane
      [match result with
        | .ok response => .exchangeCompleted response.status
        | .error e => .exchangeFailed e.text]

def process [Transport T] : Process (Event R) (Lane R T U) (Pass R U S) Exchange where
  move now pass lane :=
    match pass with
    | .entering layers request frames => Pass.enter now layers request frames lane
    | .queued slot count inner request frames =>
      if Instant.due slot now then
        .goes (.entering inner request (.throttle count request :: frames))
          { lane with governor := lane.governor.grant } []
      else Pass.wait now slot frames lane
    | .sent result arrival frames =>
      if Instant.due arrival now then .goes (.leaving result frames) lane []
      else Pass.wait now arrival frames lane
    | .leaving result frames => Pass.leave now result frames lane

def Pass.start (layers : List (Layer R U S)) (request : Request) : Pass R U S :=
  .entering layers request []

end

end PacedCalls.Chain
