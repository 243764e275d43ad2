import PacedCalls.Chain.Lane
import PacedCalls.Time

/-!
Middlewares: what stands around the rest of a chain. A middleware sees a request come in, may let
the rest of the chain run as often as it likes, with whatever request and for as long as it likes,
and gives a result in the end.
-/

set_option autoImplicit false

namespace PacedCalls.Chain

/-- What a middleware does next; `S` is what it remembers meanwhile. -/
inductive Act (S : Type) where
  /-- Run the rest of the chain, and stop waiting for it at an instant if there is one. -/
  | proceed (request : Request) (memo : S) (limit : Option Nat)
  | reply (result : Exchange)

structure Middleware (R U S : Type) where
  enter : (now : Nat) → Request → U → Act S × U × List (Event R)
  resume : (now : Nat) → S → Exchange → U → Act S × U × List (Event R)
  expire : (now : Nat) → S → U → Act S × U × List (Event R)

inductive Layer (R U S : Type) where
  | custom (m : Middleware R U S)
  /-- Takes a permit for each request and feeds its result back; the flag says whether "not found"
  counts as a failure unless the request decides it. -/
  | throttle (countNotFound : Bool)
  | tracing

namespace Middleware

variable {R S : Type}

def timeout {U : Type} (memo : S) (d : Nat) : Middleware R U S where
  enter now request u := (.proceed request memo (some (Instant.after now d)), u, [])
  resume _ _ result u := (.reply result, u, [])
  expire _ _ u := (.reply (.error .timedOut), u, [])

def recorder (memo : S) (name : String) : Middleware R (List String) S where
  enter _ request u := (.proceed request memo none, u ++ [name ++ ">"], [])
  resume _ _ result u := (.reply result, u ++ [name ++ "<"], [])
  expire _ _ u := (.reply (.error .timedOut), u, [])

def addHeader {U : Type} (memo : S) (name value : String) : Middleware R U S where
  enter _ request u :=
    match request.header? name value with
    | some request => (.proceed request memo none, u, [])
    | none => (.proceed request memo none, u, [.headerSkipped name])
  resume _ _ result u := (.reply result, u, [])
  expire _ _ u := (.reply (.error .timedOut), u, [])

def short {U : Type} (result : Exchange) : Middleware R U S where
  enter _ _ u := (.reply result, u, [])
  resume _ _ result u := (.reply result, u, [])
  expire _ _ u := (.reply (.error .timedOut), u, [])

/-- Runs the rest twice and returns the second result; it remembers the request until then. -/
def twice {U : Type} : Middleware R U (Option Request) where
  enter _ request u := (.proceed request (some request) none, u, [])
  resume _ memo result u :=
    match memo with
    | some request => (.proceed request none none, u, [])
    | none => (.reply result, u, [])
  expire _ _ u := (.reply (.error .timedOut), u, [])

end Middleware

end PacedCalls.Chain
