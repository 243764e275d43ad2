import PacedCalls.Chain.Pass
import PacedCalls.Retry.Loop

set_option autoImplicit false

namespace PacedCalls

/-- The layers outside the throttle, whether "not found" slows the rate, and the retry policy. -/
structure Client (R U S : Type) where
  outer : List (Chain.Layer R U S) := []
  countNotFound : Bool := true
  policy : Retry.Policy R := {}

/-- A call under way: its request and where its retry loop stands. -/
structure Call (R U S : Type) where
  request : Request
  phase : Retry.Phase (Chain.Pass R U S)

namespace Client

variable {R T U S α : Type}

def layers (c : Client R U S) : List (Chain.Layer R U S) :=
  c.outer ++ [.throttle c.countNotFound, .tracing]

def start (c : Client R U S) (request : Request) : Call R U S :=
  { request := request, phase := .start (.start c.layers request) }

def resultOf (request : Request) (decode : Body.Reader α) (result : Exchange) :
    Except CallError (Outcome α) :=
  match result with
  | .ok response => response.toOutcome request decode
  | .error e =>
    match e.toOutcome? request with
    | some o => .ok o
    | none => .error (.transient e)

def finishEvents (request : Request) : Except CallError (Outcome α) → List (Event R)
  | .ok o => [.callFinished request.description o.status]
  | .error _ => []

variable [Scalar R] [Transport T]

def attempt (request : Request) (decode : Body.Reader α) :
    Process (Event R) (Lane R T U) (Chain.Pass R U S) (Except CallError (Outcome α)) :=
  Chain.process.map (resultOf request decode)

def loop (c : Client R U S) (decode : Body.Reader α) (request : Request) :
    Process (Event R) (Lane R T U) (Retry.Phase (Chain.Pass R U S))
      (Except CallError (Outcome α)) :=
  (Retry.loop c.policy request.description (attempt request decode)
    (.start c.layers request)).thenReport (finishEvents request)

/-- A call; what it returned is decoded from a response that was a success. -/
def call (c : Client R U S) (decode : Body.Reader α) :
    Process (Event R) (Lane R T U) (Call R U S) (Except CallError (Outcome α)) where
  move now st lane :=
    ((c.loop decode st.request).move now st.phase lane).lift ({ st with phase := · }) id id
  abandon st lane := (c.loop decode st.request).abandon st.phase lane

def lookup (c : Client R U S) (decode : Body.Reader α) :
    Process (Event R) (Lane R T U) (Call R U S) (Except CallError (Lookup α Failure)) :=
  (c.call decode).map fun result => result.map Outcome.toLookup

omit [Scalar R] in
def startLookup (c : Client R U S) (request : Request) : Call R U S :=
  c.start (request.notFound .absent)

end Client

end PacedCalls
