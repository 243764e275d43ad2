import PacedCalls.Body
import PacedCalls.CallError
import PacedCalls.Chain.Lane
import PacedCalls.Document.Reading
import PacedCalls.Document.Writing
import PacedCalls.Draft
import PacedCalls.Outcome

set_option autoImplicit false

namespace PacedCalls.Document

def readNotFound (j : Json) : Reading NotFoundPolicy := do
  match ← readText j with
  | "absent" => .ok .absent
  | "report" => .ok .report
  | _ => expected "policy"

def ofNotFound : NotFoundPolicy → Json
  | .absent => .str "absent"
  | .report => .str "report"

/-- A method of a new request, by its name; the usual ones also in small letters. -/
def method? : String → Option Http.Method
  | "get" => some .get
  | "post" => some .post
  | "put" => some .put
  | "patch" => some .patch
  | "delete" => some .delete
  | name => Http.Method.ofText? name

def readMethod (j : Json) : Reading Http.Method := do
  match Http.Method.ofText? (← readText j) with
  | some m => .ok m
  | none => expected "method"

def readDraft (j : Json) : Reading Draft := do
  .ok
    { method := (← readOption readMethod (field "method" j)).getD .get
      url := ← readText (field "url" j)
      headers := ← readTextPairs (field "headers" j)
      json := j.get? "json"
      body := ← (j.get? "body").mapM readBytes
      label := ← readOption readText (field "describe" j)
      notFound := ← readOption readNotFound (field "not_found" j)
      countNotFound := ← readOption readBool (field "count_not_found" j) }

def ofRequest (r : Request) : Json :=
  Json.object
    [("method", .str r.method.name), ("url", .str r.url), ("headers", ofHeaders r.headers),
      ("body", Json.ofOption ofBytes r.body), ("description", .str r.description),
      ("not_found", ofNotFound r.options.notFound),
      ("count_not_found", Json.ofOption .bool r.options.countNotFound)]

def readResponse (j : Json) : Reading (Except Http.StatusCode.OutOfRange Response) := do
  let n ← readNat (field "status" j)
  let body ← readBytes (field "body" j)
  let lines ← readHeaderLines (field "headers" j)
  .ok ((Response.ofStatus n body).map fun r => { r with headers := Http.Headers.ofLines lines })

def ofResponse (r : Response) : Json :=
  Json.object
    [("status", Json.ofNat r.status.val), ("headers", ofHeaders r.headers),
      ("body", ofBytes r.body)]

def readTransportError (j : Json) : Reading TransportError := do
  let message ← readText (field "message" j)
  let cause := (← readOption readText (field "cause" j)).getD message
  match ← readText (field "kind" j) with
  | "ServiceUnavailable" => .ok (.serviceUnavailable message)
  | "InternalServerError" => .ok (.internalServerError message)
  | "ConnectionReset" => .ok (.connectionReset message)
  | "Aborted" => .ok (.aborted message)
  | "NotFound" => .ok (.notFound message)
  | "Io" => .ok (.io message cause)
  | "Request" => .ok (.request message cause)
  | _ => expected "transport error"

def transportKind : TransportError → String
  | .serviceUnavailable _ => "ServiceUnavailable"
  | .internalServerError _ => "InternalServerError"
  | .connectionReset _ => "ConnectionReset"
  | .aborted _ => "Aborted"
  | .notFound _ => "NotFound"
  | .io _ _ => "Io"
  | .request _ _ => "Request"

def transportErrorMembers (e : TransportError) : List (String × Json) :=
  [("kind", .str (transportKind e)), ("message", .str e.message)]

def ofTransportError (e : TransportError) : Json := Json.object (transportErrorMembers e)

def ofExchange : Exchange → Json
  | .ok r => ofResponse r
  | .error e => Json.object (("error", .str "TransportError") :: transportErrorMembers e)

def readBound (j : Json) : Reading Rate.Bound := do
  match ← readText j with
  | "base_rate" => .ok .base
  | "min_rate" => .ok .min
  | _ => expected "bound"

def readCallError (j : Json) : Reading CallError := do
  let message := readText (field "message" j)
  match ← readText (field "kind" j) with
  | "Transient" => .ok (.transient (← readTransportError (field "failure" j)))
  | "RetryExhausted" =>
    .ok (.retryExhausted (← readText (field "description" j)) (← readNat (field "attempts" j))
      (← readTransportError (field "failure" j)))
  | "Decode" => .ok (.decode (← readText (field "description" j)) (some (← message)))
  | "InvalidRequest" => .ok (.invalidRequest (← message))
  | "Config" => .ok (.config (← message))
  | "Cache" => .ok (.cache (← message))
  | "InvalidRate" =>
    .ok (.rate (.invalidRate (← readBound (field "name" j)) (← readFloat (field "value" j))))
  | "InvertedBounds" =>
    .ok (.rate (.invertedBounds (← readFloat (field "min" j)) (← readFloat (field "base" j))))
  | _ => expected "call error"

def callErrorKind : CallError → String
  | .transient _ => "Transient"
  | .retryExhausted _ _ _ => "RetryExhausted"
  | .decode _ _ => "Decode"
  | .invalidRequest _ => "InvalidRequest"
  | .config _ => "Config"
  | .rate _ => "RateLimit"
  | .cache _ => "Cache"

def callErrorMembers (e : CallError) : List (String × Json) :=
  [("message", .str e.message), ("transient", .bool e.isTransient),
    ("transport", Json.ofOption ofTransportError e.transport?)]

def ofCallError (e : CallError) : Json :=
  Json.object (("error", .str (callErrorKind e)) :: callErrorMembers e)

def readStatus (j : Json) : Reading Status := do
  match Status.ofName? (← readText j) with
  | some s => .ok s
  | none => expected "status"

section

variable {α β : Type}

def outcomeMembers (f : α → Json) (o : Outcome α) : List (String × Json) :=
  [("status", .str o.status.name), ("errors", Json.ofOption .str o.errors),
    ("cause", Json.ofOption .str o.cause)] ++
    o.entity.toList.map fun a => ("entity", f a)

def ofOutcome (f : α → Json) (o : Outcome α) : Json := Json.object (outcomeMembers f o)

def ofResult (f : α → Json) : Except CallError α → Json
  | .ok a => f a
  | .error e => ofCallError e

def ofFailure (f : Failure) : Json :=
  Json.object
    [("status", .str f.status.name), ("message", .str f.message),
      ("retryable", .bool f.isRetryable)]

def ofLookup (f : α → Json) (g : β → Json) : Lookup α β → Json
  | .found a => Json.object [("found", f a)]
  | .notFound => .str "not_found"
  | .error e => Json.object [("error", g e)]

end

def readBodyReader (j : Json) : Reading (Body.Reader Json) := do
  let (name, arg) ← readStep j
  match name with
  | "unit" => .ok (Body.map Body.ignore fun _ => .null)
  | "len" => .ok (Body.map Body.size Json.ofNat)
  | "lossy" => .ok (Body.map Body.lenient .str)
  | "utf8" | "text" => .ok (Body.map Body.text .str)
  | "json" | "lookup" => .ok Body.json
  | "u32" => .ok (Body.map (Body.wholeBelow (Nat.pow 2 32)) Json.ofNat)
  | "user" =>
    .ok (Body.map Body.named fun u => Json.object [("id", Json.ofNat u.id), ("name", .str u.name)])
  | "fail" => .ok (Body.fail (← readText arg))
  | _ => expected "body reader"

end PacedCalls.Document
