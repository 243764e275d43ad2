import PacedCalls.Body
import PacedCalls.CallError
import PacedCalls.Request
import PacedCalls.Text.Blank

set_option autoImplicit false

namespace PacedCalls

/-- The header by which a service says that a request failed validation. -/
def validationHeader : Http.HeaderName := ⟨"validation-exception"⟩

def hasValidationMark (h : Http.Headers) : Bool :=
  match (h.first? validationHeader).bind Http.HeaderValue.text? with
  | some v => Text.lowerAscii (Text.trim v) == "true"
  | none => false

/-- The status of a response: some codes decide alone, for all others the validation header
does. -/
def Status.ofResponse (code : Http.StatusCode) (h : Http.Headers) : Status :=
  match code.val with
  | 200 | 202 => .success
  | 400 => .invalid
  | 404 => .notFound
  | 403 => .denied
  | 503 => .error
  | _ => if hasValidationMark h then .invalid else .error

namespace Response

def callStatus (r : Response) : Status := Status.ofResponse r.status r.headers

def fullReport (r : Response) (request : Request) : String :=
  let headers := r.headers.lines.map fun (name, value) =>
    name.text ++ ": " ++ value.text?.getD "<binary>"
  request.description ++ ": " ++ request.method.name ++ " " ++ request.url ++ " returned " ++
    r.status.line ++ " [" ++ ", ".intercalate headers ++ "] " ++ r.text

def bodyReport (r : Response) (request : Request) : String :=
  request.description ++ ": " ++ r.status.line ++ " " ++ r.text

def shortReport (r : Response) (request : Request) : String :=
  if r.text.isEmpty then request.description ++ ": " ++ r.status.line else r.bodyReport request

/-- The outcome of a call that got this response. Only the body of a success is decoded; if that
fails the call has no outcome. -/
def toOutcome {α : Type} (r : Response) (request : Request)
    (decode : Body.Reader α) : Except CallError (Outcome α) :=
  match r.callStatus with
  | .success =>
    match decode r with
    | .ok a => .ok (.success a)
    | .error e => .error (.decode request.description e.reason)
  | .error => .ok (.failed .error (r.fullReport request))
  | .invalid =>
    .ok (.failed .invalid
      (if r.status.val = 400 then r.shortReport request else r.bodyReport request))
  | status => .ok (.failed status (r.shortReport request))

end Response

namespace TransportError

/-- The outcome of a call that failed in the transport, or nothing if the failure is transient. -/
def toOutcome? {α : Type} (e : TransportError) (request : Request) : Option (Outcome α) :=
  let report := fun (status : Status) (message : String) =>
    request.description ++ ": " ++ status.name ++ " " ++ message
  match e with
  | .aborted m => some (.failed .aborted (report .aborted m))
  | .notFound m =>
    match request.options.notFound with
    | .absent => some .absent
    | .report => some (.failed .notFound (report .notFound m))
  | .io m cause => some ((Outcome.failed .error (report .error m)).withCause cause)
  | .request m cause => some (.fatal (report .fatalError m) cause)
  | .serviceUnavailable _ | .internalServerError _ | .connectionReset _ => none

end TransportError

end PacedCalls
