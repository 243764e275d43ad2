import PacedCalls.Outside.Http.Peer
import PacedCalls.Http.Raising
import PacedCalls.Outside.Text.Base64

/-!
HTTP exchanges: a request is put together with the settings, sent, sent on where the peer redirects
it, and the last response is read to its end and handed over or raised.
-/

set_option autoImplicit false

namespace PacedCalls.Http

def named (name : String) : HeaderName := ⟨name⟩

def Headers.orElse (h other : Headers) : Headers :=
  ⟨h.entries ++ other.entries.filter fun (name, _) => !h.names.contains name⟩

namespace Url

/-- User and password as they were before they were escaped; none if they are not well formed, or
if there are none. -/
def credentials? (url : Url) : Option (String × String) :=
  let plain := fun s => (Text.Utf8.decode (unescape (Bytes.ofText s))).toOption
  match plain url.user with
  | none => none
  | some user =>
    match url.password.bind plain with
    | some password => some (user, password)
    | none => if user.isEmpty then none else some (user, "")

def withoutUser (url : Url) : Url := { url with user := "", password := none }

end Url

def Settings.profile (s : Settings) : Except CallError (Profile Url) :=
  s.check fun text => (Url.read none text).mapError UrlError.message

def basicAuthorization (user password : String) : HeaderValue :=
  .ofAscii ("Basic " ++ String.ofList (Text.Base64.encode (Bytes.ofText (user ++ ":" ++ password))))

def unbuilt : Fault := { unbuilt := true, text := "builder error" }

def isReachable (url : Url) : Bool := url.scheme == "http" || url.scheme == "https"

namespace Profile

def defaults (p : Profile Url) : Headers :=
  ({ entries := [(named "user-agent", [p.userAgent])] } : Headers).extend p.headers

def firstHop (p : Profile Url) (r : Request) : Except TransportError Hop :=
  match Url.read p.base r.url with
  | .error e => .error (.request e.message e.message)
  | .ok url =>
    if !isReachable url then .error unbuilt.onSend
    else
      let own : Headers :=
        match url.credentials? with
        | some (user, password) =>
          { entries := [(named "authorization", [basicAuthorization user password])] }
        | none => {}
      .ok
        { method := r.method
          url := if url.credentials?.isSome then url.withoutUser else url
          headers := (own.extend r.headers).orElse p.defaults
          body := r.body }

end Profile

def payloadNames : List HeaderName :=
  ["content-type", "content-length", "content-encoding", "transfer-encoding"].map named

def sensitiveNames : List HeaderName :=
  ["authorization", "cookie", "cookie2", "proxy-authorization", "www-authenticate"].map named

def Headers.eraseAll (h : Headers) (names : List HeaderName) : Headers :=
  names.foldl Headers.erase h

def locationOf (hop : Hop) (r : Response) : Option Url := do
  let value ← r.headers.first? (named "location")
  let text ← (Text.Utf8.decode value.octets).toOption
  (Url.read (some hop.url) text).toOption

def Hop.bare (hop : Hop) (method : Method) : Hop :=
  { hop with method := method, body := none, headers := hop.headers.eraseAll payloadNames }

/-- The request that a status asks for: after 301 and 302 what was posted is only got, and after 303
everything is. -/
def Hop.redirected? (hop : Hop) (status : StatusCode) : Option Hop :=
  match status.val with
  | 301 | 302 => some (if hop.method = .post then hop.bare .get else hop)
  | 303 => some (hop.bare (if hop.method = .head then .head else .get))
  | 307 | 308 => some hop
  | _ => none

/-- The next hop after a response, if it redirects. The page that it came from is named, unless that
one was secret and the next one is not. -/
def Hop.next? (hop : Hop) (r : Response) : Option Hop := do
  let next ← hop.redirected? r.status
  let url ← locationOf hop r
  let kept :=
    if (url.host, url.origin.2.2) = (hop.url.host, hop.url.origin.2.2) then next.headers
    else next.headers.eraseAll sensitiveNames
  let headers :=
    if url.scheme = "http" ∧ hop.url.scheme = "https" then kept
    else kept.insert (named "referer") (.ofAscii hop.url.withoutUser.text)
  some { next with url := url, headers := headers }

/-- Sends a request and follows redirects; `left` says how many more. With no redirects allowed at
all the first redirect is the response. -/
def follow (allowed : Nat) : (left : Nat) → Hop → Peer → Except Fault Arrival × Peer
  | left, hop, peer =>
    match peer.connect hop with
    | (.error fault, peer) => (.error fault, peer)
    | (.ok arrival, peer) =>
      match hop.next? arrival.response with
      | none => (.ok arrival, peer)
      | some next =>
        match left with
        | 0 =>
          if allowed = 0 then (.ok arrival, peer)
          else (.error { faultAt hop with sources := [.other] }, peer)
        | left + 1 =>
          if isReachable next.url then follow allowed left next peer else (.error unbuilt, peer)

def cutShort : Fault :=
  { inBody := true, text := "error decoding response body"
    sources := [.other, .io .unexpectedEnd] }

structure Channel where
  profile : Profile Url
  peer : Peer

namespace Channel

/-- An exchange before statuses are raised. One that timed out took as long as it may. -/
def carry (c : Channel) (request : Request) : Reply × Channel :=
  match c.profile.firstHop request with
  | .error e => ({ result := .error e }, c)
  | .ok hop =>
    match follow c.profile.maxRedirects c.profile.maxRedirects hop c.peer with
    | (.error fault, peer) =>
      ({ result := .error fault.onSend, delay := if fault.timedOut then c.profile.timeout else 0 },
        { c with peer := peer })
    | (.ok arrival, peer) =>
      ({ result := if arrival.complete then .ok arrival.response else .error cutShort.onBody },
        { c with peer := peer })

instance : Transport Channel where
  exchange request c := c.carry request

def raising (c : Channel) : Raising Channel := { raised := c.profile.raised, inner := c }

end Channel

end PacedCalls.Http
