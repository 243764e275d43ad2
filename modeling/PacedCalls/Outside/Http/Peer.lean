import PacedCalls.Http.Fault
import PacedCalls.Outside.Http.Url
import PacedCalls.Response

/-!
A peer on the other side of HTTP connections. It takes one connection after another, and does with
each what its script says; the last line of the script is repeated, and with no script nobody
listens.
-/

set_option autoImplicit false

namespace PacedCalls.Http

structure Hop where
  method : Method
  url : Url
  headers : Headers
  body : Option Bytes
  deriving DecidableEq, Repr

inductive Manner where
  /-- Replies, and closes. The length that the reply declares need not be that of its body. -/
  | reply (status : StatusCode) (lines : List (String × Bytes)) (body : Bytes) (declared : Nat)
  | close
  | reset
  | hang
  | garbage
  deriving DecidableEq, Repr

inductive Sighting where
  | request (hop : Hop)
  | reset
  | garbage
  deriving DecidableEq, Repr

structure Arrival where
  response : Response
  complete : Bool
  deriving DecidableEq, Repr

structure Peer where
  host : Host
  port : Nat
  script : List Manner
  seen : List Sighting := []
  deriving DecidableEq, Repr

def contentLength : HeaderName := ⟨"content-length"⟩

def connectionName : HeaderName := ⟨"connection"⟩

def HeaderValue.ofAscii (s : String) : HeaderValue := ⟨Bytes.ofText s⟩

def HeaderValue.trim (v : HeaderValue) : HeaderValue :=
  let blank := fun b : UInt8 => b == 0x20 || b == 0x09
  ⟨((v.octets.dropWhile blank).reverse.dropWhile blank).reverse⟩

def Headers.mapValues (h : Headers) (f : HeaderValue → HeaderValue) : Headers :=
  ⟨h.entries.map fun (name, values) => (name, values.map f)⟩

def isBodiless (method : Method) (status : StatusCode) : Bool :=
  method == Method.head || status.val == 101 || status.val == 204 || status.val == 304

def arrivalOf (method : Method) (status : StatusCode) (lines : List (String × Bytes))
    (body : Bytes) (declared : Nat) : Arrival :=
  let headers := ((Headers.ofLines lines).mapValues HeaderValue.trim).append contentLength
    (.ofAscii (Nat.repr declared)) |>.append connectionName (.ofAscii "close")
  let bodiless := isBodiless method status
  { response :=
      { status := status, headers := headers
        body := if bodiless then [] else body.take declared }
    complete := bodiless || declared ≤ body.length }

def faultAt (hop : Hop) : Fault :=
  { text := "error sending request for url (" ++ hop.url.text ++ ")" }

namespace Peer

def next (p : Peer) : Option Manner × Peer :=
  match p.script with
  | [] => (none, p)
  | [last] => (some last, p)
  | manner :: rest => (some manner, { p with script := rest })

def isAt (p : Peer) (url : Url) : Bool :=
  url.host == some p.host && url.origin.2.2 == some p.port

def saw (p : Peer) (s : Sighting) : Peer := { p with seen := s :: p.seen }

/-- Sends a request over a new connection. An informational status is not a reply yet. -/
def connect (p : Peer) (hop : Hop) : Except Fault Arrival × Peer :=
  let fault := faultAt hop
  let refused := { fault with unconnected := true, sources := [.other, .io .refused] }
  if !p.isAt hop.url then (.error refused, p)
  else
    let secure := hop.url.scheme == "https"
    match p.next with
    | (none, p) => (.error refused, p)
    | (some .reset, p) =>
      (.error { fault with unconnected := secure, sources := [.other, .io .reset] }, p.saw .reset)
    | (some .garbage, p) =>
      (.error { fault with unconnected := secure, sources := [.other, .io (.other "InvalidData")] },
        p.saw .garbage)
    | (some .hang, p) =>
      (.error { fault with timedOut := true, sources := [.other] }, p.saw (.request hop))
    | (some .close, p) => (.error { fault with sources := [.other] }, p.saw (.request hop))
    | (some (.reply status lines body declared), p) =>
      let p := p.saw (.request hop)
      if secure then (.error { fault with unconnected := true, sources := [.other] }, p)
      else if status.val < 200 && status.val != 101 then
        (.error { fault with sources := [.other] }, p)
      else (.ok (arrivalOf hop.method status lines body declared), p)

end Peer

end PacedCalls.Http
