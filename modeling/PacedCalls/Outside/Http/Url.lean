import PacedCalls.Outside.Http.Address
import PacedCalls.Outside.Http.DomainName
import PacedCalls.Text.Blank

set_option autoImplicit false

namespace PacedCalls.Http

inductive UrlError where
  | emptyHost
  | invalidName
  | invalidCharacter
  | invalidPort
  | invalidIpv4
  | invalidIpv6
  | noBase
  | opaqueBase
  deriving DecidableEq, Repr

def UrlError.message : UrlError → String
  | emptyHost => "empty host"
  | invalidName => "invalid international domain name"
  | invalidCharacter => "invalid domain character"
  | invalidPort => "invalid port number"
  | invalidIpv4 => "invalid IPv4 address"
  | invalidIpv6 => "invalid IPv6 address"
  | noBase => "relative URL without a base"
  | opaqueBase => "relative URL with a cannot-be-a-base base"

inductive Host where
  | domain (name : String)
  | ipv4 (address : Nat)
  | ipv6 (pieces : List Nat)
  deriving DecidableEq, Repr

inductive Path where
  | segments (parts : List String)
  | rootless (text : String)
  deriving DecidableEq, Repr

structure Url where
  scheme : String
  user : String := ""
  password : Option String := none
  host : Option Host := none
  port : Option Nat := none
  path : Path := .segments []
  query : Option String := none
  fragment : Option String := none
  deriving DecidableEq, Repr

namespace Url

def specialPorts : List (String × Nat) :=
  [("http", 80), ("https", 443), ("ws", 80), ("wss", 443), ("ftp", 21)]

def isSpecial (scheme : String) : Bool := scheme == "file" || (specialPorts.lookup scheme).isSome

def isSlash (special : Bool) (c : Char) : Bool := c == '/' || (special && c == '\\')

def endsAuthority (special : Bool) (c : Char) : Bool := isSlash special c || c == '?' || c == '#'

def alwaysEscaped (b : UInt8) : Bool := b < 0x20 || 0x7E < b

def charIn (set : String) (b : UInt8) : Bool := set.toList.any (·.toNat == b.toNat)

def escape (refused : UInt8 → Bool) (text : List Char) : String :=
  String.ofList <| (Bytes.ofText (String.ofList text)).flatMap fun b =>
    if alwaysEscaped b || refused b then
      ['%', (Nat.digitChar (b.toNat / 16)).toUpper, (Nat.digitChar (b.toNat % 16)).toUpper]
    else [Char.ofNat b.toNat]

def brackets : String := String.ofList [Char.ofNat 0x60, Char.ofNat 0x7B, Char.ofNat 0x7D]

def refusedInFragment (b : UInt8) : Bool := charIn " \"<>" b || b == 0x60

def refusedInPath (b : UInt8) : Bool := charIn " \"<>#?" b || charIn brackets b

def refusedInQuery (special : Bool) (b : UInt8) : Bool :=
  charIn " \"<>#" b || (special && b == 0x27)

def refusedInUser (b : UInt8) : Bool := refusedInPath b || charIn "/:;=@[\\]^|" b

def cutAt (mark : Char) (text : List Char) : List Char × Option (List Char) :=
  match text.dropWhile (· ≠ mark) with
  | [] => (text, none)
  | _ :: rest => (text.takeWhile (· ≠ mark), some rest)

def takeScheme? (text : List Char) : Option (String × List Char) :=
  match text with
  | c :: _ =>
    if c.isAlpha then
      let name := text.takeWhile fun c => c.isAlphanum || c == '+' || c == '-' || c == '.'
      match text.drop name.length with
      | ':' :: rest => some (String.ofList (name.map Char.toLower), rest)
      | _ => none
    else none
  | [] => none

def unescape : Bytes → Bytes
  | [] => []
  | [a] => [a]
  | [a, b] => [a, b]
  | a :: b :: c :: rest =>
    if a = 0x25 then
      match Json.hexValue? b, Json.hexValue? c with
      | some high, some low => (UInt8.ofNat (high * 16 + low)) :: unescape rest
      | _, _ => a :: unescape (b :: c :: rest)
    else a :: unescape (b :: c :: rest)
  termination_by bs => bs.length
  decreasing_by all_goals (simp only [List.length_cons]; omega)

/-- The host of a URL with a special scheme: an address in brackets, or a name, which is an IPv4
address if it ends in a number. -/
def readHost (text : List Char) : Except UrlError Host :=
  match text with
  | '[' :: rest =>
    if rest.getLast? = some ']' then
      match Address.ipv6? rest.dropLast with
      | some pieces => .ok (.ipv6 pieces)
      | none => .error .invalidIpv6
    else .error .invalidIpv6
  | _ =>
    let octets := unescape (Bytes.ofText (String.ofList text))
    match DomainName.ascii? (Text.Utf8.lossyChars octets) with
    | none => .error .invalidName
    | some [] => .error .emptyHost
    | some name =>
      if Address.endsInNumber name then
        match Address.ipv4? name with
        | some address => .ok (.ipv4 address)
        | none => .error .invalidIpv4
      else .ok (.domain (String.ofList name))

def readRootlessHost (text : List Char) : Except UrlError (Option Host) :=
  match text with
  | [] => .ok none
  | '[' :: _ => (readHost text).map some
  | _ =>
    if text.any (fun c => c.toNat == 0 || " #/:<>?@[\\]^|".toList.contains c) then
      .error .invalidCharacter
    else .ok (some (.domain (escape (fun _ => false) text)))

/-- A port, as far as the digits go; the usual one of the scheme is not kept. After the digits
there may be only what could end the part with user, host and port. -/
def readPort (scheme : String) (text : List Char) : Except UrlError (Option Nat × List Char) :=
  let digits := text.takeWhile Char.isDigit
  let rest := text.drop digits.length
  let n := digits.foldl (fun n c => n * 10 + (c.toNat - '0'.toNat)) 0
  if 65535 < n then .error .invalidPort
  else if (rest.head?.map fun c => !endsAuthority true c).getD false then .error .invalidPort
  else if digits.isEmpty || specialPorts.lookup scheme = some n then .ok (none, rest)
  else .ok (some n, rest)

/-- The text up to the colon in front of a port; colons between brackets belong to the host. -/
def takeHost : (inside : Bool) → List Char → List Char
  | _, [] => []
  | inside, c :: rest =>
    if c = ':' ∧ !inside then []
    else c :: takeHost (if c = '[' then true else if c = ']' then false else inside) rest

def cutUser (text : List Char) : Option (List Char) × List Char :=
  if text.contains '@' then
    let back := text.reverse.takeWhile (· ≠ '@')
    (some (text.take (text.length - back.length - 1)), back.reverse)
  else (none, text)

def readUser (info : List Char) : String × Option String :=
  let (user, password) := cutAt ':' info
  (escape refusedInUser user,
    (password.filter (! ·.isEmpty)).map (escape refusedInUser))

def readAuthority (scheme : String) (text : List Char) : Except UrlError (Url × List Char) := do
  let special := isSpecial scheme
  let authority := text.takeWhile fun c => !endsAuthority special c
  let path := text.drop authority.length
  let (info, hostport) := cutUser authority
  let (user, password) := readUser (info.getD [])
  let name := takeHost false hostport
  let port := hostport.drop name.length
  if info = some [] && hostport.isEmpty && !path.isEmpty then throw .emptyHost
  if name.isEmpty && (special || !port.isEmpty) then throw .emptyHost
  let host ← if special then (readHost name).map some else readRootlessHost name
  let (port, after) ← match port with
    | _ :: digits => readPort scheme digits
    | [] => pure (none, [])
  if host.isNone && !(user.isEmpty && password.isNone) then throw .emptyHost
  pure ({ scheme := scheme, user := user, password := password, host := host, port := port },
    after ++ path)

def isDot (part : String) : Bool :=
  [".", "%2e"].contains (Text.lowerAscii part)

def isDoubleDot (part : String) : Bool :=
  ["..", ".%2e", "%2e.", "%2e%2e"].contains (Text.lowerAscii part)

def splitSlashes (special : Bool) : List Char → List (List Char)
  | [] => [[]]
  | c :: rest =>
    if isSlash special c then [] :: splitSlashes special rest
    else match splitSlashes special rest with
      | part :: more => (c :: part) :: more
      | [] => [[c]]

def resolveParts (done : List String) : List (List Char) → List String
  | [] => done.reverse
  | part :: rest =>
    let text := escape refusedInPath part
    if isDoubleDot text then
      if rest.isEmpty then ("" :: done.drop 1).reverse else resolveParts (done.drop 1) rest
    else if isDot text then
      if rest.isEmpty then ("" :: done).reverse else resolveParts done rest
    else resolveParts (text :: done) rest

/-- Adds the text of a path, query and fragment to a URL whose path starts with `front`. -/
def readRest (front : List String) (text : List Char) (url : Url) : Url :=
  let special := isSpecial url.scheme
  let (text, fragment) := cutAt '#' text
  let (text, query) := cutAt '?' text
  { url with
    path := .segments (resolveParts front.reverse (splitSlashes special text))
    query := query.map (escape (refusedInQuery special))
    fragment := fragment.map (escape refusedInFragment) }

def readAfterSlashes (scheme : String) (text : List Char) : Except UrlError Url := do
  let special := isSpecial scheme
  let (url, rest) ← readAuthority scheme text
  match rest with
  | c :: more =>
    if isSlash special c then pure (readRest [] more url)
    else if special || !(c == '?' || c == '#') then pure (readRest [] rest url)
    else
      let (text, fragment) := cutAt '#' rest
      let (_, query) := cutAt '?' text
      pure { url with
        query := query.map (escape (refusedInQuery special))
        fragment := fragment.map (escape refusedInFragment) }
  | [] => pure (if special then readRest [] [] url else url)

def readRelative (base : Url) (text : List Char) : Except UrlError Url :=
  let special := isSpecial base.scheme
  match base.path with
  | .rootless _ =>
    match text with
    | '#' :: fragment =>
      .ok { base with fragment := some (escape refusedInFragment fragment) }
    | _ => .error .opaqueBase
  | .segments parts =>
    match text with
    | [] => .ok { base with fragment := none }
    | c :: rest =>
      if isSlash special c then
        match rest with
        | d :: more =>
          if isSlash special d then
            readAfterSlashes base.scheme
              (if special then more.dropWhile (isSlash special) else more)
          else .ok (readRest [] rest { base with query := none, fragment := none })
        | [] => .ok (readRest [] rest { base with query := none, fragment := none })
      else if c = '?' then
        let (query, fragment) := cutAt '#' rest
        .ok { base with
          query := some (escape (refusedInQuery special) query)
          fragment := fragment.map (escape refusedInFragment) }
      else if c = '#' then
        .ok { base with fragment := some (escape refusedInFragment rest) }
      else .ok (readRest parts.dropLast text { base with query := none, fragment := none })

def isDrive (text : List Char) : Bool :=
  match text with
  | [letter, mark] => letter.isAlpha && (mark == ':' || mark == '|')
  | _ => false

/-- What follows the scheme of files: after exactly two slashes there may be a host. -/
def readFile (slashes : Nat) (text : List Char) : Except UrlError Url := do
  let rest := text.drop slashes
  let url : Url := { scheme := "file" }
  if slashes ≠ 2 then pure (readRest [] rest url)
  else
    let name := rest.takeWhile fun c => !endsAuthority true c
    if name.isEmpty || isDrive name then pure (readRest [] rest url)
    else
      let host ← readHost name
      let after := rest.drop name.length
      let path := if (after.head?.map (isSlash true)).getD false then after.drop 1 else after
      pure (readRest [] path
        { url with host := if host = .domain "localhost" then none else some host })

def readAfterScheme (base : Option Url) (scheme : String) (text : List Char) :
    Except UrlError Url :=
  let slashes := text.takeWhile (isSlash (isSpecial scheme))
  if scheme = "file" then
    readFile slashes.length text
  else if isSpecial scheme then
    match base.filter (·.scheme == scheme) with
    | some b =>
      if slashes.length < 2 then readRelative b text
      else readAfterSlashes scheme (text.drop slashes.length)
    | none => readAfterSlashes scheme (text.drop slashes.length)
  else
    match text with
    | '/' :: '/' :: rest => readAfterSlashes scheme rest
    | '/' :: rest => .ok (readRest [] rest { scheme := scheme })
    | _ =>
      let (text, fragment) := cutAt '#' text
      let (text, query) := cutAt '?' text
      .ok { scheme := scheme, path := .rootless (escape (fun _ => false) text)
            query := query.map (escape (refusedInQuery false))
            fragment := fragment.map (escape refusedInFragment) }

/-- The text that counts: without controls and blanks around it, and without tabs and line ends
anywhere. -/
def significant (text : String) : List Char :=
  let edge := fun c : Char => c.toNat ≤ 0x20
  (((text.toList.dropWhile edge).reverse.dropWhile edge).reverse).filter fun c =>
    c ≠ '\t' && c ≠ '\n' && c ≠ '\r'

def read (base : Option Url) (text : String) : Except UrlError Url :=
  let chars := significant text
  match takeScheme? chars with
  | some (scheme, rest) => readAfterScheme base scheme rest
  | none =>
    match base with
    | some b => readRelative b chars
    | none => .error .noBase

def target (url : Url) : String :=
  let path := match url.path with
    | .segments parts => "/" ++ "/".intercalate parts
    | .rootless text => text
  path ++ (match url.query with
    | some q => "?" ++ q
    | none => "")

def hostText : Host → String
  | .domain name => name
  | .ipv4 address => Address.ipv4Text address
  | .ipv6 pieces => Address.ipv6Text pieces

def text (url : Url) : String :=
  let user := if url.user.isEmpty && url.password.isNone then "" else
    url.user ++ (match url.password with
      | some p => ":" ++ p
      | none => "") ++ "@"
  let authority := match url.host with
    | some h => "//" ++ user ++ hostText h ++ (match url.port with
      | some p => ":" ++ Nat.repr p
      | none => "")
    | none => ""
  url.scheme ++ ":" ++ authority ++ url.target

def origin (url : Url) : String × Option Host × Option Nat :=
  (url.scheme, url.host, url.port.or (specialPorts.lookup url.scheme))

end Url

end PacedCalls.Http
