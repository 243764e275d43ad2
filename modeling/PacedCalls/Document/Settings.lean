import PacedCalls.Cache.Config
import PacedCalls.Cache.Stats
import PacedCalls.Document.Reading
import PacedCalls.Document.Writing
import PacedCalls.Http.Settings
import PacedCalls.Log.Record
import PacedCalls.Rate.Controller
import PacedCalls.Retry.Policy

set_option autoImplicit false

namespace PacedCalls.Document

def readBackoff (j : Json) : Reading (Retry.Backoff Float) := do
  let (name, arg) ← readStep j
  match name with
  | "constant" => .ok (.constant (← readNat arg))
  | "linear" => .ok (.linear (← readNat (field "delay" arg)) (← readNat (field "max" arg)))
  | "exponential" =>
    .ok (.exponential (← readNat (field "initial" arg)) (← readNat (field "max" arg))
      (← readFloat (field "multiplier" arg)))
  | _ => expected "backoff"

def readPolicy : Json → Reading (Retry.Policy Float) :=
  readSteps {} fun p name arg => do
    match name with
    | "default" => .ok {}
    | "disabled" => .ok .disabled
    | "fixed" => .ok (.fixed (← readNat arg))
    | "linear" => .ok (.linear (← readNat (field "delay" arg)) (← readNat (field "max" arg)))
    | "exponential" =>
      .ok (.exponential (← readNat (field "initial" arg)) (← readNat (field "max" arg)))
    | "max_attempts" => .ok (p.withMaxAttempts (← readNat arg))
    | "backoff" => .ok (p.withBackoff (← readBackoff arg))
    | "enabled" => .ok { p with enabled := ← readBool arg }
    | _ => expected "policy step"

def ofBackoff : Retry.Backoff Float → Json
  | .constant d => Json.object [("constant", ofDuration d)]
  | .linear d longest =>
    Json.object [("linear", Json.object [("delay", ofDuration d), ("max", ofDuration longest)])]
  | .exponential d longest factor =>
    Json.object [("exponential", Json.object
      [("initial", ofDuration d), ("max", ofDuration longest), ("multiplier", ofFloat factor)])]

def policyMembers (p : Retry.Policy Float) : List (String × Json) :=
  [("enabled", .bool p.enabled), ("backoff", ofBackoff p.backoff),
    ("max_attempts", Json.ofOption Json.ofNat p.maxAttempts)]

def readRates (j : Json) : Reading (Rate.Config Float) := do
  let (base, min) ← readPair readFloat readFloat j
  .ok { base := base, min := min }

def ofRateError (e : Rate.ConfigError Float) : Json :=
  let kind := match e with
    | .invalidRate _ _ => "InvalidRate"
    | .invertedBounds _ _ => "InvertedBounds"
  Json.object [("error", .str kind), ("message", .str e.message)]

def controllerMembers (c : Rate.Controller Float) : List (String × Json) :=
  [("current", ofFloat c.limits.current), ("base", ofFloat c.limits.base),
    ("min", ofFloat c.limits.min), ("permits", Json.ofNat c.granted),
    ("increases", Json.ofNat c.increases), ("decreases", Json.ofNat c.decreases)]

def readCacheConfig : Json → Reading Cache.Config :=
  readSteps {} fun c name arg => do
    match name with
    | "ttl" => .ok { c with ttl := ← readNat arg }
    | "ttl_secs" => .ok { c with ttl := Duration.ofSecs (← readNat arg) }
    | "max_size" => .ok { c with maxSize := ← readNat arg }
    | _ => expected "cache step"

def cacheConfigMembers (c : Cache.Config) : List (String × Json) :=
  [("ttl", ofDuration c.ttl), ("max_size", Json.ofNat c.maxSize)]

def ofCacheError (e : Cache.ConfigError) : Json :=
  Json.object [("error", .str "Config"), ("message", .str e.message)]

def readStats (j : Json) : Reading Cache.Stats := do
  let count := fun key => (readOption readNat (field key j)).map (·.getD 0)
  .ok
    { hits := ← count "hits", misses := ← count "misses", loads := ← count "loads"
      loadFailures := ← count "load_failures", coalesced := ← count "coalesced"
      evictions := ← count "evictions", expirations := ← count "expirations" }

def ofStats (s : Cache.Stats) : Json :=
  .arr ([s.hits, s.misses, s.loads, s.loadFailures, s.coalesced, s.evictions, s.expirations].map
    Json.ofNat)

def namedStats (s : Cache.Stats) : Json :=
  Json.object
    [("hits", Json.ofNat s.hits), ("misses", Json.ofNat s.misses), ("loads", Json.ofNat s.loads),
      ("load_failures", Json.ofNat s.loadFailures), ("coalesced", Json.ofNat s.coalesced),
      ("evictions", Json.ofNat s.evictions), ("expirations", Json.ofNat s.expirations)]

def readHttpSettings : Json → Reading Http.Settings :=
  readSteps {} fun s name arg => do
    match name with
    | "base_url" => .ok { s with baseUrl := some (← readText arg) }
    | "timeout" => .ok { s with timeout := ← readNat arg }
    | "connect_timeout" => .ok { s with connectTimeout := ← readNat arg }
    | "default_header" =>
      .ok { s with defaultHeaders := s.defaultHeaders ++ [← readPair readText readText arg] }
    | "user_agent" => .ok { s with userAgent := ← readText arg }
    | "max_redirects" => .ok { s with maxRedirects := ← readNat arg }
    | "raise_transient" => .ok { s with raised := { s.raised with transient := ← readBool arg } }
    | "raise_not_found" => .ok { s with raised := { s.raised with notFound := ← readBool arg } }
    | "raise" =>
      match ← readText arg with
      | "none" => .ok { s with raised := .none }
      | "proxy" => .ok { s with raised := .proxy }
      | _ => expected "raised statuses"
    | _ => expected "HTTP step"

def ofHttpSettings (s : Http.Settings) : Json :=
  Json.object
    [("base_url", Json.ofOption .str s.baseUrl), ("timeout", ofDuration s.timeout),
      ("connect_timeout", ofDuration s.connectTimeout),
      ("default_headers", .arr (s.defaultHeaders.map fun (n, v) => .arr [.str n, .str v])),
      ("user_agent", .str s.userAgent), ("max_redirects", Json.ofNat s.maxRedirects),
      ("raise", Json.object [("transient", .bool s.raised.transient),
        ("not_found", .bool s.raised.notFound)])]

def readLevel (j : Json) : Reading Log.Level := do
  match Log.Level.ofName? (← readText j) with
  | some l => .ok l
  | none => expected "level"

def ofField : Log.Field → Json
  | .number x => ofFloat x
  | .count n => Json.ofNat n
  | .flag b => .bool b
  | .text s => .str s

def ofRecord (r : Log.Record) : Json :=
  let title := match r.title with
    | .event message => ("msg", Json.str message)
    | .span name => ("span", .str name)
  Json.object [("level", .str r.level.name), title,
    ("fields", Json.object (r.fields.map fun (k, v) => (k, ofField v)))]

def logMembers (threshold : Option Log.Level) (events : List (Event Float)) :
    List (String × Json) :=
  threshold.toList.map fun l => ("log", .arr ((Log.records l events).map ofRecord))

end PacedCalls.Document
