import PacedCalls.Event
import PacedCalls.Log.Level

set_option autoImplicit false

namespace PacedCalls.Log

inductive Field where
  | number (x : Float)
  | count (n : Nat)
  | flag (b : Bool)
  | text (s : String)

/-- A report happens at a moment, or spans some work and is named then. -/
inductive Title where
  | event (message : String)
  | span (name : String)
  deriving DecidableEq, Repr

structure Record where
  level : Level
  title : Title
  fields : List (String × Field) := []

def millisField (d : Nat) : Field := .count (Duration.toMillis d % Nat.pow 2 64)

private def debug (message : String) (fields : List (String × Field) := []) : Record :=
  { level := .debug, title := .event message, fields := fields }

private def trace (message : String) (fields : List (String × Field) := []) : Record :=
  { level := .trace, title := .event message, fields := fields }

private def warn (message : String) (fields : List (String × Field)) : Record :=
  { level := .warn, title := .event message, fields := fields }

def Record.ofEvent : Event Float → Record
  | .controllerCreated base min =>
    debug "Creating rate controller" [("base_rate", .number base), ("min_rate", .number min)]
  | .permitAwaited wait => trace "Waiting for rate permit" [("wait_ms", millisField wait)]
  | .rateAdjusted direction old new =>
    debug "Rate adjusted"
      [("direction", .text direction.name), ("from", .number old), ("to", .number new)]
  | .ceilingChanged base current =>
    debug "Rate ceiling changed" [("base_rate", .number base), ("current_rate", .number current)]
  | .floorChanged min current =>
    debug "Rate floor changed" [("min_rate", .number min), ("current_rate", .number current)]
  | .cacheCreated ttl maxSize =>
    debug "Read-through cache created" [("ttl_ms", millisField ttl), ("max_size", .count maxSize)]
  | .cacheCleared => debug "Read-through cache cleared"
  | .loadJoined => trace "Joining in-flight load"
  | .loadAbandoned => trace "In-flight load abandoned; retrying"
  | .missesBatched keys chunks joined =>
    debug "Loading cache misses in batches"
      [("keys", .count keys), ("chunks", .count chunks), ("joined", .count joined)]
  | .loadFailed => debug "Load failed; result not cached"
  | .batchFailed keys => warn "Batch load failed" [("keys", .count keys)]
  | .headerSkipped name => warn "Skipping invalid header" [("header", .text name)]
  | .retryWaits target attempt wait error =>
    warn "Transient failure, waiting before retry"
      [("target_description", .text target), ("attempt", .count attempt),
        ("wait_ms", millisField wait), ("error", .text error)]
  | .retryGivesUp target attempts error =>
    warn "Giving up after transient failures"
      [("target_description", .text target), ("attempts", .count attempts),
        ("error", .text error)]
  | .loadWithoutOutcome error =>
    warn "Remote load failed without an outcome" [("error", .text error)]
  | .callFinished description status =>
    debug "Remote call finished" [("description", .text description), ("status", .text status.name)]
  | .clientBuilt base min retryEnabled =>
    debug "Invocation runtime built"
      [("base_rate", .number base), ("min_rate", .number min),
        ("retry_enabled", .flag retryEnabled)]
  | .exchangeOpened method url description =>
    { level := .debug, title := .span "remote_call",
      fields := [("method", .text method), ("url", .text url),
        ("description", .text description)] }
  | .exchangeCompleted status =>
    debug "Call completed" [("status", .count status.val)]
  | .exchangeFailed error => debug "Call failed in transport" [("error", .text error)]

def records (threshold : Level) (events : List (Event Float)) : List Record :=
  (events.map Record.ofEvent).filter (·.level.passes threshold)

end PacedCalls.Log
