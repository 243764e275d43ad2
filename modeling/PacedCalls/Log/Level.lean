import PacedCalls.Text.Blank

set_option autoImplicit false

namespace PacedCalls.Log

/-- How severe a report is; as a threshold, how severe it has to be. -/
inductive Level where
  | trace
  | debug
  | info
  | warn
  | error
  | off
  deriving DecidableEq, Repr

namespace Level

def rank : Level → Nat
  | trace => 0
  | debug => 1
  | info => 2
  | warn => 3
  | error => 4
  | off => 5

def directive : Level → String
  | trace => "trace"
  | debug => "debug"
  | info => "info"
  | warn => "warn"
  | error => "error"
  | off => "off"

def name : Level → String
  | trace => "TRACE"
  | debug => "DEBUG"
  | info => "INFO"
  | warn => "WARN"
  | error => "ERROR"
  | off => "OFF"

/-- Reads a level, in any case. Only letters of ASCII have small forms that occur in a level. -/
def ofName? (s : String) : Option Level :=
  match Text.lowerAscii s with
  | "trace" => some trace
  | "debug" => some debug
  | "info" => some info
  | "warn" | "warning" => some warn
  | "error" => some error
  | "off" | "none" => some off
  | _ => none

theorem ofName?_directive (l : Level) : ofName? l.directive = some l := by
  cases l <;> decide

def passes (level threshold : Level) : Bool := threshold.rank ≤ level.rank

end Level

inductive Format where
  | pretty
  | compact
  | json
  deriving DecidableEq, Repr

namespace Format

def name : Format → String
  | pretty => "pretty"
  | compact => "compact"
  | json => "json"

def ofName? (s : String) : Option Format :=
  match Text.lowerAscii s with
  | "pretty" => some pretty
  | "compact" => some compact
  | "json" => some json
  | _ => none

end Format

end PacedCalls.Log
