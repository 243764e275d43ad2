import PacedCalls.Log.Level
import PacedCalls.Text.Utf8

set_option autoImplicit false

namespace PacedCalls.Log

abbrev Environment := List (String × Bytes)

namespace Environment

def text? (env : Environment) (name : String) : Option String :=
  match env.lookup name with
  | some value => (Text.Utf8.decode value).toOption
  | none => none

def set (env : Environment) (name : String) (value : Bytes) : Environment :=
  (name, value) :: env.filter (·.1 != name)

def switch (env : Environment) (name : String) (standard : Bool) : Bool :=
  match env.text? name with
  | some s => s == "1" || Text.lowerAscii s == "true"
  | none => standard

end Environment

structure Settings where
  debug : Bool := false
  level : Level := .info
  format : Format := .json
  target : Bool := true
  deriving DecidableEq, Repr

namespace Settings

def ofEnvironment (env : Environment) : Settings :=
  let debug := env.switch "PACER_DEBUG" false
  { debug := debug
    level := ((env.text? "PACER_LOG_LEVEL").bind Level.ofName?).getD
      (if debug then .debug else .info)
    format := ((env.text? "PACER_LOG_FORMAT").bind Format.ofName?).getD .json
    target := env.switch "PACER_LOG_TARGET" true }

/-- The filter that the environment gives, if `read` can read it, or else that of the level. What
filters are and which texts say one is left to `read`, which says why it refuses a text. -/
def filter {F : Type} (read : String → Except String F) (s : Settings) (env : Environment) :
    Except String F :=
  match (env.text? "RUST_LOG").map read with
  | some (.ok f) => .ok f
  | _ => read s.level.directive

end Settings

end PacedCalls.Log
