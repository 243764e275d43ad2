import PacedCalls.Log.Settings

/-!
Setting up the log of a process. A process has one subscriber for its reports at most, and keeps
the first. A flag says whether it is one of this library; settings are read from the environment
once, when they are first wanted.
-/

set_option autoImplicit false

namespace PacedCalls.Log

variable {F : Type}

inductive Subscriber (F : Type) where
  | foreign
  | own (settings : Settings) (filter : F)

inductive InstallError where
  | filter (message : String)
  | taken
  deriving DecidableEq, Repr

structure Session (F : Type) where
  environment : Environment := []
  config : Option Settings := none
  installed : Bool := false
  subscriber : Option (Subscriber F) := none

namespace Session

def subscribe (s : Session F) (who : Subscriber F) : Option (Session F) :=
  match s.subscriber with
  | some _ => none
  | none => some { s with subscriber := some who }

def settings (s : Session F) : Settings × Session F :=
  let c := s.config.getD (Settings.ofEnvironment s.environment)
  (c, { s with config := some c })

/-- Installs a subscriber, once. The flag is raised first; it is lowered again if there is a
subscriber already, but not if there is no filter. -/
def install (read : String → Except String F) (s : Session F) (c : Settings) :
    Except InstallError Unit × Session F :=
  if s.installed then (.ok (), s)
  else
    let s := { s with installed := true }
    match c.filter read s.environment with
    | .error message => (.error (.filter message), s)
    | .ok f =>
      match s.subscribe (.own c f) with
      | some s => (.ok (), s)
      | none => (.error .taken, { s with installed := false })

/-- Installs a subscriber with the settings of the environment, if it can. -/
def init (read : String → Except String F) (s : Session F) : Session F :=
  let (c, s) := s.settings
  (s.install read c).2

def intrude (s : Session F) : Bool × Session F :=
  match s.subscribe .foreign with
  | some s => (true, s)
  | none => (false, s)

def setVariable (s : Session F) (name : String) (value : Bytes) : Session F :=
  { s with environment := s.environment.set name value }

end Session

end PacedCalls.Log
