import PacedCalls.Outside.Log.Directive

set_option autoImplicit false

namespace PacedCalls.Log

/-- A filter: the directives that a report is judged by, and those that need more. -/
structure Filter where
  statics : List Directive
  dynamics : List Directive := []

namespace Filter

def ofDirectives (ds : List Directive) : Filter :=
  let (dynamics, plain) := ds.partition (·.isDynamic)
  { statics := (plain ++ dynamics.filterMap (·.ofReport?)).foldl (fun acc d => d.put acc) []
    dynamics := dynamics.foldl (fun acc d => d.put acc) [] }

def ofText (s : String) : Except DirectiveError Filter :=
  let parts := (s.toList.splitOn ',').map String.ofList
  ((parts.filter (! ·.isEmpty)).mapM Directive.read).map ofDirectives

def read (s : String) : Except String Filter := (ofText s).mapError DirectiveError.message

def break? (s : String) : Option String :=
  match ofText s with
  | .error (.splitCharacter atEnd index c first) =>
    some (DirectiveError.splitCharacter atEnd index c first).message
  | _ => none

def text (f : Filter) : String := ",".intercalate ((f.statics ++ f.dynamics).map (·.text))

def passes (f : Filter) (target : String) (fields : List String) (level : Level) : Bool :=
  let applies := fun d : Directive =>
    d.target.all (target.startsWith ·) && d.field.all fun (name, _) => fields.contains name
  match f.statics.find? applies with
  | some d => level.passes d.level
  | none => false

def levels (f : Filter) (target : String) (fields : List String) : List Level :=
  [Level.trace, .debug, .info, .warn, .error].filter (f.passes target fields)

end Filter

end PacedCalls.Log
