import PacedCalls.Outside.Log.Criterion
import PacedCalls.Log.Level
import PacedCalls.Text.Quoted
import PacedCalls.Text.Utf8

set_option autoImplicit false

namespace PacedCalls.Log

structure Directive where
  target : Option String := none
  span : Option String := none
  field : Option (String × Option Criterion) := none
  level : Level

inductive DirectiveError where
  | unreadable
  /-- A part of it would begin or end inside a character, which has its octets from `first` on. -/
  | splitCharacter (atEnd : Bool) (index : Nat) (c : Char) (first : Nat)
  deriving DecidableEq, Repr

def quotedChar (c : Char) : String :=
  String.ofList (['\''] ++
    (if c = '\'' then ['\\', '\''] else if c = '"' then [c] else Text.escapeChar c) ++ ['\''])

def DirectiveError.message : DirectiveError → String
  | unreadable => "invalid filter directive"
  | splitCharacter atEnd index c first =>
    (if atEnd then "end" else "start") ++ " byte index " ++ Nat.repr index ++
      " is not a char boundary; it is inside " ++ quotedChar c ++ " (bytes " ++ Nat.repr first ++
      ".." ++ Nat.repr (first + c.utf8Size) ++ " of string)"

namespace Directive

abbrev Reading := Except DirectiveError

def octets (cs : List Char) : Nat := cs.foldr (fun c n => c.utf8Size + n) 0

/-- The text from an octet on, which must be the first of a character or behind the last one;
`index` is the number of that octet in the whole text, and `start` that of the next character. -/
def dropOctets (atEnd : Bool) (index : Nat) : (start : Nat) → List Char → Reading (List Char)
  | _, [] => .ok []
  | start, c :: rest =>
    if index ≤ start then .ok (c :: rest)
    else if index < start + c.utf8Size then .error (.splitCharacter atEnd index c start)
    else dropOctets atEnd index (start + c.utf8Size) rest

def tail (cs : List Char) (low : Nat) : Reading String :=
  (dropOctets false low 0 cs).map String.ofList

def part (cs : List Char) (low high : Nat) : Reading String := do
  let front ← dropOctets false low 0 cs
  let rest ← dropOctets true high 0 cs
  .ok (String.ofList (front.take (front.length - rest.length)))

def orUnreadable {α : Type} (x : Option α) : Reading α :=
  match x with
  | some a => .ok a
  | none => .error .unreadable

/-- A level by its name in any case, or by its number from 0, which is off, to 5. -/
def level? (s : String) : Option Level :=
  match Criterion.count? s with
  | some n => [Level.off, .error, .warn, .info, .debug, .trace][n]?
  | none =>
    match Text.lowerAscii s with
    | "off" => some .off
    | "error" => some .error
    | "warn" => some .warn
    | "info" => some .info
    | "debug" => some .debug
    | "trace" => some .trace
    | _ => none

def namedLevel (s : String) : Reading Level :=
  if s.isEmpty then .ok .trace else orUnreadable (level? s)

def readField (s : String) : Reading (String × Option Criterion) :=
  if s.isEmpty then .error .unreadable
  else match s.splitOn "=" with
    | name :: value :: _ => (orUnreadable (Criterion.ofText? value)).map fun v => (name, some v)
    | _ => .ok (s, none)

def readLevel (all : List Char) (start : Nat) : List Char → Reading Level
  | [] => .ok .trace
  | '=' :: _ => do namedLevel (← tail all (start + 1))
  | _ => .error .unreadable

def readBrackets (all : List Char) (target : Option String) (start : Nat) (cs : List Char) :
    Reading Directive := do
  let name := cs.takeWhile fun c => c != ']' && c != '\x7b'
  let stop := start + octets name
  match cs.drop name.length with
  | ']' :: after =>
    let span ← part all start stop
    let level ← readLevel all (stop + 1) after
    .ok { target := target, span := some span, level := level }
  | '\x7b' :: more =>
    let span ← part all start stop
    let inner := more.takeWhile (· != '\x7d')
    let close := stop + 1 + octets inner
    match more.drop inner.length with
    | [] => .error .unreadable
    | _ :: after =>
      let field ← readField (← part all (stop + 1) close)
      match after with
      | ']' :: after =>
        let level ← readLevel all (close + 2) after
        .ok
          { target := target, span := if span.isEmpty then none else some span
            field := some field, level := level }
      | _ => .error .unreadable
  | _ => .error .unreadable

def opens (c : Char) : Bool := "-:_".toList.contains c || Text.isAlphanumeric c

/-- Reads a directive. A name alone is a level if there is one of that name, and a target
otherwise. -/
def read (s : String) : Reading Directive :=
  let all := s.toList
  match (Text.trim s).toList with
  | [] => .error .unreadable
  | '[' :: rest => readBrackets all none 1 rest
  | c :: cs =>
    if !opens c then .error .unreadable
    else
      let head := (c :: cs).takeWhile fun c => c != '=' && c != '['
      let stop := octets head
      match (c :: cs).drop head.length with
      | [] =>
        match level? s with
        | some level => .ok { level := level }
        | none => .ok { target := some s, level := .trace }
      | mark :: rest => do
        let target ← part all 0 stop
        if mark = '[' then readBrackets all (some target) (stop + 1) rest
        else
          .ok { target := some target, level := ← namedLevel (← tail all (stop + 1)) }

def isDynamic (d : Directive) : Bool := d.span.isSome || d.field.isSome

def ofReport? (d : Directive) : Option Directive :=
  if d.span.isNone && d.field.all (·.2.isNone) then some d else none

/-- The order of what directives ask of fields: what asks for a value comes after what does not,
then names count, then values. -/
def fieldOrder (a b : String × Option Criterion) : Ordering :=
  ((compare a.2.isSome.toNat b.2.isSome.toNat).then (compare a.1 b.1)).then
    (match a.2, b.2 with
      | some x, some y => x.order y
      | _, _ => .eq)

/-- More specific directives come first: longer targets, then those with a span, then those with
a field; the texts themselves settle the rest, the greater ones first. -/
def order (a b : Directive) : Ordering :=
  ((compare (b.target.map (·.utf8ByteSize)) (a.target.map (·.utf8ByteSize))).then
    (compare b.span.isSome.toNat a.span.isSome.toNat)).then
  (((compare b.field.isSome.toNat a.field.isSome.toNat).then (compare b.target a.target)).then
  ((compare b.span a.span).then
    (match b.field, a.field with
      | some x, some y => fieldOrder x y
      | _, _ => .eq)))

def put (d : Directive) : List Directive → List Directive
  | [] => [d]
  | e :: rest =>
    match d.order e with
    | .lt => d :: e :: rest
    | .eq => d :: rest
    | .gt => e :: put d rest

def fieldText : String × Option Criterion → String
  | (name, some value) => name ++ "=" ++ value.text
  | (name, none) => name

def text (d : Directive) : String :=
  let inner := d.span.getD "" ++
    (match d.field with
      | some f => "\x7b" ++ fieldText f ++ "\x7d"
      | none => "")
  let place := d.target.getD "" ++ (if d.isDynamic then "[" ++ inner ++ "]" else "")
  (if d.target.isSome || d.isDynamic then place ++ "=" else "") ++ d.level.directive

end Directive

end PacedCalls.Log
