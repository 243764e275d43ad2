import PacedCalls.Text.Blank
import PacedCalls.Outside.Text.Letters

/-!
Patterns: regular expressions that the value of a field is matched by. Here it is decided whether
a text is a pattern. Patterns match characters, and their matcher is built without knowledge of
which characters are letters, digits or blanks, or capital forms of others. So what asks for that
knowledge is refused: it may only be had of ASCII, where a pattern asks for octets.
-/

set_option autoImplicit false

namespace PacedCalls.Log.Pattern

structure Mode where
  caseless : Bool := false
  unicode : Bool := true
  verbose : Bool := false
  deriving DecidableEq, Repr

namespace Mode

/-- Sets a mode by its letter; those that change only what matches are not kept. -/
def set (m : Mode) (letter : Char) (value : Bool) : Mode :=
  match letter with
  | 'i' => { m with caseless := value }
  | 'u' => { m with unicode := value }
  | 'x' => { m with verbose := value }
  | _ => m

def folds (m : Mode) : Bool := m.caseless && m.unicode

/-- The text after blanks and comments; `comment` says whether it begins inside a comment. -/
def skipBlanks : (comment : Bool) → List Char → List Char
  | _, [] => []
  | true, c :: rest => skipBlanks (c != '\n') rest
  | false, c :: rest =>
    if Text.isBlank c then skipBlanks false rest
    else if c = '#' then skipBlanks true rest
    else c :: rest

def skip (m : Mode) (cs : List Char) : List Char := if m.verbose then skipBlanks false cs else cs

end Mode

inductive Escape where
  | letter (c : Char) (octet : Bool)
  | kind (negated : Bool)
  | bound
  | wordBound
  deriving DecidableEq, Repr

def hexDigit? (c : Char) : Option Nat :=
  if c.isDigit then some (c.toNat - 48)
  else if 'a' ≤ c ∧ c ≤ 'f' then some (c.toNat - 87)
  else if 'A' ≤ c ∧ c ≤ 'F' then some (c.toNat - 55)
  else none

def hexNumber? (m : Mode) : (count value : Nat) → List Char → Option (Nat × List Char)
  | 0, value, cs => some (value, m.skip cs)
  | count + 1, value, cs =>
    match m.skip cs with
    | c :: rest => do hexNumber? m count (value * 16 + (← hexDigit? c)) rest
    | [] => none

def numbered? (m : Mode) (count : Nat) (cs : List Char) : Option (Escape × List Char) := do
  let (n, rest) ← hexNumber? m count 0 cs
  if n < 0xD800 ∨ 0xDFFF < n ∧ n < 0x110000 then
    some (.letter (Char.ofNat n) (count == 2), rest)
  else none

/-- Letters after a backslash that stand for controls, and the numbers of these. -/
def controls : List (Char × Nat) :=
  [('a', 7), ('t', 9), ('n', 10), ('v', 11), ('f', 12), ('r', 13)]

def escape? (m : Mode) : List Char → Option (Escape × List Char)
  | [] => none
  | c :: rest =>
    if c = 'x' then numbered? m 2 rest
    else if c = 'u' then numbered? m 4 rest
    else if c = 'U' then numbered? m 8 rest
    else if "dsw".toList.contains c then some (.kind false, rest)
    else if "DSW".toList.contains c then some (.kind true, rest)
    else if "Az".toList.contains c then some (.bound, rest)
    else if "bB<>".toList.contains c then some (.wordBound, rest)
    else if c.toNat < 0x80 && !c.isAlphanum then some (.letter c false, rest)
    else (controls.lookup c).map fun n => (.letter (Char.ofNat n) false, rest)

def Escape.allowed (m : Mode) : Escape → Bool
  | letter c octet => !m.folds && (m.unicode || !octet || c.toNat < 0x80)
  | kind negated => !m.unicode && !negated
  | bound => true
  | wordBound => !m.unicode

def classNames : List String :=
  ["alnum", "alpha", "ascii", "blank", "cntrl", "digit", "graph", "lower", "print", "punct",
   "space", "upper", "word", "xdigit"]

/-- A named class after its opening bracket: whether it is negated, and what follows it. -/
def namedClass? (cs : List Char) : Option (Bool × List Char) :=
  match cs with
  | ':' :: rest =>
    let (negated, rest) := match rest with
      | '^' :: more => (true, more)
      | _ => (false, rest)
    let name := rest.takeWhile (· != ':')
    match rest.drop name.length with
    | ':' :: ']' :: more =>
      if classNames.contains (String.ofList name) then some (negated, more) else none
    | _ => none
  | _ => none

def member? (m : Mode) (cs : List Char) : Option (Option Char × List Char) := do
  let (found, rest) ← match cs with
    | '\\' :: rest => escape? m rest
    | c :: rest => some (.letter c false, rest)
    | [] => none
  match found with
  | .letter c _ => if m.unicode || c.toNat < 0x80 then some (some c, rest) else none
  | .kind negated => if Escape.allowed m (.kind negated) then some (none, rest) else none
  | _ => none

/-- A member or a range. A hyphen before another one or before the closing bracket makes no
range. -/
def range? (m : Mode) (cs : List Char) : Option (List Char) := do
  let (low, rest) ← member? m cs
  match m.skip rest with
  | [] => none
  | '-' :: more =>
    match m.skip more with
    | [] => none
    | c :: after =>
      if c = ']' ∨ c = '-' then some ('-' :: more)
      else
        let (high, rest) ← member? m (c :: after)
        if (← low) ≤ (← high) then some rest else none
  | rest => some rest

inductive Spot where
  | opened
  | negated
  | dashed
  | inside
  deriving DecidableEq, Repr

def classStep? (m : Mode) (spot : Spot) (depth : Nat) (cs : List Char) :
    Option (Spot × Nat × List Char) :=
  match m.skip cs with
  | [] => none
  | c :: rest =>
    if c = '^' ∧ spot = .opened then
      if m.unicode then some (.negated, depth, rest) else none
    else if c = '-' ∧ spot ≠ .inside then some (.dashed, depth, rest)
    else if c = ']' then
      if spot = .opened ∨ spot = .negated then some (.inside, depth, rest)
      else some (.inside, depth - 1, rest)
    else if c = '[' then
      match namedClass? rest with
      | some (negated, more) => if negated && !m.unicode then none else some (.inside, depth, more)
      | none => some (.opened, depth + 1, rest)
    else if "&-~".toList.contains c && rest.head? == some c then
      some (.inside, depth, rest.drop 1)
    else (range? m (c :: rest)).map fun more => (.inside, depth, more)

def skipClass? (m : Mode) (spot : Spot) (depth : Nat) (cs : List Char) : Option (List Char) :=
  match classStep? m spot depth cs with
  | none => none
  | some (spot, depth, rest) =>
    if depth = 0 then some rest
    else if _h : rest.length < cs.length then skipClass? m spot depth rest
    else none
  termination_by cs.length

inductive Opening where
  | group (mode : Mode) (name : Option (List Char))
  | modes (mode : Mode)
  deriving DecidableEq, Repr

/-- Letters that set modes, and those after a hyphen, which take them back. Each stands once;
`seen` are those read so far, last first. -/
def modes? (m : Mode) (seen : List Char) : List Char → Option (Opening × List Char)
  | [] => none
  | c :: rest =>
    if c = ':' ∨ c = ')' then
      if seen.head? = some '-' then none
      else if c = ':' then some (.group m none, rest)
      else if seen.isEmpty then none
      else some (.modes m, rest)
    else if seen.contains c || !"imsURux-".toList.contains c then none
    else modes? (m.set c !(seen.contains '-')) (c :: seen) rest

def groupName? (cs : List Char) : Option (List Char × List Char) :=
  let name := cs.takeWhile (· != '>')
  match name, cs.drop name.length with
  | c :: more, _ :: rest =>
    if (c == '_' || Text.isAlphabetic c) &&
        more.all (fun c => "_.[]".toList.contains c || Text.isAlphanumeric c) then
      some (name, rest)
    else none
  | _, _ => none

def opening? (m : Mode) (cs : List Char) : Option (Opening × List Char) :=
  let named := fun cs => (groupName? cs).map fun (name, rest) => (Opening.group m (some name), rest)
  match m.skip cs with
  | '?' :: 'P' :: '<' :: rest => named rest
  | '?' :: '<' :: rest => named rest
  | '?' :: rest => modes? m [] rest
  | rest => some (.group m none, rest)

structure Frame where
  mode : Mode := {}
  branches : List Nat := []
  /-- The parts of the alternative at hand, the last one first; what is no part to be repeated has
  no depth. -/
  parts : List (Option Nat) := []

namespace Frame

def add (f : Frame) (depth : Nat) : Frame := { f with parts := some depth :: f.parts }

def branchDepth (f : Frame) : Nat :=
  let deepest := (f.parts.map (·.getD 0)).foldl max 0
  if 2 ≤ f.parts.length then deepest + 1 else deepest

def depth (f : Frame) : Nat :=
  if f.branches.isEmpty then f.branchDepth else f.branches.foldl max f.branchDepth + 1

end Frame

structure Reader where
  frame : Frame := {}
  outer : List Frame := []
  names : List (List Char) := []

def deepest : Nat := 250

def Reader.step? (r : Reader) (c : Char) (rest : List Char) : Option (Reader × List Char) :=
  let f := r.frame
  let m := f.mode
  let part := fun (allowed : Bool) (rest : List Char) =>
    if allowed then some ({ r with frame := f.add 0 }, rest) else none
  if c = '(' then
    match opening? m rest with
    | some (.group mode name, rest) =>
      if name.any r.names.contains then none
      else
        some ({ frame := { mode := mode }, outer := f :: r.outer
                names := name.toList ++ r.names }, rest)
    | some (.modes mode, rest) =>
      some ({ r with frame := { f with mode := mode, parts := none :: f.parts } }, rest)
    | none => none
  else if c = ')' then
    match r.outer with
    | g :: outer => some ({ r with frame := g.add (f.depth + 1), outer := outer }, rest)
    | [] => none
  else if c = '|' then
    some ({ r with frame := { f with branches := f.branchDepth :: f.branches, parts := [] } }, rest)
  else if "?*+".toList.contains c then
    match f.parts with
    | some d :: parts =>
      some ({ r with frame := { f with parts := some (d + 1) :: parts } },
        if rest.head? = some '?' then rest.drop 1 else rest)
    | _ => none
  else if c = '[' then
    match skipClass? m .opened 1 rest with
    | some rest => if m.folds then none else some ({ r with frame := f.add 1 }, rest)
    | none => none
  else if c = '\\' then (escape? m rest).bind fun (e, rest) => part (e.allowed m) rest
  else if c = '.' then part m.unicode rest
  else if c = '^' ∨ c = '$' then part true rest
  else part (c != '\x7b' && Escape.allowed m (.letter c false)) rest

def Reader.finishes (r : Reader) (cs : List Char) : Bool :=
  match r.frame.mode.skip cs with
  | [] => r.outer.isEmpty && r.frame.depth ≤ deepest
  | c :: rest =>
    match r.step? c rest with
    | some (r, after) => if _h : after.length < cs.length then r.finishes after else false
    | none => false
  termination_by cs.length

def isPattern (s : String) : Bool := ({} : Reader).finishes s.toList

end PacedCalls.Log.Pattern
