import PacedCalls.Outside.Http.NameFolding
import PacedCalls.Outside.Text.Direction
import PacedCalls.Outside.Text.Joining
import PacedCalls.Outside.Text.Letters
import PacedCalls.Outside.Text.Punycode

set_option autoImplicit false

namespace PacedCalls.Http.DomainName

def isRefused (c : Char) : Bool :=
  c.toNat ≤ 0x20 || c.toNat == 0x7F || "%#/:<>?@[\\]^|".toList.contains c

def splitDots : List Char → List (List Char)
  | [] => [[]]
  | c :: rest =>
    match splitDots rest with
    | part :: more => if c = '.' then [] :: part :: more else (c :: part) :: more
    | [] => [[c]]

def sign : List Char := ['x', 'n', '-', '-']

def longestRead : Nat := 2000
def longestWritten : Nat := 1000

def isAscii (cs : List Char) : Bool := cs.all (·.toNat < 0x80)

def meaning? (label : List Char) : Option (List Char) :=
  if sign.isPrefixOf label then do
    let code := label.drop sign.length
    if !isAscii label || label.getLast? == some '-' || longestRead < code.length then none
    else
      let text ← Text.Punycode.decode? code
      if text.all (fun c => NameFolding.isFolded c && !isRefused c && c != '.') &&
          Text.Canonical.compose text == text then
        some text
      else none
  else some label

def isLabel (label : List Char) : Bool :=
  isAscii label ||
    (!(label.head?.map Text.isMark).getD false && Text.Joining.fits [] label &&
      label.length ≤ longestWritten)

def written (label : List Char) : List Char :=
  if isAscii label then label else sign ++ Text.Punycode.encode label

/-- A name as it goes over a connection, in ASCII and small letters; `none` if it is no name. -/
def ascii? (name : List Char) : Option (List Char) := do
  let folded ← name.mapM NameFolding.fold?
  let text := Text.Canonical.compose folded.flatten
  if text.any isRefused then none
  else
    let labels ← (splitDots text).mapM meaning?
    if labels.all isLabel && Text.Direction.agree labels then
      some (['.'].intercalate (labels.map written))
    else none

end PacedCalls.Http.DomainName
