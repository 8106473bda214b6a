import Repath.Pattern.Regex

namespace Repath

inductive Piece
  | char (c : Char)
  | group (index : Nat)
  | named (name : List Char)
  deriving DecidableEq, Repr

namespace Template

def isNameChar (c : Char) : Bool := c.isAlphanum || c == '_'

/-- A number is written in decimal digits, with a plus sign perhaps, and is below `2 ^ 64`. -/
def number? (cs : List Char) : Option Nat :=
  let ds := match cs with
    | '+' :: rest => rest
    | _ => cs
  let n := ds.foldl (fun n c => 10 * n + (c.toNat - '0'.toNat)) 0
  if !ds.isEmpty && ds.all Char.isDigit && n < UInt64.size then some n else none

def reference (name : List Char) : Piece :=
  match number? name with
  | some n => .group n
  | none => .named name

/-- Where the reading of a template stands. Names are held in reverse. -/
inductive Mode
  | text
  | dollar
  | bare (name : List Char)
  | braced (name : List Char)

/-- Reads a template. A dollar sign without a reference behind it stands for itself. -/
def read : Mode → List Char → List Piece
  | .text, [] => []
  | .text, c :: cs => if c = '$' then read .dollar cs else .char c :: read .text cs
  | .dollar, [] => [.char '$']
  | .dollar, c :: cs =>
    if c = '$' then .char '$' :: read .text cs
    else if c = '{' ∧ '}' ∈ cs then read (.braced []) cs
    else if isNameChar c then read (.bare [c]) cs
    else .char '$' :: .char c :: read .text cs
  | .bare name, [] => [reference name.reverse]
  | .bare name, c :: cs =>
    if isNameChar c then read (.bare (c :: name)) cs
    else reference name.reverse ::
      if c = '$' then read .dollar cs else .char c :: read .text cs
  | .braced _, [] => []
  | .braced name, c :: cs =>
    if c = '}' then reference name.reverse :: read .text cs else read (.braced (c :: name)) cs

end Template

abbrev Template := List Piece

namespace Template

def ofString (s : String) : Template := read .text s.toList

end Template

/-- What a piece stands for in a match: nothing, if its group is unknown or took no part. -/
def Piece.value (r : Regex) (m : Match) : Piece → List Char
  | char c => [c]
  | group i => (m.group? i).getD []
  | named name => ((r.names.lookup (String.ofList name)).bind m.group?).getD []

def Template.expand (t : Template) (r : Regex) (m : Match) : List Char := t.flatMap (·.value r m)

end Repath
