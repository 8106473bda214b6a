import Mathlib.Data.List.Infix
import Repath.Rules.BuiltIn

namespace Repath.BuiltIn

open Unicode (isSpace isWord)

/-- How an import can begin: with a keyword, which white space may have to follow. -/
structure Lead where
  keyword : List Char
  spaced : Bool
  deriving DecidableEq

def leads : List Lead :=
  [⟨"from".toList, true⟩, ⟨"import".toList, true⟩, ⟨"require(".toList, false⟩,
    ⟨"import(".toList, false⟩, ⟨"jest.mock(".toList, false⟩]

def isQuote (c : Char) : Bool := c == '\'' || c == '"'

def isCloser (c : Char) : Bool := c == '/' || isQuote c

/-- A kind of import path that is out of date: between `path` and `name`, `missing` is to stand. -/
structure Stale where
  path : List Char
  name : List Char
  missing : List Char
  deriving DecidableEq

namespace Stale

def ofModule (group name : String) : Stale :=
  ⟨"../".toList, name.toList, "../../".toList ++ group.toList ++ ['/']⟩

def ofGroup (name : String) : Stale := ⟨"../../".toList, name.toList, "../".toList⟩

/-- The path begins with this one, up to its end or the next slash. -/
def fits (s : Stale) (cs : List Char) : Bool :=
  (s.path ++ s.name).isPrefixOf cs && cs[(s.path ++ s.name).length]?.any isCloser

end Stale

def stale : List Stale :=
  movedModules.flatMap (fun (group, modules) => modules.map (Stale.ofModule group))
    ++ movedModules.map fun (group, _) => Stale.ofGroup group

/-- The length of a lead, with the blanks and the quote behind its keyword, at the front. -/
def Lead.length? (l : Lead) (cs : List Char) : Option Nat :=
  let rest := cs.drop l.keyword.length
  let blanks := rest.takeWhile isSpace
  if l.keyword.isPrefixOf cs && (!l.spaced || !blanks.isEmpty)
      && (rest.dropWhile isSpace).head?.any isQuote then
    some (l.keyword.length + blanks.length + 1)
  else none

/-- If a site begins at the front, the distance to its point and what is missing there. The
character in front decides on whether a word begins. -/
def site? (ss : List Stale) (prev : Option Char) (cs : List Char) : Option (Nat × List Char) :=
  if prev.any isWord then none
  else do
    let n ← leads.findSome? (·.length? cs)
    let s ← ss.find? (·.fits (cs.drop n))
    return (n + s.path.length, s.missing)

def points (ss : List Stale) : (pos : Nat) → (prev : Option Char) → List Char →
    List (Nat × List Char)
  | _, _, [] => []
  | pos, prev, c :: cs =>
    match site? ss prev (c :: cs) with
    | some (n, missing) => (pos + n, missing) :: points ss (pos + 1) (some c) cs
    | none => points ss (pos + 1) (some c) cs

/-- A text, whose first character stands at `pos`, with an insertion in front of each position
listed, and all else in its place. -/
def insertAll (insertions : List (Nat × List Char)) : (pos : Nat) → List Char → List Char
  | _, [] => []
  | pos, c :: cs =>
    (insertions.filter (·.1 = pos)).flatMap (·.2) ++ c :: insertAll insertions (pos + 1) cs

/-- The text with every import path brought up to date, all sites being those of the text as it
was. -/
def relink (text : List Char) : List Char := insertAll (points stale 0 none text) 0 text

example : relink "import '../auth'".toList = "import '../../../autenticacao/auth'".toList := by
  decide +kernel

end Repath.BuiltIn
