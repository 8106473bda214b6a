import Repath.Pattern.Basic
import Repath.Unicode.Property

namespace Repath

open Unicode (PropertyQuery)

inductive PatternError
  | unfinished
  | unopenedGroup
  | unclosedGroup
  | unclosedClass
  | lookAround
  | badGroupName
  | repeatedGroupName (name : String)
  | badFlags
  | nothingToRepeat
  | badRepetition
  | badEscape
  | badBoundary
  | badClassItem
  | badRange
  | unknownProperty (query : PropertyQuery)
  | notAscii
  | nestedTooDeep
  | tooLarge
  deriving DecidableEq, Repr

inductive Flag
  | caseInsensitive
  | multiLine
  | dotAll
  | swapGreed
  | unicode
  | crlf
  | verbose
  deriving DecidableEq, Repr

structure FlagChange where
  flag : Flag
  value : Bool
  deriving DecidableEq, Repr

inductive PerlClass
  | digit
  | space
  | word
  deriving DecidableEq, Repr

inductive AsciiClass
  | alnum | alpha | ascii | blank | cntrl | digit | graph | lower | print | punct | space | upper
  | word | xdigit
  deriving DecidableEq, Repr

inductive SetOp
  | inter
  | diff
  | symmDiff
  deriving DecidableEq, Repr

inductive ClassSyntax
  | nothing
  | char (c : Char)
  | range (first last : Char)
  | ascii (c : AsciiClass) (negated : Bool)
  | perl (c : PerlClass) (negated : Bool)
  | property (query : PropertyQuery) (negated : Bool)
  | bracket (negated : Bool) (body : ClassSyntax)
  | both (a b : ClassSyntax)
  | op (o : SetOp) (a b : ClassSyntax)
  deriving DecidableEq, Repr

inductive GroupKind
  | capture (index : Nat)
  | plain (changes : List FlagChange)
  deriving DecidableEq, Repr

/-- Assertions before the flags decide on their meaning. -/
inductive Assertion
  | lineStart
  | lineEnd
  | textStart
  | textEnd
  | boundary
  | noBoundary
  | wordStart
  | wordEnd
  | wordStartHalf
  | wordEndHalf
  deriving DecidableEq, Repr

/-- Sequences and choices lean to the right: only the second part of one is again of its kind. -/
inductive Syntax
  | empty
  | setFlags (changes : List FlagChange)
  | char (c : Char)
  /-- A character written as `\x` with two digits. -/
  | byte (c : Char)
  | dot
  | assertion (a : Assertion)
  | perl (c : PerlClass) (negated : Bool)
  | property (query : PropertyQuery) (negated : Bool)
  | bracket (negated : Bool) (body : ClassSyntax)
  | group (kind : GroupKind) (body : Syntax)
  | rep (body : Syntax) (min : Nat) (max : Option Nat) (greedy : Bool)
  | cat (a b : Syntax)
  | alt (a b : Syntax)
  deriving DecidableEq, Repr

namespace ClassSyntax

def depth : ClassSyntax → Nat
  | bracket _ body => body.depth + 1
  | both a b => Nat.max (a.depth + 1) (match b with | both .. => b.depth | _ => b.depth + 1)
  | op _ a b => Nat.max a.depth b.depth + 1
  | _ => 0

def ofItems : List ClassSyntax → ClassSyntax
  | [] => nothing
  | [a] => a
  | a :: rest => both a (ofItems rest)

end ClassSyntax

namespace Syntax

def depth : Syntax → Nat
  | bracket _ body => body.depth + 1
  | group _ body | rep body .. => body.depth + 1
  | cat a b => Nat.max (a.depth + 1) (match b with | cat .. => b.depth | _ => b.depth + 1)
  | alt a b => Nat.max (a.depth + 1) (match b with | alt .. => b.depth | _ => b.depth + 1)
  | _ => 0

def maxDepth : Nat := 250

def sequence : List Syntax → Syntax
  | [] => empty
  | [a] => a
  | a :: rest => cat a (sequence rest)

def choice : List Syntax → Syntax
  | [] => empty
  | [a] => a
  | a :: rest => alt a (choice rest)

/-- Flags alone, and nothing at all, cannot be repeated. -/
def isRepeatable : Syntax → Bool
  | empty | setFlags _ => false
  | _ => true

end Syntax

end Repath
