import Repath.Text.Cursor
import Repath.Unicode.CharSet

namespace Repath

open Unicode (CharSet)

/-- Conditions on the two neighbours of a place. `unicode` tells which characters make up words,
and `crlf` lets a carriage return end a line too. -/
inductive Look
  | textStart
  | textEnd
  | lineStart (crlf : Bool)
  | lineEnd (crlf : Bool)
  | boundary (unicode : Bool)
  | noBoundary (unicode : Bool)
  | wordStart (unicode : Bool)
  | wordEnd (unicode : Bool)
  | wordStartHalf (unicode : Bool)
  | wordEndHalf (unicode : Bool)
  deriving DecidableEq, Repr, Inhabited

namespace Look

def isWord (unicode : Bool) : Option Char → Bool
  | none => false
  | some c =>
    if unicode then Unicode.isWord c else c.isAlphanum || c == '_'

def holds : Look → Option Char → Option Char → Bool
  | textStart, prev, _ => prev.isNone
  | textEnd, _, next => next.isNone
  | lineStart crlf, prev, next =>
    prev.isNone || prev == some '\n' || (crlf && prev == some '\r' && next != some '\n')
  | lineEnd crlf, prev, next =>
    next.isNone || (crlf && next == some '\r')
      || (next == some '\n' && !(crlf && prev == some '\r'))
  | boundary u, prev, next => isWord u prev != isWord u next
  | noBoundary u, prev, next => isWord u prev == isWord u next
  | wordStart u, prev, next => !isWord u prev && isWord u next
  | wordEnd u, prev, next => isWord u prev && !isWord u next
  | wordStartHalf u, prev, _ => !isWord u prev
  | wordEndHalf u, _, next => !isWord u next

def holdsAt (l : Look) (c : Cursor) : Bool := l.holds c.before.head? c.after.head?

end Look

/-- Groups carry their number, counted from one by their opening parentheses. -/
inductive Pattern
  | empty
  | char (s : CharSet)
  | look (l : Look)
  | group (index : Nat) (p : Pattern)
  | cat (p q : Pattern)
  | alt (p q : Pattern)
  | rep (p : Pattern) (min : Nat) (max : Option Nat) (greedy : Bool)
  deriving DecidableEq, Repr, Inhabited

namespace Pattern

def minLen : Pattern → Option Nat
  | empty | look _ => some 0
  | char s => if s.isEmpty then none else some 1
  | group _ p => p.minLen
  | cat p q => return (← p.minLen) + (← q.minLen)
  | alt p q => return Nat.min (← p.minLen) (← q.minLen)
  | rep p min _ _ => return min * (← p.minLen)

def consumes (p : Pattern) : Bool := p.minLen.any (0 < ·)

def isIdle : Pattern → Bool
  | empty | look _ => true
  | char _ => false
  | group _ p => p.isIdle
  | cat p q | alt p q => p.isIdle && q.isIdle
  | rep p _ max _ => max.isSome && p.isIdle

/-- A repetition in its simplest form: repeating an idle pattern more than once says no more than
saying it once, and the bounds `0,0` and `1,1` need no repetition at all. -/
def repeated (p : Pattern) (min : Nat) (max : Option Nat) (greedy : Bool) : Pattern :=
  let (min, max) := if p.isIdle then (Nat.min min 1, some (Nat.min (max.getD 1) 1)) else (min, max)
  if min = 0 ∧ max = some 0 then empty
  else if min = 1 ∧ max = some 1 then p
  else rep p min max greedy

end Pattern

end Repath
