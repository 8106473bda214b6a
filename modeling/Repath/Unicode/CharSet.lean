import Repath.Unicode.Core
import Repath.Unicode.Folding

namespace Repath.Unicode

inductive CharSet
  | spans (bounds : List Nat)
  | union (a b : CharSet)
  | inter (a b : CharSet)
  | compl (a : CharSet)
  deriving DecidableEq, Repr, Inhabited

namespace CharSet

def mem (n : Nat) : CharSet → Bool
  | spans bounds => inside bounds n
  | union a b => mem n a || mem n b
  | inter a b => mem n a && mem n b
  | compl a => !mem n a

def contains (s : CharSet) (c : Char) : Bool := s.mem c.toNat

def none : CharSet := spans []

def single (c : Char) : CharSet := spans [c.toNat, c.toNat + 1]

def range (a b : Char) : CharSet := spans [a.toNat, b.toNat + 1]

def diff (a b : CharSet) : CharSet := inter a (compl b)

def symmDiff (a b : CharSet) : CharSet := union (diff a b) (diff b a)

def ofList : List CharSet → CharSet
  | [] => none
  | [s] => s
  | s :: rest => union s (ofList rest)

def ofRanges (rs : List (Char × Char)) : CharSet := ofList (rs.map fun (a, b) => range a b)

def ofChars (cs : List Nat) : CharSet := ofList (cs.map fun n => spans [n, n + 1])

/-- Closes a set under simple case folding: an orbit that it meets is added whole. -/
def fold (s : CharSet) : CharSet :=
  match (orbits.filter fun orbit => orbit.any (s.mem ·) && !orbit.all (s.mem ·)).flatten with
  | [] => s
  | extra => union s (ofChars extra)

def foldAscii (s : CharSet) : CharSet :=
  let pairs := (List.range 26).map fun i => [65 + i, 97 + i]
  match (pairs.filter fun pair => pair.any (s.mem ·) && !pair.all (s.mem ·)).flatten with
  | [] => s
  | extra => union s (ofChars extra)

/-- Zero and the places where membership can change. -/
def bounds : CharSet → List Nat
  | spans bs => bs
  | union a b => a.bounds ++ b.bounds
  | inter a b => a.bounds ++ b.bounds
  | compl a => a.bounds

/-- A scalar value at or after `n` with the same membership in every set without a boundary between
them: the surrogates hold no characters. -/
def skipSurrogates (n : Nat) : Nat := if 0xD800 ≤ n ∧ n < 0xE000 then 0xE000 else n

def isEmpty (s : CharSet) : Bool :=
  (0 :: s.bounds).all fun b => 0x10FFFF < b || !s.mem (skipSurrogates b)

def word : CharSet := spans wordBounds

def space : CharSet := spans spaceBounds

def digit : CharSet := spans digitBounds

def all : CharSet := spans [0, 0x110000]

def ascii : CharSet := spans [0, 0x80]

end CharSet

end Repath.Unicode
