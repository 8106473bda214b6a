import Repath.Pattern.Basic

namespace Repath

open Unicode (CharSet)

inductive Instr
  /-- Reads one character of the set. -/
  | char (s : CharSet)
  | look (l : Look)
  /-- Notes the place reached under a number: `2 i` opens group `i`, and `2 i + 1` closes it. -/
  | save (slot : Nat)
  /-- Goes on at `first`, and at `second` if that leads nowhere. -/
  | split (first second : Nat)
  | jump (target : Nat)
  deriving DecidableEq, Repr, Inhabited

abbrev Program := Array Instr

namespace Pattern

def choice (greedy : Bool) (inner outer : Nat) : Instr :=
  if greedy then .split inner outer else .split outer inner

def size : Pattern → Nat
  | empty => 0
  | char _ | look _ => 1
  | group _ p => p.size + 2
  | cat p q => p.size + q.size
  | alt p q => p.size + q.size + 2
  | rep p 0 none _ => p.size + 2
  | rep p (min + 1) none _ => (min + 1) * p.size + 1
  | rep p min (some max) _ => min * p.size + (max - min) * (p.size + 1)

/-- `n` copies of a piece of code of length `len`, the first at address `start`. -/
def copies (code : Nat → List Instr) (len : Nat) : Nat → Nat → List Instr
  | 0, _ => []
  | n + 1, start => code start ++ copies code len n (start + len)

/-- The instructions of a pattern whose first one stands at address `start`. A repetition without
an upper bound returns to a place of its own: before the part if each pass consumes something, and
behind it otherwise, so that an idle pass finds itself where it has been. -/
def code : Pattern → Nat → List Instr
  | empty, _ => []
  | char s, _ => [.char s]
  | look l, _ => [.look l]
  | group i p, start => .save (2 * i) :: p.code (start + 1) ++ [.save (2 * i + 1)]
  | cat p q, start => p.code start ++ q.code (start + p.size)
  | alt p q, start =>
    .split (start + 1) (start + p.size + 2) :: p.code (start + 1)
      ++ .jump (start + p.size + q.size + 2) :: q.code (start + p.size + 2)
  | rep p 0 none greedy, start =>
    let enter := choice greedy (start + 1) (start + p.size + 2)
    enter :: p.code (start + 1) ++ [if p.consumes then .jump start else enter]
  | rep p (min + 1) none greedy, start =>
    let last := start + min * p.size
    copies p.code p.size (min + 1) start ++ [choice greedy last (last + p.size + 1)]
  | rep p min (some max) greedy, start =>
    let stop := start + min * p.size + (max - min) * (p.size + 1)
    copies p.code p.size min start
      ++ copies (fun a => choice greedy (a + 1) stop :: p.code (a + 1)) (p.size + 1) (max - min)
        (start + min * p.size)

def program (p : Pattern) : Program := (p.code 0).toArray

end Pattern

end Repath
