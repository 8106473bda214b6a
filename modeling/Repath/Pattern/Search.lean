import Repath.Pattern.Program

namespace Repath

/-- A way of matching as far as it has got. `saves` holds the latest note first. -/
structure Thread where
  pc : Nat
  cursor : Cursor
  saves : List (Nat × Cursor)
  deriving DecidableEq, Repr

/-- The places visited, as one bit mask of addresses for each position. -/
abbrev Visited := Array Nat

namespace Visited

def none (positions : Nat) : Visited := Array.replicate positions 0

def has (seen : Visited) (pc pos : Nat) : Bool := (seen[pos]?.getD 0).testBit pc

def add (seen : Visited) (pc pos : Nat) : Visited := seen.modify pos (· ||| (1 <<< pc))

end Visited

structure Match where
  start : Cursor
  stop : Cursor
  saves : List (Nat × Cursor)
  deriving DecidableEq, Repr

namespace Match

def isEmpty (m : Match) : Bool := m.start.pos == m.stop.pos

def text (m : Match) : List Char := m.start.upTo m.stop

/-- The text that group `i` took part with at last; group 0 is the whole match. -/
def group? (m : Match) (i : Nat) : Option (List Char) :=
  if i = 0 then some m.text
  else do
    let opened ← m.saves.lookup (2 * i)
    let closed ← m.saves.lookup (2 * i + 1)
    return opened.upTo closed

end Match

namespace Program

/-- Where a thread can go from here, the preferred way first. -/
def next (prog : Program) (t : Thread) : List Thread :=
  match prog[t.pc]? with
  | none => []
  | some (.char s) =>
    match t.cursor.next? with
    | some (c, cursor) => if s.contains c then [{ t with pc := t.pc + 1, cursor }] else []
    | none => []
  | some (.look l) => if l.holdsAt t.cursor then [{ t with pc := t.pc + 1 }] else []
  | some (.save slot) => [{ t with pc := t.pc + 1, saves := (slot, t.cursor) :: t.saves }]
  | some (.split first second) => [{ t with pc := first }, { t with pc := second }]
  | some (.jump target) => [{ t with pc := target }]

/-- Tries threads in order until one gets to the end of the program. -/
def explore (prog : Program) : (fuel : Nat) → List Thread → Visited → Option Thread × Visited
  | 0, _, seen => (none, seen)
  | _ + 1, [], seen => (none, seen)
  | fuel + 1, t :: rest, seen =>
    if seen.has t.pc t.cursor.pos then explore prog fuel rest seen
    else if t.pc = prog.size then (some t, seen)
    else explore prog fuel (prog.next t ++ rest) (seen.add t.pc t.cursor.pos)

def fuelFor (prog : Program) (positions : Nat) : Nat := 2 * (prog.size + 1) * positions + 2

/-- The match from the first start that has one. A failed start leaves its visits behind, since no
place among them leads to a match. -/
def scan (prog : Program) (fuel : Nat) :
    (before after : List Char) → (pos : Nat) → pos = before.length → Visited → Option Match
  | before, after, pos, h, seen =>
    let start : Cursor := ⟨before, after, pos, h⟩
    match prog.explore fuel [⟨0, start, []⟩] seen with
    | (some t, _) => some ⟨start, t.cursor, t.saves⟩
    | (none, seen) =>
      match after with
      | [] => none
      | c :: rest => scan prog fuel (c :: before) rest (pos + 1) (Cursor.succ_pos_eq c h) seen
  termination_by structural _ after => after

def find? (prog : Program) (c : Cursor) : Option Match :=
  let positions := c.pos + c.after.length + 1
  prog.scan (prog.fuelFor positions) c.before c.after c.pos c.pos_eq (Visited.none positions)

/-- The next match after one that ended at `c`: an empty match there is passed over. -/
def findAfter? (prog : Program) (c : Cursor) : Option Match :=
  match prog.find? c with
  | some m =>
    if m.isEmpty && m.stop.pos == c.pos then c.next?.bind fun (_, d) => prog.find? d else some m
  | none => none

def matchesAfter (prog : Program) : (fuel : Nat) → Cursor → List Match
  | 0, _ => []
  | fuel + 1, c =>
    match prog.findAfter? c with
    | some m => m :: matchesAfter prog fuel m.stop
    | none => []

/-- All matches in a text, from left to right, none of them overlapping another. -/
def allMatches (prog : Program) (text : List Char) : List Match :=
  match prog.find? (.start text) with
  | some m => m :: prog.matchesAfter (text.length + 1) m.stop
  | none => []

end Program

end Repath
