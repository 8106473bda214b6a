import Repath.Toml.Value

namespace Repath.Toml

/-- The kinds of strings: `literal` ones cannot escape, and `lines` ones may hold line ends. -/
structure StringStyle where
  literal : Bool
  lines : Bool
  deriving DecidableEq, Repr

def longestRun (x : Char) : (run : Nat) → List Char → Nat
  | run, [] => run
  | run, c :: cs =>
    if c = x then longestRun x (run + 1) cs else Nat.max run (longestRun x 0 cs)

def isControl (c : Char) : Bool :=
  (c.toNat < 0x20 && c != '\t' && c != '\n') || c.toNat == 0x7F

/-- The style a text is written in: basic, literal, basic with lines, literal with lines, whichever
comes first and needs no escapes. A text that none of them can hold so is escaped. -/
def StringStyle.of (s : List Char) : StringStyle :=
  let control := s.any isControl
  let backslash := s.contains '\\'
  let newline := s.contains '\n'
  let singles := longestRun '\'' 0 s
  let doubles := longestRun '"' 0 s
  if !control && !backslash && doubles = 0 && !newline then ⟨false, false⟩
  else if !control && singles = 0 && !newline then ⟨true, false⟩
  else if !control && !backslash && doubles ≤ 2 then ⟨false, true⟩
  else if !control && singles ≤ 2 then ⟨true, true⟩
  else ⟨false, newline⟩

def hexUpper (n : Nat) : Char := (Nat.toDigits 16 n).head?.getD '0' |>.toUpper

def escapeChar (c : Char) : List Char :=
  if c = '\x08' then ['\\', 'b']
  else if c = '\t' then ['\\', 't']
  else if c = '\n' then ['\\', 'n']
  else if c = '\x0c' then ['\\', 'f']
  else if c = '\r' then ['\\', 'r']
  else if c = '\\' then ['\\', '\\']
  else if isControl c then ['\\', 'u', '0', '0', hexUpper (c.toNat / 16), hexUpper (c.toNat % 16)]
  else [c]

/-- The text of a basic string. Of a run of quotes the first `free` stay, then one is escaped and
the count begins again; `run` quotes have stayed since. -/
def escapeText (lines : Bool) (free : Nat) : (run : Nat) → List Char → List Char
  | _, [] => []
  | run, c :: cs =>
    if c = '"' then
      if run < free then '"' :: escapeText lines free (run + 1) cs
      else '\\' :: '"' :: escapeText lines free 0 cs
    else if c = '\n' ∧ lines then '\n' :: escapeText lines free 0 cs
    else escapeChar c ++ escapeText lines free 0 cs

/-- A text as a TOML string. A line end is put behind the opening quotes if the text has one. -/
def writeString (s : List Char) : List Char :=
  let style := StringStyle.of s
  let quote := if style.literal then '\'' else '"'
  let quotes := List.replicate (if style.lines then 3 else 1) quote
  let body := if style.literal then s else escapeText style.lines (if style.lines then 2 else 0) 0 s
  quotes ++ (if style.lines && s.contains '\n' then ['\n'] else []) ++ body ++ quotes

end Repath.Toml
