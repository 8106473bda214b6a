import Repath.Toml.Value
import Repath.Unicode.Boundaries

namespace Repath.Toml.Scalar

open Unicode (hexDigit?)

/-- One digit or more, single underscores allowed between two of them. -/
def isDigits (isDigit : Char → Bool) : List Char → Bool
  | [] => false
  | [c] => isDigit c
  | c :: '_' :: rest => isDigit c && isDigits isDigit rest
  | c :: rest => isDigit c && isDigits isDigit rest

def isBinary (c : Char) : Bool := c == '0' || c == '1'

def isOctal (c : Char) : Bool := '0' ≤ c && c ≤ '7'

def isHex (c : Char) : Bool := (hexDigit? c).isSome

def unsigned : List Char → List Char
  | '+' :: rest | '-' :: rest => rest
  | cs => cs

def isWhole (cs : List Char) : Bool :=
  isDigits Char.isDigit cs && (cs.head? != some '0' || cs.length == 1)

def isInteger : List Char → Bool
  | '0' :: 'x' :: rest => isDigits isHex rest
  | '0' :: 'o' :: rest => isDigits isOctal rest
  | '0' :: 'b' :: rest => isDigits isBinary rest
  | cs => isWhole (unsigned cs)

def isMark (c : Char) : Bool := c == 'e' || c == 'E'

def isExponent (cs : List Char) : Bool := isDigits Char.isDigit (unsigned cs)

/-- What may follow the whole part of a float: a fraction, an exponent, or one behind the other. -/
def isFloatTail : List Char → Bool
  | '.' :: rest =>
    isDigits Char.isDigit (rest.takeWhile fun c => !isMark c)
      && match rest.dropWhile fun c => !isMark c with
        | [] => true
        | _ :: power => isExponent power
  | c :: rest => isMark c && isExponent rest
  | [] => false

def isFloat (cs : List Char) : Bool :=
  let cs := unsigned cs
  cs == ['i', 'n', 'f'] || cs == ['n', 'a', 'n']
    || (isWhole (cs.takeWhile fun c => c != '.' && !isMark c)
      && isFloatTail (cs.dropWhile fun c => c != '.' && !isMark c))

def number (cs : List Char) : Nat := cs.foldl (fun n c => 10 * n + (c.toNat - '0'.toNat)) 0

def daysIn (year month : Nat) : Nat :=
  if month = 2 then
    if year % 4 = 0 ∧ (year % 100 ≠ 0 ∨ year % 400 = 0) then 29 else 28
  else if month = 4 ∨ month = 6 ∨ month = 9 ∨ month = 11 then 30
  else 31

def date? : List Char → Option (List Char)
  | y1 :: y2 :: y3 :: y4 :: '-' :: m1 :: m2 :: '-' :: d1 :: d2 :: rest =>
    let year := number [y1, y2, y3, y4]
    let month := number [m1, m2]
    let day := number [d1, d2]
    if [y1, y2, y3, y4, m1, m2, d1, d2].all Char.isDigit ∧ 1 ≤ month ∧ month ≤ 12 ∧ 1 ≤ day
        ∧ day ≤ daysIn year month then some rest
    else none
  | _ => none

def clock? : List Char → Option (List Char)
  | h1 :: h2 :: ':' :: m1 :: m2 :: rest =>
    if [h1, h2, m1, m2].all Char.isDigit ∧ number [h1, h2] ≤ 23 ∧ number [m1, m2] ≤ 59 then
      some rest
    else none
  | _ => none

def fraction? : List Char → Option (List Char)
  | '.' :: c :: rest => if c.isDigit then some (rest.dropWhile Char.isDigit) else none
  | '.' :: [] => none
  | cs => some cs

/-- A time of day, and what follows it. Seconds may be missing, and may be leap seconds. -/
def time? (cs : List Char) : Option (List Char) := do
  match ← clock? cs with
  | ':' :: s1 :: s2 :: rest =>
    if s1.isDigit ∧ s2.isDigit ∧ number [s1, s2] ≤ 60 then fraction? rest else none
  | ':' :: _ => none
  | rest => some rest

def isOffset : List Char → Bool
  | [] => true
  | ['Z'] | ['z'] => true
  | '+' :: rest | '-' :: rest => clock? rest == some []
  | _ => false

def isDate (cs : List Char) : Bool :=
  match date? cs with
  | some [] => true
  | some (c :: rest) => (c == 'T' || c == 't' || c == ' ') && (time? rest).any isOffset
  | none => time? cs == some []

def kind? (cs : List Char) : Option ScalarKind :=
  if cs == ['t', 'r', 'u', 'e'] || cs == ['f', 'a', 'l', 's', 'e'] then some .boolean
  else if isInteger cs then some .integer
  else if isFloat cs then some .float
  else if isDate cs then some .date
  else none

def isPart (c : Char) : Bool :=
  c.isAlphanum || c == '+' || c == '-' || c == '_' || c == '.' || c == ':'

/-- Splits off a spelling. A day and a time with a blank between them are one. -/
def split (cs : List Char) : List Char × List Char :=
  let word := cs.takeWhile isPart
  match cs.dropWhile isPart with
  | ' ' :: c :: rest =>
    if date? word == some [] && c.isDigit then
      (word ++ ' ' :: (c :: rest).takeWhile isPart, (c :: rest).dropWhile isPart)
    else (word, ' ' :: c :: rest)
  | rest => (word, rest)

end Repath.Toml.Scalar
