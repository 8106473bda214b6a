import Repath.Unicode.Boundaries

namespace Repath.Toml

open Unicode (hexDigit? hexNumber)

/-- Characters that stand for themselves in a string or a comment: no control character but tab. -/
def isPlain (c : Char) : Bool := c == '\t' || (0x20 ≤ c.toNat && c.toNat != 0x7F)

def charOfHex? (ds : List Char) : Option Char :=
  if ds.all fun d => (hexDigit? d).isSome then
    let n := hexNumber ds
    if h : n.isValidChar then some (Char.ofNatAux n h) else none
  else none

/-- What a letter behind a backslash stands for, unless digits follow it. -/
def escaped? : Char → Option Char
  | 'b' => some '\x08'
  | 't' => some '\t'
  | 'n' => some '\n'
  | 'f' => some '\x0c'
  | 'r' => some '\r'
  | 'e' => some '\x1b'
  | '"' => some '"'
  | '\\' => some '\\'
  | _ => none

def prepend (c : Char) (r : Option (List Char × List Char)) : Option (List Char × List Char) :=
  r.map fun (text, rest) => (c :: text, rest)

def basic : List Char → Option (List Char × List Char)
  | [] => none
  | '"' :: rest => some ([], rest)
  | '\\' :: 'x' :: a :: b :: rest => do prepend (← charOfHex? [a, b]) (basic rest)
  | '\\' :: 'u' :: a :: b :: c :: d :: rest => do prepend (← charOfHex? [a, b, c, d]) (basic rest)
  | '\\' :: 'U' :: a :: b :: c :: d :: e :: f :: g :: h :: rest => do
    prepend (← charOfHex? [a, b, c, d, e, f, g, h]) (basic rest)
  | '\\' :: c :: rest => do prepend (← escaped? c) (basic rest)
  | c :: rest => if isPlain c && c != '\\' then prepend c (basic rest) else none

def literal : List Char → Option (List Char × List Char)
  | [] => none
  | c :: rest =>
    if c = '\'' then some ([], rest) else if isPlain c then prepend c (literal rest) else none

/-- A backslash at the end of a line, which blanks may follow. -/
def endsLine (cs : List Char) : Bool :=
  match cs.dropWhile fun c => c == ' ' || c == '\t' with
  | '\n' :: _ | '\r' :: '\n' :: _ => true
  | _ => false

/-- The end of a string in triple quotes: up to two more quotes before them belong to the text. -/
def closing (quote : Char) (rest : List Char) : List Char × List Char :=
  match rest with
  | a :: b :: rest' =>
    if a = quote ∧ b = quote then ([quote, quote], rest')
    else if a = quote then ([quote], b :: rest')
    else ([], rest)
  | [a] => if a = quote then ([quote], []) else ([], rest)
  | [] => ([], [])

/-- A basic string of several lines. After a backslash at the end of a line, everything up to the
next character that is neither blank nor a line end is left out: `folding` tells so. -/
def basicLines : (folding : Bool) → List Char → Option (List Char × List Char)
  | _, [] => none
  | _, '"' :: '"' :: '"' :: rest => some (closing '"' rest)
  | _, '\\' :: 'x' :: a :: b :: rest => do
    prepend (← charOfHex? [a, b]) (basicLines false rest)
  | _, '\\' :: 'u' :: a :: b :: c :: d :: rest => do
    prepend (← charOfHex? [a, b, c, d]) (basicLines false rest)
  | _, '\\' :: 'U' :: a :: b :: c :: d :: e :: f :: g :: h :: rest => do
    prepend (← charOfHex? [a, b, c, d, e, f, g, h]) (basicLines false rest)
  | _, '\\' :: c :: rest =>
    match escaped? c with
    | some c => prepend c (basicLines false rest)
    | none => if endsLine (c :: rest) then basicLines true (c :: rest) else none
  | folding, '\r' :: '\n' :: rest =>
    if folding then basicLines true rest
    else prepend '\r' (prepend '\n' (basicLines false rest))
  | folding, c :: rest =>
    if folding && (c == ' ' || c == '\t' || c == '\n') then basicLines true rest
    else if (isPlain c && c != '\\') || c == '\n' then prepend c (basicLines false rest)
    else none

def literalLines : List Char → Option (List Char × List Char)
  | [] => none
  | '\'' :: '\'' :: '\'' :: rest => some (closing '\'' rest)
  | '\r' :: '\n' :: rest => prepend '\r' (prepend '\n' (literalLines rest))
  | c :: rest => if isPlain c || c == '\n' then prepend c (literalLines rest) else none

/-- A line end right behind the opening quotes does not count. -/
def trimLineEnd : List Char → List Char
  | '\n' :: rest | '\r' :: '\n' :: rest => rest
  | cs => cs

def string : List Char → Option (List Char × List Char)
  | '"' :: '"' :: '"' :: rest => basicLines false (trimLineEnd rest)
  | '"' :: rest => basic rest
  | '\'' :: '\'' :: '\'' :: rest => literalLines (trimLineEnd rest)
  | '\'' :: rest => literal rest
  | _ => none

end Repath.Toml
