import Repath.Toml.Quoted
import Repath.Toml.Scalar

namespace Repath.Toml

def isBlank (c : Char) : Bool := c == ' ' || c == '\t'

def skipBlanks (cs : List Char) : List Char := cs.dropWhile isBlank

def comment? : List Char → Option (List Char)
  | [] => some []
  | '\n' :: rest => some ('\n' :: rest)
  | '\r' :: '\n' :: rest => some ('\r' :: '\n' :: rest)
  | c :: rest => if isPlain c then comment? rest else none

def skipLines : (inComment : Bool) → List Char → Option (List Char)
  | _, [] => some []
  | _, '\n' :: rest => skipLines false rest
  | _, '\r' :: '\n' :: rest => skipLines false rest
  | true, c :: rest => if isPlain c then skipLines true rest else none
  | false, c :: rest =>
    if isBlank c then skipLines false rest
    else if c = '#' then skipLines true rest
    else some (c :: rest)

def isBareKeyChar (c : Char) : Bool := c.isAlphanum || c == '_' || c == '-'

def keyPart (cs : List Char) : Option (String × List Char) :=
  match cs with
  | '"' :: rest => (basic rest).map fun (s, rest) => (String.ofList s, rest)
  | '\'' :: rest => (literal rest).map fun (s, rest) => (String.ofList s, rest)
  | _ =>
    match cs.takeWhile isBareKeyChar with
    | [] => none
    | name => some (String.ofList name, cs.dropWhile isBareKeyChar)

def key : (fuel : Nat) → List Char → Option (List String × List Char)
  | 0, _ => none
  | fuel + 1, cs => do
    let (part, rest) ← keyPart cs
    match skipBlanks rest with
    | '.' :: rest =>
      let (parts, rest) ← key fuel (skipBlanks rest)
      some (part :: parts, rest)
    | rest => some ([part], rest)

/-- Arrays and tables in braces may be nested this deep. -/
def maxDepth : Nat := 80

mutual

/-- A value. `room` tells how many arrays and tables may still be opened around each other. -/
def value : (fuel room : Nat) → List Char → Option (Value × List Char)
  | 0, _, _ => none
  | fuel + 1, room, cs =>
    match cs with
    | '"' :: _ | '\'' :: _ => (string cs).map fun (s, rest) => (.string (String.ofList s), rest)
    | '[' :: rest =>
      match room with
      | 0 => none
      | room + 1 => (items fuel room rest).map fun (vs, rest) => (.array false vs, rest)
    | '{' :: rest =>
      match room with
      | 0 => none
      | room + 1 => do
        let (entries, rest) ← entries fuel room rest
        let table ← Table.ofBraces entries
        some (.table .braces table, rest)
    | _ => do
      let (word, rest) := Scalar.split cs
      let kind ← Scalar.kind? word
      some (.scalar kind (String.ofList word), rest)

def items : (fuel room : Nat) → List Char → Option (List Value × List Char)
  | 0, _, _ => none
  | fuel + 1, room, cs => do
    match ← skipLines false cs with
    | ']' :: rest => some ([], rest)
    | cs =>
      let (v, rest) ← value fuel room cs
      match ← skipLines false rest with
      | ']' :: rest => some ([v], rest)
      | ',' :: rest =>
        let (vs, rest) ← items fuel room rest
        some (v :: vs, rest)
      | _ => none

def entries : (fuel room : Nat) → List Char → Option (List (List String × Value) × List Char)
  | 0, _, _ => none
  | fuel + 1, room, cs => do
    match ← skipLines false cs with
    | '}' :: rest => some ([], rest)
    | cs =>
      let (entry, rest) ← assignment fuel room cs
      match ← skipLines false rest with
      | '}' :: rest => some ([entry], rest)
      | ',' :: rest =>
        let (more, rest) ← entries fuel room rest
        some (entry :: more, rest)
      | _ => none

def assignment : (fuel room : Nat) → List Char → Option ((List String × Value) × List Char)
  | 0, _, _ => none
  | fuel + 1, room, cs => do
    let (path, rest) ← key (fuel + 1) cs
    match rest with
    | '=' :: rest =>
      let (v, rest) ← value fuel room (skipBlanks rest)
      some ((path, v), rest)
    | _ => none

end

def statement (fuel : Nat) (cs : List Char) : Option (Statement × List Char) :=
  match cs with
  | '[' :: '[' :: rest => do
    let (path, rest) ← key fuel (skipBlanks rest)
    match rest with
    | ']' :: ']' :: rest => some (.element path, rest)
    | _ => none
  | '[' :: rest => do
    let (path, rest) ← key fuel (skipBlanks rest)
    match rest with
    | ']' :: rest => some (.table path, rest)
    | _ => none
  | _ => (assignment fuel maxDepth cs).map fun ((path, v), rest) => (.assign path v, rest)

def lineEnd? (cs : List Char) : Option (List Char) := do
  let rest ← match skipBlanks cs with
    | '#' :: rest => comment? rest
    | rest => some rest
  match rest with
  | [] => some []
  | '\n' :: rest => some rest
  | '\r' :: '\n' :: rest => some rest
  | _ => none

def statements : (fuel : Nat) → List Char → Option (List Statement)
  | 0, _ => none
  | fuel + 1, cs => do
    match ← skipLines false cs with
    | [] => some []
    | cs =>
      let (s, rest) ← statement (2 * fuel + 2) cs
      let rest ← lineEnd? rest
      return s :: (← statements fuel rest)

/-- The table that a document stands for, if it is well-formed. A byte order mark may come first. -/
def read (text : List Char) : Option Table := do
  let text := match text with
    | '\uFEFF' :: rest => rest
    | _ => text
  Table.ofStatements (← statements (text.length + 1) text)

end Repath.Toml
