import Repath.Pattern.Syntax

namespace Repath.Reader

open Unicode (PropertyQuery hexDigit? hexNumber)

abbrev Read := Except PatternError

/-- What reading a pattern has to remember: whether blanks and comments are skipped, and the
groups opened so far with the names among them. -/
structure State where
  verbose : Bool
  groups : Nat
  names : List (String × Nat)
  deriving Repr

def skipBlank : (comment : Bool) → List Char → List Char
  | _, [] => []
  | true, c :: cs => skipBlank (c != '\n') cs
  | false, c :: cs =>
    if Unicode.isSpace c then skipBlank false cs
    else if c == '#' then skipBlank true cs
    else c :: cs

/-- Blanks are passed over in verbose patterns only. -/
def skip (verbose : Bool) (cs : List Char) : List Char :=
  if verbose then skipBlank false cs else cs

/-- The characters that have a meaning of their own in some position. -/
def isMeta (c : Char) : Bool :=
  ['\\', '.', '+', '*', '?', '(', ')', '|', '[', ']', '{', '}', '^', '$', '#', '&', '-', '~'].contains c

/-- A backslash before any of these stands for the character itself. -/
def isEscapable (c : Char) : Bool :=
  isMeta c || (c.toNat < 128 && !c.isAlphanum && c != '<' && c != '>')

def charOf? (n : Nat) : Option Char :=
  if h : n.isValidChar then some (Char.ofNatAux n h) else none

/-- The digits at the front. Behind the first, blanks and comments are left out in verbose
patterns. -/
def digits (verbose : Bool) : (comment : Bool) → List Char → (done : List Char) →
    List Char × List Char
  | _, [], done => (done.reverse, [])
  | true, c :: cs, done => digits verbose (c != '\n') cs done
  | false, c :: cs, done =>
    if c.isDigit then digits verbose false cs (c :: done)
    else if verbose && !done.isEmpty && Unicode.isSpace c then digits verbose false cs done
    else if verbose && !done.isEmpty && c == '#' then digits verbose true cs done
    else (done.reverse, c :: cs)

def decimal (verbose : Bool) (cs : List Char) : Read (Nat × List Char) := do
  let (ds, rest) := digits verbose false (cs.dropWhile Unicode.isSpace) []
  let n := ds.foldl (fun n c => 10 * n + (c.toNat - '0'.toNat)) 0
  if ds.isEmpty || UInt32.size ≤ n then throw .badRepetition
  return (n, rest.dropWhile Unicode.isSpace)

def hexDigits (verbose : Bool) : Nat → List Char → Read (List Char × List Char)
  | 0, cs => .ok ([], cs)
  | n + 1, cs =>
    match cs with
    | [] => .error .unfinished
    | c :: rest =>
      if (hexDigit? c).isNone then .error .badEscape
      else (hexDigits verbose n (skip verbose rest)).map fun (ds, rest) => (c :: ds, rest)

def untilBrace (verbose : Bool) : (comment : Bool) → List Char → Read (List Char × List Char)
  | _, [] => .error .unfinished
  | true, c :: cs => untilBrace verbose (c != '\n') cs
  | false, c :: cs =>
    if verbose && Unicode.isSpace c then untilBrace verbose false cs
    else if verbose && c == '#' then untilBrace verbose true cs
    else if c == '}' then .ok ([], cs)
    else (untilBrace verbose false cs).map fun (body, rest) => (c :: body, rest)

/-- A character by its number: two, four or eight digits, or any number of them in braces. -/
def hexEscape (verbose : Bool) (kind : Char) (cs : List Char) :
    Read (Char × List Char) := do
  match skip verbose cs with
  | [] => throw .unfinished
  | '{' :: rest =>
    let (ds, rest) ← untilBrace verbose false rest
    if ds.isEmpty || ds.any (hexDigit? · |>.isNone) then throw .badEscape
    match charOf? (hexNumber ds) with
    | some c => return (c, skip verbose rest)
    | none => throw .badEscape
  | cs =>
    let width := if kind = 'x' then 2 else if kind = 'u' then 4 else 8
    let (ds, rest) ← hexDigits verbose width cs
    match charOf? (hexNumber ds) with
    | some c => return (c, rest)
    | none => throw .badEscape

def splitAt? (sep : List Char) : List Char → Option (List Char × List Char)
  | [] => none
  | c :: cs =>
    if sep.isPrefixOf (c :: cs) then some ([], (c :: cs).drop sep.length)
    else (splitAt? sep cs).map fun (a, b) => (c :: a, b)

/-- What stands behind `\p` or `\P`: one letter, or a name or an equation in braces. The sign of
an equation makes no difference, only the letter decides on negation. -/
def property (verbose negated : Bool) (cs : List Char) :
    Read ((PropertyQuery × Bool) × List Char) := do
  match skip verbose cs with
  | [] => throw .unfinished
  | '{' :: rest =>
    let (body, rest) ← untilBrace verbose false rest
    let text := String.ofList
    if let some (name, value) := splitAt? ['!', '='] body then
      return ((.valued (text name) (text value), negated), rest)
    if let some (name, value) := (splitAt? [':'] body).or (splitAt? ['='] body) then
      return ((.valued (text name) (text value), negated), rest)
    return ((.named (text body), negated), rest)
  | '\\' :: _ => throw .badEscape
  | c :: rest => return ((.named (String.singleton c), negated), rest)

inductive Item
  | char (c : Char)
  /-- A character written as `\x` with two digits. -/
  | byte (c : Char)
  | assertion (a : Assertion)
  | perl (c : PerlClass) (negated : Bool)
  | property (query : PropertyQuery) (negated : Bool)

def Item.char? : Item → Option Char
  | char c | byte c => some c
  | _ => none

/-- The boundary named in braces behind `\b`. Where the braces hold something else they are left
for a repetition. -/
def boundaryName (verbose : Bool) (cs : List Char) : Read (Assertion × List Char) := do
  let isNameChar (c : Char) : Bool := c.isAlpha || c == '-'
  match cs with
  | '{' :: rest =>
    match skip verbose rest with
    | [] => throw .unfinished
    | c :: rest' =>
      if !isNameChar c then return (.boundary, cs)
      let (name, rest) ← untilBrace verbose false (c :: rest')
      match String.ofList name with
      | "start" => return (.wordStart, rest)
      | "end" => return (.wordEnd, rest)
      | "start-half" => return (.wordStartHalf, rest)
      | "end-half" => return (.wordEndHalf, rest)
      | _ => throw .badBoundary
  | _ => return (.boundary, cs)

def escape (verbose : Bool) (cs : List Char) : Read (Item × List Char) := do
  match cs with
  | [] => throw .unfinished
  | c :: rest =>
    if c = 'x' ∨ c = 'u' ∨ c = 'U' then
      let braced := (skip verbose rest).head? == some '{'
      let (value, rest) ← hexEscape verbose c rest
      return (if c = 'x' ∧ !braced then .byte value else .char value, rest)
    if c = 'p' ∨ c = 'P' then
      let ((query, negated), rest) ← property verbose (c = 'P') rest
      return (.property query negated, rest)
    if isEscapable c then return (.char c, rest)
    match c with
    | 'd' => return (.perl .digit false, rest)
    | 'D' => return (.perl .digit true, rest)
    | 's' => return (.perl .space false, rest)
    | 'S' => return (.perl .space true, rest)
    | 'w' => return (.perl .word false, rest)
    | 'W' => return (.perl .word true, rest)
    | 'a' => return (.char '\x07', rest)
    | 'f' => return (.char '\x0c', rest)
    | 't' => return (.char '\t', rest)
    | 'n' => return (.char '\n', rest)
    | 'r' => return (.char '\r', rest)
    | 'v' => return (.char '\x0b', rest)
    | 'A' => return (.assertion .textStart, rest)
    | 'z' => return (.assertion .textEnd, rest)
    | 'b' =>
      let (a, rest) ← boundaryName verbose rest
      return (.assertion a, rest)
    | 'B' => return (.assertion .noBoundary, rest)
    | '<' => return (.assertion .wordStart, rest)
    | '>' => return (.assertion .wordEnd, rest)
    | _ => throw .badEscape

def asciiClass? (name : List Char) : Option AsciiClass :=
  match String.ofList name with
  | "alnum" => some .alnum
  | "alpha" => some .alpha
  | "ascii" => some .ascii
  | "blank" => some .blank
  | "cntrl" => some .cntrl
  | "digit" => some .digit
  | "graph" => some .graph
  | "lower" => some .lower
  | "print" => some .print
  | "punct" => some .punct
  | "space" => some .space
  | "upper" => some .upper
  | "word" => some .word
  | "xdigit" => some .xdigit
  | _ => none

def namedClass? (cs : List Char) : Option (ClassSyntax × List Char) := do
  let ':' :: rest := cs | none
  let (negated, rest) := match rest with
    | '^' :: rest => (true, rest)
    | _ => (false, rest)
  let name := rest.takeWhile (· ≠ ':')
  match rest.dropWhile (· ≠ ':') with
  | ':' :: ']' :: rest => return (.ascii (← asciiClass? name) negated, rest)
  | _ => none

def classItem (verbose : Bool) (cs : List Char) : Read (Item × List Char) :=
  match cs with
  | [] => .error .unclosedClass
  | '\\' :: rest => escape verbose rest
  | c :: rest => .ok (.char c, rest)

/-- The character after the next one that counts. In verbose patterns the search for it passes over
blanks and over one number sign. -/
def peek (verbose : Bool) (cs : List Char) : Option Char :=
  if verbose then
    match cs.dropWhile Unicode.isSpace with
    | '#' :: rest => (rest.dropWhile Unicode.isSpace).head?.or cs.head?
    | rest => rest.head?.or cs.head?
  else cs.head?

def classRange (verbose : Bool) (cs : List Char) : Read (ClassSyntax × List Char) := do
  let (first, rest) ← classItem verbose cs
  let alone : Except PatternError ClassSyntax := match first with
    | .char c | .byte c => .ok (.char c)
    | .perl c negated => .ok (.perl c negated)
    | .property query negated => .ok (.property query negated)
    | .assertion _ => .error .badClassItem
  match skip verbose rest with
  | [] => throw .unclosedClass
  | '-' :: rest =>
    let after := peek verbose rest
    if after = some ']' ∨ after = some '-' then return (← alone, '-' :: rest)
    match skip verbose rest with
    | [] => throw .unclosedClass
    | rest =>
      let (last, rest) ← classItem verbose rest
      match first.char?, last.char? with
      | some a, some b =>
        if b < a then throw .badRange
        return (.range a b, rest)
      | _, _ => throw .badRange
  | rest => return (← alone, rest)

def hyphens (verbose : Bool) : (comment : Bool) → List Char → List ClassSyntax × List Char
  | _, [] => ([], [])
  | true, c :: cs => hyphens verbose (c != '\n') cs
  | false, c :: cs =>
    if c = '-' then
      let (found, rest) := hyphens verbose false cs
      (.char '-' :: found, rest)
    else if verbose && Unicode.isSpace c then hyphens verbose false cs
    else if verbose && c == '#' then hyphens verbose true cs
    else ([], c :: cs)

/-- The beginning of a class behind its bracket: whether it is negated, and the hyphens or the
closing bracket that stand for themselves there. -/
def classStart (verbose : Bool) (cs : List Char) :
    Read ((Bool × List ClassSyntax) × List Char) := do
  let (negated, cs) := match skip verbose cs with
    | '^' :: rest => (true, rest)
    | cs => (false, cs)
  match hyphens verbose false cs with
  | ([], ']' :: rest) => return ((negated, [.char ']']), rest)
  | (_, []) => throw .unclosedClass
  | (found, cs) => return ((negated, found), cs)

/-- An operator and its left side, waiting for the right side. -/
abbrev Pending := Option (SetOp × ClassSyntax)

def settle (pending : Pending) (items : List ClassSyntax) : ClassSyntax :=
  match pending with
  | none => .ofItems items
  | some (o, a) => .op o a (.ofItems items)

/-- The rest of a class, up to its closing bracket. Operators bind equally and to the left. -/
def classBody (verbose : Bool) : (fuel : Nat) → Pending → List ClassSyntax → List Char →
    Read (ClassSyntax × List Char)
  | 0, _, _, _ => .error .unclosedClass
  | fuel + 1, pending, items, cs =>
    match skip verbose cs with
    | [] => .error .unclosedClass
    | ']' :: rest => .ok (settle pending items, rest)
    | '&' :: '&' :: rest => classBody verbose fuel (some (.inter, settle pending items)) [] rest
    | '-' :: '-' :: rest => classBody verbose fuel (some (.diff, settle pending items)) [] rest
    | '~' :: '~' :: rest => classBody verbose fuel (some (.symmDiff, settle pending items)) [] rest
    | '[' :: rest =>
      match namedClass? rest with
      | some (c, rest) => classBody verbose fuel pending (items ++ [c]) rest
      | none => do
        let ((negated, first), rest) ← classStart verbose rest
        let (body, rest) ← classBody verbose fuel none first rest
        classBody verbose fuel pending (items ++ [.bracket negated body]) rest
    | cs => do
      let (c, rest) ← classRange verbose cs
      classBody verbose fuel pending (items ++ [c]) rest

def bracketed (verbose : Bool) (cs : List Char) : Read (Syntax × List Char) := do
  let ((negated, first), rest) ← classStart verbose cs
  let (body, rest) ← classBody verbose (rest.length + 1) none first rest
  return (.bracket negated body, rest)

def greed (cs : List Char) : Bool × List Char :=
  match cs with
  | '?' :: rest => (false, rest)
  | _ => (true, cs)

def bounds (verbose : Bool) (cs : List Char) : Read ((Nat × Option Nat) × List Char) := do
  let (min, rest) ← decimal verbose (skip verbose cs)
  let (max, rest) ← match rest with
    | ',' :: rest =>
      match skip verbose rest with
      | '}' :: _ => pure (none, skip verbose rest)
      | rest => (decimal verbose rest).map fun (n, rest) => (some n, rest)
    | _ => pure (some min, rest)
  match rest with
  | '}' :: rest =>
    if max.any (· < min) then throw .badRepetition
    return ((min, max), skip verbose rest)
  | _ => throw .badRepetition

def flag? : Char → Option Flag
  | 'i' => some .caseInsensitive
  | 'm' => some .multiLine
  | 's' => some .dotAll
  | 'U' => some .swapGreed
  | 'u' => some .unicode
  | 'R' => some .crlf
  | 'x' => some .verbose
  | _ => none

/-- Flags up to a colon or a closing parenthesis, which stays. Those behind a hyphen are cleared;
neither a flag nor the hyphen may come twice, and the hyphen not last. -/
def flags (value : Bool) (changes : List FlagChange) :
    List Char → Read (List FlagChange × List Char)
  | [] => .error .unfinished
  | c :: cs =>
    if c = ':' ∨ c = ')' then
      if !value && changes.all (·.value) then .error .badFlags else .ok (changes, c :: cs)
    else if c = '-' then
      if value then flags false changes cs else .error .badFlags
    else match flag? c with
      | none => .error .badFlags
      | some f =>
        if changes.any (·.flag = f) then .error .badFlags
        else flags value (changes ++ [⟨f, value⟩]) cs

def isNameStart (c : Char) : Bool :=
  c == '_' || ((Unicode.binary? "alphabetic").any (·.contains c))

def isNamePart (c : Char) : Bool :=
  isNameStart c || c == '.' || c == '[' || c == ']'
    || ((Unicode.category? "n").any (·.contains c))

def groupName (cs : List Char) : Read (String × List Char) := do
  let name := cs.takeWhile (· ≠ '>')
  match name, cs.dropWhile (· ≠ '>') with
  | c :: name, '>' :: rest =>
    if isNameStart c && name.all isNamePart then return (String.ofList (c :: name), rest)
    throw .badGroupName
  | _, _ => throw .badGroupName

def valueOf? (changes : List FlagChange) (f : Flag) : Option Bool :=
  (changes.find? (·.flag = f)).map (·.value)

inductive Opening
  | flags (changes : List FlagChange)
  | group (kind : GroupKind)

def capture (st : State) (name? : Option String) : Except PatternError (Opening × State) := do
  let index := st.groups + 1
  let names ← match name? with
    | none => pure st.names
    | some name =>
      if st.names.any (·.1 = name) then throw (.repeatedGroupName name)
      pure (st.names ++ [(name, index)])
  return (.group (.capture index), { st with groups := index, names })

def opening (st : State) (cs : List Char) : Read ((Opening × State) × List Char) := do
  match skip st.verbose cs with
  | '?' :: '=' :: _ | '?' :: '!' :: _ | '?' :: '<' :: '=' :: _ | '?' :: '<' :: '!' :: _ =>
    throw .lookAround
  | '?' :: 'P' :: '<' :: rest | '?' :: '<' :: rest =>
    let (name, rest) ← groupName rest
    return (← capture st (some name), rest)
  | '?' :: rest =>
    match ← flags true [] rest with
    | (changes, ')' :: rest) =>
      if changes.isEmpty then throw .nothingToRepeat
      let st := { st with verbose := (valueOf? changes .verbose).getD st.verbose }
      return ((.flags changes, st), rest)
    | (changes, rest) => return ((.group (.plain changes), st), rest.tail)
  | rest => return (← capture st none, rest)

def GroupKind.verbose (kind : GroupKind) (outer : Bool) : Bool :=
  match kind with
  | .capture _ => outer
  | .plain changes => (valueOf? changes .verbose).getD outer

/-- Puts a repetition around the last item. The items are held in reverse. -/
def repeatLast (items : List Syntax) (min : Nat) (max : Option Nat) (cs : List Char) :
    Read (List Syntax × List Char) :=
  match items with
  | [] => .error .nothingToRepeat
  | a :: items =>
    if a.isRepeatable then
      let (greedy, rest) := greed cs
      .ok (.rep a min max greedy :: items, rest)
    else .error .nothingToRepeat

/-- The choices up to a closing parenthesis or the end. `items` holds the sequence being read and
`done` the finished choices, both in reverse. -/
def choices : (fuel : Nat) → State → (done items : List Syntax) → List Char →
    Read ((Syntax × State) × List Char)
  | 0, _, _, _, _ => .error .unfinished
  | fuel + 1, st, done, items, cs =>
    let finished := Syntax.sequence items.reverse
    match skip st.verbose cs with
    | [] => .ok ((.choice (finished :: done).reverse, st), [])
    | ')' :: rest => .ok ((.choice (finished :: done).reverse, st), ')' :: rest)
    | '|' :: rest => choices fuel st (finished :: done) [] rest
    | '(' :: rest => do
      match ← opening st rest with
      | ((.flags changes, st), rest) => choices fuel st done (.setFlags changes :: items) rest
      | ((.group kind, st), rest) =>
        let inner := { st with verbose := GroupKind.verbose kind st.verbose }
        match ← choices fuel inner [] [] rest with
        | ((body, after), ')' :: rest) =>
          choices fuel { after with verbose := st.verbose } done (.group kind body :: items) rest
        | _ => throw .unclosedGroup
    | '[' :: rest => do
      let (a, rest) ← bracketed st.verbose rest
      choices fuel st done (a :: items) rest
    | '?' :: rest => do
      let (items, rest) ← repeatLast items 0 (some 1) rest
      choices fuel st done items rest
    | '*' :: rest => do
      let (items, rest) ← repeatLast items 0 none rest
      choices fuel st done items rest
    | '+' :: rest => do
      let (items, rest) ← repeatLast items 1 none rest
      choices fuel st done items rest
    | '{' :: rest => do
      if !items.head?.any Syntax.isRepeatable then throw .nothingToRepeat
      let ((min, max), rest) ← bounds st.verbose rest
      let (items, rest) ← repeatLast items min max rest
      choices fuel st done items rest
    | '.' :: rest => choices fuel st done (.dot :: items) rest
    | '^' :: rest => choices fuel st done (.assertion .lineStart :: items) rest
    | '$' :: rest => choices fuel st done (.assertion .lineEnd :: items) rest
    | '\\' :: rest => do
      let (item, rest) ← escape st.verbose rest
      let a : Syntax := match item with
        | .char c => .char c
        | .byte c => .byte c
        | .assertion a => .assertion a
        | .perl c negated => .perl c negated
        | .property query negated => .property query negated
      choices fuel st done (a :: items) rest
    | c :: rest => choices fuel st done (.char c :: items) rest

end Reader

def Syntax.read (cs : List Char) : Except PatternError (Syntax × List (String × Nat)) := do
  match ← Reader.choices (cs.length + 1) ⟨false, 0, []⟩ [] [] cs with
  | ((body, st), []) =>
    if maxDepth < body.depth then throw .nestedTooDeep
    return (body, st.names)
  | _ => throw .unopenedGroup

end Repath
