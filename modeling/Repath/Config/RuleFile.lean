import Repath.Files.Path
import Repath.Rules.BuiltIn
import Repath.Toml.Reader
import Repath.Toml.Writer

namespace Repath

/-- What a rule file says; nothing it leaves out is filled in. -/
structure RuleFile where
  root : Option Path
  extension : Option String
  rules : List RuleSpec
  deriving DecidableEq, Repr

namespace RuleFile

def conventionalName : String := ".relink.toml"

inductive Flaw
  | emptyExtension
  /-- The number of the rule is counted from one. -/
  | emptyPattern (number : Nat)
  deriving DecidableEq, Repr

def Flaw.message : Flaw → String
  | emptyExtension => "extension must not be empty"
  | emptyPattern n => "rule " ++ toString n ++ " has an empty pattern"

def firstEmptyPattern? : (number : Nat) → List RuleSpec → Option Nat
  | _, [] => none
  | n, rule :: rest => if rule.pattern.isEmpty then some n else firstEmptyPattern? (n + 1) rest

def flaw? (f : RuleFile) : Option Flaw :=
  if f.extension = some "" then some .emptyExtension
  else (firstEmptyPattern? 1 f.rules).map .emptyPattern

def stringOf? : Toml.Value → Option String
  | .string s => some s
  | _ => none

/-- A rule is a table of both its parts, or an array that begins with them. -/
def ruleOf? : Toml.Value → Option RuleSpec
  | .table _ entries => do
    if !entries.all fun (k, _) => k = "pattern" || k = "replacement" then none
    else
      let pattern ← stringOf? (← entries.lookup "pattern")
      let replacement ← stringOf? (← entries.lookup "replacement")
      some ⟨pattern, replacement⟩
  | .array _ (a :: b :: _) => do some ⟨← stringOf? a, ← stringOf? b⟩
  | _ => none

def rulesOf? : Toml.Value → Option (List RuleSpec)
  | .array _ items => items.mapM ruleOf?
  | _ => none

/-- An optional entry: one that is there must be of the right kind. -/
def optional {α : Type} (t : Toml.Table) (key : String) (read : Toml.Value → Option α) :
    Option (Option α) :=
  match t.lookup key with
  | none => some none
  | some v => (read v).map some

def ofToml? (t : Toml.Table) : Option RuleFile := do
  if !t.all fun (k, _) => k = "root" || k = "extension" || k = "rules" then none
  else
    let root ← optional t "root" stringOf?
    let extension ← optional t "extension" stringOf?
    let rules ← optional t "rules" rulesOf?
    some ⟨root.map Path.ofString, extension, rules.getD []⟩

inductive TextError
  | malformed
  | flawed (flaw : Flaw)
  deriving DecidableEq, Repr

def parse (content : String) : Except TextError RuleFile :=
  match (Toml.read content.toList).bind ofToml? with
  | none => .error .malformed
  | some f =>
    match f.flaw? with
    | some flaw => .error (.flawed flaw)
    | none => .ok f

def headingText : String :=
  "# relink rule file\n" ++
  "# Rules run top to bottom on every candidate file; order matters.\n" ++
  "# Replacement templates use `$1` / `$\x7bname\x7d` for capture groups.\n\n"

def writeEntry (key : String) (value : String) : List Char :=
  key.toList ++ " = ".toList ++ Toml.writeString value.toList ++ ['\n']

def writeRule (rule : RuleSpec) : List Char :=
  "\n[[rules]]\n".toList ++ writeEntry "pattern" rule.pattern
    ++ writeEntry "replacement" rule.replacement

def render (rules : List RuleSpec) (root extension : String) : String :=
  String.ofList (headingText.toList ++ writeEntry "root" root ++ writeEntry "extension" extension
    ++ if rules.isEmpty then "rules = []\n".toList else rules.flatMap writeRule)

def template : String := render BuiltIn.rules BuiltIn.root BuiltIn.extension

end RuleFile

end Repath
