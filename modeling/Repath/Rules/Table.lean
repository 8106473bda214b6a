import Repath.Rules.Rule

namespace Repath

/-- Why a list of rules is refused: the first pattern that does not compile. -/
structure BadRule where
  pattern : String
  cause : PatternError
  deriving DecidableEq, Repr

structure RuleTable where
  rules : List Rule

namespace RuleTable

def compile (fits : String → Bool) : List RuleSpec → Except BadRule RuleTable
  | [] => .ok ⟨[]⟩
  | spec :: rest =>
    match Rule.compile fits spec with
    | .error cause => .error ⟨spec.pattern, cause⟩
    | .ok rule => (compile fits rest).map fun table => ⟨rule :: table.rules⟩

def size (t : RuleTable) : Nat := t.rules.length

def isEmpty (t : RuleTable) : Bool := t.rules.isEmpty

def specs (t : RuleTable) : List RuleSpec := t.rules.map (·.spec)

/-- One step of a run through the table: the second part tells whether a rule matched so far. -/
def step (acc : String × Bool) (r : Rule) : String × Bool :=
  match r.revise? acc.1 with
  | some text => (text, true)
  | none => acc

def revise? (t : RuleTable) (text : String) : Option String :=
  match t.rules.foldl step (text, false) with
  | (text, true) => some text
  | (_, false) => none

def apply (t : RuleTable) (text : String) : String := (t.revise? text).getD text

end RuleTable

end Repath
