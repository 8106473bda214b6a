import Repath.Rules.Template

namespace Repath

structure RuleSpec where
  pattern : String
  replacement : String
  deriving DecidableEq, Repr, Inhabited

structure Rule where
  spec : RuleSpec
  regex : Regex

namespace Rule

def compile (fits : String → Bool) (spec : RuleSpec) : Except PatternError Rule :=
  (Regex.compile fits spec.pattern).map fun regex => { spec, regex }

/-- The text from a cursor on, with each of the matches replaced and all else kept. -/
def splice (expand : Match → List Char) : Cursor → List Match → List Char
  | c, [] => c.after
  | c, m :: rest => c.upTo m.start ++ expand m ++ splice expand m.stop rest

def revise? (r : Rule) (text : String) : Option String :=
  let cs := text.toList
  match r.regex.matchesIn cs with
  | [] => none
  | ms =>
    let template := Template.ofString r.spec.replacement
    some (String.ofList (splice (template.expand r.regex) (.start cs) ms))

end Rule

end Repath
