import Repath.Config.RuleFile
import Repath.Files.Resolve

namespace Repath

inductive Error
  | rootNotFound (path : Path) (fault : Fault)
  | rootNotDirectory (path : Path)
  | walk (path : Path) (fault : Fault)
  | ruleFileNotFound (path : Path)
  | ruleFileRead (path : Path) (fault : Fault)
  | ruleFileParse (path : Path)
  | invalidRuleFile (path : Path) (flaw : RuleFile.Flaw)
  | invalidPattern (rule : BadRule)
  | fileRead (path : Path) (fault : Fault)
  | fileWrite (path : Path) (fault : Fault)
  deriving DecidableEq, Repr

namespace Error

def message : Error → String
  | rootNotFound p _ => "Root directory not found: " ++ p.display
  | rootNotDirectory p => "Root is not a directory: " ++ p.display
  | walk p _ => "Failed to walk directory: " ++ p.display
  | ruleFileNotFound p => "Rule file not found: " ++ p.display
  | ruleFileRead p _ => "Failed to read rule file: " ++ p.display
  | ruleFileParse p => "Failed to parse rule file: " ++ p.display
  | invalidRuleFile p flaw => "Invalid rule file " ++ p.display ++ ": " ++ flaw.message
  | invalidPattern rule => "Invalid regex pattern in rule: " ++ rule.pattern
  | fileRead p _ => "Failed to read file: " ++ p.display
  | fileWrite p _ => "Failed to write file: " ++ p.display

def source? : Error → Option String
  | rootNotFound _ fault | ruleFileRead _ fault | fileRead _ fault | fileWrite _ fault =>
    some fault.message
  | walk p fault => some ("IO error for operation on " ++ p.display ++ ": " ++ fault.message)
  | ruleFileParse _ => some "TOML parse error"
  | invalidPattern ⟨_, .tooLarge⟩ =>
    some ("Compiled regex exceeds size limit of " ++ toString Regex.sizeLimit ++ " bytes.")
  | invalidPattern _ => some "regex parse error"
  | rootNotDirectory _ | ruleFileNotFound _ | invalidRuleFile .. => none

/-- An error with what lies behind it, on one line. -/
def chain (e : Error) : String :=
  match e.source? with
  | some cause => e.message ++ ": " ++ cause
  | none => e.message

end Error

end Repath
