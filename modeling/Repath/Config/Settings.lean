import Repath.Error

namespace Repath

structure Overrides where
  root : Option Path
  extension : Option String
  deriving DecidableEq, Repr

structure LoadedRuleFile where
  file : RuleFile
  path : Path
  deriving DecidableEq, Repr

inductive RuleSource
  | builtIn
  | file (path : Path)
  deriving DecidableEq, Repr

def RuleSource.display : RuleSource → String
  | builtIn => "built-in"
  | file p => p.display

structure Settings where
  root : Path
  extension : String
  rules : List RuleSpec
  source : RuleSource
  deriving DecidableEq, Repr

/-- Each setting from the first that gives it. A rule file without rules leaves the built-in ones
in force. -/
def Settings.resolve (overrides : Overrides) (loaded : Option LoadedRuleFile) : Settings :=
  let file := loaded.map (·.file)
  let root := (overrides.root.or (file.bind (·.root))).getD (.ofString BuiltIn.root)
  let extension := (overrides.extension.or (file.bind (·.extension))).getD BuiltIn.extension
  match loaded with
  | some ⟨⟨_, _, rule :: rest⟩, path⟩ => ⟨root, extension, rule :: rest, .file path⟩
  | _ => ⟨root, extension, BuiltIn.rules, .builtIn⟩

def RuleFile.parseFor (p : Path) (content : String) : Except Error RuleFile :=
  match RuleFile.parse content with
  | .ok f => .ok f
  | .error .malformed => .error (.ruleFileParse p)
  | .error (.flawed flaw) => .error (.invalidRuleFile p flaw)

namespace FileSystem

def readRuleFile (fs : FileSystem) (cwd : Location) (p : Path) : Except Error RuleFile := do
  RuleFile.parseFor p (← (fs.readText cwd p).mapError (.ruleFileRead p))

/-- The rule file named on the command line, which must be there, or else the conventional one of
a directory, if it is there. -/
def discover (fs : FileSystem) (cwd : Location) (explicit : Option Path) (dir : Path) :
    Except Error (Option LoadedRuleFile) := do
  match explicit with
  | some p =>
    if !fs.isFile cwd p then throw (.ruleFileNotFound p)
    return some ⟨← fs.readRuleFile cwd p, p⟩
  | none =>
    let p := dir.join (.ofString RuleFile.conventionalName)
    if !fs.isFile cwd p then return none
    return some ⟨← fs.readRuleFile cwd p, p⟩

def loadSettings (fs : FileSystem) (cwd : Location) (overrides : Overrides)
    (explicit : Option Path) (dir : Path) : Except Error Settings := do
  return .resolve overrides (← fs.discover cwd explicit dir)

end FileSystem

end Repath
