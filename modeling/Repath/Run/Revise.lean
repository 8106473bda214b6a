import Repath.Error
import Repath.Files.Replace

namespace Repath

inductive WriteMode
  | apply
  | dryRun
  deriving DecidableEq, Repr

inductive Outcome
  | changed
  | unchanged
  | failed (reason : String)
  deriving DecidableEq, Repr

namespace Outcome

def isChanged : Outcome → Bool
  | changed => true
  | _ => false

def isFailed : Outcome → Bool
  | failed _ => true
  | _ => false

end Outcome

namespace FileSystem

def writeText (fs : FileSystem) (cwd : Location) (p : Path) (text : String) :
    Except Error Unit × FileSystem :=
  let (result, fs) := fs.tryReplace cwd p (Utf8.encode text.toList)
  (result.mapError (.fileWrite p), fs)

/-- Revises the file that a path leads to, unless the rules leave its text as it is. -/
def tryRevise (fs : FileSystem) (cwd : Location) (p : Path) (table : RuleTable)
    (mode : WriteMode) : Except Error Bool × FileSystem :=
  match fs.readText cwd p with
  | .error fault => (.error (.fileRead p fault), fs)
  | .ok text =>
    match table.revise? text with
    | none => (.ok false, fs)
    | some new =>
      if new = text then (.ok false, fs)
      else match mode with
        | .dryRun => (.ok true, fs)
        | .apply =>
          let (result, fs) := fs.writeText cwd p new
          (result.map fun () => true, fs)

/-- Revises one file; a failure is an outcome. -/
def reviseFile (fs : FileSystem) (cwd : Location) (p : Path) (table : RuleTable)
    (mode : WriteMode) : Outcome × FileSystem :=
  match fs.tryRevise cwd p table mode with
  | (.ok true, fs) => (.changed, fs)
  | (.ok false, fs) => (.unchanged, fs)
  | (.error e, fs) => (.failed e.chain, fs)

end FileSystem

end Repath
