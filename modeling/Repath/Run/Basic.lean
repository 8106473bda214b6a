import Repath.Files.Walk
import Repath.Run.Revise

namespace Repath

structure RunOptions where
  root : Path
  extension : String
  mode : WriteMode
  deriving DecidableEq, Repr

structure FileReport where
  path : Path
  relative : Path
  outcome : Outcome
  deriving DecidableEq, Repr

structure RunSummary where
  root : Path
  total : Nat
  changed : Nat
  failed : List FileReport
  deriving DecidableEq, Repr

namespace RunSummary

def start (root : Path) : RunSummary := ⟨root, 0, 0, []⟩

def add (s : RunSummary) (r : FileReport) : RunSummary :=
  let s := { s with total := s.total + 1 }
  match r.outcome with
  | .changed => { s with changed := s.changed + 1 }
  | .unchanged => s
  | .failed _ => { s with failed := s.failed ++ [r] }

def line (s : RunSummary) : String :=
  toString s.changed ++ "/" ++ toString s.total ++ " files modified"

end RunSummary

/-- A run as far as it has got. Reports are in the order in which they were made. -/
structure Run where
  files : FileSystem
  summary : RunSummary
  reports : List FileReport
  deriving Repr

namespace Run

def visit (cwd : Location) (root : Path) (table : RuleTable) (mode : WriteMode) (r : Run)
    (p : Path) : Run :=
  let (outcome, files) := r.files.reviseFile cwd p table mode
  let report : FileReport := ⟨p, root.relativeTo p, outcome⟩
  ⟨files, r.summary.add report, r.reports ++ [report]⟩

end Run

namespace FileSystem

def resolveRoot (fs : FileSystem) (cwd : Location) (root : Path) : Except Error Path := do
  match ← (fs.stat cwd root).mapError (.rootNotFound root) with
  | (l, .dir) => return l.path
  | (l, _) => throw (.rootNotDirectory l.path)

/-- A run as far as it gets, with the error that has ended it, if one has. What was written and
reported before an error stays. -/
def attempt (fs : FileSystem) (cwd : Location) (options : RunOptions) (table : RuleTable) :
    Run × Option Error :=
  match fs.resolveRoot cwd options.root with
  | .error e => (⟨fs, .start options.root, []⟩, some e)
  | .ok root =>
    visitCandidates Run.files (Run.visit cwd root table options.mode) options.extension cwd root
      ⟨fs, .start root, []⟩

def run (fs : FileSystem) (cwd : Location) (options : RunOptions) (table : RuleTable) :
    Except Error Run :=
  match fs.attempt cwd options table with
  | (r, none) => .ok r
  | (_, some e) => .error e

end FileSystem

end Repath
