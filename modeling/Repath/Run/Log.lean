import Repath.Run.Basic

namespace Repath

/-- What is logged on the way, without the time and the layout of a line. -/
inductive Event
  | ruleFileLoaded (path : Path) (rules : Nat)
  | runStarted (root : Path) (extension : String) (rules : Nat) (dryRun : Bool)
  | fileSkipped (path : Path) (reason : String)
  | fileVisited (path : Path) (outcome : Outcome)
  | runCompleted (total changed failed : Nat)
  deriving DecidableEq, Repr

inductive LogLevel
  | debug
  | info
  | warn
  deriving DecidableEq, Repr

namespace Event

def level : Event → LogLevel
  | ruleFileLoaded .. | fileVisited .. => .debug
  | runStarted .. | runCompleted .. => .info
  | fileSkipped .. => .warn

/-- Warnings are always shown, all else on request. -/
def isShown (verbose : Bool) (e : Event) : Bool := verbose || e.level = .warn

end Event

/-- A file that has failed is warned of before it counts as visited. -/
def FileReport.events (r : FileReport) : List Event :=
  match r.outcome with
  | .failed reason => [.fileSkipped r.path reason, .fileVisited r.path r.outcome]
  | outcome => [.fileVisited r.path outcome]

def RunSummary.event (s : RunSummary) : Event :=
  .runCompleted s.total s.changed s.failed.length

/-- What an attempt has logged once it has come out. It starts when its root is found. -/
def FileSystem.log (fs : FileSystem) (cwd : Location) (options : RunOptions) (rules : Nat) :
    Run × Option Error → List Event
  | (r, ending) =>
    match fs.resolveRoot cwd options.root with
    | .error _ => []
    | .ok root =>
      .runStarted root options.extension rules (options.mode = .dryRun)
        :: r.reports.flatMap (·.events) ++ if ending.isNone then [r.summary.event] else []

end Repath
