import Repath.Command.Arguments
import Repath.Run.Log

namespace Repath

/-- What the libraries decide for the program. -/
structure Libraries where
  /-- Whether a pattern, by its text, stays within the size limit when it is compiled. -/
  fits : String → Bool
  /-- What is said about a command line that is refused. -/
  refusal : List String → String

/-- How a command ends. Its standard error is the log, a line for an event, and then the message. -/
structure CommandResult where
  code : Nat
  stdout : String
  log : List Event
  message : String
  files : FileSystem
  deriving Repr

namespace CommandResult

def after (events : List Event) (r : CommandResult) : CommandResult :=
  { r with log := events ++ r.log }

def shown (verbose : Bool) (r : CommandResult) : CommandResult :=
  { r with log := r.log.filter (·.isShown verbose) }

variable (events : List Event) (verbose : Bool) (r : CommandResult)

@[simp] theorem code_after : (r.after events).code = r.code := rfl

@[simp] theorem stdout_after : (r.after events).stdout = r.stdout := rfl

@[simp] theorem message_after : (r.after events).message = r.message := rfl

@[simp] theorem files_after : (r.after events).files = r.files := rfl

@[simp] theorem code_shown : (r.shown verbose).code = r.code := rfl

@[simp] theorem stdout_shown : (r.shown verbose).stdout = r.stdout := rfl

@[simp] theorem message_shown : (r.shown verbose).message = r.message := rfl

@[simp] theorem files_shown : (r.shown verbose).files = r.files := rfl

end CommandResult

namespace Command

def versionText : String := "relink 0.1.0\n"

def lines (ls : List String) : String := String.join (ls.map (· ++ "\n"))

def hanging (indent : String) (s : String) : String :=
  String.ofList (s.toList.flatMap fun c => if c = '\n' then '\n' :: indent.toList else [c])

def rightAlign (width : Nat) (s : String) : String :=
  String.ofList (List.replicate (width - s.length) ' ') ++ s

def numberedCauses : Nat → List String → String
  | _, [] => ""
  | n, cause :: rest =>
    "\n" ++ rightAlign 5 (toString n) ++ ": " ++ hanging "       " cause
      ++ numberedCauses (n + 1) rest

/-- A failure with its causes, which are numbered if there are several. -/
def report (failure : String) (causes : List String) : String :=
  "error: " ++ failure ++ (match causes with
    | [] => ""
    | [cause] => "\n\nCaused by:\n    " ++ hanging "    " cause
    | causes => "\n\nCaused by:" ++ numberedCauses 0 causes) ++ "\n"

def causes (e : Error) : List String := e.message :: e.source?.toList

def fail (fs : FileSystem) (failure : String) (causes : List String) : CommandResult :=
  ⟨1, "", [], report failure causes, fs⟩

def succeed (fs : FileSystem) (stdout : String) : CommandResult := ⟨0, stdout, [], "", fs⟩

def init (fs : FileSystem) (cwd : Location) (force : Bool) : CommandResult :=
  let p := Path.ofString RuleFile.conventionalName
  if fs.pathExists cwd p && !force then
    fail fs (RuleFile.conventionalName ++ " already exists. Use --force to overwrite.") []
  else match fs.writeInPlace cwd p (Utf8.encode RuleFile.template.toList) with
    | .ok fs => succeed fs (lines ["Created " ++ RuleFile.conventionalName])
    | .error fault => fail fs ("Failed to write " ++ RuleFile.conventionalName) [fault.message]

def ruleLines : (number : Nat) → List RuleSpec → List String
  | _, [] => []
  | n, rule :: rest =>
    ["  Rule " ++ toString n ++ ":", "    pattern: " ++ rule.pattern,
      "    replacement: " ++ rule.replacement, ""] ++ ruleLines (n + 1) rest

def showRules (fs : FileSystem) (settings : Settings) : CommandResult :=
  succeed fs (lines (["# Source: " ++ settings.source.display,
    "# root: " ++ settings.root.display, "# extension: " ++ settings.extension,
    "# rules: " ++ toString settings.rules.length, ""] ++ ruleLines 1 settings.rules))

def validateRules (fits : String → Bool) (fs : FileSystem) (settings : Settings) :
    CommandResult :=
  match RuleTable.compile fits settings.rules with
  | .ok table => succeed fs (lines ["All rules are valid: " ++ settings.source.display ++ " ("
      ++ toString table.size ++ " rules)"])
  | .error rule =>
    ⟨1, "", [], "Rule error: " ++ (Error.invalidPattern rule).message ++ "\n", fs⟩

def reportLine (mode : WriteMode) (r : FileReport) : List String :=
  match r.outcome with
  | .changed => [(match mode with | .apply => "changed: " | .dryRun => "would change: ")
      ++ r.relative.display]
  | .unchanged => []
  | .failed reason => ["failed: " ++ r.relative.display ++ " (" ++ reason ++ ")"]

def banner (root : Path) (extension : String) (rules : Nat) (mode : WriteMode) : String :=
  "Rewriting imports in " ++ root.display ++ " (*" ++ extension ++ ", " ++ toString rules
    ++ " rules" ++ (match mode with | .apply => "" | .dryRun => ", dry run") ++ ")"

def closingLines (s : RunSummary) : List String :=
  ["", s.line]
    ++ (if s.failed.isEmpty then [] else
      [toString s.failed.length ++ " files could not be processed"])
    ++ ["Run the build or type-check next to verify the rewritten imports."]

def conclude (options : RunOptions) (rules : Nat) : Run × Option Error → CommandResult
  | (r, ending) =>
    let printed := banner options.root options.extension rules options.mode
      :: r.reports.flatMap (reportLine options.mode)
    match ending with
    | some e =>
      { fail r.files ("Failed to rewrite " ++ options.root.display) (causes e) with
        stdout := lines printed }
    | none => succeed r.files (lines (printed ++ closingLines r.summary))

def revise (fits : String → Bool) (fs : FileSystem) (cwd : Location) (settings : Settings)
    (mode : WriteMode) : CommandResult :=
  match RuleTable.compile fits settings.rules with
  | .error rule => fail fs "Failed to compile rules" (causes (.invalidPattern rule))
  | .ok table =>
    match fs.resolveRoot cwd settings.root with
    | .error e => fail fs ("Failed to rewrite " ++ settings.root.display) (causes e)
    | .ok root =>
      let options : RunOptions := ⟨root, settings.extension, mode⟩
      let out := fs.attempt cwd options table
      (conclude options table.size out).after (fs.log cwd options table.size out)

def settings (fs : FileSystem) (cwd : Location) (a : Arguments) : Except Error Settings :=
  fs.loadSettings cwd ⟨a.root.map Path.ofString, a.extension⟩ (a.ruleFile.map Path.ofString)
    cwd.path

/-- What is logged when the settings are loaded: a rule file that has been read. -/
def settingsLog (fs : FileSystem) (cwd : Location) (a : Arguments) : List Event :=
  match fs.discover cwd (a.ruleFile.map Path.ofString) cwd.path with
  | .ok (some loaded) => [.ruleFileLoaded loaded.path loaded.file.rules.length]
  | _ => []

/-- Runs the program in a current directory, with all events in the log. -/
def execute (fits : String → Bool) (fs : FileSystem) (cwd : Location) (a : Arguments) :
    CommandResult :=
  if a.init then init fs cwd a.force
  else
    match settings fs cwd a with
    | .error e => fail fs "Failed to load rule file" (causes e)
    | .ok settings =>
      (match a.action with
        | .showRules => showRules fs settings
        | .validateRules => validateRules fits fs settings
        | .revise => revise fits fs cwd settings (if a.dryRun then .dryRun else .apply)).after
          (settingsLog fs cwd a)

/-- Runs the program on a command line. One that is refused has code 2, as has one that asks for
help. Words are taken to be text, although roots and rule files may be named by any bytes, and the
log to be left to `--verbose`, although the environment may ask for other levels. -/
def run (libraries : Libraries) (fs : FileSystem) (cwd : Location) (words : List String) :
    CommandResult :=
  match Request.ofWords words with
  | .refused => ⟨2, "", [], libraries.refusal words, fs⟩
  | .version => succeed fs versionText
  | .run a => (execute libraries.fits fs cwd a).shown a.verbose

end Command

end Repath
