import Repath.Config.Settings

namespace Repath

inductive Action
  | revise
  | showRules
  | validateRules
  deriving DecidableEq, Repr

structure Arguments where
  root : Option String
  extension : Option String
  ruleFile : Option String
  dryRun : Bool
  init : Bool
  force : Bool
  verbose : Bool
  action : Action
  deriving DecidableEq, Repr

inductive Request
  | refused
  | version
  | run (args : Arguments)
  deriving DecidableEq, Repr

namespace Arguments

def initial : Arguments := ⟨none, none, none, false, false, false, false, .revise⟩

inductive Flag
  | root | extension | ruleFile | dryRun | init | force | verbose
  deriving DecidableEq, Repr

inductive Level
  | top
  | rules
  | leaf
  deriving DecidableEq, Repr

/-- The long option of a name. Some are known at the top only. -/
def flag? (level : Level) (name : String) : Option Flag :=
  match name with
  | "root" => some .root
  | "ext" => some .extension
  | "rules" => some .ruleFile
  | "verbose" => some .verbose
  | "dry-run" => if level = .top then some .dryRun else none
  | "init" => if level = .top then some .init else none
  | "force" => if level = .top then some .force else none
  | _ => none

def Flag.takesValue : Flag → Bool
  | root | extension | ruleFile => true
  | _ => false

def set (a : Arguments) (value : String) : Flag → Arguments
  | .root => { a with root := some value }
  | .extension => { a with extension := some value }
  | .ruleFile => { a with ruleFile := some value }
  | .dryRun => { a with dryRun := true }
  | .init => { a with init := true }
  | .force => { a with force := true }
  | .verbose => { a with verbose := true }

def subcommand? (level : Level) (name : String) : Option (Level × Action) :=
  match level, name with
  | .top, "rules" => some (.rules, .revise)
  | .rules, "show" => some (.leaf, .showRules)
  | .rules, "validate" => some (.leaf, .validateRules)
  | _, _ => none

/-- A word that cannot be the value of an option before it. -/
def looksLikeOption (word : String) : Bool :=
  match word.toList with
  | '-' :: _ :: _ => true
  | _ => false

/-- A bundle of short options, which can ask for more to be told or for the version: the options
given with it, and whether the version was asked for. -/
def bundle (level : Level) : (given : List Flag) → List Char → Option (List Flag × Bool)
  | given, [] => some (given, false)
  | given, 'v' :: rest =>
    if given.contains .verbose then none else bundle level (.verbose :: given) rest
  | given, 'V' :: _ => if level = .top then some (given, true) else none
  | _, _ => none

def splitValue (cs : List Char) : String × Option String :=
  match cs.dropWhile (· ≠ '=') with
  | '=' :: value => (String.ofList (cs.takeWhile (· ≠ '=')), some (String.ofList value))
  | _ => (String.ofList cs, none)

/-- Takes a command line word by word. `given` holds the options seen since the last subcommand,
each of which may be given once. -/
def read (level : Level) (given : List Flag) (a : Arguments) : List String → Request
  | [] => if level = .rules ∨ (a.force ∧ !a.init) then .refused else .run a
  | word :: rest =>
    match word.toList with
    | ['-', '-'] =>
      if rest.isEmpty ∧ level ≠ .rules ∧ (!a.force ∨ a.init) then .run a else .refused
    | '-' :: '-' :: option =>
      let (name, attached) := splitValue option
      match flag? level name with
      | none => if level = .top ∧ name = "version" ∧ attached.isNone then .version else .refused
      | some flag =>
        if given.contains flag then .refused
        else if flag.takesValue then
          match attached, rest with
          | some value, rest =>
            if value.isEmpty then .refused else read level (flag :: given) (a.set value flag) rest
          | none, value :: rest =>
            if value.isEmpty || looksLikeOption value then .refused
            else read level (flag :: given) (a.set value flag) rest
          | none, [] => .refused
        else if attached.isSome then .refused
        else read level (flag :: given) (a.set "" flag) rest
    | '-' :: c :: cs =>
      match bundle level given (c :: cs) with
      | none => .refused
      | some (_, true) => .version
      -- No other short option is left that a bundle could have set.
      | some (given, false) => read level given (a.set "" .verbose) rest
    | _ =>
      match subcommand? level word with
      | some (level, action) => read level [] { a with action } rest
      | none => .refused

end Arguments

def Request.ofWords (words : List String) : Request := Arguments.read .top [] .initial words

end Repath
