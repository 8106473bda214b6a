import Repath.Command.Basic

namespace Repath.Disk

def osPath (l : Location) : String := l.path.display

def locationOf (p : String) : Location := (Path.ofString p).names.filter (!·.isEmpty)

def entry? (l : Location) : IO (Option Entry) := do
  let here : IO.FS.DirEntry := ⟨osPath l.dropLast, (l.getLast?.map (⟨·⟩ : Bytes → Path)).getD ⟨[]⟩
    |>.display⟩
  let .ok found ← here.path.symlinkMetadata.toBaseIO | return none
  match found.type with
  | .dir => return some .dir
  | .file => return some (.file (← IO.FS.readBinFile (osPath l)).toList 0o644)
  | .symlink =>
    match ← (IO.FS.realPath (osPath l)).toBaseIO with
    | .ok target => return some (.link (.ofString target.toString))
    | .error _ => return some (.link ⟨[]⟩)
  | .other => return none

partial def along (fs : FileSystem) (l : Location) : List Bytes → IO FileSystem
  | [] => return fs
  | name :: rest => do
    if FileSystem.isDot name then along fs l rest
    else if name = Path.dotDot then along fs l.dropLast rest
    else
      let inner := l ++ [name]
      let some e ← entry? inner | return fs
      let fs := fs.put inner e
      match e with
      | .dir => along fs inner rest
      | .link target => if target.isEmpty then return fs else along fs [] (target.names ++ rest)
      | .file .. => return fs

def alongPath (fs : FileSystem) (cwd : Location) (p : Path) : IO FileSystem :=
  along fs (if p.isAbsolute then [] else cwd) p.names

partial def below (l : Location) : IO (List (Location × Entry)) := do
  let mut entries := []
  for child in ← (← IO.FS.realPath (osPath l)).readDir do
    let inner := l ++ [Utf8.encode child.fileName.toList]
    if let some e ← entry? inner then
      entries := (inner, e) :: entries
      if e = .dir then entries := (← below inner) ++ entries
  return entries

/-- The part of the disk that a command works on: the rule file, and for a run the tree below the
root that it names. -/
def reach (cwd : Location) (a : Arguments) : IO FileSystem := do
  let ruleFile := (a.ruleFile.map Path.ofString).getD (.ofString RuleFile.conventionalName)
  let fs ← alongPath (← along .empty [] cwd) cwd (.ofString RuleFile.conventionalName)
  let fs ← alongPath fs cwd ruleFile
  match a.action, Command.settings fs cwd a with
  | .revise, .ok settings =>
    let fs ← alongPath fs cwd settings.root
    match fs.stat cwd settings.root with
    | .ok (l, .dir) =>
      let found ← below l
      return ⟨fs.entries ++ found.filter fun (l, _) => (fs.get? l).isNone⟩
    | _ => return fs
  | _, _ => return fs

/-- A rough stand-in for the size of a compiled pattern: 32 bytes for each instruction. -/
def fits (text : String) : Bool :=
  match Syntax.read text.toList with
  | .error _ => true
  | .ok (body, _) =>
    match body.resolve .initial with
    | .error _ => true
    | .ok (pattern, _) => 32 * pattern.size ≤ Regex.sizeLimit

def libraries : Libraries := ⟨fits, fun _ => "Usage: relink [OPTIONS] [COMMAND]\n"⟩

def outcomeText : Outcome → String
  | .changed => "Changed"
  | .unchanged => "Unchanged"
  | .failed reason => "Failed: " ++ reason

def eventText : Event → String
  | .ruleFileLoaded path rules =>
    "DEBUG loaded rule file path=" ++ path.display ++ " rules=" ++ toString rules
  | .runStarted root extension rules dryRun =>
    " INFO starting run root=" ++ root.display ++ " extension=" ++ extension ++ " rules="
      ++ toString rules ++ " dry_run=" ++ toString dryRun
  | .fileSkipped path reason => " WARN skipping file path=" ++ path.display ++ " error=" ++ reason
  | .fileVisited path outcome =>
    "DEBUG visited path=" ++ path.display ++ " outcome=" ++ outcomeText outcome
  | .runCompleted total changed failed =>
    " INFO run complete total=" ++ toString total ++ " changed=" ++ toString changed
      ++ " failed=" ++ toString failed

def update (before after : FileSystem) : IO Unit := do
  for (l, e) in after.entries do
    if let .file content _ := e then
      if before.get? l != some e then IO.FS.writeBinFile (osPath l) content.toByteArray

end Repath.Disk

open Repath

def main (words : List String) : IO UInt32 := do
  let cwd := Disk.locationOf (← IO.currentDir).toString
  let before ← match Request.ofWords words with
    | .run a => Disk.reach cwd a
    | _ => pure .empty
  let r := Command.run Disk.libraries before cwd words
  Disk.update before r.files
  IO.print r.stdout
  for e in r.log do IO.eprintln (Disk.eventText e)
  IO.eprint r.message
  return r.code.toUInt32
