import Repath.Files.System

namespace Repath

inductive Fault
  | notFound
  | notDirectory
  | isDirectory
  | tooManyLinks
  | notUtf8
  | nulInPath
  deriving DecidableEq, Repr

def Fault.message : Fault → String
  | notFound => "No such file or directory (os error 2)"
  | notDirectory => "Not a directory (os error 20)"
  | isDirectory => "Is a directory (os error 21)"
  | tooManyLinks => "Too many levels of symbolic links (os error 40)"
  | notUtf8 => "stream did not contain valid UTF-8"
  | nulInPath => "file name contained an unexpected NUL byte"

/-- What is to become of the last name of a path. -/
inductive Purpose
  /-- A link is followed. -/
  | follow
  /-- A link is itself what is meant. -/
  | keep
  /-- A link is followed, and the name must not ask for a directory. -/
  | create
  deriving DecidableEq, Repr

inductive Place
  | present (l : Location)
  /-- Only the last name is missing. -/
  | absent (l : Location)
  deriving DecidableEq, Repr

/-- How far a path can be followed without following a link. -/
inductive Progress
  | place (p : Place)
  | fault (f : Fault)
  | link (above : Location) (target : Path) (rest : List Bytes)

namespace FileSystem

def isDot (name : Bytes) : Bool := name == [] || name == Path.dot

def descend (fs : FileSystem) (purpose : Purpose) : Location → List Bytes → Progress
  | l, [] => .place (.present l)
  | l, name :: rest =>
    if isDot name then descend fs purpose l rest
    else if name = Path.dotDot then descend fs purpose l.dropLast rest
    else if purpose = .create ∧ rest = [[]] then .fault .isDirectory
    else
      let inner := l ++ [name]
      match fs.get? inner with
      | none => if rest = [] then .place (.absent inner) else .fault .notFound
      | some .dir => descend fs purpose inner rest
      | some (.file ..) => if rest = [] then .place (.present inner) else .fault .notDirectory
      | some (.link target) =>
        if rest = [] ∧ purpose = .keep then .place (.present inner) else .link l target rest

def maxLinks : Nat := 40

def follow (fs : FileSystem) (purpose : Purpose) :
    (links : Nat) → Location → List Bytes → Except Fault Place
  | links, l, names =>
    match fs.descend purpose l names, links with
    | .place p, _ => .ok p
    | .fault f, _ => .error f
    | .link .., 0 => .error .tooManyLinks
    | .link above target rest, links + 1 =>
      if target.isEmpty then .error .notFound
      else
        follow fs purpose links (if target.isAbsolute then [] else above) (target.names ++ rest)
  termination_by structural links => links

def locate (fs : FileSystem) (cwd : Location) (purpose : Purpose) (p : Path) :
    Except Fault Place :=
  if 0 ∈ p.bytes then .error .nulInPath
  else if p.isEmpty then .error .notFound
  else fs.follow purpose maxLinks (if p.isAbsolute then [] else cwd) p.names

def stat (fs : FileSystem) (cwd : Location) (p : Path) : Except Fault (Location × Entry) := do
  match ← fs.locate cwd .follow p with
  | .absent _ => throw .notFound
  | .present l =>
    match fs.get? l with
    | some e => return (l, e)
    | none => throw .notFound

def pathExists (fs : FileSystem) (cwd : Location) (p : Path) : Bool :=
  match fs.stat cwd p with
  | .ok _ => true
  | .error _ => false

def isFile (fs : FileSystem) (cwd : Location) (p : Path) : Bool :=
  match fs.stat cwd p with
  | .ok (_, .file ..) => true
  | _ => false

def readBytes (fs : FileSystem) (cwd : Location) (p : Path) : Except Fault Bytes := do
  match ← fs.stat cwd p with
  | (_, .file content _) => return content
  | (_, .dir) => throw .isDirectory
  | (_, .link _) => throw .tooManyLinks

def readText (fs : FileSystem) (cwd : Location) (p : Path) : Except Fault String := do
  match Utf8.decode? (← fs.readBytes cwd p) with
  | some cs => return String.ofList cs
  | none => throw .notUtf8

/-- Writes a file in place: the file that a path leads to keeps its mode, and a missing one is
made. -/
def writeInPlace (fs : FileSystem) (cwd : Location) (p : Path) (content : Bytes) :
    Except Fault FileSystem := do
  match ← fs.locate cwd .create p with
  | .absent l => return fs.put l (.file content 0o644)
  | .present l =>
    match fs.get? l with
    | some (.file _ mode) => return fs.put l (.file content mode)
    | _ => throw .isDirectory

end FileSystem

end Repath
