import Repath.Files.Resolve

namespace Repath

inductive Effect
  | create (l : Location)
  | append (l : Location) (bytes : Bytes)
  | setMode (l : Location) (mode : Nat)
  | rename (source target : Location)
  | unlink (l : Location)
  deriving DecidableEq, Repr

namespace Effect

def privateMode : Nat := 0o600

def apply (fs : FileSystem) : Effect → FileSystem
  | create l => fs.put l (.file [] privateMode)
  | append l bytes =>
    match fs.get? l with
    | some (.file content mode) => fs.put l (.file (content ++ bytes) mode)
    | _ => fs
  | setMode l mode =>
    match fs.get? l with
    | some (.file content _) => fs.put l (.file content mode)
    | _ => fs
  | rename source target =>
    match fs.get? source with
    | some e => (fs.put target e).remove source
    | none => fs
  | unlink l => fs.remove l

end Effect

namespace FileSystem

def applyAll (fs : FileSystem) (effects : List Effect) : FileSystem := effects.foldl Effect.apply fs

def temporaryPrefix : Bytes := Utf8.encode ".relink-".toList

def temporarySuffix : Bytes := Utf8.encode ".tmp".toList

def temporaryNamed (middle : Bytes) : Bytes := temporaryPrefix ++ middle ++ temporarySuffix

def temporaryName (inUse : List Bytes) : Bytes :=
  let longest := inUse.foldl (fun n name => Nat.max n name.length) 0
  temporaryNamed (List.replicate longest 'x'.toUInt8)

def temporaryIn (fs : FileSystem) (above : Location) : Location :=
  above ++ [temporaryName ((fs.children above).map (·.1))]

/-- The effects that put new content beside a file, written in the given pieces. -/
def writing (temporary : Location) (pieces : List Bytes) (mode : Nat) : List Effect :=
  .create temporary :: pieces.map (.append temporary) ++ [.setMode temporary mode]

def replacement (temporary target : Location) (pieces : List Bytes) (mode : Nat) : List Effect :=
  writing temporary pieces mode ++ [.rename temporary target]

/-- The effects if the one behind those done fails: what has been made is removed. -/
def abandoned (temporary : Location) : (done : List Effect) → List Effect
  | [] => []
  | done => done ++ [.unlink temporary]

/-- The mode of the file that a path leads to. What is not a file is not open to writing. -/
def modeOf (fs : FileSystem) (cwd : Location) (p : Path) : Except Fault Nat := do
  match ← fs.stat cwd p with
  | (_, .file _ mode) => return mode
  | _ => throw .isDirectory

def temporaryAt (fs : FileSystem) (cwd : Location) (dir : Path) : Except Fault Location := do
  match ← fs.stat cwd dir with
  | (above, .dir) => return fs.temporaryIn above
  | _ => throw .notDirectory

/-- Where a file comes to stand that is renamed to a path. A link at the end of the path gives way
to the file. -/
def destination (fs : FileSystem) (cwd : Location) (p : Path) : Except Fault Location := do
  match ← fs.locate cwd .keep p with
  | .absent l => return l
  | .present l => if fs.get? l = some .dir then throw .isDirectory else return l

/-- Replaces the file that a path leads to. The path itself is replaced, not what a link at its
end points to, and the new file has the mode of the old one. Where that fails, whatever is left is
given back with the fault. -/
def tryReplace (fs : FileSystem) (cwd : Location) (p : Path) (content : Bytes) :
    Except Fault Unit × FileSystem :=
  match fs.modeOf cwd p with
  | .error fault => (.error fault, fs)
  | .ok mode =>
    match fs.temporaryAt cwd p.parent with
    | .error fault => (.error fault, fs)
    | .ok temporary =>
      let steps := writing temporary [content] mode
      match (fs.applyAll steps).destination cwd p with
      | .error fault => (.error fault, fs.applyAll (abandoned temporary steps))
      | .ok target => (.ok (), fs.applyAll (replacement temporary target [content] mode))

end FileSystem

end Repath
