import Repath.Text.Utf8

namespace Repath

structure Path where
  bytes : Bytes
  deriving DecidableEq, Repr, Inhabited

namespace Path

def slash : UInt8 := '/'.toUInt8

def dot : Bytes := ['.'.toUInt8]

def dotDot : Bytes := ['.'.toUInt8, '.'.toUInt8]

def ofString (s : String) : Path := ⟨Utf8.encode s.toList⟩

def display (p : Path) : String := String.ofList (Utf8.lossy p.bytes)

def isEmpty (p : Path) : Bool := p.bytes.isEmpty

def isAbsolute (p : Path) : Bool := p.bytes.head? == some slash

/-- The path of something inside a directory; an absolute path stands for itself. -/
def join (dir p : Path) : Path :=
  if p.isAbsolute || dir.isEmpty then p
  else if dir.bytes.getLast? == some slash then ⟨dir.bytes ++ p.bytes⟩
  else ⟨dir.bytes ++ slash :: p.bytes⟩

/-- The pieces between slashes, held in reverse in `piece` while one is being read. -/
def splitSlashes : (piece : Bytes) → Bytes → List Bytes
  | piece, [] => [piece.reverse]
  | piece, b :: bs => if b = slash then piece.reverse :: splitSlashes [] bs
    else splitSlashes (b :: piece) bs

/-- The names on the way, empty ones left out; an empty one at the end stays, since a slash there
asks for a directory. -/
def names (p : Path) : List Bytes :=
  let pieces := splitSlashes [] p.bytes
  pieces.dropLast.filter (!·.isEmpty) ++ [pieces.getLast?.getD []]

/-- The last name of a path, if it has one that names something. -/
def fileName (p : Path) : Option Bytes :=
  (p.names.filter fun name => !name.isEmpty && name != dot).getLast?.bind fun name =>
    if name = dotDot then none else some name

/-- The path of the directory in which the last name of a path stands: what is written in front of the
name, but for the slashes and dots just before it. Nothing in front means the current directory. -/
def parent (p : Path) : Path :=
  let isIdle (piece : Bytes) : Bool := piece.isEmpty || piece == dot
  match (splitSlashes [] p.bytes).reverse.dropWhile isIdle with
  | [] => ⟨dot⟩
  | _ :: above =>
    match above.dropWhile isIdle with
    | [] => if p.isAbsolute then ⟨[slash]⟩ else ⟨dot⟩
    | pieces => ⟨[slash].intercalate pieces.reverse⟩

def relativeTo (root p : Path) : Path :=
  if root.bytes.isPrefixOf p.bytes then
    match p.bytes.drop root.bytes.length with
    | b :: rest =>
      if b = slash then ⟨rest⟩ else if root.bytes.getLast? == some slash then ⟨b :: rest⟩ else p
    | [] => ⟨[]⟩
  else p

end Path

end Repath
