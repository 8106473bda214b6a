import Repath.Error

namespace Repath

/-- The suffix is looked for in the name as text, with U+FFFD for what is not. -/
def hasSuffix (suffix : String) (name : Bytes) : Bool := suffix.toList.isSuffixOf (Utf8.lossy name)

namespace FileSystem

/-- Visits the candidates below the directory at a location. Every directory is read when it is
opened, from the file system as the visits so far have left it. -/
def visitBelow {σ : Type} (files : σ → FileSystem) (visit : σ → Path → σ) (suffix : String) :
    (depth : Nat) → Location → Path → σ → σ
  | 0, _, _, s => s
  | depth + 1, l, path, s =>
    ((files s).children l).foldl (fun s (name, e) =>
      match e with
      | .dir => visitBelow files visit suffix depth (l ++ [name]) (path.join ⟨name⟩) s
      | .file .. => if hasSuffix suffix name then visit s (path.join ⟨name⟩) else s
      | .link _ => s) s

/-- Visits the candidates that a root leads to. A root that is itself a file can be one. Where the
walk fails, what the visits so far have come to is given back with the error. -/
def visitCandidates {σ : Type} (files : σ → FileSystem) (visit : σ → Path → σ) (suffix : String)
    (cwd : Location) (root : Path) (s : σ) : σ × Option Error :=
  let fs := files s
  match fs.locate cwd .keep root with
  | .error fault => (s, some (.walk root fault))
  | .ok (.absent _) => (s, some (.walk root .notFound))
  | .ok (.present l) =>
    match fs.get? l with
    | none => (s, some (.walk root .notFound))
    | some .dir => (visitBelow files visit suffix (fs.depth + 1) l root s, none)
    | some (.file ..) =>
      (if hasSuffix suffix (root.fileName.getD root.bytes) then visit s root else s, none)
    | some (.link _) =>
      match fs.stat cwd root with
      | .error fault => (s, some (.walk root fault))
      | .ok (l, .dir) => (visitBelow files visit suffix (fs.depth + 1) l root s, none)
      | .ok _ => (s, none)

def candidates (fs : FileSystem) (cwd : Location) (root : Path) (suffix : String) :
    Except Error (List Path) :=
  match visitCandidates (fun _ => fs) (fun found p => p :: found) suffix cwd root [] with
  | (found, none) => .ok found.reverse
  | (_, some e) => .error e

end FileSystem

end Repath
