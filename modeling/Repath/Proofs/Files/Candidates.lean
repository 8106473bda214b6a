import Repath.Proofs.Files.Following
import Repath.Proofs.Files.Walk

namespace Repath.FileSystem

variable {fs : FileSystem} {cwd top l k : Location} {root target : Path} {suffix : String}

theorem visitCandidates_of_dir {σ : Type} (files : σ → FileSystem) (visit : σ → Path → σ)
    {s : σ} (hs : files s = fs) (hroot : fs.stat cwd root = .ok (top, .dir)) (suffix : String) :
    visitCandidates files visit suffix cwd root s =
      (visitBelow files visit suffix (fs.depth + 1) top root s, none) := by
  obtain ⟨hfollow, htop⟩ := stat_eq_ok.1 hroot
  rw [visitCandidates, hs]
  obtain heq | ⟨l, target, hlocate, hl⟩ := fs.locate_follow cwd root
  · simp only [← heq, hfollow, htop]
  · simp only [hlocate, hl, hroot]

theorem candidates_of_dir (hroot : fs.stat cwd root = .ok (top, .dir)) (suffix : String) :
    fs.candidates cwd root suffix =
      .ok ((fs.waysBelow suffix (fs.depth + 1) top).map root.extend) := by
  have hbelow : visitBelow (fun _ => fs) (fun found p => p :: found) suffix (fs.depth + 1) top root
      [] = (fs.waysBelow suffix (fs.depth + 1) top).foldl
        (fun found names => root.extend names :: found) [] :=
    (visitBelow_eq rfl fun _ _ _ _ => rfl).1
  have hreverse : ∀ (ways : List (List Bytes)) (found : List Path),
      ways.foldl (fun found names => root.extend names :: found) found =
        (ways.map root.extend).reverse ++ found := by
    intro ways
    induction ways with
    | nil => exact fun _ => rfl
    | cons names ways ih =>
      intro found
      rw [List.foldl_cons, ih]
      simp
  rw [candidates, visitCandidates_of_dir _ _ rfl hroot, hbelow, hreverse]
  simp

theorem nodup_candidates (hfs : fs.WellFormed) (hroot : fs.stat cwd root = .ok (top, .dir))
    (suffix : String) (depth : Nat) :
    ((fs.waysBelow suffix depth top).map root.extend).Nodup := by
  have hempty : root.isEmpty = false := (locate_eq_ok.1 (stat_eq_ok.1 hroot).1).2.1
  have hway : ∀ names ∈ fs.waysBelow suffix depth top, names ≠ [] ∧ ∀ name ∈ names, IsName name := by
    intro names hnames
    obtain ⟨-, ⟨content, mode, hfile⟩, last, hlast, -⟩ := (mem_waysBelow hfs).1 hnames
    refine ⟨?_, fun name hname => hfs.isName hfile name (by simp [hname])⟩
    rintro rfl
    cases hlast
  refine (nodup_waysBelow hfs depth top).map_on fun names hnames names' hnames' heq => ?_
  obtain ⟨hne, hproper⟩ := hway names hnames
  obtain ⟨hne', hproper'⟩ := hway names' hnames'
  exact Path.extend_inj hempty hproper hproper' hne hne' heq

theorem candidates_of_file (hfs : fs.WellFormed) (hcwd : fs.get? cwd = some .dir) {content : Bytes}
    {mode : Nat} (h : fs.Names cwd root l (.file content mode)) (suffix : String) :
    ∃ name, l.getLast? = some name ∧
      fs.candidates cwd root suffix = .ok (if hasSuffix suffix name then [root] else []) := by
  obtain ⟨name, hlast, hname⟩ := h.fileName hfs hcwd
  refine ⟨name, hlast, ?_⟩
  simp only [candidates, visitCandidates, h.1, h.2, hname, Option.getD_some]
  split <;> rfl

theorem candidates_of_link (h : fs.Names cwd root l (.link target)) {content : Bytes} {mode : Nat}
    (hroot : fs.stat cwd root = .ok (k, .file content mode)) (suffix : String) :
    fs.candidates cwd root suffix = .ok [] := by
  simp only [candidates, visitCandidates, h.1, h.2, hroot]
  rfl

theorem candidates_of_fault {fault : Fault} (hroot : fs.stat cwd root = .error fault)
    (suffix : String) : fs.candidates cwd root suffix = .error (.walk root fault) := by
  obtain heq | ⟨l, target, hlocate, hl⟩ := fs.locate_follow cwd root
  · rw [stat, heq] at hroot
    cases hplace : fs.locate cwd .keep root with
    | error f =>
      rw [hplace] at hroot
      cases hroot
      simp only [candidates, visitCandidates, hplace]
    | ok place =>
      rw [hplace] at hroot
      cases place with
      | absent l =>
        cases hroot
        simp only [candidates, visitCandidates, hplace]
      | present l =>
        simp only [bind, Except.bind] at hroot
        cases hl : fs.get? l with
        | none =>
          rw [hl] at hroot
          cases hroot
          simp only [candidates, visitCandidates, hplace, hl]
        | some e =>
          rw [hl] at hroot
          cases hroot
  · simp only [candidates, visitCandidates, hlocate, hl, hroot]

/-- Below a directory that the root leads to, the walk yields the candidates, each once and under a
path that names it, made of the root as it was given and the names on the way down. A root that is a
file itself is all that can be yielded, one that is a link to a file yields nothing, and one
that leads nowhere is an error. -/
theorem candidates_exact (hfs : fs.WellFormed) (hcwd : fs.get? cwd = some .dir) (root : Path)
    (suffix : String) :
    (∀ top, fs.stat cwd root = .ok (top, .dir) → ∃ ways : List (List Bytes),
      fs.candidates cwd root suffix = .ok (ways.map root.extend) ∧ (ways.map root.extend).Nodup ∧
      (∀ names, names ∈ ways ↔ fs.IsCandidate suffix top (top ++ names)) ∧
      ∀ names ∈ ways, ∃ content mode,
        fs.Names cwd (root.extend names) (top ++ names) (.file content mode)) ∧
    (∀ l content mode, fs.Names cwd root l (.file content mode) → ∃ name, l.getLast? = some name ∧
      fs.candidates cwd root suffix = .ok (if hasSuffix suffix name then [root] else [])) ∧
    (∀ l target k content mode, fs.Names cwd root l (.link target) →
      fs.stat cwd root = .ok (k, .file content mode) → fs.candidates cwd root suffix = .ok []) ∧
    ∀ fault, fs.stat cwd root = .error fault →
      fs.candidates cwd root suffix = .error (.walk root fault) := by
  refine ⟨fun top hroot => ?_, fun l content mode h => candidates_of_file hfs hcwd h suffix,
    fun l target k content mode h hroot => candidates_of_link h hroot suffix,
    fun fault hroot => candidates_of_fault hroot suffix⟩
  have hmem : ∀ names, names ∈ fs.waysBelow suffix (fs.depth + 1) top ↔
      fs.IsCandidate suffix top (top ++ names) := by
    intro names
    rw [← mem_candidatesBelow hfs, candidatesBelow, List.mem_map_of_injective]
    exact List.append_right_injective top
  refine ⟨_, candidates_of_dir hroot suffix, nodup_candidates hfs hroot suffix _, hmem, ?_⟩
  intro names hnames
  obtain ⟨-, ⟨content, mode, hfile⟩, last, hlast, -⟩ := (mem_waysBelow hfs).1 hnames
  refine ⟨content, mode, names_extend hfs hroot hfile ?_⟩
  rintro rfl
  cases hlast

/-- A directory with a candidate, a directory that is named like one and leads back by a link, and
links to the directory, to the candidate and to nothing. -/
def maze : FileSystem :=
  let name (s : String) : Bytes := Utf8.encode s.toList
  ⟨[([name "src"], .dir),
    ([name "src", name "a.ts"], .file [] 0o644),
    ([name "src", name "b.ts"], .dir),
    ([name "src", name "b.ts", name "c.ts"], .file [] 0o600),
    ([name "src", name "b.ts", name "up.ts"], .link (.ofString "..")),
    ([name "in"], .link (.ofString "src")),
    ([name "a.ts"], .link (.ofString "in/a.ts")),
    ([name "out"], .link (.ofString "nowhere"))]⟩

theorem wellFormed_maze : maze.WellFormed where
  nodup := by decide
  nonempty := by decide
  names := by decide
  parents := by decide

theorem candidates_exact_maze :
    let src := Utf8.encode "src".toList
    maze.stat [] (.ofString "in/") = .ok ([src], .dir) ∧
    (∃ ways : List (List Bytes),
      maze.candidates [] (.ofString "in/") ".ts" = .ok (ways.map (Path.ofString "in/").extend) ∧
      ∀ names, names ∈ ways ↔ maze.IsCandidate ".ts" [src] ([src] ++ names)) ∧
    maze.candidates [] (.ofString "a.ts") ".ts" = .ok [] ∧
    maze.candidates [] (.ofString "out") ".ts" = .error (.walk (.ofString "out") .notFound) := by
  intro src
  have hcwd : maze.get? [] = some .dir := rfl
  have hroot : maze.stat [] (.ofString "in/") = .ok ([src], .dir) := rfl
  have hlink : maze.Names [] (.ofString "a.ts") [Utf8.encode "a.ts".toList]
      (.link (.ofString "in/a.ts")) := ⟨rfl, rfl⟩
  have hfile : maze.stat [] (.ofString "a.ts") =
      .ok ([src, Utf8.encode "a.ts".toList], .file [] 0o644) := rfl
  have hfault : maze.stat [] (.ofString "out") = .error .notFound := rfl
  obtain ⟨hbelow, -, -, -⟩ := candidates_exact wellFormed_maze hcwd (.ofString "in/") ".ts"
  obtain ⟨-, -, hlinks, -⟩ := candidates_exact wellFormed_maze hcwd (.ofString "a.ts") ".ts"
  obtain ⟨-, -, -, hfaults⟩ := candidates_exact wellFormed_maze hcwd (.ofString "out") ".ts"
  obtain ⟨ways, hways, -, hmem, -⟩ := hbelow [src] hroot
  exact ⟨hroot, ⟨ways, hways, hmem⟩, hlinks _ _ _ _ _ hlink hfile, hfaults _ hfault⟩

/-- The walk goes in through the link at its root and through no other. -/
example : maze.candidates [] (.ofString "in") ".ts" =
    .ok [.ofString "in/a.ts", .ofString "in/b.ts/c.ts"] := by
  decide +kernel

end Repath.FileSystem
