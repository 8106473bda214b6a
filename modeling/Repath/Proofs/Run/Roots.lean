import Repath.Proofs.Files.Candidates
import Repath.Proofs.Files.Leads
import Repath.Proofs.Run.Visits

namespace Repath.FileSystem

variable {fs : FileSystem} {cwd cwd' l top : Location} {root root' : Path}

/-- An absolute path through directories alone, none of which is a link, without detours. -/
structure IsCanonical (fs : FileSystem) (q : Path) : Prop where
  absolute : q.isAbsolute = true
  plain : Path.dot ∉ q.names ∧ Path.dotDot ∉ q.names
  directories : ∃ l : Location, l.path = q ∧
    ∀ k : Location, k <+: l → ∀ cwd, fs.Names cwd k.path k .dir

theorem isCanonical_path (hfs : fs.WellFormed) (h : fs.get? l = some .dir) :
    fs.IsCanonical l.path := by
  have hproper := hfs.isName h
  refine ⟨Location.isAbsolute_path l, ?_, l, rfl, ?_⟩
  · by_cases hl : l = []
    · rw [hl, Location.names_path_nil]
      decide
    · rw [Location.names_path hl hproper]
      exact ⟨fun hdot => (hproper _ hdot).2.2.2.1 rfl,
        fun hdotDot => (hproper _ hdotDot).2.2.2.2 rfl⟩
  · rintro k ⟨names, rfl⟩ cwd
    have hk : fs.get? k = some .dir := by
      by_cases hnames : names = []
      · rwa [hnames, List.append_nil] at h
      · exact hfs.dir_above h hnames
    exact ⟨locate_path hfs hk cwd (.inl rfl), hk⟩

theorem resolveRoot_path (hfs : fs.WellFormed) (h : fs.get? l = some .dir) (cwd : Location) :
    fs.resolveRoot cwd l.path = .ok l.path :=
  resolveRoot_eq_ok.2 ⟨l, stat_path hfs h cwd (by simp), rfl⟩

theorem attempt_congr (hfs : fs.WellFormed) (h : fs.stat cwd root = .ok (top, .dir))
    (h' : fs.stat cwd' root' = .ok (top, .dir)) (suffix : String) (mode : WriteMode)
    (table : RuleTable) :
    fs.attempt cwd' ⟨root', suffix, mode⟩ table = fs.attempt cwd ⟨root, suffix, mode⟩ table := by
  rw [attempt_ok hfs h, attempt_ok hfs h']

theorem resolveRoot_eq_notDirectory {p : Path} :
    fs.resolveRoot cwd root = .error (.rootNotDirectory p) ↔
      ∃ l entry, fs.stat cwd root = .ok (l, entry) ∧ entry ≠ .dir ∧ l.path = p := by
  rw [resolveRoot_eq_error]
  simp [eq_comm]

theorem resolveRoot_eq_notFound :
    (∃ fault, fs.resolveRoot cwd root = .error (.rootNotFound root fault)) ↔
      ∀ l entry, fs.stat cwd root ≠ .ok (l, entry) := by
  simp only [resolveRoot_eq_error]
  rcases fs.stat cwd root with fault | ⟨l, entry⟩ <;> simp

/-- A root is resolved if it leads to a directory, and then to the one path for that directory,
which is resolved to itself from everywhere; a run goes by the directory alone. A root that leads to
something else is refused under the path for that, and one that leads nowhere under its own. -/
theorem resolveRoot_exact (hfs : fs.WellFormed) (cwd : Location) (root : Path) :
    (∀ q, fs.resolveRoot cwd root = .ok q ↔ ∃ l, fs.Resolves cwd root l .dir ∧ l.path = q) ∧
    (∀ q, fs.resolveRoot cwd root = .ok q → fs.IsCanonical q ∧ ∀ cwd',
      fs.resolveRoot cwd' q = .ok q ∧ ∀ suffix mode table,
        fs.attempt cwd' ⟨q, suffix, mode⟩ table = fs.attempt cwd ⟨root, suffix, mode⟩ table) ∧
    (∀ p, fs.resolveRoot cwd root = .error (.rootNotDirectory p) ↔
      ∃ l entry, fs.Resolves cwd root l entry ∧ entry ≠ .dir ∧ l.path = p) ∧
    ((∃ fault, fs.resolveRoot cwd root = .error (.rootNotFound root fault)) ↔
      ∀ l entry, ¬fs.Resolves cwd root l entry) ∧
    ∀ cwd' root' top, fs.Resolves cwd root top .dir → fs.Resolves cwd' root' top .dir →
      ∀ suffix mode table, fs.attempt cwd' ⟨root', suffix, mode⟩ table =
        fs.attempt cwd ⟨root, suffix, mode⟩ table := by
  simp only [← stat_eq_ok_iff_resolves]
  refine ⟨fun q => resolveRoot_eq_ok, fun q hq => ?_, fun p => resolveRoot_eq_notDirectory,
    resolveRoot_eq_notFound, fun cwd' root' top => attempt_congr hfs⟩
  obtain ⟨l, hstat, rfl⟩ := resolveRoot_eq_ok.1 hq
  have hl := get?_of_stat hstat
  refine ⟨isCanonical_path hfs hl, fun cwd' => ⟨resolveRoot_path hfs hl cwd', ?_⟩⟩
  exact attempt_congr hfs hstat (stat_path hfs hl cwd' (by simp))

/-- By links and detours to a directory, to a file, and nowhere. -/
theorem resolveRoot_exact_maze :
    let src : Location := [Utf8.encode "src".toList]
    maze.resolveRoot [] (.ofString "in/../in//./b.ts/up.ts") = .ok src.path ∧
      maze.IsCanonical src.path ∧ maze.resolveRoot src src.path = .ok src.path ∧
      (∀ suffix mode table, maze.attempt src ⟨.ofString "b.ts/..", suffix, mode⟩ table =
        maze.attempt [] ⟨.ofString "in/../in//./b.ts/up.ts", suffix, mode⟩ table) ∧
      maze.resolveRoot [] (.ofString "a.ts") =
        .error (.rootNotDirectory (.ofString "/src/a.ts")) ∧
      ∃ fault, maze.resolveRoot [] (.ofString "a.ts/..") =
        .error (.rootNotFound (.ofString "a.ts/..") fault) := by
  intro src
  have hroot : maze.Resolves [] (.ofString "in/../in//./b.ts/up.ts") src .dir :=
    stat_eq_ok_iff_resolves.1 rfl
  have hother : maze.Resolves src (.ofString "b.ts/..") src .dir := stat_eq_ok_iff_resolves.1 rfl
  have hfile : maze.Resolves [] (.ofString "a.ts") (src ++ [Utf8.encode "a.ts".toList])
      (.file [] 0o644) := stat_eq_ok_iff_resolves.1 rfl
  obtain ⟨hok, hagain, -, -, hsame⟩ :=
    resolveRoot_exact wellFormed_maze [] (.ofString "in/../in//./b.ts/up.ts")
  obtain ⟨-, -, hnotDirectory, -, -⟩ := resolveRoot_exact wellFormed_maze [] (.ofString "a.ts")
  obtain ⟨-, -, -, hnotFound, -⟩ := resolveRoot_exact wellFormed_maze [] (.ofString "a.ts/..")
  have hsrc := (hok src.path).2 ⟨src, hroot, rfl⟩
  obtain ⟨hcanonical, hrun⟩ := hagain src.path hsrc
  refine ⟨hsrc, hcanonical, (hrun src).1, hsame src _ src hroot hother,
    (hnotDirectory _).2 ⟨_, _, hfile, by simp, by decide⟩, hnotFound.2 fun l entry h => ?_⟩
  have hstat := stat_eq_ok_iff_resolves.2 h
  cases hstat

end Repath.FileSystem
