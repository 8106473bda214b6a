import Repath.Proofs.Files.Following
import Repath.Proofs.Files.Walk

namespace Repath.FileSystem

variable {fs fs' : FileSystem} {l top : Location} {suffix : String}

theorem WellFormed.get?_perm (hfs : fs.WellFormed) (h : fs'.entries.Perm fs.entries)
    (l : Location) : fs'.get? l = fs.get? l := by
  rw [get?, get?, lookup_perm h hfs.nodup]

theorem WellFormed.of_perm (hfs : fs.WellFormed) (h : fs'.entries.Perm fs.entries) :
    fs'.WellFormed where
  nodup := (h.map (·.1)).nodup_iff.2 hfs.nodup
  nonempty := fun entry hentry => hfs.nonempty entry (h.mem_iff.1 hentry)
  names := fun entry hentry => hfs.names entry (h.mem_iff.1 hentry)
  parents := fun entry hentry => by
    rw [hfs.get?_perm h]
    exact hfs.parents entry (h.mem_iff.1 hentry)

/-- Two file systems have the same directories and the same links, and files in the same places. -/
def Alike (fs fs' : FileSystem) : Prop :=
  ∀ l, (fs'.get? l).map Entry.outline = (fs.get? l).map Entry.outline

theorem Alike.of_get? (h : ∀ l, fs'.get? l = fs.get? l) : Alike fs fs' := fun l => by rw [h]

theorem Alike.of_outline (h : fs'.outline = fs.outline) : Alike fs fs' := by
  have hget : ∀ (fs : FileSystem) (l : Location),
      fs.outline.get? l = (fs.get? l).map Entry.outline := by
    intro fs l
    by_cases hl : l = []
    · subst hl
      rfl
    · exact get?_mapEntries hl
  intro l
  rw [← hget fs', h, hget]

theorem Alike.trans {fs'' : FileSystem} (h : Alike fs fs') (h' : Alike fs' fs'') :
    Alike fs fs'' := fun l => (h' l).trans (h l)

theorem Alike.files_or_eq (h : Alike fs fs') (l : Location) :
    (∃ content mode content' mode', fs.get? l = some (.file content mode) ∧
      fs'.get? l = some (.file content' mode')) ∨ fs'.get? l = fs.get? l := by
  have hl := h l
  rcases he : fs.get? l with _ | ⟨content, mode⟩ | _ | target <;>
    rcases he' : fs'.get? l with _ | ⟨content', mode'⟩ | _ | target' <;>
    simp_all [Entry.outline]

theorem Alike.dir (h : Alike fs fs') : fs'.get? l = some .dir ↔ fs.get? l = some .dir := by
  obtain ⟨content, mode, content', mode', hfile, hfile'⟩ | heq := h.files_or_eq l
  · simp [hfile, hfile']
  · rw [heq]

theorem Alike.file (h : Alike fs fs') : (∃ content mode, fs'.get? l = some (.file content mode)) ↔
    ∃ content mode, fs.get? l = some (.file content mode) := by
  obtain ⟨content, mode, content', mode', hfile, hfile'⟩ | heq := h.files_or_eq l
  · simp [hfile, hfile']
  · rw [heq]

theorem Alike.descend (h : Alike fs fs') (purpose : Purpose) (l : Location) (names : List Bytes) :
    fs'.descend purpose l names = fs.descend purpose l names := by
  induction names generalizing l with
  | nil => rfl
  | cons name rest ih =>
    obtain ⟨content, mode, content', mode', hfile, hfile'⟩ | heq := h.files_or_eq (l ++ [name])
    · simp only [FileSystem.descend, hfile, hfile', ih]
    · simp only [FileSystem.descend, heq, ih]

theorem Alike.follow (h : Alike fs fs') (purpose : Purpose) (links : Nat) (l : Location)
    (names : List Bytes) : fs'.follow purpose links l names = fs.follow purpose links l names := by
  induction links using Nat.strongRecOn generalizing l names with | ind links ih => ?_
  apply follow_of_step (h.descend purpose l names)
  intro n above target rest hn _ _
  subst hn
  exact ih n (Nat.lt_succ_self n) _ _

theorem Alike.locate (h : Alike fs fs') (cwd : Location) (purpose : Purpose) (p : Path) :
    fs'.locate cwd purpose p = fs.locate cwd purpose p := by
  simp only [FileSystem.locate, h.follow]

theorem Alike.stat (h : Alike fs fs') (cwd : Location) (p : Path) :
    (∃ l content mode content' mode', fs.stat cwd p = .ok (l, .file content mode) ∧
      fs'.stat cwd p = .ok (l, .file content' mode')) ∨ fs'.stat cwd p = fs.stat cwd p := by
  rw [FileSystem.stat, FileSystem.stat, h.locate]
  rcases fs.locate cwd .follow p with fault | l | l
  · exact .inr rfl
  · obtain ⟨content, mode, content', mode', hfile, hfile'⟩ | heq := h.files_or_eq l
    · exact .inl ⟨l, content, mode, content', mode', by simp only [hfile, bind, Except.bind]; rfl,
        by simp only [hfile', bind, Except.bind]; rfl⟩
    · exact .inr (by simp only [bind, Except.bind, heq])
  · exact .inr rfl

theorem Alike.stat_dir (h : Alike fs fs') {cwd : Location} {p : Path} :
    fs'.stat cwd p = .ok (l, .dir) ↔ fs.stat cwd p = .ok (l, .dir) := by
  obtain ⟨k, content, mode, content', mode', hfile, hfile'⟩ | heq := h.stat cwd p
  · simp [hfile, hfile']
  · rw [heq]

theorem Alike.isCandidate (h : Alike fs fs') :
    fs'.IsCandidate suffix top l ↔ fs.IsCandidate suffix top l := by
  constructor
  · rintro ⟨hbelow, hproper, hthrough, hfile, hsuffix⟩
    simp only [h.dir, h.file] at hthrough hfile
    exact ⟨hbelow, hproper, hthrough, hfile, hsuffix⟩
  · rintro ⟨hbelow, hproper, hthrough, hfile, hsuffix⟩
    simp only [← h.dir, ← h.file] at hthrough hfile
    exact ⟨hbelow, hproper, hthrough, hfile, hsuffix⟩

theorem Alike.candidatesBelow_perm (h : Alike fs fs') (hfs : fs.WellFormed) (hfs' : fs'.WellFormed)
    (suffix : String) (top : Location) :
    (fs'.candidatesBelow suffix top).Perm (fs.candidatesBelow suffix top) := by
  refine (List.perm_ext_iff_of_nodup (nodup_candidatesBelow hfs' suffix top)
    (nodup_candidatesBelow hfs suffix top)).2 fun l => ?_
  rw [mem_candidatesBelow hfs', mem_candidatesBelow hfs, h.isCandidate]

end Repath.FileSystem
