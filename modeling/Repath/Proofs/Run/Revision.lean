import Repath.Proofs.Run.Visits
import Repath.Proofs.BuiltIn.Table

namespace Repath.FileSystem

variable {fs fs' : FileSystem} {l top cwd : Location} {suffix : String} {table : RuleTable}

/-- The text of every candidate below a directory is revised where it stands. -/
structure Revises (fs fs' : FileSystem) (suffix : String) (top : Location) (table : RuleTable) :
    Prop where
  /-- No location is added or removed. -/
  places : ∀ l, (fs'.get? l).isSome = (fs.get? l).isSome
  /-- A candidate that holds a text holds the revised text, and has kept its mode. -/
  texts : ∀ l cs mode, fs.IsCandidate suffix top l →
    fs.get? l = some (.file (Utf8.encode cs) mode) →
    fs'.get? l = some (.file (Utf8.encode (table.apply (String.ofList cs)).toList) mode)
  /-- Everything else is as it was. -/
  others : ∀ l, ¬(fs.IsCandidate suffix top l ∧
    ∃ cs mode, fs.get? l = some (.file (Utf8.encode cs) mode)) → fs'.get? l = fs.get? l

theorem reviseContent_of_not_text {content : Bytes} (h : ∀ cs, content ≠ Utf8.encode cs) :
    table.reviseContent content = content := by
  cases hdecode : Utf8.decode? content with
  | none => rw [RuleTable.reviseContent, hdecode]
  | some cs => exact absurd (Utf8.decode?_eq_some_iff.1 hdecode) (h cs)

theorem revises_revised (hfs : fs.WellFormed) (suffix : String) (top : Location)
    (table : RuleTable) :
    fs.Revises (fs.revised table (fs.candidatesBelow suffix top)) suffix top table := by
  refine ⟨fun l => ?_, fun l cs mode hl h => ?_, fun l h => ?_⟩
  · rw [get?_revised, Option.isSome_map]
  · rw [get?_revised_of_mem table h ((mem_candidatesBelow hfs).2 hl), RuleTable.reviseContent_encode]
  · by_cases hmem : l ∈ fs.candidatesBelow suffix top
    · have hcandidate := (mem_candidatesBelow hfs).1 hmem
      obtain ⟨content, mode, hfile⟩ := hcandidate.file
      have htext : ∀ cs, content ≠ Utf8.encode cs := by
        rintro cs rfl
        exact h ⟨hcandidate, cs, mode, hfile⟩
      rw [get?_revised_of_mem table hfile hmem, hfile, reviseContent_of_not_text htext]
    · exact get?_revised_of_notMem hmem

theorem get?_revised_perm (hfs : fs.WellFormed) (h : fs'.entries.Perm fs.entries) (l : Location) :
    (fs'.revised table (fs'.candidatesBelow suffix top)).get? l =
      (fs.revised table (fs.candidatesBelow suffix top)).get? l := by
  have hget := hfs.get?_perm h
  exact get?_revised_congr table hget (fun _ =>
    ((Alike.of_get? hget).candidatesBelow_perm hfs (hfs.of_perm h) suffix top).mem_iff) l

/-- A run that comes to an end has revised the text of every candidate and nothing else; one that
does not has done nothing. The order in which directories are read makes no difference. -/
theorem attempt_apply (hfs : fs.WellFormed) (hperm : fs'.entries.Perm fs.entries) (cwd : Location)
    (root : Path) (suffix : String) (table : RuleTable) :
    match fs.attempt cwd ⟨root, suffix, .apply⟩ table with
    | (r, none) => ∃ top, fs.stat cwd root = .ok (top, .dir) ∧
        fs.Revises r.files suffix top table ∧
        ∃ r', fs'.attempt cwd ⟨root, suffix, .apply⟩ table = (r', none) ∧
          ∀ l, r'.files.get? l = r.files.get? l
    | (r, some e) => r.files = fs ∧ r.reports = [] ∧
        ∃ r', fs'.attempt cwd ⟨root, suffix, .apply⟩ table = (r', some e) ∧
          r'.files = fs' ∧ r'.reports = [] := by
  obtain ⟨top, hstat, hattempt, hattempt'⟩ | ⟨e, -, hattempt, hattempt'⟩ :=
    attempt_cases hfs hperm cwd root suffix .apply .apply table
  · rw [hattempt]
    exact ⟨top, hstat, revises_revised hfs suffix top table, _, hattempt',
      get?_revised_perm hfs hperm⟩
  · rw [hattempt]
    exact ⟨rfl, rfl, _, hattempt', rfl, rfl⟩

/-- A directory with a candidate, a link to it and a file that only looks like a temporary one. -/
def sample : FileSystem :=
  let name (s : String) : Bytes := Utf8.encode s.toList
  ⟨[([name "src"], .dir),
    ([name "src", name "a.ts"], .file (name "import '../email/b'") 0o640),
    ([name "src", name "b.ts"], .link (.ofString "a.ts")),
    ([name "src", name ".relink-x.tmp"], .file (name "import '../email/b'") 0o600)]⟩

theorem wellFormed_sample : sample.WellFormed where
  nodup := by decide
  nonempty := by decide
  names := by decide
  parents := by decide

theorem stat_sample : sample.stat [] (.ofString "/src") = .ok ([Utf8.encode "src".toList], .dir) :=
  rfl

theorem attempt_apply_sample : ∃ r top,
    sample.attempt [] ⟨.ofString "/src", ".ts", .apply⟩ BuiltIn.table = (r, none) ∧
    sample.stat [] (.ofString "/src") = .ok (top, .dir) ∧
    sample.Revises r.files ".ts" top BuiltIn.table ∧
    ∃ r', (⟨sample.entries.reverse⟩ : FileSystem).attempt [] ⟨.ofString "/src", ".ts", .apply⟩
        BuiltIn.table = (r', none) ∧
      ∀ l, r'.files.get? l = r.files.get? l := by
  have hattempt := attempt_ok wellFormed_sample stat_sample ".ts" .apply BuiltIn.table
  have happly := attempt_apply wellFormed_sample (List.reverse_perm sample.entries) []
    (.ofString "/src") ".ts" BuiltIn.table
  rw [hattempt] at happly
  obtain ⟨top, hstat, hrevises, hagain⟩ := happly
  exact ⟨_, top, hattempt, hstat, hrevises, hagain⟩

end Repath.FileSystem
