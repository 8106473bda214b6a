import Repath.Run.Basic
import Repath.Proofs.Files.Order
import Repath.Proofs.Run.Revise

namespace Repath

variable {fs fs' : FileSystem} {l top cwd : Location} {content : Bytes} {m : Nat}
  {table : RuleTable} {mode : WriteMode} {ls : List Location} {root : Path}

namespace RuleTable

def reviseContent (t : RuleTable) (content : Bytes) : Bytes :=
  match Utf8.decode? content with
  | some cs => Utf8.encode (t.apply (String.ofList cs)).toList
  | none => content

def outcome (t : RuleTable) (p : Path) (content : Bytes) : Outcome :=
  match Utf8.decode? content with
  | some _ => if t.reviseContent content = content then .unchanged else .changed
  | none => .failed (Error.fileRead p .notUtf8).chain

theorem reviseContent_encode (t : RuleTable) (cs : List Char) :
    t.reviseContent (Utf8.encode cs) = Utf8.encode (t.apply (String.ofList cs)).toList := by
  rw [reviseContent, Utf8.decode?_eq_some_iff.2 rfl]

theorem reviseContent_eq_self (t : RuleTable) (cs : List Char) :
    t.reviseContent (Utf8.encode cs) = Utf8.encode cs ↔
      t.apply (String.ofList cs) = String.ofList cs := by
  rw [reviseContent_encode, Utf8.encode_injective.eq_iff, ← String.toList_inj, String.toList_ofList]

theorem reviseContent_of_apply {t : RuleTable} (h : ∀ text, t.apply text = text)
    (content : Bytes) : t.reviseContent content = content := by
  cases hdecode : Utf8.decode? content with
  | none => rw [reviseContent, hdecode]
  | some cs =>
    obtain rfl := Utf8.decode?_eq_some_iff.1 hdecode
    exact (t.reviseContent_eq_self cs).2 (h _)

theorem outcome_changed {t : RuleTable} {p : Path} :
    t.outcome p content = .changed ↔ t.reviseContent content ≠ content := by
  rw [outcome]
  cases h : Utf8.decode? content with
  | none => simp [reviseContent, h]
  | some cs =>
    dsimp only
    split <;> simp [*]

end RuleTable

def Entry.revise (t : RuleTable) : Entry → Entry
  | .file content mode => .file (t.reviseContent content) mode
  | e => e

theorem Entry.outline_revise (t : RuleTable) (e : Entry) : (e.revise t).outline = e.outline := by
  cases e <;> rfl

namespace FileSystem

def revised (fs : FileSystem) (table : RuleTable) (ls : List Location) : FileSystem :=
  fs.mapEntries fun k e => if k ∈ ls then e.revise table else e

/-- What a revision of the files at some locations leaves behind. -/
def left (fs : FileSystem) (table : RuleTable) (mode : WriteMode) (ls : List Location) :
    FileSystem :=
  match mode with
  | .apply => fs.revised table ls
  | .dryRun => fs

theorem outline_revised (fs : FileSystem) (table : RuleTable) (ls : List Location) :
    (fs.revised table ls).outline = fs.outline := by
  refine outline_mapEntries fun k e => ?_
  split
  · exact Entry.outline_revise table e
  · rfl

theorem outline_left (fs : FileSystem) (table : RuleTable) (mode : WriteMode)
    (ls : List Location) : (fs.left table mode ls).outline = fs.outline := by
  cases mode
  · exact outline_revised fs table ls
  · rfl

theorem get?_revised (fs : FileSystem) (table : RuleTable) (ls : List Location) (l : Location) :
    (fs.revised table ls).get? l =
      (fs.get? l).map fun e => if l ∈ ls then e.revise table else e := by
  by_cases hl : l = []
  · subst hl
    simp [get?, Entry.revise]
  · exact get?_mapEntries hl

theorem get?_revised_of_mem (table : RuleTable) (h : fs.get? l = some (.file content m))
    (hl : l ∈ ls) : (fs.revised table ls).get? l = some (.file (table.reviseContent content) m) := by
  rw [get?_revised, h, Option.map_some, if_pos hl, Entry.revise]

theorem get?_revised_of_notMem (hl : l ∉ ls) : (fs.revised table ls).get? l = fs.get? l := by
  simp [get?_revised, hl]

theorem get?_revised_congr {ls' : List Location} (table : RuleTable)
    (h : ∀ l, fs'.get? l = fs.get? l) (hmem : ∀ l, l ∈ ls' ↔ l ∈ ls) (l : Location) :
    (fs'.revised table ls').get? l = (fs.revised table ls).get? l := by
  simp only [get?_revised, h, hmem]

theorem put_revised (hfs : fs.WellFormed) (h : fs.get? l = some (.file content m))
    (table : RuleTable) :
    fs.put l (.file (table.reviseContent content) m) = fs.revised table [l] := by
  rw [put_present h (ne_nil_of_get? h (by simp))]
  refine mapEntries_congr fun entry hentry => ?_
  by_cases hk : entry.1 = l
  · have he := hfs.get?_of_mem hentry
    rw [hk, h] at he
    simp [hk, ← Option.some.inj he, Entry.revise]
  · simp [hk]

theorem revised_self (hfs : fs.WellFormed) (h : fs.get? l = some (.file content m))
    (hsame : table.reviseContent content = content) : fs.revised table [l] = fs := by
  refine mapEntries_self fun entry hentry => ?_
  by_cases hk : entry.1 = l
  · have he := hfs.get?_of_mem hentry
    rw [hk, h] at he
    simp [hk, ← Option.some.inj he, Entry.revise, hsame]
  · simp [hk]

theorem left_self (hfs : fs.WellFormed) (h : fs.get? l = some (.file content m))
    (hsame : table.reviseContent content = content) : fs.left table mode [l] = fs := by
  cases mode
  · exact revised_self hfs h hsame
  · rfl

theorem readText_path (hfs : fs.WellFormed) (h : fs.get? l = some (.file content m))
    (cwd : Location) : fs.readText cwd l.path =
      match Utf8.decode? content with
      | some cs => .ok (String.ofList cs)
      | none => .error .notUtf8 :=
  readText_of_stat (stat_path hfs h cwd (by simp))

/-- A file is revised by its content alone, and nothing else is. -/
theorem reviseFile_path (hfs : fs.WellFormed) (h : fs.get? l = some (.file content m))
    (cwd : Location) (table : RuleTable) (mode : WriteMode) :
    fs.reviseFile cwd l.path table mode =
      (table.outcome l.path content, fs.left table mode [l]) := by
  have hread := readText_path hfs h cwd
  rw [RuleTable.outcome]
  cases hdecode : Utf8.decode? content with
  | none =>
    have hsame : table.reviseContent content = content := by
      rw [RuleTable.reviseContent, hdecode]
    rw [hdecode] at hread
    rw [reviseFile_of_fault hread, left_self hfs h hsame]
  | some cs =>
    obtain rfl := Utf8.decode?_eq_some_iff.1 hdecode
    have hsame := table.reviseContent_eq_self cs
    have hput := put_revised hfs h table
    rw [table.reviseContent_encode] at hput
    rw [hdecode] at hread
    rw [reviseFile_of_text hread (tryReplace_path hfs h cwd _)]
    dsimp only
    by_cases heq : table.apply (String.ofList cs) = String.ofList cs
    · rw [if_pos heq, if_pos (hsame.2 heq), left_self hfs h (hsame.2 heq)]
    · rw [if_neg heq, if_neg (mt hsame.1 heq), hput]
      cases mode <;> rfl

/-- The report on the file at a location, by what is there. -/
def reportOn (fs : FileSystem) (table : RuleTable) (root : Path) (l : Location) : FileReport where
  path := l.path
  relative := root.relativeTo l.path
  outcome :=
    match fs.get? l with
    | some (.file content _) => table.outcome l.path content
    | _ => .unchanged

theorem reportOn_of_file (h : fs.get? l = some (.file content m)) (table : RuleTable)
    (root : Path) :
    fs.reportOn table root l = ⟨l.path, root.relativeTo l.path, table.outcome l.path content⟩ := by
  simp only [reportOn, h]

variable {done : List Location} {s : RunSummary} {reports : List FileReport} {suffix : String}

theorem left_nil (fs : FileSystem) (table : RuleTable) (mode : WriteMode) :
    fs.left table mode [] = fs := by
  cases mode
  · rw [left, revised]
    exact mapEntries_self fun _ _ => if_neg List.not_mem_nil
  · rfl

theorem left_left (h : l ∉ done) :
    (fs.left table mode done).left table mode [l] = fs.left table mode (done ++ [l]) := by
  cases mode
  · simp only [left, revised, mapEntries_mapEntries]
    refine mapEntries_congr fun entry _ => ?_
    by_cases hk : entry.1 = l
    · simp [hk, h]
    · simp [hk]
  · rfl

theorem get?_left (hl : l ∉ done) (h : fs.get? l = some (.file content m)) :
    (fs.left table mode done).get? l = some (.file content m) := by
  cases mode
  · rw [left, get?_revised_of_notMem hl, h]
  · exact h

/-- One visit does not see what the visits before it have done. -/
theorem visit_path (hfs : fs.WellFormed) (h : fs.get? l = some (.file content m)) (hl : l ∉ done) :
    Run.visit cwd root table mode ⟨fs.left table mode done, s, reports⟩ l.path =
      ⟨fs.left table mode (done ++ [l]), s.add (fs.reportOn table root l),
        reports ++ [fs.reportOn table root l]⟩ := by
  have hleft : (fs.left table mode done).WellFormed :=
    hfs.of_outline (outline_left fs table mode done)
  simp only [Run.visit, reviseFile_path hleft (get?_left hl h), left_left hl, reportOn_of_file h]

theorem foldl_visit (hfs : fs.WellFormed) (cwd : Location) (root : Path) (table : RuleTable)
    (mode : WriteMode) (hfiles : ∀ l ∈ ls, ∃ content m, fs.get? l = some (.file content m))
    (hnodup : (done ++ ls).Nodup) (s : RunSummary) (reports : List FileReport) :
    ls.foldl (fun r l => Run.visit cwd root table mode r l.path)
        ⟨fs.left table mode done, s, reports⟩ =
      ⟨fs.left table mode (done ++ ls), (ls.map (fs.reportOn table root)).foldl RunSummary.add s,
        reports ++ ls.map (fs.reportOn table root)⟩ := by
  induction ls generalizing done s reports with
  | nil => simp
  | cons l ls ih =>
    obtain ⟨content, m, h⟩ := hfiles l (by simp)
    have hl : l ∉ done := fun hmem => List.disjoint_of_nodup_append hnodup hmem (by simp)
    rw [List.append_cons] at hnodup
    rw [List.foldl_cons, visit_path hfs h hl, ih (fun k hk => hfiles k (by simp [hk])) hnodup]
    simp

def runBelow (fs : FileSystem) (table : RuleTable) (mode : WriteMode) (suffix : String)
    (top : Location) : Run :=
  let ls := fs.candidatesBelow suffix top
  let reports := ls.map (fs.reportOn table top.path)
  ⟨fs.left table mode ls, reports.foldl RunSummary.add (.start top.path), reports⟩

theorem resolveRoot_eq_ok {p : Path} :
    fs.resolveRoot cwd root = .ok p ↔ ∃ top, fs.stat cwd root = .ok (top, .dir) ∧ top.path = p := by
  rw [resolveRoot]
  rcases hstat : fs.stat cwd root with fault | ⟨l, e⟩
  · simp [Except.mapError, bind, Except.bind]
  · cases e <;> simp [Except.mapError, bind, Except.bind, pure, Except.pure, throw, throwThe,
      MonadExceptOf.throw]

theorem resolveRoot_eq_error {e : Error} : fs.resolveRoot cwd root = .error e ↔
    (∃ fault, fs.stat cwd root = .error fault ∧ e = .rootNotFound root fault) ∨
      ∃ l entry, fs.stat cwd root = .ok (l, entry) ∧ entry ≠ .dir ∧
        e = .rootNotDirectory l.path := by
  rw [resolveRoot]
  rcases hstat : fs.stat cwd root with fault | ⟨l, entry⟩
  · simp [Except.mapError, bind, Except.bind, eq_comm]
  · cases entry <;> simp [Except.mapError, bind, Except.bind, pure, Except.pure, throw, throwThe,
      MonadExceptOf.throw, eq_comm]

theorem not_dir_of_error {e : Error} (h : fs.resolveRoot cwd root = .error e) (top : Location) :
    fs.stat cwd root ≠ .ok (top, .dir) := by
  intro hstat
  rw [resolveRoot_eq_ok.2 ⟨top, hstat, rfl⟩] at h
  cases h

theorem Alike.resolveRoot (h : Alike fs fs') (cwd : Location) (p : Path) :
    fs'.resolveRoot cwd p = fs.resolveRoot cwd p := by
  obtain ⟨l, content, mode, content', mode', hfile, hfile'⟩ | heq := h.stat cwd p
  · rw [FileSystem.resolveRoot, FileSystem.resolveRoot, hfile, hfile']
    rfl
  · rw [FileSystem.resolveRoot, FileSystem.resolveRoot, heq]

/-- From a directory, every candidate is revised. -/
theorem attempt_ok (hfs : fs.WellFormed) (hstat : fs.stat cwd root = .ok (top, .dir))
    (suffix : String) (mode : WriteMode) (table : RuleTable) :
    fs.attempt cwd ⟨root, suffix, mode⟩ table = (fs.runBelow table mode suffix top, none) := by
  have hfiles : ∀ l ∈ fs.candidatesBelow suffix top, ∃ content m,
      fs.get? l = some (.file content m) := fun l hl => file_of_mem_candidatesBelow hfs hl
  have hwalk : visitCandidates Run.files (Run.visit cwd top.path table mode) suffix cwd top.path
      ⟨fs, .start top.path, []⟩ = ((fs.candidatesBelow suffix top).foldl
        (fun r l => Run.visit cwd top.path table mode r l.path) ⟨fs, .start top.path, []⟩,
        none) := by
    refine (visitCandidates_path hfs (get?_of_stat hstat) cwd rfl fun r hr l hl => ?_).1
    obtain ⟨content, m, h⟩ := (Alike.of_outline hr).file.2 (hfiles l hl)
    simp only [Run.visit, reviseFile_path (hfs.of_outline hr) h, outline_left, hr]
  have hnodup : ([] ++ fs.candidatesBelow suffix top).Nodup :=
    nodup_candidatesBelow hfs suffix top
  have hvisits := foldl_visit hfs cwd top.path table mode hfiles hnodup (.start top.path) []
  rw [left_nil] at hvisits
  have hroot := resolveRoot_eq_ok.2 ⟨top, hstat, rfl⟩
  simp only [attempt, hroot]
  rw [hwalk, hvisits]
  rfl

theorem attempt_error {e : Error} (h : fs.resolveRoot cwd root = .error e) (suffix : String)
    (mode : WriteMode) (table : RuleTable) :
    fs.attempt cwd ⟨root, suffix, mode⟩ table = (⟨fs, .start root, []⟩, some e) := by
  simp only [attempt, h]

theorem root_cases (fs : FileSystem) (cwd : Location) (root : Path) :
    (∃ top, fs.stat cwd root = .ok (top, .dir)) ∨ ∃ e, fs.resolveRoot cwd root = .error e := by
  cases hroot : fs.resolveRoot cwd root with
  | error e => exact .inr ⟨e, rfl⟩
  | ok p =>
    obtain ⟨top, hstat, -⟩ := resolveRoot_eq_ok.1 hroot
    exact .inl ⟨top, hstat⟩

/-- Two runs over the same files, held in any order, come to an end in the same way: either the root
leads to a directory and every candidate below it is revised, or it does not and nothing is done. -/
theorem attempt_cases (hfs : fs.WellFormed) (hperm : fs'.entries.Perm fs.entries) (cwd : Location)
    (root : Path) (suffix : String) (mode mode' : WriteMode) (table : RuleTable) :
    (∃ top, fs.stat cwd root = .ok (top, .dir) ∧
      fs.attempt cwd ⟨root, suffix, mode⟩ table = (fs.runBelow table mode suffix top, none) ∧
      fs'.attempt cwd ⟨root, suffix, mode'⟩ table =
        (fs'.runBelow table mode' suffix top, none)) ∨
    (∃ e, fs.resolveRoot cwd root = .error e ∧
      fs.attempt cwd ⟨root, suffix, mode⟩ table = (⟨fs, .start root, []⟩, some e) ∧
      fs'.attempt cwd ⟨root, suffix, mode'⟩ table = (⟨fs', .start root, []⟩, some e)) := by
  have halike := Alike.of_get? (hfs.get?_perm hperm)
  obtain ⟨top, hstat⟩ | ⟨e, hroot⟩ := fs.root_cases cwd root
  · exact .inl ⟨top, hstat, attempt_ok hfs hstat suffix mode table,
      attempt_ok (hfs.of_perm hperm) (halike.stat_dir.2 hstat) suffix mode' table⟩
  · exact .inr ⟨e, hroot, attempt_error hroot suffix mode table,
      attempt_error ((halike.resolveRoot cwd root).trans hroot) suffix mode' table⟩

end FileSystem

end Repath
