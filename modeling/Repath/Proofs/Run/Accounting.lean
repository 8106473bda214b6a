import Repath.Proofs.Run.Revision
import Mathlib.Data.Set.Card

namespace Repath

variable {fs : FileSystem} {l top : Location} {suffix : String} {table : RuleTable}

@[simp] theorem Outcome.isChanged_iff {o : Outcome} : o.isChanged ↔ o = .changed := by
  cases o <;> simp [isChanged]

@[simp] theorem Outcome.isFailed_iff {o : Outcome} : o.isFailed ↔ ∃ reason, o = .failed reason := by
  cases o <;> simp [isFailed]

namespace RunSummary

theorem foldl_add (reports : List FileReport) (s : RunSummary) :
    reports.foldl add s = ⟨s.root, s.total + reports.length,
      s.changed + (reports.filter (·.outcome.isChanged)).length,
      s.failed ++ reports.filter (·.outcome.isFailed)⟩ := by
  induction reports generalizing s with
  | nil => simp
  | cons r reports ih =>
    rw [List.foldl_cons, ih, add]
    cases h : r.outcome with
    | changed => simp [h]; omega
    | unchanged => simp [h]; omega
    | failed reason => simp [h]; omega

end RunSummary

theorem length_outcomes (reports : List FileReport) :
    (reports.filter (·.outcome.isChanged)).length + (reports.filter (·.outcome = .unchanged)).length
      + (reports.filter (·.outcome.isFailed)).length = reports.length := by
  induction reports with
  | nil => rfl
  | cons r reports ih =>
    cases h : r.outcome <;> simp [h] <;> omega

namespace FileSystem

def bytesAt? (fs : FileSystem) (l : Location) : Option Bytes :=
  match fs.get? l with
  | some (.file content _) => some content
  | _ => none

theorem bytesAt?_of_file {content : Bytes} {m : Nat} (h : fs.get? l = some (.file content m)) :
    fs.bytesAt? l = some content := by
  rw [bytesAt?, h]

theorem bytesAt?_revised_ne {ls : List Location} (root : Path)
    (hfiles : ∀ l ∈ ls, ∃ content m, fs.get? l = some (.file content m)) :
    (fs.revised table ls).bytesAt? l ≠ fs.bytesAt? l ↔
      l ∈ ls ∧ (fs.reportOn table root l).outcome = .changed := by
  by_cases hmem : l ∈ ls
  · obtain ⟨content, m, h⟩ := hfiles l hmem
    have hrevised := get?_revised_of_mem table h hmem
    simp [bytesAt?_of_file hrevised, bytesAt?_of_file h, reportOn_of_file h, hmem,
      RuleTable.outcome_changed]
  · simp [bytesAt?, get?_revised_of_notMem hmem, hmem]

theorem relative_reportOn (hfs : fs.WellFormed) (hl : fs.IsCandidate suffix top l) :
    top.path.join (fs.reportOn table top.path l).relative = l.path ∧
      (fs.reportOn table top.path l).relative.isEmpty = false ∧
      (fs.reportOn table top.path l).relative.isAbsolute = false ∧
      Path.dotDot ∉ (fs.reportOn table top.path l).relative.names := by
  obtain ⟨⟨names, rfl⟩, hproper, -, ⟨content, m, hfile⟩, -⟩ := hl
  cases names with
  | nil => simp at hproper
  | cons name names =>
    have hall := hfs.isName hfile
    have htop : ∀ n ∈ top, IsName n := fun n hn => hall n (by simp [hn])
    have hname : IsName name := hall name (by simp)
    have hnames : ∀ n ∈ names, IsName n := fun n hn => hall n (by simp [hn])
    rw [reportOn]
    dsimp only
    rw [Location.relativeTo_path htop hname]
    refine ⟨?_, ?_, Location.isAbsolute_cons hname _, ?_⟩
    · rw [Location.join_path htop hname, Location.path_of_ne_nil (by simp),
        Location.path_of_ne_nil (by simp)]
      simp [List.flatMap_append]
    · simp [Path.isEmpty, hname.1]
    · rw [Path.names_extend hname hnames]
      intro hdots
      exact (hall _ (List.mem_append_right top hdots)).2.2.2.2 rfl

/-- What a run from a directory has counted and reported is what it has done. -/
structure Accounts (fs : FileSystem) (suffix : String) (top : Location) (r : Run) : Prop where
  root : r.summary.root = top.path
  /-- There is one report on each candidate, and no other. -/
  candidates : ∃ ls : List Location, ls.Nodup ∧ (∀ l, l ∈ ls ↔ fs.IsCandidate suffix top l) ∧
    r.reports.map (·.path) = ls.map Location.path ∧ r.summary.total = ls.length
  distinct : (r.reports.map (·.path)).Nodup
  changed : r.summary.changed = (r.reports.filter (·.outcome.isChanged)).length
  /-- As many are changed as there are files that differ, and they are the same. -/
  differing : r.summary.changed = {l | r.files.bytesAt? l ≠ fs.bytesAt? l}.ncard
  differs : ∀ p, (∃ report ∈ r.reports, report.outcome = .changed ∧ report.path = p) ↔
    ∃ l, r.files.bytesAt? l ≠ fs.bytesAt? l ∧ l.path = p
  failed : r.summary.failed = r.reports.filter (·.outcome.isFailed)
  total : r.summary.changed + (r.reports.filter (·.outcome = .unchanged)).length +
    r.summary.failed.length = r.summary.total
  /-- Every path is found from the root. -/
  relative : ∀ report ∈ r.reports, r.summary.root.join report.relative = report.path ∧
    report.relative.isEmpty = false ∧ report.relative.isAbsolute = false ∧
    Path.dotDot ∉ report.relative.names

theorem accounts_runBelow (hfs : fs.WellFormed) (table : RuleTable) (suffix : String)
    (top : Location) : fs.Accounts suffix top (fs.runBelow table .apply suffix top) := by
  have hmem : ∀ l, l ∈ fs.candidatesBelow suffix top ↔ fs.IsCandidate suffix top l :=
    fun l => mem_candidatesBelow hfs
  have hnodup := nodup_candidatesBelow hfs suffix top
  have hfiles : ∀ l ∈ fs.candidatesBelow suffix top, ∃ content m,
      fs.get? l = some (.file content m) := fun l hl => ((hmem l).1 hl).file
  have hpaths : ((fs.candidatesBelow suffix top).map (fs.reportOn table top.path)).map (·.path) =
      (fs.candidatesBelow suffix top).map Location.path := by
    rw [List.map_map]
    rfl
  have hne : ∀ l, (fs.left table .apply (fs.candidatesBelow suffix top)).bytesAt? l ≠
      fs.bytesAt? l ↔ l ∈ fs.candidatesBelow suffix top ∧
        (fs.reportOn table top.path l).outcome = .changed :=
    fun l => bytesAt?_revised_ne top.path hfiles
  simp only [runBelow, RunSummary.foldl_add]
  constructor
  case root => rfl
  case candidates => exact ⟨_, hnodup, hmem, hpaths, by simp [RunSummary.start]⟩
  case distinct =>
    rw [hpaths]
    refine hnodup.map_on fun l hl k hk heq => ?_
    obtain ⟨_, _, hl⟩ := hfiles l hl
    obtain ⟨_, _, hk⟩ := hfiles k hk
    exact Location.path_inj (hfs.isName hl) (hfs.isName hk) heq
  case changed => simp [RunSummary.start]
  case differing =>
    have hset : {l | (fs.left table .apply (fs.candidatesBelow suffix top)).bytesAt? l ≠
        fs.bytesAt? l} = ↑((fs.candidatesBelow suffix top).filter fun l =>
          (fs.reportOn table top.path l).outcome.isChanged).toFinset := by
      ext l
      simpa using hne l
    rw [hset, Set.ncard_coe_finset, List.toFinset_card_of_nodup (hnodup.filter _)]
    simp [RunSummary.start, List.filter_map, Function.comp_def]
  case differs =>
    intro p
    constructor
    · rintro ⟨report, hreport, hchanged, rfl⟩
      obtain ⟨l, hl, rfl⟩ := List.mem_map.1 hreport
      exact ⟨l, (hne l).2 ⟨hl, hchanged⟩, rfl⟩
    · rintro ⟨l, hdiffers, rfl⟩
      obtain ⟨hl, hchanged⟩ := (hne l).1 hdiffers
      exact ⟨_, List.mem_map_of_mem hl, hchanged, rfl⟩
  case failed => rfl
  case total =>
    have h := length_outcomes ((fs.candidatesBelow suffix top).map (fs.reportOn table top.path))
    simpa [RunSummary.start] using h
  case relative =>
    intro report hreport
    obtain ⟨l, hl, rfl⟩ := List.mem_map.1 hreport
    exact relative_reportOn hfs ((hmem l).1 hl)

/-- A run that comes to an end has counted and reported what it has done, and one that does not has
not got beyond its root. -/
theorem run_apply (hfs : fs.WellFormed) (cwd : Location) (root : Path) (suffix : String)
    (table : RuleTable) :
    match fs.run cwd ⟨root, suffix, .apply⟩ table with
    | .ok r => ∃ top, fs.stat cwd root = .ok (top, .dir) ∧ fs.Accounts suffix top r
    | .error e => fs.resolveRoot cwd root = .error e := by
  obtain ⟨top, hstat, hattempt, -⟩ | ⟨e, herror, hattempt, -⟩ :=
    attempt_cases hfs (.refl _) cwd root suffix .apply .apply table
  · rw [run, hattempt]
    exact ⟨top, hstat, accounts_runBelow hfs table suffix top⟩
  · rw [run, hattempt]
    exact herror

theorem run_apply_sample : ∃ r top,
    sample.run [] ⟨.ofString "/src", ".ts", .apply⟩ BuiltIn.table = .ok r ∧
    sample.stat [] (.ofString "/src") = .ok (top, .dir) ∧ sample.Accounts ".ts" top r := by
  obtain ⟨r, hrun⟩ : ∃ r,
      sample.run [] ⟨.ofString "/src", ".ts", .apply⟩ BuiltIn.table = .ok r := by
    rw [run, attempt_ok wellFormed_sample stat_sample]
    exact ⟨_, rfl⟩
  have happly := run_apply wellFormed_sample [] (.ofString "/src") ".ts" BuiltIn.table
  rw [hrun] at happly
  obtain ⟨top, hstat, haccounts⟩ := happly
  exact ⟨r, top, hrun, hstat, haccounts⟩

end FileSystem

end Repath
