import Repath.Proofs.Run.Composed

namespace Repath

variable {fs fs' : FileSystem} {cwd top : Location} {root : Path} {suffix : String}
  {ls done : List Location} {content : Bytes} {p : Path} {t : RuleTable}

/-- The rules leave nothing to do on what they have made. -/
def RuleTable.Idempotent (t : RuleTable) : Prop := ∀ text, t.apply (t.apply text) = t.apply text

def Outcome.settled : Outcome → Outcome
  | changed => unchanged
  | o => o

def FileReport.resumed (paths : List Path) (r : FileReport) : FileReport :=
  if r.path ∈ paths then { r with outcome := r.outcome.settled } else r

theorem Outcome.settled_ne_changed (o : Outcome) : o.settled ≠ .changed := by
  cases o <;> simp [settled]

@[simp] theorem FileReport.path_resumed (paths : List Path) (r : FileReport) :
    (r.resumed paths).path = r.path := by
  rw [resumed]
  split <;> rfl

namespace RuleTable

theorem Idempotent.reviseContent (ht : t.Idempotent) (content : Bytes) :
    t.reviseContent (t.reviseContent content) = t.reviseContent content := by
  cases h : Utf8.decode? content with
  | none => simp only [RuleTable.reviseContent, h]
  | some cs =>
    obtain rfl := Utf8.decode?_eq_some_iff.1 h
    rw [reviseContent_encode, reviseContent_encode, String.ofList_toList, ht]

theorem Idempotent.outcome (ht : t.Idempotent) (p : Path) (content : Bytes) :
    t.outcome p (t.reviseContent content) = (t.outcome p content).settled := by
  cases h : Utf8.decode? content with
  | none =>
    rw [outcome_of_not_text h, outcome_of_not_text (decode?_reviseContent.2 h)]
    rfl
  | some cs =>
    obtain rfl := Utf8.decode?_eq_some_iff.1 h
    have hunchanged : t.outcome p (t.reviseContent (Utf8.encode cs)) = .unchanged := by
      rw [RuleTable.outcome, ht.reviseContent, reviseContent_encode,
        Utf8.decode?_eq_some_iff.2 rfl]
      exact if_pos rfl
    rw [hunchanged, RuleTable.outcome, h]
    dsimp only
    split <;> rfl

end RuleTable

theorem RuleTable.Idempotent.entry (ht : t.Idempotent) (e : Entry) :
    (e.revise t).revise t = e.revise t := by
  cases e with
  | file content mode => simp only [Entry.revise, ht.reviseContent]
  | dir => rfl
  | link => rfl

namespace FileSystem

def reviseEach (fs : FileSystem) (cwd : Location) (t : RuleTable) (ls : List Location) :
    FileSystem :=
  ls.foldl (fun fs l => (fs.reviseFile cwd l.path t .apply).2) fs

theorem revised_revised (ht : t.Idempotent) (fs : FileSystem) (done ls : List Location) :
    (fs.revised t done).revised t ls = fs.revised t (done ++ ls) := by
  simp only [revised, mapEntries_mapEntries]
  refine mapEntries_congr fun entry _ => ?_
  by_cases hdone : entry.1 ∈ done
  · by_cases hls : entry.1 ∈ ls
    · simp [hdone, hls, ht.entry]
    · simp [hdone, hls]
  · simp [hdone]

theorem reviseEach_revised (ht : t.Idempotent) (hfs : fs.WellFormed) (cwd : Location)
    (hfiles : ∀ l ∈ ls, ∃ content m, fs.get? l = some (.file content m)) (done : List Location) :
    (fs.revised t done).reviseEach cwd t ls = fs.revised t (done ++ ls) := by
  induction ls generalizing done with
  | nil => rw [List.append_nil, reviseEach, List.foldl_nil]
  | cons l ls ih =>
    have houtline := outline_revised fs t done
    obtain ⟨content, m, h⟩ := (Alike.of_outline houtline).file.2 (hfiles l (by simp))
    have hstep : ((fs.revised t done).reviseFile cwd l.path t .apply).2 =
        fs.revised t (done ++ [l]) := by
      rw [reviseFile_path (hfs.of_outline houtline) h]
      exact revised_revised ht fs done [l]
    have hrest := ih (fun k hk => hfiles k (List.mem_cons_of_mem l hk)) (done ++ [l])
    rw [List.append_cons, reviseEach, List.foldl_cons, hstep]
    exact hrest

theorem reviseEach_eq (ht : t.Idempotent) (hfs : fs.WellFormed) (cwd : Location)
    (hfiles : ∀ l ∈ ls, ∃ content m, fs.get? l = some (.file content m)) :
    fs.reviseEach cwd t ls = fs.revised t ls := by
  have h := reviseEach_revised ht hfs cwd hfiles []
  rwa [show fs.revised t [] = fs from left_nil fs t .apply, List.nil_append] at h

/-- A run that takes up another comes to the same end. Of the files at some locations, which have been
revised before, none is changed, and the other files are reported on as in the other run. -/
structure Resumes (ls : List Location) (whole rest : Run × Option Error) : Prop where
  ending : rest.2 = whole.2
  files : ∀ l, rest.1.files.get? l = whole.1.files.get? l
  reports : rest.1.reports.Perm
    (whole.1.reports.map fun r => r.resumed (ls.map Location.path))
  reported : ∀ l ∈ ls, ∃ report ∈ rest.1.reports, report.path = l.path
  unchanged : ∀ report ∈ rest.1.reports, report.path ∈ ls.map Location.path →
    report.outcome ≠ .changed

theorem reportOn_resumed (ht : t.Idempotent) (hfs : fs.WellFormed)
    (hls : ls ⊆ fs.candidatesBelow suffix top) (hleft : ∀ l, fs'.get? l = (fs.revised t ls).get? l)
    (root : Path) {l : Location} (hl : l ∈ fs.candidatesBelow suffix top) :
    fs'.reportOn t root l = (fs.reportOn t root l).resumed (ls.map Location.path) := by
  have hnames : ∀ k ∈ fs.candidatesBelow suffix top, ∀ n ∈ k, IsName n := by
    intro k hk
    obtain ⟨content, m, h⟩ := file_of_mem_candidatesBelow hfs hk
    exact hfs.isName h
  obtain ⟨content, m, h⟩ := file_of_mem_candidatesBelow hfs hl
  rw [reportOn_of_file h, FileReport.resumed]
  by_cases hmem : l ∈ ls
  · rw [reportOn_of_file ((hleft l).trans (get?_revised_of_mem t h hmem)), ht.outcome,
      if_pos (List.mem_map_of_mem hmem)]
  · have hpath : l.path ∉ ls.map Location.path := by
      intro hin
      obtain ⟨k, hk, heq⟩ := List.mem_map.1 hin
      exact hmem (Location.path_inj (hnames k (hls hk)) (hnames l hl) heq ▸ hk)
    rw [reportOn_of_file ((hleft l).trans ((get?_revised_of_notMem hmem).trans h)), if_neg hpath]

theorem resumes_runBelow (ht : t.Idempotent) (hfs : fs.WellFormed) (hfs' : fs'.WellFormed)
    (hls : ls ⊆ fs.candidatesBelow suffix top)
    (hleft : ∀ l, fs'.get? l = (fs.revised t ls).get? l) :
    Resumes ls (fs.runBelow t .apply suffix top, none) (fs'.runBelow t .apply suffix top, none) := by
  have halike := (Alike.of_outline (outline_revised fs t ls)).trans (.of_get? hleft)
  have hmem : ∀ l, l ∈ fs'.candidatesBelow suffix top ↔ l ∈ fs.candidatesBelow suffix top :=
    fun l => (halike.candidatesBelow_perm hfs hfs' suffix top).mem_iff
  have hreports : (fs'.runBelow t .apply suffix top).reports.Perm
      ((fs.runBelow t .apply suffix top).reports.map fun r =>
        r.resumed (ls.map Location.path)) := by
    refine (halike.reports_runBelow hfs hfs' t .apply suffix top).trans ?_
    rw [runBelow, List.map_map,
      List.map_congr_left fun l hl => reportOn_resumed ht hfs hls hleft top.path hl]
    rfl
  constructor
  case ending => rfl
  case files =>
    intro l
    have hrevised := get?_revised_congr t hleft hmem l
    rw [revised_revised ht] at hrevised
    refine hrevised.trans (get?_revised_congr t (fun _ => rfl) (fun k => ?_) l)
    rw [List.mem_append, or_iff_right_of_imp (@hls k)]
  case reports => exact hreports
  case reported => exact fun l hl => ⟨_, List.mem_map_of_mem ((hmem l).2 (hls hl)), rfl⟩
  case unchanged =>
    intro report hreport hpath
    obtain ⟨r, -, rfl⟩ := List.mem_map.1 (hreports.mem_iff.1 hreport)
    rw [FileReport.path_resumed] at hpath
    rw [FileReport.resumed, if_pos hpath]
    exact Outcome.settled_ne_changed r.outcome

/-- A run that was interrupted after the files at some locations, in whatever order it came to them, is
finished by a run from the start: it leaves what the run would have left. -/
theorem resumes_attempt (ht : t.Idempotent) (hfs : fs.WellFormed)
    (hls : ∀ l ∈ ls, ∃ top, fs.stat cwd root = .ok (top, .dir) ∧ fs.IsCandidate suffix top l)
    (hperm : fs'.entries.Perm (fs.reviseEach cwd t ls).entries) :
    Resumes ls (fs.attempt cwd ⟨root, suffix, .apply⟩ t)
      (fs'.attempt cwd ⟨root, suffix, .apply⟩ t) := by
  have hfiles : ∀ l ∈ ls, ∃ content m, fs.get? l = some (.file content m) := by
    intro l hl
    obtain ⟨top, -, hcandidate⟩ := hls l hl
    exact hcandidate.file
  rw [reviseEach_eq ht hfs cwd hfiles] at hperm
  have houtline := outline_revised fs t ls
  have hwf := hfs.of_outline houtline
  have hleft := hwf.get?_perm hperm
  have hfs' := hwf.of_perm hperm
  have halike := (Alike.of_outline houtline).trans (.of_get? hleft)
  obtain ⟨top, hstat⟩ | ⟨e, hroot⟩ := fs.root_cases cwd root
  · rw [attempt_ok hfs hstat, attempt_ok hfs' (halike.stat_dir.2 hstat)]
    refine resumes_runBelow ht hfs hfs' (fun l hl => ?_) hleft
    obtain ⟨top', hstat', hcandidate⟩ := hls l hl
    obtain rfl : top' = top := by
      rw [hstat] at hstat'
      cases hstat'
      rfl
    exact (mem_candidatesBelow hfs).2 hcandidate
  · -- Without a root there are no candidates, so nothing has been revised.
    have hnil : ls = [] := by
      refine List.eq_nil_iff_forall_not_mem.2 fun l hl => ?_
      obtain ⟨top, hstat, -⟩ := hls l hl
      exact not_dir_of_error hroot top hstat
    subst hnil
    rw [attempt_error hroot, attempt_error ((halike.resolveRoot cwd root).trans hroot)]
    refine ⟨rfl, fun l => ?_, .refl _, by simp, by simp⟩
    simpa [get?_revised] using hleft l

/-- A run by the built-in rules that was interrupted can be made again from the start. -/
theorem run_resumed {fits : String → Bool}
    (hfits : ∀ rule ∈ BuiltIn.rules, fits rule.pattern = true) (hfs : fs.WellFormed)
    (hls : ∀ l ∈ ls, ∃ top, fs.stat cwd root = .ok (top, .dir) ∧ fs.IsCandidate suffix top l)
    (hperm : fs'.entries.Perm (fs.reviseEach cwd BuiltIn.table ls).entries) :
    RuleTable.compile fits BuiltIn.rules = .ok BuiltIn.table ∧
      Resumes ls (fs.attempt cwd ⟨root, suffix, .apply⟩ BuiltIn.table)
        (fs'.attempt cwd ⟨root, suffix, .apply⟩ BuiltIn.table) :=
  ⟨BuiltIn.compile_rules hfits, resumes_attempt BuiltIn.table_apply_apply hfs hls hperm⟩

def sampleSource : Location := [Utf8.encode "src".toList, Utf8.encode "a.ts".toList]

theorem run_resumed_sample :
    (∀ l ∈ [sampleSource], ∃ top, sample.stat [] (.ofString "/src") = .ok (top, .dir) ∧
      sample.IsCandidate ".ts" top l) ∧
    RuleTable.compile BuiltIn.isShort BuiltIn.rules = .ok BuiltIn.table ∧
    Resumes [sampleSource] (sample.attempt [] ⟨.ofString "/src", ".ts", .apply⟩ BuiltIn.table)
      ((sample.reviseEach [] BuiltIn.table [sampleSource]).attempt []
        ⟨.ofString "/src", ".ts", .apply⟩ BuiltIn.table) := by
  have hls : ∀ l ∈ [sampleSource], ∃ top, sample.stat [] (.ofString "/src") = .ok (top, .dir) ∧
      sample.IsCandidate ".ts" top l := by
    simp only [List.mem_singleton, forall_eq]
    exact ⟨[Utf8.encode "src".toList], by decide,
      (mem_candidatesBelow wellFormed_sample).1 (by decide)⟩
  exact ⟨hls, run_resumed BuiltIn.isShort_of_mem_rules wellFormed_sample hls (.refl _)⟩

end FileSystem
end Repath
