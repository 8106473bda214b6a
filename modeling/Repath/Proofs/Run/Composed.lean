import Repath.Proofs.Run.Accounting
import Repath.Proofs.Rules.Table

namespace Repath

variable {fs fs' : FileSystem} {cwd top : Location} {root : Path} {suffix : String}
  {mode : WriteMode} {ls : List Location} {content content' : Bytes} {p : Path} {t u : RuleTable}

namespace RuleTable

theorem reviseContent_append (t u : RuleTable) (content : Bytes) :
    reviseContent ⟨t.rules ++ u.rules⟩ content = u.reviseContent (t.reviseContent content) := by
  cases h : Utf8.decode? content with
  | none => simp only [reviseContent, h]
  | some cs =>
    obtain rfl := Utf8.decode?_eq_some_iff.1 h
    simp only [reviseContent_encode, apply_append, String.ofList_toList]

theorem reviseContent_nil (content : Bytes) : reviseContent ⟨[]⟩ content = content :=
  reviseContent_of_apply (fun _ => rfl) content

theorem decode?_reviseContent :
    Utf8.decode? (t.reviseContent content) = none ↔ Utf8.decode? content = none := by
  cases h : Utf8.decode? content with
  | none => simp only [reviseContent, h]
  | some cs =>
    obtain rfl := Utf8.decode?_eq_some_iff.1 h
    rw [reviseContent_encode, Utf8.decode?_eq_some_iff.2 rfl]
    simp

theorem outcome_of_not_text (h : Utf8.decode? content = none) :
    t.outcome p content = .failed (Error.fileRead p .notUtf8).chain := by
  rw [outcome, h]

theorem isFailed_outcome : (t.outcome p content).isFailed ↔ Utf8.decode? content = none := by
  cases h : Utf8.decode? content with
  | none => simp [outcome_of_not_text h]
  | some cs =>
    rw [outcome, h]
    dsimp only
    split <;> simp

theorem outcome_eq_or_not_failed
    (h : Utf8.decode? content' = none ↔ Utf8.decode? content = none) :
    u.outcome p content' = t.outcome p content ∨
      ¬(u.outcome p content').isFailed ∧ ¬(t.outcome p content).isFailed := by
  rw [isFailed_outcome, isFailed_outcome, h, and_self]
  by_cases hnone : Utf8.decode? content = none
  · rw [outcome_of_not_text hnone, outcome_of_not_text (h.2 hnone)]
    exact .inl rfl
  · exact .inr hnone

/-- A change by the rules of two tables is a change by those of one of them. It can be undone by the
second, so that the converse does not hold. -/
theorem outcome_append (h : outcome ⟨t.rules ++ u.rules⟩ p content = .changed) :
    t.outcome p content = .changed ∨ u.outcome p (t.reviseContent content) = .changed := by
  rw [outcome_changed, reviseContent_append] at h
  rw [outcome_changed, outcome_changed]
  by_cases hsame : t.reviseContent content = content
  · rw [hsame] at h ⊢
    exact .inr h
  · exact .inl hsame

end RuleTable

theorem Entry.revise_append (t u : RuleTable) (e : Entry) :
    e.revise ⟨t.rules ++ u.rules⟩ = (e.revise t).revise u := by
  cases e with
  | file content mode => simp only [revise, RuleTable.reviseContent_append]
  | dir => rfl
  | link => rfl

namespace FileSystem

theorem filter_isFailed_congr {f g : Location → FileReport}
    (h : ∀ l ∈ ls, f l = g l ∨ ¬(f l).outcome.isFailed ∧ ¬(g l).outcome.isFailed) :
    (ls.map f).filter (·.outcome.isFailed) = (ls.map g).filter (·.outcome.isFailed) := by
  induction ls with
  | nil => rfl
  | cons l ls ih =>
    have hrest := ih fun k hk => h k (List.mem_cons_of_mem l hk)
    rw [List.map_cons, List.map_cons, List.filter_cons, List.filter_cons, hrest]
    obtain heq | ⟨hf, hg⟩ := h l (by simp)
    · rw [heq]
    · rw [if_neg hf, if_neg hg]

theorem total_runBelow (fs : FileSystem) (t : RuleTable) (mode : WriteMode) (suffix : String)
    (top : Location) :
    (fs.runBelow t mode suffix top).summary.total = (fs.candidatesBelow suffix top).length := by
  simp [runBelow, RunSummary.foldl_add, RunSummary.start]

theorem failed_runBelow (fs : FileSystem) (t : RuleTable) (mode : WriteMode) (suffix : String)
    (top : Location) :
    (fs.runBelow t mode suffix top).summary.failed =
      (fs.runBelow t mode suffix top).reports.filter (·.outcome.isFailed) := by
  simp [runBelow, RunSummary.foldl_add, RunSummary.start]

theorem wellFormed_attempt (hfs : fs.WellFormed) (cwd : Location) (root : Path) (suffix : String)
    (mode : WriteMode) (t : RuleTable) :
    (fs.attempt cwd ⟨root, suffix, mode⟩ t).1.files.WellFormed := by
  obtain ⟨top, hstat⟩ | ⟨e, hroot⟩ := fs.root_cases cwd root
  · rw [attempt_ok hfs hstat]
    exact hfs.of_outline (outline_left fs t mode _)
  · rw [attempt_error hroot]
    exact hfs

/-- What runs in turn report and leave is what one run reports and leaves. -/
structure AddUpTo (runs : List (Run × Option Error)) (last : FileSystem)
    (single : Run × Option Error) : Prop where
  files : ∀ l, last.get? l = single.1.files.get? l
  ending : ∀ a ∈ runs, a.2 = single.2
  total : ∀ a ∈ runs, a.1.summary.total = single.1.summary.total
  failed : ∀ a ∈ runs, a.1.summary.failed.Perm single.1.summary.failed
  /-- A file that is changed by the one run is changed on the way. -/
  changed : ∀ report ∈ single.1.reports, report.outcome = .changed →
    ∃ a ∈ runs, report ∈ a.1.reports

theorem Alike.reports_runBelow (h : Alike fs fs') (hfs : fs.WellFormed) (hfs' : fs'.WellFormed)
    (t : RuleTable) (mode : WriteMode) (suffix : String) (top : Location) :
    (fs'.runBelow t mode suffix top).reports.Perm
      ((fs.candidatesBelow suffix top).map (fs'.reportOn t top.path)) :=
  (h.candidatesBelow_perm hfs hfs' suffix top).map (fs'.reportOn t top.path)

theorem Alike.total_runBelow (h : Alike fs fs') (hfs : fs.WellFormed) (hfs' : fs'.WellFormed)
    (t u : RuleTable) (suffix : String) (top : Location) :
    (fs'.runBelow u mode suffix top).summary.total =
      (fs.runBelow t mode suffix top).summary.total := by
  rw [FileSystem.total_runBelow, FileSystem.total_runBelow,
    (h.candidatesBelow_perm hfs hfs' suffix top).length_eq]

theorem Alike.failed_runBelow (h : Alike fs fs') (hfs : fs.WellFormed) (hfs' : fs'.WellFormed)
    (htexts : ∀ l content m, l ∈ fs.candidatesBelow suffix top →
      fs.get? l = some (.file content m) → ∃ content' m', fs'.get? l = some (.file content' m') ∧
        (Utf8.decode? content' = none ↔ Utf8.decode? content = none))
    (t u : RuleTable) :
    (fs'.runBelow u mode suffix top).summary.failed.Perm
      (fs.runBelow t mode suffix top).summary.failed := by
  rw [FileSystem.failed_runBelow, FileSystem.failed_runBelow]
  have hsame : ((fs.candidatesBelow suffix top).map (fs'.reportOn u top.path)).filter
      (·.outcome.isFailed) = (fs.runBelow t mode suffix top).reports.filter
        (·.outcome.isFailed) := by
    refine filter_isFailed_congr fun l hl => ?_
    obtain ⟨content, m, hfile⟩ := file_of_mem_candidatesBelow hfs hl
    obtain ⟨content', m', hfile', htext⟩ := htexts l content m hl hfile
    rw [reportOn_of_file hfile, reportOn_of_file hfile']
    obtain heq | hne := RuleTable.outcome_eq_or_not_failed (t := t) (u := u) (p := l.path) htext
    · exact .inl (by rw [heq])
    · exact .inr hne
  rw [← hsame]
  exact (h.reports_runBelow hfs hfs' u mode suffix top).filter _

theorem revised_append (fs : FileSystem) (t u : RuleTable) (ls : List Location) :
    (fs.revised t ls).revised u ls = fs.revised ⟨t.rules ++ u.rules⟩ ls := by
  simp only [revised, mapEntries_mapEntries]
  refine mapEntries_congr fun entry _ => ?_
  by_cases hmem : entry.1 ∈ ls
  · simp only [if_pos hmem, Entry.revise_append]
  · simp only [if_neg hmem]

/-- A run and then another below the same directory come to one run by the rules of both. -/
theorem addUpTo_runBelow {mid : FileSystem} (hfs : fs.WellFormed) (hfs' : fs'.WellFormed)
    (hget : ∀ l, fs'.get? l = fs.get? l) (hmid : mid.WellFormed)
    (hleft : ∀ l, mid.get? l = (fs.revised t (fs.candidatesBelow suffix top)).get? l) :
    AddUpTo [(fs'.runBelow t .apply suffix top, none), (mid.runBelow u .apply suffix top, none)]
      (mid.runBelow u .apply suffix top).files
      (fs.runBelow ⟨t.rules ++ u.rules⟩ .apply suffix top, none) := by
  have hsame := Alike.of_get? hget
  have halike := (Alike.of_outline (outline_revised fs t (fs.candidatesBelow suffix top))).trans
    (.of_get? hleft)
  have hmem : ∀ l, l ∈ mid.candidatesBelow suffix top ↔ l ∈ fs.candidatesBelow suffix top :=
    fun l => (halike.candidatesBelow_perm hfs hmid suffix top).mem_iff
  have hfile : ∀ l content m, l ∈ fs.candidatesBelow suffix top →
      fs.get? l = some (.file content m) → mid.get? l = some (.file (t.reviseContent content) m) :=
    fun l content m hl hfile => (hleft l).trans (get?_revised_of_mem t hfile hl)
  constructor
  case files =>
    intro l
    have hrevised := get?_revised_congr u hleft hmem l
    rwa [revised_append] at hrevised
  case ending => simp
  case total =>
    simpa using ⟨hsame.total_runBelow hfs hfs' _ _ suffix top,
      halike.total_runBelow hfs hmid _ _ suffix top⟩
  case failed =>
    have htexts : ∀ l content m, l ∈ fs.candidatesBelow suffix top →
        fs.get? l = some (.file content m) → ∃ content' m', mid.get? l = some (.file content' m') ∧
          (Utf8.decode? content' = none ↔ Utf8.decode? content = none) :=
      fun l content m hl h => ⟨_, m, hfile l content m hl h, RuleTable.decode?_reviseContent⟩
    simpa using ⟨hsame.failed_runBelow hfs hfs'
      (fun l content m _ h => ⟨content, m, (hget l).trans h, Iff.rfl⟩) _ _,
      halike.failed_runBelow hfs hmid htexts _ _⟩
  case changed =>
    intro report hreport hchanged
    obtain ⟨l, hl, rfl⟩ := List.mem_map.1 hreport
    obtain ⟨content, m, h⟩ := file_of_mem_candidatesBelow hfs hl
    rw [reportOn_of_file h] at hchanged ⊢
    dsimp only at hchanged
    obtain hfirst | hsecond := RuleTable.outcome_append hchanged
    · refine ⟨(fs'.runBelow t .apply suffix top, none), by simp, List.mem_map.2 ⟨l, ?_, ?_⟩⟩
      · exact (hsame.candidatesBelow_perm hfs hfs' suffix top).mem_iff.2 hl
      · rw [reportOn_of_file ((hget l).trans h), hchanged, hfirst]
    · refine ⟨(mid.runBelow u .apply suffix top, none), by simp, List.mem_map.2 ⟨l, ?_, ?_⟩⟩
      · exact (hmem l).2 hl
      · rw [reportOn_of_file (hfile l content m hl h), hchanged, hsecond]

theorem addUpTo_attempt (hfs : fs.WellFormed) (hperm : fs'.entries.Perm fs.entries)
    (cwd : Location) (root : Path) (suffix : String) (t u : RuleTable) :
    let a := fs'.attempt cwd ⟨root, suffix, .apply⟩ t
    let b := a.1.files.attempt cwd ⟨root, suffix, .apply⟩ u
    AddUpTo [a, b] b.1.files (fs.attempt cwd ⟨root, suffix, .apply⟩ ⟨t.rules ++ u.rules⟩) := by
  intro a b
  have hfs' := hfs.of_perm hperm
  have hget := hfs.get?_perm hperm
  have hsame := Alike.of_get? hget
  obtain ⟨top, hstat⟩ | ⟨e, hroot⟩ := fs.root_cases cwd root
  · have ha : a = (fs'.runBelow t .apply suffix top, none) :=
      attempt_ok hfs' (hsame.stat_dir.2 hstat) suffix .apply t
    have houtline := outline_revised fs' t (fs'.candidatesBelow suffix top)
    have hmid := hfs'.of_outline houtline
    have hb : b = ((fs'.revised t (fs'.candidatesBelow suffix top)).runBelow u .apply suffix top,
        none) := by
      simp only [b, ha]
      exact attempt_ok hmid ((hsame.trans (.of_outline houtline)).stat_dir.2 hstat) suffix .apply u
    rw [ha, hb, attempt_ok hfs hstat]
    exact addUpTo_runBelow hfs hfs' hget hmid (get?_revised_perm hfs hperm)
  · have hroot' := (hsame.resolveRoot cwd root).trans hroot
    have ha : a = (⟨fs', .start root, []⟩, some e) := attempt_error hroot' suffix .apply t
    have hb : b = (⟨fs', .start root, []⟩, some e) := by
      simp only [b, ha]
      exact attempt_error hroot' suffix .apply u
    rw [ha, hb, attempt_error hroot]
    exact ⟨hget, by simp, by simp, by simp, by simp⟩

theorem AddUpTo.cons {runs : List (Run × Option Error)} {last : FileSystem}
    {a b single : Run × Option Error} (h : AddUpTo runs last b)
    (h' : AddUpTo [a, b] b.1.files single) : AddUpTo (a :: runs) last single := by
  constructor
  case files => exact fun l => (h.files l).trans (h'.files l)
  case ending =>
    exact List.forall_mem_cons.2 ⟨h'.ending a (by simp), fun c hc =>
      (h.ending c hc).trans (h'.ending b (by simp))⟩
  case total =>
    exact List.forall_mem_cons.2 ⟨h'.total a (by simp), fun c hc =>
      (h.total c hc).trans (h'.total b (by simp))⟩
  case failed =>
    exact List.forall_mem_cons.2 ⟨h'.failed a (by simp), fun c hc =>
      (h.failed c hc).trans (h'.failed b (by simp))⟩
  case changed =>
    intro report hreport hchanged
    obtain ⟨c, hc, hmem⟩ := h'.changed report hreport hchanged
    obtain rfl | hc := List.mem_cons.1 hc
    · exact ⟨c, by simp, hmem⟩
    · obtain rfl := List.mem_singleton.1 hc
      obtain ⟨d, hd, hmem⟩ := h.changed report hmem hchanged
      exact ⟨d, List.mem_cons_of_mem a hd, hmem⟩

/-- Runs by some tables in turn, with what they come to and what the last of them leaves. The order of
the entries can change before each run. -/
inductive RunsInTurn (cwd : Location) (root : Path) (suffix : String) :
    FileSystem → List RuleTable → List (Run × Option Error) → FileSystem → Prop
  | done (fs : FileSystem) : RunsInTurn cwd root suffix fs [] [] fs
  | run {fs fs' last : FileSystem} {t : RuleTable} {tables : List RuleTable}
      {runs : List (Run × Option Error)} (hperm : fs'.entries.Perm fs.entries)
      (hrest : RunsInTurn cwd root suffix (fs'.attempt cwd ⟨root, suffix, .apply⟩ t).1.files tables
        runs last) :
      RunsInTurn cwd root suffix fs (t :: tables)
        (fs'.attempt cwd ⟨root, suffix, .apply⟩ t :: runs) last

variable {fits : String → Bool} {tables : List RuleTable} {runs : List (Run × Option Error)}
  {last : FileSystem}

theorem addUpTo_nil (hfs : fs.WellFormed) (cwd : Location) (root : Path) (suffix : String) :
    AddUpTo [] fs (fs.attempt cwd ⟨root, suffix, .apply⟩ ⟨[]⟩) := by
  obtain ⟨top, hstat⟩ | ⟨e, hroot⟩ := fs.root_cases cwd root
  · rw [attempt_ok hfs hstat]
    refine ⟨fun l => ?_, by simp, by simp, by simp, ?_⟩
    · have hsame : ∀ e : Entry, e.revise ⟨[]⟩ = e := by
        rintro (⟨content, m⟩ | _ | _) <;> simp [Entry.revise, RuleTable.reviseContent_nil]
      simp [runBelow, left, get?_revised, hsame]
    · intro report hreport hchanged
      obtain ⟨l, hl, rfl⟩ := List.mem_map.1 hreport
      obtain ⟨content, m, h⟩ := file_of_mem_candidatesBelow hfs hl
      rw [reportOn_of_file h] at hchanged
      exact absurd (RuleTable.reviseContent_nil content) (RuleTable.outcome_changed.1 hchanged)
  · rw [attempt_error hroot]
    exact ⟨fun _ => rfl, by simp, by simp, by simp, by simp⟩

theorem RunsInTurn.addUpTo (hfs : fs.WellFormed)
    (h : RunsInTurn cwd root suffix fs tables runs last) :
    AddUpTo runs last (fs.attempt cwd ⟨root, suffix, .apply⟩ ⟨tables.flatMap (·.rules)⟩) := by
  induction h with
  | done fs => exact addUpTo_nil hfs cwd root suffix
  | @run fs fs' last t tables runs hperm hrest ih =>
    have hwf := wellFormed_attempt (hfs.of_perm hperm) cwd root suffix .apply t
    have hpair := addUpTo_attempt hfs hperm cwd root suffix t ⟨tables.flatMap (·.rules)⟩
    rw [List.flatMap_cons]
    exact (ih hwf).cons hpair

theorem exists_runsInTurn (cwd : Location) (root : Path) (suffix : String) (fs : FileSystem)
    (tables : List RuleTable) : ∃ runs last, RunsInTurn cwd root suffix fs tables runs last := by
  induction tables generalizing fs with
  | nil => exact ⟨[], fs, .done fs⟩
  | cons t tables ih =>
    obtain ⟨runs, last, h⟩ := ih (fs.attempt cwd ⟨root, suffix, .apply⟩ t).1.files
    exact ⟨_, last, .run (.refl _) h⟩

/-- Runs in turn by lists of rules leave what one run by all of the rules leaves, with as many files
and the same failures in each, and every file that the one run changes is changed by one of them. -/
theorem runsInTurn_flatten (hfs : fs.WellFormed) {lists : List (List RuleSpec)}
    (hcompile : List.Forall₂ (fun specs t => RuleTable.compile fits specs = .ok t) lists tables)
    (hruns : RunsInTurn cwd root suffix fs tables runs last) :
    ∃ whole, RuleTable.compile fits lists.flatten = .ok whole ∧
      AddUpTo runs last (fs.attempt cwd ⟨root, suffix, .apply⟩ whole) :=
  ⟨_, RuleTable.compile_flatten hcompile, hruns.addUpTo hfs⟩

theorem runsInTurn_flatten_twice :
    ∃ runs last whole,
      RunsInTurn [] (.ofString "/src") ".ts" sample [BuiltIn.table, BuiltIn.table] runs last ∧
      RuleTable.compile BuiltIn.isShort (BuiltIn.rules ++ BuiltIn.rules) = .ok whole ∧
      AddUpTo runs last (sample.attempt [] ⟨.ofString "/src", ".ts", .apply⟩ whole) := by
  have hcompile := BuiltIn.compile_rules BuiltIn.isShort_of_mem_rules
  obtain ⟨runs, last, hruns⟩ := exists_runsInTurn [] (.ofString "/src") ".ts" sample
    [BuiltIn.table, BuiltIn.table]
  obtain ⟨whole, hwhole, hadd⟩ := runsInTurn_flatten wellFormed_sample
    (.cons hcompile (.cons hcompile .nil)) hruns
  exact ⟨runs, last, whole, hruns, by simpa using hwhole, hadd⟩

end FileSystem
end Repath
