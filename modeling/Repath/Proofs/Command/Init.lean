import Repath.Proofs.Command.Arguments
import Repath.Proofs.Command.Stages
import Repath.Proofs.Config.RoundTrip
import Repath.Proofs.Files.Beside

namespace Repath

/-- The command lines that say at most where to run, whether to write and whether to tell more. -/
inductive RunWords : List String → Prop
  | nil : RunWords []
  | root (dir : String) {words : List String} : RunWords words → RunWords ("--root" :: dir :: words)
  | dryRun {words : List String} : RunWords words → RunWords ("--dry-run" :: words)
  | verbose {words : List String} : RunWords words → RunWords ("-v" :: words)

theorem RunWords.read {words : List String} (h : RunWords words) (given : List Arguments.Flag)
    (a : Arguments) : Arguments.read .top given a words = .refused ∨
      ∃ root dryRun verbose,
        Arguments.read .top given a words = .run { a with root, dryRun, verbose } := by
  induction h generalizing given a with
  | nil =>
    rw [Arguments.read]
    split
    · exact .inl rfl
    · exact .inr ⟨a.root, a.dryRun, a.verbose, rfl⟩
  | root dir h ih =>
    rw [← Arguments.word_root]
    have hflag : Arguments.flag? .top Arguments.Flag.root.name = some .root := rfl
    obtain hread | hread := Arguments.read_valued hflag rfl given a dir _
    · exact .inl hread
    · rw [hread]
      exact ih _ _
  | dryRun h ih =>
    rw [← Arguments.word_dryRun]
    have hflag : Arguments.flag? .top Arguments.Flag.dryRun.name = some .dryRun := rfl
    obtain hread | hread := Arguments.read_switch hflag rfl given a _
    · exact .inl hread
    · rw [hread]
      exact ih _ _
  | verbose h ih =>
    rw [Arguments.read_short]
    have hflag : Arguments.flag? .top Arguments.Flag.verbose.name = some .verbose := rfl
    obtain hread | hread := Arguments.read_switch hflag rfl given a _
    · exact .inl hread
    · rw [hread]
      exact ih _ _

namespace Command

variable {fits : String → Bool} {fs : FileSystem} {cwd l : Location} {a : Arguments}
  {s s' : Settings} {words : List String} {source : RuleSource} {k above : Location}
  {name content : Bytes} {m : Nat} {suffix : String} {mode : WriteMode}

def ruleFileName : Bytes := Utf8.encode RuleFile.conventionalName.toList

theorem isName_ruleFileName : FileSystem.IsName ruleFileName := by decide

def ruleFileIn (cwd : Location) : Location := cwd ++ [ruleFileName]

def templateBytes : Bytes := Utf8.encode RuleFile.template.toList

/-- The files with a rule file made in a directory that has none. -/
def initialized (fs : FileSystem) (cwd : Location) : FileSystem :=
  fs.beside (ruleFileIn cwd) templateBytes 0o644

theorem unused_ruleFileIn (hfs : fs.WellFormed) (hnew : fs.get? (ruleFileIn cwd) = none) :
    fs.Unused (ruleFileIn cwd) :=
  FileSystem.unused_of_get? hfs (by simp [ruleFileIn]) hnew

theorem locate_ruleFile (hnew : fs.get? (ruleFileIn cwd) = none) (purpose : Purpose) :
    fs.locate cwd purpose (.ofString RuleFile.conventionalName) =
      .ok (.absent (ruleFileIn cwd)) := by
  have hnames : (Path.ofString RuleFile.conventionalName).names = [ruleFileName] := by decide
  have hrelative : (Path.ofString RuleFile.conventionalName).isAbsolute = false := by decide
  refine FileSystem.locate_eq_ok.2 ⟨by decide, by decide, ?_⟩
  rw [hnames, hrelative, if_neg (by simp)]
  exact FileSystem.follow_place (FileSystem.descend_absent isName_ruleFileName purpose hnew)

theorem init_absent (hfs : fs.WellFormed) (hnew : fs.get? (ruleFileIn cwd) = none) :
    init fs cwd false =
      succeed (initialized fs cwd) (lines ["Created " ++ RuleFile.conventionalName]) := by
  have hexists : fs.pathExists cwd (.ofString RuleFile.conventionalName) = false := by
    rw [FileSystem.pathExists, FileSystem.stat, locate_ruleFile hnew]
    rfl
  have hwrite : fs.writeInPlace cwd (.ofString RuleFile.conventionalName) templateBytes =
      .ok (initialized fs cwd) := by
    rw [FileSystem.writeInPlace, locate_ruleFile hnew]
    exact congrArg Except.ok (FileSystem.put_absent (unused_ruleFileIn hfs hnew) _ _)
  rw [init, hexists]
  simp only [Bool.false_and, Bool.false_eq_true, if_false]
  rw [← templateBytes, hwrite]

theorem wellFormed_initialized (hfs : fs.WellFormed) (hcwd : fs.get? cwd = some .dir)
    (hnew : fs.get? (ruleFileIn cwd) = none) : (initialized fs cwd).WellFormed :=
  FileSystem.wellFormed_beside hfs (unused_ruleFileIn hfs hnew) hcwd isName_ruleFileName

def builtInSettings (root : Option String) (source : RuleSource) : Settings where
  root := (root.map Path.ofString).getD (.ofString BuiltIn.root)
  extension := BuiltIn.extension
  rules := BuiltIn.rules
  source := source

theorem join_ruleFile (hfs : fs.WellFormed) (hcwd : fs.get? cwd = some .dir) :
    cwd.path.join (.ofString RuleFile.conventionalName) = (ruleFileIn cwd).path := by
  have hjoin := Location.join_path (hfs.isName hcwd) isName_ruleFileName []
  rw [List.append_nil, List.append_nil] at hjoin
  exact hjoin

theorem settings_absent (hfs : fs.WellFormed) (hcwd : fs.get? cwd = some .dir)
    (hnew : fs.get? (ruleFileIn cwd) = none) (ha : a.ruleFile = none) (hext : a.extension = none) :
    settings fs cwd a = .ok (builtInSettings a.root .builtIn) := by
  have hfile : fs.isFile cwd (ruleFileIn cwd).path = false := by
    rw [FileSystem.isFile, FileSystem.stat, ruleFileIn,
      FileSystem.locate_absent hfs hcwd isName_ruleFileName hnew]
    rfl
  have hdiscover : fs.discover cwd none cwd.path = .ok none := by
    simp only [FileSystem.discover, join_ruleFile hfs hcwd, hfile]
    rfl
  rw [settings, ha, hext, FileSystem.loadSettings, Option.map_none, hdiscover]
  simp [Settings.resolve, builtInSettings]

theorem stat_ruleFile (hfs : fs.WellFormed) (hcwd : fs.get? cwd = some .dir)
    (hnew : fs.get? (ruleFileIn cwd) = none) :
    (initialized fs cwd).stat cwd (ruleFileIn cwd).path =
      .ok (ruleFileIn cwd, .file templateBytes 0o644) :=
  FileSystem.stat_path (wellFormed_initialized hfs hcwd hnew)
    (unused_ruleFileIn hfs hnew).get?_beside cwd (by simp)

theorem readRuleFile_initialized (hfs : fs.WellFormed) (hcwd : fs.get? cwd = some .dir)
    (hnew : fs.get? (ruleFileIn cwd) = none) :
    (initialized fs cwd).readRuleFile cwd (ruleFileIn cwd).path =
      .ok ⟨some (.ofString BuiltIn.root), some BuiltIn.extension, BuiltIn.rules⟩ := by
  have hflaw : RuleFile.flaw? ⟨some (.ofString BuiltIn.root), some BuiltIn.extension,
      BuiltIn.rules⟩ = none := by decide +kernel
  have hdecode : Utf8.decode? templateBytes = some RuleFile.template.toList :=
    Utf8.decode?_eq_some_iff.2 rfl
  have htext : (initialized fs cwd).readText cwd (ruleFileIn cwd).path = .ok RuleFile.template := by
    rw [FileSystem.readText_path (wellFormed_initialized hfs hcwd hnew)
      (unused_ruleFileIn hfs hnew).get?_beside, hdecode]
    exact congrArg Except.ok String.ofList_toList
  have hread : (initialized fs cwd).readRuleFile cwd (ruleFileIn cwd).path =
      RuleFile.parseFor (ruleFileIn cwd).path RuleFile.template := by
    simp only [FileSystem.readRuleFile, htext, Except.mapError, bind, Except.bind]
  rw [hread, RuleFile.template, RuleFile.parseFor_written, hflaw]

theorem builtIn_rules_ne_nil : BuiltIn.rules ≠ [] := by simp [BuiltIn.rules]

theorem settings_initialized (hfs : fs.WellFormed) (hcwd : fs.get? cwd = some .dir)
    (hnew : fs.get? (ruleFileIn cwd) = none) (ha : a.ruleFile = none) (hext : a.extension = none) :
    settings (initialized fs cwd) cwd a =
      .ok (builtInSettings a.root (.file (ruleFileIn cwd).path)) := by
  have hfile : (initialized fs cwd).isFile cwd (ruleFileIn cwd).path = true := by
    rw [FileSystem.isFile, stat_ruleFile hfs hcwd hnew]
  have hdiscover : (initialized fs cwd).discover cwd none cwd.path =
      .ok (some ⟨⟨some (.ofString BuiltIn.root), some BuiltIn.extension, BuiltIn.rules⟩,
        (ruleFileIn cwd).path⟩) := by
    simp only [FileSystem.discover, join_ruleFile hfs hcwd, hfile,
      readRuleFile_initialized hfs hcwd hnew]
    rfl
  rw [settings, ha, hext, FileSystem.loadSettings, Option.map_none, hdiscover]
  obtain ⟨rule, rest, hrules⟩ := List.exists_cons_of_ne_nil builtIn_rules_ne_nil
  cases hroot : a.root <;>
    simp [Settings.resolve, builtInSettings, hrules, bind, Except.bind, pure, Except.pure]

theorem reportOn_beside (h : k ≠ l) (table : RuleTable) (root : Path) :
    (fs.beside l content m).reportOn table root k = fs.reportOn table root k := by
  simp only [FileSystem.reportOn, FileSystem.get?_beside_of_ne h]

theorem runBelow_beside (hfs : fs.WellFormed) (hnew : fs.get? (above ++ [name]) = none)
    (hsuffix : hasSuffix suffix name = false) (content : Bytes) (m : Nat) (table : RuleTable)
    (mode : WriteMode) (top : Location) :
    let r := fs.runBelow table mode suffix top
    let r' := (fs.beside (above ++ [name]) content m).runBelow table mode suffix top
    r'.reports = r.reports ∧ r'.summary = r.summary ∧
      ∀ l, l ≠ above ++ [name] → r'.files.get? l = r.files.get? l := by
  have hreports : (fs.candidatesBelow suffix top).map
      ((fs.beside (above ++ [name]) content m).reportOn table top.path) =
        (fs.candidatesBelow suffix top).map (fs.reportOn table top.path) := by
    refine List.map_congr_left fun l hl => reportOn_beside ?_ table top.path
    rintro rfl
    obtain ⟨content, m, hfile⟩ := FileSystem.file_of_mem_candidatesBelow hfs hl
    rw [hnew] at hfile
    cases hfile
  simp only [FileSystem.runBelow, FileSystem.candidatesBelow_beside hfs hsuffix, hreports,
    true_and]
  intro l hl
  cases mode with
  | dryRun => exact FileSystem.get?_beside_of_ne hl
  | apply => rw [FileSystem.left, FileSystem.left, FileSystem.get?_revised,
      FileSystem.get?_revised, FileSystem.get?_beside_of_ne hl]

theorem exists_of_revise (h : (revise fits fs cwd s mode).code = 0) :
    ∃ table top, RuleTable.compile fits s.rules = .ok table ∧
      fs.stat cwd s.root = .ok (top, .dir) := by
  cases hcompile : RuleTable.compile fits s.rules with
  | error bad =>
    simp only [revise, hcompile] at h
    cases h
  | ok table =>
    obtain ⟨top, hstat⟩ | ⟨e, hroot⟩ := fs.root_cases cwd s.root
    · exact ⟨table, top, rfl, hstat⟩
    · simp only [revise, hcompile, hroot] at h
      cases h

theorem revise_beside (hfs : fs.WellFormed) (habove : fs.get? above = some .dir)
    (hname : FileSystem.IsName name) (hnew : fs.get? (above ++ [name]) = none)
    (hsuffix : hasSuffix s.extension name = false) (content : Bytes) (m : Nat)
    (source : RuleSource) (hcode : (revise fits fs cwd s mode).code = 0) :
    let out := revise fits fs cwd s mode
    let out' := revise fits (fs.beside (above ++ [name]) content m) cwd { s with source } mode
    out'.code = out.code ∧ out'.stdout = out.stdout ∧
      ∀ l, l ≠ above ++ [name] → out'.files.get? l = out.files.get? l := by
  have hunused := FileSystem.unused_of_get? hfs (by simp) hnew
  obtain ⟨table, top, hcompile, hstat⟩ := exists_of_revise hcode
  have hstat' := (hunused.within content m).stat hstat
  have hfs' : (fs.beside (above ++ [name]) content m).WellFormed :=
    FileSystem.wellFormed_beside hfs hunused habove hname
  have hbelow := runBelow_beside hfs hnew hsuffix content m table mode top
  intro out out'
  have hout : out = _ := revise_eq hfs hcompile hstat mode
  have hout' : out' = _ := revise_eq (s := { s with source }) hfs' hcompile hstat' mode
  rw [hout, hout']
  obtain ⟨hreports, hsummary, hfiles⟩ := hbelow
  refine ⟨rfl, ?_, hfiles⟩
  simp only [CommandResult.stdout_after, conclude, succeed, hreports, hsummary]

theorem run_of_settings (libraries : Libraries) {root : Option String} {dryRun verbose : Bool}
    (hwords : Request.ofWords words = .run { Arguments.initial with root, dryRun, verbose })
    (h : settings fs cwd { Arguments.initial with root, dryRun, verbose } = .ok s) :
    ∃ events, run libraries fs cwd words =
      ((revise libraries.fits fs cwd s (if dryRun then .dryRun else .apply)).after events).shown
        verbose := by
  simp only [run, hwords, execute, h]
  exact ⟨_, rfl⟩

theorem run_init (libraries : Libraries) (hfs : fs.WellFormed)
    (hnew : fs.get? (ruleFileIn cwd) = none) :
    run libraries fs cwd ["--init"] =
      succeed (initialized fs cwd) (lines ["Created " ++ RuleFile.conventionalName]) := by
  have hwords : Request.ofWords ["--init"] = .run { Arguments.initial with init := true } := by
    decide
  simp only [run, hwords, execute, if_pos]
  exact congrArg (CommandResult.shown false) (init_absent hfs hnew)

/-- A command line that says at most where to run, whether to write and whether to tell more, and
that succeeds where the current directory has no rule file, does so all the same once a rule file
has been made there: it has the same code, prints the same and leaves all else in the same state. -/
theorem run_initialized (libraries : Libraries) (hfs : fs.WellFormed)
    (hcwd : fs.get? cwd = some .dir) (hnew : fs.get? (ruleFileIn cwd) = none)
    (hwords : RunWords words) (hcode : (run libraries fs cwd words).code = 0) :
    let made := run libraries fs cwd ["--init"]
    let out := run libraries fs cwd words
    let out' := run libraries made.files cwd words
    made.code = 0 ∧ out'.code = out.code ∧ out'.stdout = out.stdout ∧
      ∀ l, l ≠ ruleFileIn cwd → out'.files.get? l = out.files.get? l := by
  have hsuffix : hasSuffix BuiltIn.extension ruleFileName = false := by decide
  simp only [run_init libraries hfs hnew]
  refine ⟨rfl, ?_⟩
  obtain hread | ⟨root, dryRun, verbose, hread⟩ := hwords.read [] .initial
  · have hrefused : Request.ofWords words = .refused := hread
    simp only [run, hrefused] at hcode
    cases hcode
  have hasked : Request.ofWords words = .run { Arguments.initial with root, dryRun, verbose } :=
    hread
  obtain ⟨events, hrun⟩ :=
    run_of_settings libraries hasked (settings_absent hfs hcwd hnew rfl rfl)
  obtain ⟨events', hrun'⟩ :=
    run_of_settings libraries hasked (settings_initialized hfs hcwd hnew rfl rfl)
  rw [hrun, CommandResult.code_shown, CommandResult.code_after] at hcode
  have hsame := revise_beside hfs hcwd isName_ruleFileName hnew hsuffix templateBytes 0o644
    (.file (ruleFileIn cwd).path) hcode
  dsimp only [succeed]
  rw [hrun, hrun']
  simp only [CommandResult.code_shown, CommandResult.code_after, CommandResult.stdout_shown,
    CommandResult.stdout_after, CommandResult.files_shown, CommandResult.files_after]
  exact hsame

theorem code_sample : (run .sample .sample [] ["--root", "/src"]).code = 0 := by
  have hnew : FileSystem.sample.get? (ruleFileIn []) = none := by decide
  have hwords : Request.ofWords ["--root", "/src"] =
      .run { Arguments.initial with root := some "/src" } := by decide
  have hrules : (builtInSettings (some "/src") .builtIn).rules = BuiltIn.rules := rfl
  have hcompile := @BuiltIn.compile_rules Libraries.sample.fits fun _ _ => rfl
  rw [← hrules] at hcompile
  obtain ⟨events, hrun⟩ := run_of_settings .sample hwords
    (settings_absent FileSystem.wellFormed_sample rfl hnew rfl rfl)
  rw [hrun, CommandResult.code_shown, CommandResult.code_after]
  exact (revise_ok FileSystem.wellFormed_sample hcompile FileSystem.stat_sample _).1

theorem run_initialized_sample :
    FileSystem.sample.WellFormed ∧ FileSystem.sample.get? [] = some .dir ∧
      FileSystem.sample.get? (ruleFileIn []) = none ∧ RunWords ["--root", "/src"] ∧
      (run .sample .sample [] ["--root", "/src"]).code = 0 ∧
      let made := run .sample .sample [] ["--init"]
      let out := run .sample .sample [] ["--root", "/src"]
      let out' := run .sample made.files [] ["--root", "/src"]
      made.code = 0 ∧ out'.code = out.code ∧ out'.stdout = out.stdout ∧
        ∀ l, l ≠ ruleFileIn [] → out'.files.get? l = out.files.get? l := by
  have hnew : FileSystem.sample.get? (ruleFileIn []) = none := by decide
  have hwords : RunWords ["--root", "/src"] := .root "/src" .nil
  exact ⟨FileSystem.wellFormed_sample, rfl, hnew, hwords, code_sample,
    run_initialized .sample FileSystem.wellFormed_sample rfl hnew hwords code_sample⟩

end Command
end Repath
