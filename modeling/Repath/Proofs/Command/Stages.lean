import Repath.Command.Basic
import Repath.Proofs.Rules.Table
import Repath.Proofs.Run.Revision

namespace Repath

variable {fits : String → Bool} {fs : FileSystem} {cwd top l : Location} {a : Arguments}
  {s : Settings} {e : Error} {table : RuleTable} {mode : WriteMode} {root : Path}

def Settings.Compiles (s : Settings) (fits : String → Bool) : Prop :=
  ∀ rule ∈ s.rules, rule.Compiles fits

/-- What an action asks of the settings and the files. It does not ask what the candidates hold. -/
def Settings.Suffices (s : Settings) (fits : String → Bool) (fs : FileSystem) (cwd : Location) :
    Action → Prop
  | .showRules => True
  | .validateRules => s.Compiles fits
  | .revise => s.Compiles fits ∧ ∃ top, fs.stat cwd s.root = .ok (top, .dir)

theorem Settings.suffices_congr {fs' : FileSystem} (h : FileSystem.Alike fs fs') (s : Settings)
    (cwd : Location) (action : Action) :
    s.Suffices fits fs' cwd action ↔ s.Suffices fits fs cwd action := by
  cases action with
  | showRules => rfl
  | validateRules => rfl
  | revise => simp only [Suffices, h.stat_dir]

def Libraries.sample : Libraries := ⟨fun _ => true, fun _ => "Usage: relink [OPTIONS] [COMMAND]\n"⟩

namespace Command

/-- What is said where a command ends without success: the error of the first stage that fails. -/
inductive Stops (fits : String → Bool) (fs : FileSystem) (cwd : Location) (a : Arguments) :
    String → Prop
  | ruleFile {e : Error} (h : settings fs cwd a = .error e) :
      Stops fits fs cwd a (report "Failed to load rule file" (causes e))
  | invalid {s : Settings} {bad : BadRule} (h : settings fs cwd a = .ok s)
      (ha : a.action = .validateRules) (hbad : RuleTable.Refuses fits s.rules bad) :
      Stops fits fs cwd a ("Rule error: " ++ (Error.invalidPattern bad).message ++ "\n")
  | pattern {s : Settings} {bad : BadRule} (h : settings fs cwd a = .ok s)
      (ha : a.action = .revise) (hbad : RuleTable.Refuses fits s.rules bad) :
      Stops fits fs cwd a (report "Failed to compile rules" (causes (.invalidPattern bad)))
  | rootMissing {s : Settings} {fault : Fault} (h : settings fs cwd a = .ok s)
      (ha : a.action = .revise) (hrules : s.Compiles fits)
      (hroot : fs.stat cwd s.root = .error fault) :
      Stops fits fs cwd a
        (report ("Failed to rewrite " ++ s.root.display) (causes (.rootNotFound s.root fault)))
  | rootOther {s : Settings} {l : Location} {entry : Entry} (h : settings fs cwd a = .ok s)
      (ha : a.action = .revise) (hrules : s.Compiles fits)
      (hroot : fs.stat cwd s.root = .ok (l, entry)) (hne : entry ≠ .dir) :
      Stops fits fs cwd a
        (report ("Failed to rewrite " ++ s.root.display) (causes (.rootNotDirectory l.path)))

/-- A command has succeeded just when it could. Otherwise it has stopped with an error and left all
files alone, and they are not changed unless they may be. -/
structure EndsAs (fs : FileSystem) (success writes : Prop) (stops : String → Prop)
    (out : CommandResult) : Prop where
  success : out.code = 0 ↔ success
  failure : out.code ≠ 0 → out.code = 1 ∧ out.files = fs ∧ stops out.message
  changes : out.files ≠ fs → out.code = 0 ∧ writes

variable {success writes : Prop} {stops : String → Prop} {out : CommandResult}

theorem EndsAs.of_success (h : success) (hcode : out.code = 0) (hfiles : out.files ≠ fs → writes) :
    EndsAs fs success writes stops out :=
  ⟨⟨fun _ => h, fun _ => hcode⟩, fun hne => absurd hcode hne, fun hne => ⟨hcode, hfiles hne⟩⟩

theorem EndsAs.of_failure (h : ¬success) (hcode : out.code = 1) (hfiles : out.files = fs)
    (hstops : stops out.message) : EndsAs fs success writes stops out :=
  ⟨⟨fun hzero => absurd (hcode.symm.trans hzero) (by decide), fun hs => absurd hs h⟩,
    fun _ => ⟨hcode, hfiles, hstops⟩, fun hne => absurd hfiles hne⟩

theorem EndsAs.shown (h : EndsAs fs success writes stops out) (verbose : Bool) :
    EndsAs fs success writes stops (out.shown verbose) :=
  ⟨h.success, h.failure, h.changes⟩

theorem EndsAs.code_eq {fs' : FileSystem} {success' writes' : Prop} {stops' : String → Prop}
    {out' : CommandResult} (h : EndsAs fs success writes stops out)
    (h' : EndsAs fs' success' writes' stops' out') (hiff : success' ↔ success) :
    out'.code = out.code := by
  by_cases hcode : out.code = 0
  · rw [hcode, h'.success, hiff]
    exact h.success.1 hcode
  · have hcode' : out'.code ≠ 0 := fun hzero => hcode (h.success.2 (hiff.1 (h'.success.1 hzero)))
    rw [(h.failure hcode).1, (h'.failure hcode').1]

theorem revise_eq (hfs : fs.WellFormed) (hcompile : RuleTable.compile fits s.rules = .ok table)
    (hstat : fs.stat cwd s.root = .ok (top, .dir)) (mode : WriteMode) :
    let options : RunOptions := ⟨top.path, s.extension, mode⟩
    let out := (fs.runBelow table mode s.extension top, none)
    revise fits fs cwd s mode =
      (conclude options table.size out).after (fs.log cwd options table.size out) := by
  have hroot := FileSystem.resolveRoot_eq_ok.2 ⟨top, hstat, rfl⟩
  have hpath : fs.stat cwd top.path = .ok (top, .dir) :=
    FileSystem.stat_path hfs (FileSystem.get?_of_stat hstat) cwd (by simp)
  simp only [revise, hcompile, hroot, FileSystem.attempt_ok hfs hpath]

theorem revise_ok (hfs : fs.WellFormed) (hcompile : RuleTable.compile fits s.rules = .ok table)
    (hstat : fs.stat cwd s.root = .ok (top, .dir)) (mode : WriteMode) :
    (revise fits fs cwd s mode).code = 0 ∧
      (revise fits fs cwd s mode).files =
        fs.left table mode (fs.candidatesBelow s.extension top) := by
  rw [revise_eq hfs hcompile hstat]
  exact ⟨rfl, rfl⟩

theorem endsAs_validateRules (h : settings fs cwd a = .ok s) (ha : a.action = .validateRules) :
    EndsAs fs (s.Compiles fits) False (Stops fits fs cwd a) (validateRules fits fs s) := by
  rw [validateRules]
  cases hcompile : RuleTable.compile fits s.rules with
  | ok table =>
    exact .of_success (RuleTable.compiles_of_compile hcompile) rfl fun hne => absurd rfl hne
  | error bad =>
    have hbad := RuleTable.refuses_of_compile hcompile
    exact .of_failure hbad.not_compiles rfl rfl (.invalid h ha hbad)

theorem endsAs_revise (hfs : fs.WellFormed) (h : settings fs cwd a = .ok s)
    (ha : a.action = .revise) (mode : WriteMode) :
    EndsAs fs (s.Suffices fits fs cwd .revise) (mode = .apply) (Stops fits fs cwd a)
      (revise fits fs cwd s mode) := by
  cases hcompile : RuleTable.compile fits s.rules with
  | error bad =>
    have hbad := RuleTable.refuses_of_compile hcompile
    simp only [revise, hcompile]
    exact .of_failure (fun hs => hbad.not_compiles hs.1) rfl rfl (.pattern h ha hbad)
  | ok table =>
    have hrules : s.Compiles fits := RuleTable.compiles_of_compile hcompile
    obtain ⟨top, hstat⟩ | ⟨e, hroot⟩ := fs.root_cases cwd s.root
    · obtain ⟨hcode, hfiles⟩ := revise_ok hfs hcompile hstat mode
      refine .of_success ⟨hrules, top, hstat⟩ hcode fun hne => ?_
      cases mode with
      | apply => rfl
      | dryRun => exact absurd hfiles hne
    · have hnot : ¬s.Suffices fits fs cwd .revise := by
        rintro ⟨-, top, hstat⟩
        exact FileSystem.not_dir_of_error hroot top hstat
      simp only [revise, hcompile, hroot]
      obtain ⟨fault, hstat, rfl⟩ | ⟨l, entry, hstat, hne, rfl⟩ :=
        FileSystem.resolveRoot_eq_error.1 hroot
      · exact .of_failure hnot rfl rfl (.rootMissing h ha hrules hstat)
      · exact .of_failure hnot rfl rfl (.rootOther h ha hrules hstat hne)

/-- The commands go through the same stages, and each stops after as many as it needs. -/
theorem endsAs_execute (hfs : fs.WellFormed) (cwd : Location) (hinit : a.init = false) :
    EndsAs fs (∃ s, settings fs cwd a = .ok s ∧ s.Suffices fits fs cwd a.action)
      (a.action = .revise ∧ a.dryRun = false) (Stops fits fs cwd a) (execute fits fs cwd a) := by
  rw [execute, if_neg (by simp [hinit])]
  cases hsettings : settings fs cwd a with
  | error e => exact .of_failure (by simp) rfl rfl (.ruleFile hsettings)
  | ok s =>
    simp only [Except.ok.injEq, exists_eq_left']
    cases haction : a.action with
    | showRules => exact .of_success trivial rfl fun hne => absurd rfl hne
    | validateRules =>
      obtain ⟨hsuccess, hfailure, hchanges⟩ := endsAs_validateRules hsettings haction
      exact ⟨hsuccess, hfailure, fun hne => (hchanges hne).2.elim⟩
    | revise =>
      obtain ⟨hsuccess, hfailure, hchanges⟩ :=
        endsAs_revise hfs hsettings haction (if a.dryRun then .dryRun else .apply)
      refine ⟨hsuccess, hfailure, fun hne => ⟨(hchanges hne).1, rfl, ?_⟩⟩
      simpa using (hchanges hne).2

/-- A command line that is understood, and does not ask for a rule file to be made, succeeds if its
settings can be loaded and, as far as they matter to it, all rules compile and the root leads to a
directory. Otherwise it has code 1 and the error of what fails first, and nothing has changed; only a
run that succeeds can have changed anything. What the files hold matters to the settings alone. -/
theorem run_stages (libraries : Libraries) (hfs : fs.WellFormed) (cwd : Location)
    {words : List String} (h : Request.ofWords words = .run a)
    (hinit : a.init = false) :
    EndsAs fs (∃ s, settings fs cwd a = .ok s ∧ s.Suffices libraries.fits fs cwd a.action)
      (a.action = .revise ∧ a.dryRun = false) (Stops libraries.fits fs cwd a)
      (run libraries fs cwd words) ∧
    ∀ fs' : FileSystem, fs'.WellFormed → fs.Alike fs' → settings fs' cwd a = settings fs cwd a →
      (run libraries fs' cwd words).code = (run libraries fs cwd words).code := by
  simp only [run, h]
  have hends := (@endsAs_execute libraries.fits _ _ hfs cwd hinit).shown a.verbose
  refine ⟨hends, fun fs' hfs' halike hsettings => ?_⟩
  refine hends.code_eq ((endsAs_execute hfs' cwd hinit).shown a.verbose) ?_
  simp only [hsettings, Settings.suffices_congr halike]

theorem run_stages_sample :
    let a := { Arguments.initial with root := some "/src" }
    Request.ofWords ["--root", "/src"] = .run a ∧ a.init = false ∧
      EndsAs FileSystem.sample
        (∃ s, settings .sample [] a = .ok s ∧ s.Suffices Libraries.sample.fits .sample [] a.action)
        (a.action = .revise ∧ a.dryRun = false) (Stops Libraries.sample.fits .sample [] a)
        (run .sample .sample [] ["--root", "/src"]) := by
  intro a
  have h : Request.ofWords ["--root", "/src"] = .run a := by decide
  exact ⟨h, rfl, (run_stages .sample FileSystem.wellFormed_sample [] h rfl).1⟩

end Command
end Repath
