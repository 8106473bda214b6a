import Repath.Proofs.Command.Arguments
import Repath.Proofs.Command.Init
import Repath.Proofs.Files.InPlace
import Repath.Proofs.Files.Leads

namespace Repath

variable {fs : FileSystem} {cwd l : Location} {a : Arguments} {p : Path} {mode : Nat}

theorem FileSystem.pathExists_eq_true :
    fs.pathExists cwd p = true ↔ ∃ l e, fs.stat cwd p = .ok (l, e) := by
  rw [pathExists]
  rcases fs.stat cwd p with fault | ⟨l, e⟩ <;> simp

namespace Command

def ruleFilePath : Path := .ofString RuleFile.conventionalName

/-- What it comes to that a rule file is to be made, by force or without. -/
structure MakesRuleFile (fs : FileSystem) (cwd : Location) (force : Prop) (out : CommandResult) :
    Prop where
  /-- Nothing is done, or nothing differs but the file that the name leads to, which is where it
  led before if it led anywhere. -/
  ends : out.code = 1 ∧ out.files = fs ∨ out.code = 0 ∧ ∃ l mode,
    out.files.Resolves cwd ruleFilePath l (.file templateBytes mode) ∧
      (∀ k, k ≠ l → out.files.get? k = fs.get? k) ∧
      ∀ k e, fs.Resolves cwd ruleFilePath k e → k = l
  /-- What was there is as it was, but for the file that the name leads to, which force gives a new
  content and its old mode. -/
  entries : ∀ k e, fs.get? k = some e → out.files.get? k = some e ∨
    force ∧ ∃ old mode, e = .file old mode ∧ fs.Resolves cwd ruleFilePath k e ∧
      out.files.get? k = some (.file templateBytes mode)
  refused : ¬force → (∃ k e, fs.Resolves cwd ruleFilePath k e) → out.code = 1
  made : fs.get? (ruleFileIn cwd) = none → out.code = 0
  replaced : force → (∃ k old mode, fs.Resolves cwd ruleFilePath k (.file old mode)) →
    out.code = 0

variable {force : Prop} {out : CommandResult}

theorem MakesRuleFile.of_failure (hcode : out.code = 1) (hfiles : out.files = fs)
    (hmade : fs.get? (ruleFileIn cwd) ≠ none)
    (hreplaced : force → ∀ k old mode, fs.stat cwd ruleFilePath ≠ .ok (k, .file old mode)) :
    MakesRuleFile fs cwd force out where
  ends := .inl ⟨hcode, hfiles⟩
  entries := fun _ _ hk => .inl (hfiles ▸ hk)
  refused := fun _ _ => hcode
  made := fun h => absurd h hmade
  replaced := fun hforce ⟨k, old, mode, h⟩ =>
    absurd (FileSystem.stat_eq_ok_iff_resolves.2 h) (hreplaced hforce k old mode)

theorem MakesRuleFile.of_success (h : fs.WritesTo cwd ruleFilePath l mode) (hcode : out.code = 0)
    (hfiles : out.files = fs.put l (.file templateBytes mode))
    (hrefused : ¬force → ∀ k e, fs.stat cwd ruleFilePath ≠ .ok (k, e)) :
    MakesRuleFile fs cwd force out := by
  have hput := FileSystem.get?_put fs (.file templateBytes mode) h.ne_nil
  constructor
  case ends =>
    refine .inr ⟨hcode, l, mode, ?_, ?_, ?_⟩
    · rw [hfiles]
      exact FileSystem.stat_eq_ok_iff_resolves.1 (h.stat_put templateBytes)
    · intro k hk
      rw [hfiles, hput, if_neg hk]
    · intro k e hk
      exact (h.of_stat (FileSystem.stat_eq_ok_iff_resolves.2 hk)).1
  case entries =>
    intro k e hk
    rw [hfiles, hput]
    by_cases hkl : k = l
    · subst hkl
      obtain ⟨old, rfl, hstat⟩ := h.of_get? hk
      have hforce : force := by
        by_contra hforce
        exact hrefused hforce k _ hstat
      exact .inr ⟨hforce, old, mode, rfl, FileSystem.stat_eq_ok_iff_resolves.1 hstat, if_pos rfl⟩
    · exact .inl (by rw [if_neg hkl, hk])
  case refused =>
    intro hforce ⟨k, e, hk⟩
    exact absurd (FileSystem.stat_eq_ok_iff_resolves.2 hk) (hrefused hforce k e)
  case made => exact fun _ => hcode
  case replaced => exact fun _ _ => hcode

theorem MakesRuleFile.shown (h : MakesRuleFile fs cwd force out) (verbose : Bool) :
    MakesRuleFile fs cwd force (out.shown verbose) :=
  ⟨h.ends, h.entries, h.refused, h.made, h.replaced⟩

theorem init_of_absent (hnew : fs.get? (ruleFileIn cwd) = none) (content : Bytes) :
    fs.pathExists cwd ruleFilePath = false ∧
      fs.writeInPlace cwd ruleFilePath content =
        .ok (fs.put (ruleFileIn cwd) (.file content 0o644)) := by
  rw [FileSystem.pathExists, FileSystem.stat, FileSystem.writeInPlace, ruleFilePath,
    locate_ruleFile hnew, locate_ruleFile hnew]
  exact ⟨rfl, rfl⟩

theorem init_makesRuleFile (hfs : fs.WellFormed) (hcwd : fs.get? cwd = some .dir) (force : Bool) :
    MakesRuleFile fs cwd (force = true) (init fs cwd force) := by
  rw [init, ← ruleFilePath, ← templateBytes]
  by_cases hrefuse : fs.pathExists cwd ruleFilePath && !force
  · rw [if_pos hrefuse]
    obtain ⟨hexists, hforce⟩ := Bool.and_eq_true_iff.1 hrefuse
    refine .of_failure ?_ ?_ ?_ ?_
    · rfl
    · rfl
    · intro hnew
      rw [(init_of_absent hnew []).1] at hexists
      cases hexists
    · intro h
      rw [h] at hforce
      cases hforce
  · rw [if_neg hrefuse]
    obtain ⟨l, mode, hwrites, hok⟩ | ⟨fault, hnone, herror⟩ :=
      FileSystem.writeInPlace_cases hfs hcwd ruleFilePath templateBytes
    · rw [hok]
      refine .of_success hwrites ?_ ?_ ?_
      · rfl
      · rfl
      intro hforce k e hstat
      have hexists := FileSystem.pathExists_eq_true.2 ⟨k, e, hstat⟩
      exact hrefuse (by simp [hexists, hforce])
    · rw [herror]
      refine .of_failure ?_ ?_ ?_ ?_
      · rfl
      · rfl
      · intro hnew
        rw [(init_of_absent hnew templateBytes).2] at herror
        cases herror
      · exact fun _ => hnone

/-- A command line that asks for a rule file to be made changes nothing else, whatever else it says.
It fails without a trace, or the file that the name of rule files leads to is the one that spells
out the built-in settings. -/
theorem run_makesRuleFile (libraries : Libraries) (hfs : fs.WellFormed)
    (hcwd : fs.get? cwd = some .dir) {words : List String} (h : Request.ofWords words = .run a)
    (hinit : "--init" ∈ words) :
    MakesRuleFile fs cwd ("--force" ∈ words) (run libraries fs cwd words) := by
  obtain ⟨-, hinit', hforce⟩ := Request.switches_ofWords h
  have hmakes := init_makesRuleFile hfs hcwd a.force
  rw [propext hforce] at hmakes
  simp only [run, h, execute, if_pos (hinit'.2 hinit)]
  exact hmakes.shown a.verbose

def links : FileSystem :=
  let name (s : String) : Bytes := Utf8.encode s.toList
  ⟨[([name "conf"], .dir),
    ([name "conf", ruleFileName], .link (.ofString "old.toml")),
    ([name "conf", name "old.toml"], .file [] 0o600),
    ([ruleFileName], .link (.ofString "conf/new.toml"))]⟩

theorem wellFormed_links : links.WellFormed where
  nodup := by decide
  nonempty := by decide
  names := by decide
  parents := by decide

theorem run_makesRuleFile_links :
    links.WellFormed ∧ links.get? [] = some .dir ∧
    (∃ a, Request.ofWords ["--init", "rules", "show"] = .run a ∧
      MakesRuleFile links [] ("--force" ∈ ["--init", "rules", "show"])
        (run .sample links [] ["--init", "rules", "show"])) ∧
    ∃ a conf, Request.ofWords ["--init", "--force"] = .run a ∧ links.get? conf = some .dir ∧
      MakesRuleFile links conf ("--force" ∈ ["--init", "--force"])
        (run .sample links conf ["--init", "--force"]) ∧
      (run .sample links conf ["--init", "--force"]).code = 0 := by
  have hshow : Request.ofWords ["--init", "rules", "show"] =
      .run { Arguments.initial with init := true, action := .showRules } := by decide
  have hforce : Request.ofWords ["--init", "--force"] =
      .run { Arguments.initial with init := true, force := true } := by decide
  have hconf : links.get? [Utf8.encode "conf".toList] = some .dir := by decide
  have hold : links.Resolves [Utf8.encode "conf".toList] ruleFilePath
      [Utf8.encode "conf".toList, Utf8.encode "old.toml".toList] (.file [] 0o600) :=
    FileSystem.stat_eq_ok_iff_resolves.1 rfl
  have hmakes := run_makesRuleFile .sample wellFormed_links hconf hforce (by decide)
  exact ⟨wellFormed_links, rfl,
    ⟨_, hshow, run_makesRuleFile .sample wellFormed_links rfl hshow (by decide)⟩,
    _, _, hforce, hconf, hmakes, hmakes.replaced (by decide) ⟨_, _, _, hold⟩⟩

end Command
end Repath
