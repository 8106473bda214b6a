import Repath.Proofs.Command.Arguments
import Repath.Proofs.Command.Init
import Repath.Proofs.Config.Schema
import Repath.Proofs.Files.Leads
import Repath.Proofs.Files.Passing

namespace Repath

variable {fs fs' : FileSystem} {cwd l k : Location} {overrides : Overrides} {p dir dir' : Path}
  {loaded : Option LoadedRuleFile} {s : Settings} {f : RuleFile} {flaw : RuleFile.Flaw}
  {content : Bytes} {mode : Nat} {r : Except Error Settings}

namespace RuleFile

/-- What a rule file is refused for. The empty extension goes before rules, and the first rule
without a pattern before others. -/
inductive HasFlaw (f : RuleFile) : Flaw → Prop
  | emptyExtension (h : f.extension = some "") : HasFlaw f .emptyExtension
  | emptyPattern {before after : List RuleSpec} {rule : RuleSpec} (h : f.extension ≠ some "")
      (hrules : f.rules = before ++ rule :: after) (hbefore : ∀ b ∈ before, b.pattern ≠ "")
      (hrule : rule.pattern = "") : HasFlaw f (.emptyPattern (before.length + 1))

def Sound (f : RuleFile) : Prop := f.extension ≠ some "" ∧ ∀ rule ∈ f.rules, rule.pattern ≠ ""

theorem HasFlaw.flaw?_eq (h : f.HasFlaw flaw) : f.flaw? = some flaw := by
  cases h with
  | emptyExtension h => exact if_pos h
  | emptyPattern h hrules hbefore hrule =>
    rw [flaw?_of_rules h, hrules, firstEmptyPattern?_append hbefore hrule, Nat.add_comm]
    rfl

theorem Sound.flaw?_eq (h : f.Sound) : f.flaw? = none := by
  rw [flaw?_of_rules h.1, firstEmptyPattern?_eq_none.2 h.2, Option.map_none]

theorem sound_or_hasFlaw (f : RuleFile) : f.Sound ∨ ∃ flaw, f.HasFlaw flaw := by
  by_cases h : f.extension = some ""
  · exact .inr ⟨_, .emptyExtension h⟩
  cases hfind : f.rules.find? (·.pattern == "") with
  | none => exact .inl ⟨h, by simpa using hfind⟩
  | some rule =>
    obtain ⟨hrule, before, after, hrules, hbefore⟩ := List.find?_eq_some_iff_append.1 hfind
    exact .inr ⟨_, .emptyPattern h hrules (by simpa using hbefore) (by simpa using hrule)⟩

end RuleFile

/-- The value of a setting: what the command line gives, or else what the rule file gives, or else
what is built in. -/
inductive Chosen {α : Type} (initial : α) : Option α → Option α → α → Prop
  | override (x : α) (file : Option α) : Chosen initial (some x) file x
  | file (x : α) : Chosen initial none (some x) x
  | initial : Chosen initial none none initial

theorem chosen_or {α : Type} (initial : α) (override file : Option α) :
    Chosen initial override file ((override.or file).getD initial) := by
  cases override with
  | some x => exact .override x file
  | none =>
    cases file with
    | some x => exact .file x
    | none => exact .initial

theorem Chosen.unique {α : Type} {initial x y : α} {override file : Option α}
    (hx : Chosen initial override file x) (hy : Chosen initial override file y) : x = y := by
  cases hx <;> cases hy <;> rfl

theorem Chosen.ne {α : Type} {initial x y : α} {override file : Option α}
    (h : Chosen initial override file x) (hinitial : initial ≠ y) (hoverride : override ≠ some y)
    (hfile : file ≠ some y) : x ≠ y := by
  cases h with
  | override => exact fun hx => hoverride (congrArg some hx)
  | file => exact fun hx => hfile (congrArg some hx)
  | initial => exact hinitial

namespace Settings

/-- The settings under a rule file that has been loaded, or without one. -/
structure Follows (overrides : Overrides) (loaded : Option LoadedRuleFile) (s : Settings) :
    Prop where
  root : Chosen (.ofString BuiltIn.root) overrides.root (loaded.bind (·.file.root)) s.root
  extension : Chosen BuiltIn.extension overrides.extension (loaded.bind (·.file.extension))
    s.extension
  rules : (∃ file path, loaded = some ⟨file, path⟩ ∧ file.rules ≠ [] ∧ s.rules = file.rules ∧
      s.source = .file path) ∨
    (∀ file path, loaded = some ⟨file, path⟩ → file.rules = []) ∧ s.rules = BuiltIn.rules ∧
      s.source = .builtIn

theorem follows_resolve (overrides : Overrides) (loaded : Option LoadedRuleFile) :
    (resolve overrides loaded).Follows overrides loaded := by
  rcases loaded with _ | ⟨⟨root, extension, _ | ⟨rule, rest⟩⟩, path⟩
  · exact ⟨chosen_or _ _ _, chosen_or _ _ _, .inr ⟨by simp, rfl, rfl⟩⟩
  · exact ⟨chosen_or _ _ _, chosen_or _ _ _, .inr ⟨by simp_all, rfl, rfl⟩⟩
  · exact ⟨chosen_or _ _ _, chosen_or _ _ _, .inl ⟨_, _, rfl, by simp, rfl, rfl⟩⟩

theorem Follows.unique {s' : Settings} (h : s.Follows overrides loaded)
    (h' : s'.Follows overrides loaded) : s = s' := by
  have hroot := h.root.unique h'.root
  have hextension := h.extension.unique h'.extension
  obtain ⟨root, extension, rules, source⟩ := s
  obtain ⟨root', extension', rules', source'⟩ := s'
  obtain ⟨file, path, hloaded, hne, hrules⟩ | ⟨hnone, hrules⟩ := h.rules <;>
    obtain ⟨file', path', hloaded', hne', hrules'⟩ | ⟨hnone', hrules'⟩ := h'.rules
  all_goals simp_all

theorem Follows.eq_resolve (h : s.Follows overrides loaded) : resolve overrides loaded = s :=
  (follows_resolve overrides loaded).unique h

theorem builtIn_patterns : ∀ rule ∈ BuiltIn.rules, rule.pattern ≠ "" := by decide +kernel

/-- Settings that say what to do, unless the command line asks for an empty suffix. -/
structure Usable (overrides : Overrides) (s : Settings) : Prop where
  rules : s.rules ≠ []
  patterns : ∀ rule ∈ s.rules, rule.pattern ≠ ""
  extension : overrides.extension ≠ some "" → s.extension ≠ ""

theorem Follows.usable (h : s.Follows overrides loaded)
    (hfile : ∀ l, loaded = some l → l.file.Sound) : s.Usable overrides := by
  constructor
  case rules =>
    obtain ⟨file, path, -, hne, hrules, -⟩ | ⟨-, hrules, -⟩ := h.rules
    · rwa [hrules]
    · rw [hrules]
      exact Command.builtIn_rules_ne_nil
  case patterns =>
    obtain ⟨file, path, hloaded, -, hrules, -⟩ | ⟨-, hrules, -⟩ := h.rules
    · rw [hrules]
      exact (hfile _ hloaded).2
    · rw [hrules]
      exact builtIn_patterns
  case extension =>
    intro hoverride
    apply h.extension.ne (by decide) hoverride
    intro hgiven
    obtain ⟨l, hl, hextension⟩ := Option.bind_eq_some_iff.1 hgiven
    exact (hfile l hl).1 hextension

end Settings

def RuleFile.pathIn (dir : Path) : Path := dir.join (.ofString conventionalName)

namespace FileSystem

open Toml (Document)
open RuleFile (Conforms)

/-- What comes of a path that is used for the rule file. -/
inductive Uses (fs : FileSystem) (cwd : Location) (overrides : Overrides) (p : Path) :
    Except Error Settings → Prop
  | notFound (h : ∀ l content mode, ¬fs.Resolves cwd p l (.file content mode)) :
      Uses fs cwd overrides p (.error (.ruleFileNotFound p))
  | unreadable {l : Location} {content : Bytes} {mode : Nat}
      (hp : fs.Resolves cwd p l (.file content mode)) (h : ∀ cs, content ≠ Utf8.encode cs) :
      Uses fs cwd overrides p (.error (.ruleFileRead p .notUtf8))
  | malformed {l : Location} {cs : List Char} {mode : Nat}
      (hp : fs.Resolves cwd p l (.file (Utf8.encode cs) mode))
      (h : ∀ t, Document Toml.maxDepth cs t → ∀ f, ¬Conforms t f) :
      Uses fs cwd overrides p (.error (.ruleFileParse p))
  | invalid {l : Location} {cs : List Char} {mode : Nat} {t : Toml.Table} {f : RuleFile}
      {flaw : RuleFile.Flaw} (hp : fs.Resolves cwd p l (.file (Utf8.encode cs) mode))
      (ht : Document Toml.maxDepth cs t) (hf : Conforms t f) (h : f.HasFlaw flaw) :
      Uses fs cwd overrides p (.error (.invalidRuleFile p flaw))
  | read {l : Location} {cs : List Char} {mode : Nat} {t : Toml.Table} {f : RuleFile}
      {s : Settings} (hp : fs.Resolves cwd p l (.file (Utf8.encode cs) mode))
      (ht : Document Toml.maxDepth cs t) (hf : Conforms t f) (h : f.Sound)
      (hs : s.Follows overrides (some ⟨f, p⟩)) : Uses fs cwd overrides p (.ok s)

theorem isFile_eq_true :
    fs.isFile cwd p = true ↔ ∃ l content mode, fs.Resolves cwd p l (.file content mode) := by
  simp only [← stat_eq_ok_iff_resolves]
  rw [isFile]
  rcases fs.stat cwd p with fault | ⟨l, ⟨content, mode⟩ | _ | target⟩ <;> simp

theorem loadSettings_of_isFile (h : fs.isFile cwd p = true) :
    fs.loadSettings cwd overrides (some p) dir =
      (fs.readRuleFile cwd p).map fun f => .resolve overrides (some ⟨f, p⟩) := by
  simp only [loadSettings, discover, h]
  cases fs.readRuleFile cwd p <;> rfl

theorem loadSettings_of_not_isFile (h : ¬fs.isFile cwd p = true) :
    fs.loadSettings cwd overrides (some p) dir = .error (.ruleFileNotFound p) := by
  simp only [loadSettings, discover, h]
  rfl

theorem loadSettings_conventional (h : fs.isFile cwd (RuleFile.pathIn dir) = true) :
    fs.loadSettings cwd overrides none dir =
      fs.loadSettings cwd overrides (some (RuleFile.pathIn dir)) dir := by
  rw [RuleFile.pathIn] at h ⊢
  simp only [loadSettings, discover, h]
  rfl

theorem loadSettings_without (h : ¬fs.isFile cwd (RuleFile.pathIn dir) = true) :
    fs.loadSettings cwd overrides none dir = .ok (.resolve overrides none) := by
  rw [RuleFile.pathIn] at h
  simp only [loadSettings, discover, h]
  rfl

theorem readRuleFile_of_resolves (hp : fs.Resolves cwd p l (.file content mode)) :
    fs.readRuleFile cwd p = match Utf8.decode? content with
      | some cs => RuleFile.parseFor p (String.ofList cs)
      | none => .error (.ruleFileRead p .notUtf8) := by
  rw [readRuleFile, readText_of_stat (stat_eq_ok_iff_resolves.2 hp)]
  cases Utf8.decode? content <;> rfl

theorem loadSettings_of_text {cs : List Char}
    (hp : fs.Resolves cwd p l (.file (Utf8.encode cs) mode)) :
    fs.loadSettings cwd overrides (some p) dir =
      (RuleFile.parseFor p (String.ofList cs)).map fun f => .resolve overrides (some ⟨f, p⟩) := by
  rw [loadSettings_of_isFile (isFile_eq_true.2 ⟨_, _, _, hp⟩), readRuleFile_of_resolves hp,
    Utf8.decode?_eq_some_iff.2 rfl]

theorem Uses.loadSettings (h : fs.Uses cwd overrides p r) (dir : Path) :
    fs.loadSettings cwd overrides (some p) dir = r := by
  have hread {cs : List Char} {t : Toml.Table} {f : RuleFile} (ht : Document Toml.maxDepth cs t)
      (hf : Conforms t f) :
      (Toml.read (String.ofList cs).toList).bind RuleFile.ofToml? = some f := by
    rw [RuleFile.read_bind_eq_some, String.toList_ofList]
    exact ⟨t, ht, hf⟩
  cases h with
  | notFound h =>
    apply loadSettings_of_not_isFile
    rw [isFile_eq_true]
    simpa using h
  | @unreadable l content mode hp h =>
    have hdecode : Utf8.decode? content = none := by
      rw [Option.eq_none_iff_forall_ne_some]
      exact fun cs hcs => h cs (Utf8.decode?_eq_some_iff.1 hcs)
    rw [loadSettings_of_isFile (isFile_eq_true.2 ⟨_, _, _, hp⟩), readRuleFile_of_resolves hp,
      hdecode]
    rfl
  | @malformed l cs mode hp h =>
    have hmalformed : RuleFile.parseFor p (String.ofList cs) = .error (.ruleFileParse p) := by
      rw [RuleFile.parseFor_eq_malformed, String.toList_ofList]
      exact h
    rw [loadSettings_of_text hp, hmalformed]
    rfl
  | invalid hp ht hf h =>
    rw [loadSettings_of_text hp, RuleFile.parseFor_of_flaw p (hread ht hf) h.flaw?_eq]
    rfl
  | read hp ht hf h hs =>
    rw [loadSettings_of_text hp, RuleFile.parseFor_of_some p (hread ht hf) h.flaw?_eq]
    exact congrArg Except.ok hs.eq_resolve

theorem exists_uses (fs : FileSystem) (cwd : Location) (overrides : Overrides) (p : Path) :
    ∃ r, fs.Uses cwd overrides p r := by
  by_cases hp : ∃ l content mode, fs.Resolves cwd p l (.file content mode)
  · obtain ⟨l, content, mode, hp⟩ := hp
    by_cases hcontent : ∃ cs, content = Utf8.encode cs
    · obtain ⟨cs, rfl⟩ := hcontent
      by_cases hdocument : ∃ t, Document Toml.maxDepth cs t ∧ ∃ f, Conforms t f
      · obtain ⟨t, ht, f, hf⟩ := hdocument
        obtain hsound | ⟨flaw, hflaw⟩ := f.sound_or_hasFlaw
        · exact ⟨_, .read hp ht hf hsound (Settings.follows_resolve overrides _)⟩
        · exact ⟨_, .invalid hp ht hf hflaw⟩
      · exact ⟨_, .malformed hp fun t ht f hf => hdocument ⟨t, ht, f, hf⟩⟩
    · exact ⟨_, .unreadable hp (not_exists.1 hcontent)⟩
  · exact ⟨_, .notFound (by simpa using hp)⟩

theorem SameBut.loadSettings (h : SameBut k fs fs') (hk : ¬fs.Passes cwd p k) (dir dir' : Path) :
    fs'.loadSettings cwd overrides (some p) dir' = fs.loadSettings cwd overrides (some p) dir := by
  simp only [FileSystem.loadSettings, discover, readRuleFile, readText, readBytes, isFile,
    h.stat hk]
  rfl

theorem Uses.usable (h : fs.Uses cwd overrides p (.ok s)) : s.Usable overrides := by
  cases h with
  | read _ _ _ h hs =>
    apply hs.usable
    rintro _ ⟨⟩
    exact h

/-- What comes of a path that may be given and a directory. -/
inductive Loads (fs : FileSystem) (cwd : Location) (overrides : Overrides) (dir : Path) :
    Option Path → Except Error Settings → Prop
  | named {p : Path} {r : Except Error Settings} (h : fs.Uses cwd overrides p r) :
      Loads fs cwd overrides dir (some p) r
  | conventional {l : Location} {content : Bytes} {mode : Nat} {r : Except Error Settings}
      (hp : fs.Resolves cwd (RuleFile.pathIn dir) l (.file content mode))
      (h : fs.Uses cwd overrides (RuleFile.pathIn dir) r) :
      Loads fs cwd overrides dir none r
  | without {s : Settings}
      (hp : ∀ l content mode, ¬fs.Resolves cwd (RuleFile.pathIn dir) l (.file content mode))
      (hs : s.Follows overrides none) : Loads fs cwd overrides dir none (.ok s)

theorem Loads.loadSettings {explicit : Option Path} (h : fs.Loads cwd overrides dir explicit r) :
    fs.loadSettings cwd overrides explicit dir = r := by
  cases h with
  | named h => exact h.loadSettings dir
  | conventional hp h =>
    rw [loadSettings_conventional (isFile_eq_true.2 ⟨_, _, _, hp⟩)]
    exact h.loadSettings dir
  | without hp hs =>
    rw [loadSettings_without]
    · exact congrArg Except.ok hs.eq_resolve
    · rw [isFile_eq_true]
      simpa using hp

theorem exists_loads (fs : FileSystem) (cwd : Location) (overrides : Overrides) (dir : Path)
    (explicit : Option Path) : ∃ r, fs.Loads cwd overrides dir explicit r := by
  cases explicit with
  | some p =>
    obtain ⟨r, h⟩ := fs.exists_uses cwd overrides p
    exact ⟨r, .named h⟩
  | none =>
    by_cases hp : ∃ l content mode,
        fs.Resolves cwd (RuleFile.pathIn dir) l (.file content mode)
    · obtain ⟨l, content, mode, hp⟩ := hp
      obtain ⟨r, h⟩ := fs.exists_uses cwd overrides (RuleFile.pathIn dir)
      exact ⟨r, .conventional hp h⟩
    · exact ⟨_, .without (by simpa using hp) (Settings.follows_resolve overrides none)⟩

theorem loadSettings_eq_iff {explicit : Option Path} :
    fs.loadSettings cwd overrides explicit dir = r ↔ fs.Loads cwd overrides dir explicit r := by
  refine ⟨fun h => ?_, fun h => h.loadSettings⟩
  obtain ⟨r', hloads⟩ := fs.exists_loads cwd overrides dir explicit
  rw [← h, hloads.loadSettings]
  exact hloads

theorem Loads.usable {explicit : Option Path}
    (h : fs.Loads cwd overrides dir explicit (.ok s)) : s.Usable overrides := by
  cases h with
  | named h => exact h.usable
  | conventional _ h => exact h.usable
  | without _ hs => exact hs.usable (by simp)

/-- Loading settings comes to one result, which is the one that is told here. Under a path that is
given nothing counts that the path does not pass, such as the conventional rule file of the
directory, and not even which directory it is. There are always rules, each with a pattern, and a
suffix, unless an empty one is asked for, which no command line can do. -/
theorem loadSettings_exact (fs : FileSystem) (cwd : Location) (overrides : Overrides) (dir : Path) :
    (∀ explicit r, fs.loadSettings cwd overrides explicit dir = r ↔
      fs.Loads cwd overrides dir explicit r) ∧
    (∀ p k fs' dir', ¬fs.Passes cwd p k → SameBut k fs fs' →
      fs'.loadSettings cwd overrides (some p) dir' =
        fs.loadSettings cwd overrides (some p) dir) ∧
    (∀ explicit s, fs.loadSettings cwd overrides explicit dir = .ok s → s.Usable overrides) ∧
    ∀ words a s, Request.ofWords words = .run a → Command.settings fs cwd a = .ok s →
      s.extension ≠ "" := by
  refine ⟨fun explicit r => loadSettings_eq_iff, ?_, ?_, ?_⟩
  · exact fun p k fs' dir' hk h => h.loadSettings hk dir dir'
  · exact fun explicit s h => (loadSettings_eq_iff.1 h).usable
  · intro words a s hwords h
    exact (loadSettings_eq_iff.1 h).usable.extension (Request.extension_ofWords hwords)

def twoRuleFiles : FileSystem :=
  ⟨[(Command.ruleFileIn [], .file (Utf8.encode "extension = ''".toList) 0o644),
    ([Utf8.encode "r.toml".toList], .file (Utf8.encode "rules = [['a', 'b']]".toList) 0o644)]⟩

theorem not_passes_twoRuleFiles :
    ¬twoRuleFiles.Passes [] (.ofString "r.toml") (Command.ruleFileIn []) := by
  have hnames : (Path.ofString "r.toml").names = [Utf8.encode "r.toml".toList] := by decide
  have hstart : (if (Path.ofString "r.toml").isAbsolute then [] else []) = ([] : Location) := rfl
  rw [Passes, hnames, hstart]
  intro h
  cases h with
  | inside h => exact absurd h (by decide)
  | asks _ _ h => exact absurd h (by decide)
  | stay hdot => exact absurd hdot (by decide)
  | into _ _ hdir => exact absurd hdir (by decide)
  | through _ _ hlink => cases hlink

theorem loadSettings_twoRuleFiles :
    (twoRuleFiles.remove (Command.ruleFileIn [])).loadSettings [] ⟨none, none⟩
        (some (.ofString "r.toml")) ⟨[]⟩ =
      .ok ⟨.ofString BuiltIn.root, BuiltIn.extension, [⟨"a", "b"⟩],
        .file (.ofString "r.toml")⟩ ∧
    twoRuleFiles.loadSettings [] ⟨none, some ".js"⟩ none (.ofString "/") =
      .error (.invalidRuleFile (.ofString "/.relink.toml") .emptyExtension) := by
  constructor
  · obtain ⟨hloads, hpasses, -, -⟩ :=
      loadSettings_exact twoRuleFiles [] ⟨none, none⟩ (.ofString "/")
    obtain ⟨t, ht, hf⟩ := RuleFile.read_bind_eq_some.1 (show
      (Toml.read "rules = [['a', 'b']]".toList).bind RuleFile.ofToml? =
        some ⟨none, none, [⟨"a", "b"⟩]⟩ by decide +kernel)
    have hp : twoRuleFiles.Resolves [] (.ofString "r.toml") [Utf8.encode "r.toml".toList]
        (.file (Utf8.encode "rules = [['a', 'b']]".toList) 0o644) :=
      stat_eq_ok_iff_resolves.1 rfl
    rw [hpasses _ _ _ _ not_passes_twoRuleFiles (sameBut_remove _ _), hloads]
    exact .named (.read hp ht hf ⟨by simp, by simp⟩
      ⟨.initial, .initial, .inl ⟨_, _, rfl, by simp, rfl, rfl⟩⟩)
  · obtain ⟨hloads, -, -, -⟩ :=
      loadSettings_exact twoRuleFiles [] ⟨none, some ".js"⟩ (.ofString "/")
    obtain ⟨t, ht, hf⟩ := RuleFile.read_bind_eq_some.1 (show
      (Toml.read "extension = ''".toList).bind RuleFile.ofToml? = some ⟨none, some "", []⟩ by
        decide +kernel)
    have hp : twoRuleFiles.Resolves [] (RuleFile.pathIn (.ofString "/")) (Command.ruleFileIn [])
        (.file (Utf8.encode "extension = ''".toList) 0o644) :=
      stat_eq_ok_iff_resolves.1 rfl
    rw [hloads]
    exact .conventional hp (.invalid hp ht hf (.emptyExtension rfl))

end FileSystem

end Repath
