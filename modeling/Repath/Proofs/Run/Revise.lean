import Repath.Proofs.Files.Replacement
import Repath.Proofs.Text.Utf8
import Repath.Run.Revise

namespace Repath.FileSystem

variable {fs fs' : FileSystem} {cwd l : Location} {p : Path} {content : Bytes} {m : Nat}
  {text : String} {table : RuleTable}

theorem readText_of_stat (h : fs.stat cwd p = .ok (l, .file content m)) : fs.readText cwd p =
    match Utf8.decode? content with
    | some cs => .ok (String.ofList cs)
    | none => .error .notUtf8 := by
  rw [readText, readBytes, h]
  simp only [bind, Except.bind, pure, Except.pure]
  cases Utf8.decode? content <;> rfl

def Reads (fs : FileSystem) (cwd : Location) (p : Path) (text : String) (mode : Nat) : Prop :=
  ∃ l, fs.stat cwd p = .ok (l, .file (Utf8.encode text.toList) mode)

theorem Reads.readText (h : fs.Reads cwd p text m) : fs.readText cwd p = .ok text := by
  obtain ⟨l, hp⟩ := h
  rw [readText_of_stat hp, Utf8.decode?_eq_some_iff.2 rfl]
  dsimp only
  rw [String.ofList_toList]

theorem readText_eq_ok : fs.readText cwd p = .ok text ↔ ∃ m, fs.Reads cwd p text m := by
  refine ⟨fun h => ?_, fun ⟨m, h⟩ => h.readText⟩
  rcases hp : fs.stat cwd p with fault | ⟨l, ⟨content, m⟩ | _ | target⟩
  case ok.file =>
    rw [readText_of_stat hp] at h
    cases hdecode : Utf8.decode? content with
    | none =>
      rw [hdecode] at h
      cases h
    | some cs =>
      rw [hdecode] at h
      cases h
      obtain rfl := Utf8.decode?_eq_some_iff.1 hdecode
      exact ⟨m, l, by rw [hp, String.toList_ofList]⟩
  all_goals
    rw [FileSystem.readText, readBytes, hp] at h
    cases h

theorem writeText_of_replace
    (h : fs.tryReplace cwd p (Utf8.encode text.toList) = (.ok (), fs')) :
    fs.writeText cwd p text = (.ok (), fs') := by
  simp only [writeText, h]
  rfl

/-- A text is written or nothing is, and what is written is read again. -/
theorem writeText_exact (hfs : fs.WellFormed) (hcwd : fs.get? cwd = some .dir) (p : Path)
    (text : String) :
    ((fs.writeText cwd p text).1 = .ok () ↔
      ∃ l old mode, fs.stat cwd p = .ok (l, .file old mode)) ∧
    match fs.writeText cwd p text with
    | (.ok (), fs') => fs'.readText cwd p = .ok text ∧
        ∃ target mode, fs.Replaced cwd p target (Utf8.encode text.toList) mode fs'
    | (.error e, fs') => fs' = fs ∧ ∃ fault, e = .fileWrite p fault := by
  by_cases hfile : ∃ l old mode, fs.stat cwd p = .ok (l, .file old mode)
  · obtain ⟨l, old, mode, hp⟩ := hfile
    obtain ⟨target, fs', hreplace, hreplaced⟩ :=
      exists_replaced hfs hcwd hp (Utf8.encode text.toList)
    rw [writeText_of_replace hreplace]
    have hread : fs'.Reads cwd p text mode := ⟨target, hreplaced.names.stat (by simp)⟩
    exact ⟨iff_of_true rfl ⟨l, old, mode, hp⟩, hread.readText, target, mode, hreplaced⟩
  · obtain ⟨fault, hfault⟩ := tryReplace_of_not_file
      (fun l old mode hp => hfile ⟨l, old, mode, hp⟩) (Utf8.encode text.toList)
    have hwrite : fs.writeText cwd p text = (.error (.fileWrite p fault), fs) := by
      simp only [writeText, hfault]
      rfl
    rw [hwrite]
    exact ⟨iff_of_false (by simp) hfile, rfl, fault, rfl⟩

theorem writeText_exact_shelf :
    (∃ fs' target, shelf.writeText [] (.ofString "links//a.md") "new" = (.ok (), fs') ∧
      fs'.readText [] (.ofString "links//a.md") = .ok "new" ∧
      shelf.Replaced [] (.ofString "links//a.md") target (Utf8.encode "new".toList) 0o640 fs') ∧
    ∃ fault, shelf.writeText [] (.ofString "notes") "new" =
      (.error (.fileWrite (.ofString "notes") fault), shelf) := by
  have hcwd : shelf.get? [] = some .dir := rfl
  have hlink : shelf.stat [] (.ofString "links//a.md") =
      .ok ([Utf8.encode "notes".toList, Utf8.encode "a.md".toList],
        .file (Utf8.encode "import '../email/b'".toList) 0o640) := rfl
  obtain ⟨hok, hwritten⟩ :=
    writeText_exact wellFormed_shelf hcwd (.ofString "links//a.md") "new"
  obtain ⟨hnotOk, hleft⟩ := writeText_exact wellFormed_shelf hcwd (.ofString "notes") "new"
  constructor
  · rcases hr : shelf.writeText [] (.ofString "links//a.md") "new" with ⟨e | ⟨⟩, fs'⟩
    · rw [hr] at hok
      cases hok.2 ⟨_, _, _, hlink⟩
    · rw [hr] at hwritten
      obtain ⟨hread, target, mode, hreplaced⟩ := hwritten
      obtain ⟨l, old, hp⟩ := hreplaced.led
      rw [hlink] at hp
      cases hp
      exact ⟨fs', target, rfl, hread, hreplaced⟩
  · rcases hr : shelf.writeText [] (.ofString "notes") "new" with ⟨e | ⟨⟩, fs'⟩
    · rw [hr] at hleft
      obtain ⟨rfl, fault, rfl⟩ := hleft
      exact ⟨fault, rfl⟩
    · rw [hr] at hnotOk
      obtain ⟨l, old, mode, hp⟩ := hnotOk.1 rfl
      cases hp

theorem reviseFile_of_fault {fault : Fault} (h : fs.readText cwd p = .error fault)
    (table : RuleTable) (mode : WriteMode) :
    fs.reviseFile cwd p table mode = (.failed (Error.fileRead p fault).chain, fs) := by
  simp only [reviseFile, tryRevise, h]

theorem reviseFile_of_text (h : fs.readText cwd p = .ok text)
    (hreplace : fs.tryReplace cwd p (Utf8.encode (table.apply text).toList) = (.ok (), fs'))
    (mode : WriteMode) : fs.reviseFile cwd p table mode =
      if table.apply text = text then (.unchanged, fs)
      else (.changed, match mode with
        | .apply => fs'
        | .dryRun => fs) := by
  rw [RuleTable.apply] at hreplace ⊢
  rw [reviseFile, tryRevise, h]
  dsimp only
  cases hnew : table.revise? text with
  | none => rw [Option.getD_none, if_pos rfl]
  | some new =>
    rw [hnew, Option.getD_some] at hreplace
    rw [Option.getD_some]
    dsimp only
    by_cases hsame : new = text
    · rw [if_pos hsame, if_pos hsame]
    · rw [if_neg hsame, if_neg hsame]
      cases mode with
      | dryRun => rfl
      | apply =>
        rw [writeText_of_replace hreplace]
        rfl

/-- What becomes of a file, by what its path leads to. -/
theorem reviseFile_exact (hfs : fs.WellFormed) (hcwd : fs.get? cwd = some .dir) (p : Path)
    (table : RuleTable) (mode : WriteMode) :
    let r := fs.reviseFile cwd p table mode
    (r.1.isFailed = true ↔ ¬∃ text m, fs.Reads cwd p text m) ∧
    (r.1 = .changed ↔ ∃ text m, fs.Reads cwd p text m ∧ table.apply text ≠ text) ∧
    (r.1 = .unchanged ↔ ∃ text m, fs.Reads cwd p text m ∧ table.apply text = text) ∧
    (¬(r.1 = .changed ∧ mode = .apply) → r.2 = fs) ∧
    (r.1 = .changed ∧ mode = .apply → ∃ text m target, fs.Reads cwd p text m ∧
      fs.Replaced cwd p target (Utf8.encode (table.apply text).toList) m r.2) := by
  intro r
  cases hread : fs.readText cwd p with
  | error fault =>
    have hr : r = (.failed (Error.fileRead p fault).chain, fs) :=
      reviseFile_of_fault hread table mode
    have hnone : ∀ text m, ¬fs.Reads cwd p text m := by
      intro text m h
      rw [h.readText] at hread
      cases hread
    simp [hr, hnone, Outcome.isFailed]
  | ok text =>
    obtain ⟨m, hreads⟩ := readText_eq_ok.1 hread
    obtain ⟨l, hp⟩ := hreads
    obtain ⟨target, fs', hreplace, hreplaced⟩ :=
      exists_replaced hfs hcwd hp (Utf8.encode (table.apply text).toList)
    have hr : r = _ := reviseFile_of_text hread hreplace mode
    -- Whatever text the path leads to, it is the one that has been read.
    have honly : ∀ P : String → Prop, (∃ text m, fs.Reads cwd p text m ∧ P text) ↔ P text := by
      intro P
      constructor
      · rintro ⟨text', m', h', hP⟩
        rw [h'.readText] at hread
        cases hread
        exact hP
      · exact fun hP => ⟨text, m, ⟨l, hp⟩, hP⟩
    rw [honly (fun text => table.apply text ≠ text), honly (fun text => table.apply text = text)]
    have hfound : ∃ text m, fs.Reads cwd p text m := ⟨text, m, l, hp⟩
    by_cases hsame : table.apply text = text
    · rw [if_pos hsame] at hr
      simp [hr, hfound, hsame, Outcome.isFailed]
    · rw [if_neg hsame] at hr
      cases mode with
      | dryRun => simp [hr, hfound, hsame, Outcome.isFailed]
      | apply =>
        refine ⟨by simp [hr, hfound, Outcome.isFailed], by simp [hr, hsame], by simp [hr, hsame],
          by simp [hr], fun _ => ⟨text, m, target, ⟨l, hp⟩, ?_⟩⟩
        rw [hr]
        exact hreplaced

def shelfTable : RuleTable :=
  ⟨[{ spec := ⟨"e", "a"⟩, regex := { pattern := .char (.single 'e'), names := [] } }]⟩

theorem reads_shelf : shelf.Reads [] (.ofString "links//a.md") "import '../email/b'" 0o640 :=
  ⟨[Utf8.encode "notes".toList, Utf8.encode "a.md".toList], rfl⟩

theorem reviseFile_exact_shelf :
    (shelf.reviseFile [] (.ofString "notes") shelfTable .apply).1.isFailed = true ∧
    (shelf.reviseFile [] (.ofString "links//a.md") ⟨[]⟩ .apply).1 = .unchanged ∧
    ∃ target, shelf.Replaced [] (.ofString "links//a.md") target
      (Utf8.encode "import '../amail/b'".toList) 0o640
      (shelf.reviseFile [] (.ofString "links//a.md") shelfTable .apply).2 := by
  have hcwd : shelf.get? [] = some .dir := rfl
  have hnew : shelfTable.apply "import '../email/b'" = "import '../amail/b'" := by decide +kernel
  obtain ⟨hfailed, -⟩ :=
    reviseFile_exact wellFormed_shelf hcwd (.ofString "notes") shelfTable .apply
  obtain ⟨-, -, hunchanged, -⟩ :=
    reviseFile_exact wellFormed_shelf hcwd (.ofString "links//a.md") ⟨[]⟩ .apply
  obtain ⟨-, hchanged, -, -, happly⟩ :=
    reviseFile_exact wellFormed_shelf hcwd (.ofString "links//a.md") shelfTable .apply
  refine ⟨hfailed.2 ?_, hunchanged.2 ⟨_, _, reads_shelf, rfl⟩, ?_⟩
  · rintro ⟨text, m, l, hdir⟩
    cases hdir
  · have hdiffers : shelfTable.apply "import '../email/b'" ≠ "import '../email/b'" := by
      rw [hnew]
      decide
    obtain ⟨text, m, target, ⟨l, hp⟩, hreplaced⟩ :=
      happly ⟨hchanged.2 ⟨_, _, reads_shelf, hdiffers⟩, rfl⟩
    have hread := reads_shelf.readText
    rw [Reads.readText ⟨l, hp⟩] at hread
    cases hread
    rw [hnew] at hreplaced
    obtain ⟨l', hp'⟩ := reads_shelf
    rw [hp] at hp'
    cases hp'
    exact ⟨target, hreplaced⟩

end Repath.FileSystem
