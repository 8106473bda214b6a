import Repath.Proofs.Files.Beside
import Repath.Proofs.Files.Parents

namespace Repath.FileSystem

variable {fs fs' : FileSystem} {cwd l k target : Location} {p : Path} {e : Entry}
  {content old bytes : Bytes} {mode m links : Nat} {names rest : List Bytes} {purpose : Purpose}

theorem modeOf_eq_ok :
    fs.modeOf cwd p = .ok mode ↔ ∃ l content, fs.stat cwd p = .ok (l, .file content mode) := by
  rw [modeOf]
  rcases fs.stat cwd p with fault | ⟨l, ⟨content, mode'⟩ | _ | target⟩ <;>
    simp [bind, Except.bind, pure, Except.pure, throw, throwThe, MonadExceptOf.throw]

theorem exists_names (h : fs.stat cwd p = .ok (l, .file content mode)) :
    ∃ target e, fs.Names cwd p target e ∧ e ≠ .dir := by
  obtain ⟨hlocate, hl⟩ := stat_eq_ok.1 h
  obtain hkeep | ⟨target, link, hlink⟩ := fs.locate_follow cwd p
  · exact ⟨l, _, ⟨hkeep ▸ hlocate, hl⟩, by simp⟩
  · exact ⟨target, _, hlink, by simp⟩

theorem Names.destination (h : fs.Names cwd p target e) (hne : e ≠ .dir) :
    fs.destination cwd p = .ok target := by
  obtain ⟨hlocate, htarget⟩ := h
  rw [FileSystem.destination, hlocate]
  simp only [bind, Except.bind]
  rw [htarget, if_neg (by simpa using hne)]
  rfl

theorem ne_nil_of_get? (h : fs.get? l = some e) (hne : e ≠ .dir) : l ≠ [] := by
  rintro rfl
  exact hne (Option.some.inj h).symm

theorem tryReplace_of_names (hfs : fs.WellFormed)
    (hstart : fs.get? (if p.isAbsolute then [] else cwd) = some .dir)
    (hp : fs.stat cwd p = .ok (l, .file old mode)) (h : fs.Names cwd p target e) (hne : e ≠ .dir)
    (content : Bytes) :
    fs.tryReplace cwd p content = (.ok (), fs.put target (.file content mode)) := by
  have hunused := unused_temporaryIn hfs target.dropLast
  have htemporary : fs.temporaryAt cwd p.parent = .ok (fs.temporaryIn target.dropLast) := by
    rw [temporaryAt, h.stat_parent hfs hstart hne]
    rfl
  have hwithin := hunused.within [content].flatten mode
  have hdestination : (fs.beside (fs.temporaryIn target.dropLast) [content].flatten
      mode).destination cwd p = .ok target :=
    Names.destination ⟨hwithin.locate h.1, hwithin _ _ h.2⟩ hne
  have hreplacement := applyAll_replacement hunused h.2 (ne_nil_of_get? h.2 hne) [content] mode
  rw [List.flatten_singleton] at hreplacement
  simp only [tryReplace, modeOf_eq_ok.2 ⟨l, old, hp⟩, htemporary, hunused.applyAll_writing,
    hdestination, hreplacement]

theorem tryReplace_path (hfs : fs.WellFormed) (h : fs.get? l = some (.file old mode))
    (cwd : Location) (content : Bytes) :
    fs.tryReplace cwd l.path content = (.ok (), fs.put l (.file content mode)) := by
  have hnames : fs.Names cwd l.path l (.file old mode) :=
    ⟨locate_path hfs h cwd (.inl rfl), h⟩
  refine tryReplace_of_names hfs ?_ (stat_path hfs h cwd (by simp)) hnames (by simp) content
  rw [Location.isAbsolute_path]
  rfl

theorem tryReplace_of_not_file (h : ∀ l old mode, fs.stat cwd p ≠ .ok (l, .file old mode))
    (content : Bytes) : ∃ fault, fs.tryReplace cwd p content = (.error fault, fs) := by
  cases hmode : fs.modeOf cwd p with
  | error fault => exact ⟨fault, by simp only [tryReplace, hmode]⟩
  | ok mode =>
    obtain ⟨l, old, hp⟩ := modeOf_eq_ok.1 hmode
    exact absurd hp (h l old mode)

theorem descend_put (hold : fs.get? target = some e) (hne : e ≠ .dir) (content : Bytes) (mode : Nat)
    (l : Location) (names : List Bytes) :
    (∀ k, fs.descend .keep l names = .place (.present k) →
      (fs.put target (.file content mode)).descend .keep l names = .place (.present k)) ∧
    ∀ above link rest, fs.descend .keep l names = .link above link rest →
      (fs.put target (.file content mode)).descend .keep l names = .link above link rest ∨
        e = .link link ∧ above = target.dropLast ∧ rest ≠ [] := by
  have hput := get?_put fs (.file content mode) (ne_nil_of_get? hold hne)
  have hsame : ∀ a : Progress, (∀ k, a = .place (.present k) → a = .place (.present k)) ∧
      ∀ above link rest, a = .link above link rest → a = .link above link rest ∨
        e = .link link ∧ above = target.dropLast ∧ rest ≠ [] :=
    fun a => ⟨fun k hk => hk, fun above link rest hlink => .inl hlink⟩
  induction names generalizing l with
  | nil => exact hsame _
  | cons name rest ih =>
    simp only [descend, reduceCtorEq, false_and, if_false, and_true]
    split
    · exact ih l
    split
    · exact ih _
    rw [hput]
    by_cases htarget : l ++ [name] = target
    · subst htarget
      rw [if_pos rfl, hold]
      cases e with
      | dir => exact absurd rfl hne
      | file => exact hsame _
      | link link =>
        rw [List.dropLast_concat]
        dsimp only
        by_cases hrest : rest = []
        · simp [hrest]
        · simp only [hrest, if_false, reduceCtorEq, false_imp_iff, implies_true, true_and]
          rintro above link rest ⟨⟩
          exact .inr ⟨rfl, rfl, hrest⟩
    · rw [if_neg htarget]
      cases hget : fs.get? (l ++ [name]) with
      | none => exact hsame _
      | some d =>
        cases d with
        | dir => exact ih _
        | file => exact hsame _
        | link => exact hsame _

theorem follow_behind_file {n : Nat} {place : Place} (hfs : fs.WellFormed)
    (hl : fs.get? l = some .dir) (hfollow : fs.follow .follow n l names = .ok (.present k))
    (hk : fs.get? k = some (.file old m)) (hrest : rest ≠ []) (links : Nat) :
    fs.follow .keep links l (names ++ rest) ≠ .ok place := by
  intro hplace
  have hkeep : Purpose.keep ≠ .create := by simp
  have hon := follow_append hfs hkeep hrest (rfl : names.filter (!isDot ·) = _) links l
  generalize hlead : fs.follow .follow links l names = a at hon
  generalize fs.follow .keep links l (names ++ rest) = b at hplace hon
  cases hon with
  | there _ htop =>
    cases follow_unique hlead hfollow
    rw [htop hl] at hk
    cases hk
  | file => cases hplace
  | absent => cases hplace
  | fault => cases hplace

theorem follow_put (hfs : fs.WellFormed) (hold : fs.get? target = some e) (hne : e ≠ .dir)
    (hlink : ∀ link, e = .link link → ∃ n l old m, fs.get? l = some (.file old m) ∧
      fs.follow .follow n (if link.isAbsolute then [] else target.dropLast) link.names =
        .ok (.present l))
    (h : fs.follow .keep links l names = .ok (.present k)) (content : Bytes) (mode : Nat) :
    (fs.put target (.file content mode)).follow .keep links l names = .ok (.present k) := by
  have hdir : fs.get? target.dropLast = some .dir :=
    hfs.parents _ (mem_of_get? hold (ne_nil_of_get? hold hne))
  have hdescend := descend_put hold hne content mode
  refine follow_of_descend (fun l names => (hdescend l names).1 k) ?_ h
  intro l names above link rest n hstep hon
  obtain hstill | ⟨rfl, rfl, hrest⟩ := (hdescend l names).2 above link rest hstep
  · exact hstill
  · -- The way would go on behind the file that the link leads to.
    obtain ⟨n', F, old, m, hF, hfollow⟩ := hlink link rfl
    have hstart := dir_from link (fun _ => hdir) hdir
    exact absurd hon (follow_behind_file hfs hstart hfollow hF hrest n)

theorem Names.put (hfs : fs.WellFormed) (hp : fs.stat cwd p = .ok (l, .file old m))
    (h : fs.Names cwd p target e) (hne : e ≠ .dir) (content : Bytes) (mode : Nat) :
    (fs.put target (.file content mode)).Names cwd p target (.file content mode) := by
  obtain ⟨hlocate, htarget⟩ := h
  obtain ⟨hlocate', hl⟩ := stat_eq_ok.1 hp
  obtain ⟨hnul, hempty, hkeep⟩ := locate_eq_ok.1 hlocate
  obtain ⟨-, -, hfollow⟩ := locate_eq_ok.1 hlocate'
  refine ⟨locate_eq_ok.2 ⟨hnul, hempty, follow_put hfs htarget hne ?_ hkeep content mode⟩, ?_⟩
  · rintro link rfl
    obtain hsame | ⟨k, link', hkeep', hk, hon⟩ :=
      fs.follow_follow maxLinks (if p.isAbsolute then [] else cwd) p.names
    · -- What the path names is what it leads to, a file.
      rw [hkeep, hfollow] at hsame
      cases hsame
      rw [hl] at htarget
      cases htarget
    · rw [hkeep] at hkeep'
      cases hkeep'
      rw [htarget] at hk
      cases hk
      obtain ⟨n, hn⟩ := hon _ hfollow
      exact ⟨n, l, old, m, hl, hn⟩
  · rw [get?_put fs _ (ne_nil_of_get? htarget hne), if_pos rfl]

theorem wellFormed_put (hfs : fs.WellFormed) (hold : fs.get? target = some e) (hne : e ≠ .dir)
    (content : Bytes) (mode : Nat) : (fs.put target (.file content mode)).WellFormed := by
  rw [put_present hold (ne_nil_of_get? hold hne), wellFormed_mapEntries]
  · exact hfs
  · intro k d hk
    split
    · next htarget =>
      rw [htarget, hold] at hk
      cases hk
      simpa using hne
    · exact Iff.rfl

/-- What the replacement of the file at a path comes to. -/
structure Replaced (fs : FileSystem) (cwd : Location) (p : Path) (target : Location)
    (content : Bytes) (mode : Nat) (fs' : FileSystem) : Prop where
  /-- The path led to a file with the mode. -/
  led : ∃ l old, fs.stat cwd p = .ok (l, .file old mode)
  /-- It named that file or a link. -/
  named : ∃ e, e ≠ .dir ∧ fs.Names cwd p target e
  /-- What is written in front of its last name led to the directory. -/
  parent : fs.stat cwd p.parent = .ok (target.dropLast, .dir)
  fileName : p.fileName = target.getLast?
  /-- It names a file with the new content now. -/
  names : fs'.Names cwd p target (.file content mode)
  others : ∀ k, k ≠ target → fs'.get? k = fs.get? k
  wellFormed : fs'.WellFormed
  /-- The temporary name makes no difference if it is not in use, nor do the pieces. -/
  effects : ∀ middle pieces, fs.get? (target.dropLast ++ [temporaryNamed middle]) = none →
    pieces.flatten = content →
    fs.applyAll (replacement (target.dropLast ++ [temporaryNamed middle]) target pieces mode) = fs'

theorem replaced_put (hfs : fs.WellFormed) (hcwd : fs.get? cwd = some .dir)
    (hp : fs.stat cwd p = .ok (l, .file old mode)) (h : fs.Names cwd p target e) (hne : e ≠ .dir)
    (content : Bytes) :
    fs.Replaced cwd p target content mode (fs.put target (.file content mode)) := by
  have hput := get?_put fs (.file content mode) (ne_nil_of_get? h.2 hne)
  have hnames := h.put hfs hp hne content mode
  have hwellFormed := wellFormed_put hfs h.2 hne content mode
  have hcwd' : (fs.put target (.file content mode)).get? cwd = some .dir := by
    rw [hput, if_neg, hcwd]
    rintro rfl
    rw [h.2] at hcwd
    exact hne (Option.some.inj hcwd)
  obtain ⟨name, hlast, hname⟩ := hnames.fileName hwellFormed hcwd'
  exact {
    led := ⟨l, old, hp⟩
    named := ⟨e, hne, h⟩
    parent := h.stat_parent hfs (dir_start hcwd p) hne
    fileName := hname.trans hlast.symm
    names := hnames
    others := fun k hk => by rw [hput, if_neg hk]
    wellFormed := hwellFormed
    effects := by
      rintro middle pieces hfree rfl
      have hunused := unused_of_get? hfs (by simp) hfree
      exact applyAll_replacement hunused h.2 (ne_nil_of_get? h.2 hne) pieces mode }

theorem exists_replaced (hfs : fs.WellFormed) (hcwd : fs.get? cwd = some .dir)
    (hp : fs.stat cwd p = .ok (l, .file old mode)) (content : Bytes) :
    ∃ target fs', fs.tryReplace cwd p content = (.ok (), fs') ∧
      fs.Replaced cwd p target content mode fs' := by
  obtain ⟨target, e, h, hne⟩ := exists_names hp
  exact ⟨target, _, tryReplace_of_names hfs (dir_start hcwd p) hp h hne content,
    replaced_put hfs hcwd hp h hne content⟩

/-- What may be found before a replacement is done: everything that was there, and beside it the
temporary file with a front of the content. -/
structure Pending (fs : FileSystem) (temporary : Location) (content : Bytes) (fs' : FileSystem) :
    Prop where
  within : fs.Within fs'
  /-- Every path leads to what it led to. -/
  paths : ∀ cwd q k e, fs.stat cwd q = .ok (k, e) → fs'.stat cwd q = .ok (k, e)
  others : ∀ k, k ≠ temporary → fs'.get? k = fs.get? k
  temporary : fs'.get? temporary = none ∨
    ∃ bytes mode, bytes <+: content ∧ fs'.get? temporary = some (.file bytes mode)

theorem Unused.pending {temporary : Location} {done rest : List Effect} {pieces : List Bytes}
    (h : fs.Unused temporary) (hdone : done ++ rest = replacement temporary target pieces mode)
    (hrest : rest ≠ []) : fs.Pending temporary pieces.flatten (fs.applyAll done) := by
  obtain rfl | ⟨bytes, m, hfront, happly⟩ := h.applyAll_front hdone hrest
  · exact ⟨fun k e hk => hk, fun cwd q k e hq => hq, fun k _ => rfl, .inl h.get?_eq_none⟩
  · have hwithin := h.within bytes m
    rw [happly]
    exact ⟨hwithin, fun cwd q k e hq => hwithin.stat hq, fun k hk => get?_beside_of_ne hk,
      .inr ⟨bytes, m, hfront, h.get?_beside⟩⟩

/-- No state on the way to a replacement is harmful. Wherever the effects are cut off, up to the last
one everything is as it was, but for the temporary file, and when the last one is done so is the
replacement. If one of them fails, what has been done is taken back. -/
theorem replacement_harmless (hfs : fs.WellFormed) (hcwd : fs.get? cwd = some .dir)
    (hp : fs.stat cwd p = .ok (l, .file old mode)) (content : Bytes) :
    ∃ target fs', fs.tryReplace cwd p content = (.ok (), fs') ∧
      fs.Replaced cwd p target content mode fs' ∧
      ∀ middle pieces done rest, fs.get? (target.dropLast ++ [temporaryNamed middle]) = none →
        pieces.flatten = content → done ++ rest =
          replacement (target.dropLast ++ [temporaryNamed middle]) target pieces mode →
        (rest = [] → fs.applyAll done = fs') ∧
        (rest ≠ [] → fs.Pending (target.dropLast ++ [temporaryNamed middle]) content
            (fs.applyAll done) ∧
          fs.applyAll (abandoned (target.dropLast ++ [temporaryNamed middle]) done) = fs) := by
  obtain ⟨target, fs', hreplace, hreplaced⟩ := exists_replaced hfs hcwd hp content
  refine ⟨target, fs', hreplace, hreplaced, ?_⟩
  rintro middle pieces done rest hfree rfl hdone
  have hunused := unused_of_get? hfs (by simp) hfree
  refine ⟨?_, fun hrest => ⟨hunused.pending hdone hrest, hunused.applyAll_abandoned hdone hrest⟩⟩
  rintro rfl
  rw [List.append_nil] at hdone
  rw [hdone]
  exact hreplaced.effects middle pieces hfree rfl

/-- A file beside one that only looks like a temporary one, and links to it in another directory. -/
def shelf : FileSystem :=
  let name (s : String) : Bytes := Utf8.encode s.toList
  ⟨[([name "notes"], .dir),
    ([name "notes", name "a.md"], .file (name "import '../email/b'") 0o640),
    ([name "notes", name ".relink-x.tmp"], .file (name "import '../email/b'") 0o600),
    ([name "links"], .dir),
    ([name "links", name "a.md"], .link (.ofString "b.md")),
    ([name "links", name "b.md"], .link (.ofString "../notes/a.md"))]⟩

theorem wellFormed_shelf : shelf.WellFormed where
  nodup := by decide
  nonempty := by decide
  names := by decide
  parents := by decide

def shelfLink : Location := [Utf8.encode "links".toList, Utf8.encode "a.md".toList]

theorem replacement_harmless_shelf :
    let temporary := shelfLink.dropLast ++ [temporaryNamed []]
    let new : Bytes := Utf8.encode "new".toList
    (∃ l old, shelf.stat [] (.ofString "links//a.md") = .ok (l, .file old 0o640)) ∧
    shelf.get? temporary = none ∧
    ∀ done rest, done ++ rest = replacement temporary shelfLink [new.take 2, new.drop 2] 0o640 →
      (rest = [] → shelf.applyAll done = shelf.put shelfLink (.file new 0o640)) ∧
      (rest ≠ [] → shelf.Pending temporary new (shelf.applyAll done) ∧
        shelf.applyAll (abandoned temporary done) = shelf) := by
  intro temporary new
  have hp : shelf.stat [] (.ofString "links//a.md") =
      .ok ([Utf8.encode "notes".toList, Utf8.encode "a.md".toList],
        .file (Utf8.encode "import '../email/b'".toList) 0o640) := rfl
  have hlink : shelf.Names [] (.ofString "links//a.md") shelfLink (.link (.ofString "b.md")) :=
    ⟨rfl, rfl⟩
  have hreplace : shelf.tryReplace [] (.ofString "links//a.md") new =
      (.ok (), shelf.put shelfLink (.file new 0o640)) :=
    tryReplace_of_names wellFormed_shelf rfl hp hlink (by simp) new
  have hfree : shelf.get? temporary = none := by decide
  obtain ⟨target, fs', h, hreplaced, hsteps⟩ :=
    replacement_harmless wellFormed_shelf (rfl : shelf.get? [] = some .dir) hp new
  obtain ⟨e, -, hlocate, -⟩ := hreplaced.named
  rw [hlink.1] at hlocate
  cases hlocate
  rw [hreplace] at h
  cases h
  exact ⟨⟨_, _, hp⟩, hfree, fun done rest hdone =>
    hsteps [] [new.take 2, new.drop 2] done rest hfree rfl hdone⟩

end Repath.FileSystem
