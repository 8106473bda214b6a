import Repath.Proofs.Files.Following
import Repath.Proofs.Files.Order

namespace Repath.FileSystem

variable {fs : FileSystem} {cwd l k above : Location} {names rest : List Bytes} {p target : Path}
  {content old bytes : Bytes} {mode m links : Nat} {purpose : Purpose}

theorem dir_above_link (hfs : fs.WellFormed) (hl : fs.get? l = some .dir)
    (h : fs.descend purpose l names = .link above target rest) : fs.get? above = some .dir := by
  induction names generalizing l with
  | nil => cases h
  | cons name names ih =>
    simp only [descend] at h
    split at h
    · exact ih hl h
    split at h
    · exact ih (dir_above_last hfs hl) h
    split at h
    · cases h
    cases hget : fs.get? (l ++ [name]) with
    | none =>
      simp only [hget] at h
      split at h <;> cases h
    | some e =>
      cases e with
      | dir =>
        simp only [hget] at h
        exact ih hget h
      | file =>
        simp only [hget] at h
        split at h <;> cases h
      | link =>
        simp only [hget] at h
        split at h
        · cases h
        · cases h
          exact hl

theorem descend_create (fs : FileSystem) (l : Location) (names : List Bytes) :
    fs.descend .create l names = fs.descend .follow l names ∨
      fs.descend .create l names = .fault .isDirectory ∧ ∃ front, names = front ++ [[]] := by
  induction names generalizing l with
  | nil => exact .inl rfl
  | cons name rest ih =>
    have hcons : ∀ {a b : Progress}, a = b ∨ a = .fault .isDirectory ∧
        (∃ front, rest = front ++ [[]]) → a = b ∨ a = .fault .isDirectory ∧
        ∃ front, name :: rest = front ++ [[]] := by
      rintro a b (h | ⟨h, front, rfl⟩)
      · exact .inl h
      · exact .inr ⟨h, name :: front, rfl⟩
    simp only [descend, reduceCtorEq, false_and, and_false, true_and, if_false]
    split
    · exact hcons (ih l)
    split
    · exact hcons (ih _)
    split
    · next hrest => exact .inr ⟨rfl, [name], by rw [hrest]; rfl⟩
    rcases fs.get? (l ++ [name]) with _ | ⟨_, _⟩ | _ | target
    · exact .inl rfl
    · exact .inl rfl
    · exact hcons (ih _)
    · exact .inl rfl

theorem dir_of_follow (hfs : fs.WellFormed) (hl : fs.get? l = some .dir)
    (h : fs.follow .follow links l (names ++ [[]]) = .ok (.present k)) : fs.get? k = some .dir := by
  have hfollow : Purpose.follow ≠ .create := by simp
  have hon := follow_append hfs hfollow (List.cons_ne_nil [] [])
    (rfl : names.filter (!isDot ·) = _) links l
  generalize fs.follow .follow links l names = a at hon
  generalize fs.follow .follow links l (names ++ [[]]) = b at h hon
  cases hon with
  | @there top links htop =>
    have hhere : fs.descend .follow top [[]] = .place (.present top) := rfl
    rw [follow_place hhere] at h
    cases h
    exact htop hl
  | file => cases h
  | absent => cases h
  | fault => cases h

theorem follow_create (hfs : fs.WellFormed) (hl : fs.get? l = some .dir) (links : Nat)
    (names : List Bytes) :
    fs.follow .create links l names = fs.follow .follow links l names ∨
      fs.follow .create links l names = .error .isDirectory ∧
        ∀ k, fs.follow .follow links l names = .ok (.present k) → fs.get? k = some .dir := by
  induction links using Nat.strongRecOn generalizing l names with | ind links ih => ?_
  obtain hsame | ⟨hfault, front, rfl⟩ := fs.descend_create l names
  · cases hfollow : fs.descend .follow l names with
    | place => exact .inl (by rw [follow_place hfollow, follow_place (hsame.trans hfollow)])
    | fault => exact .inl (by rw [follow_fault hfollow, follow_fault (hsame.trans hfollow)])
    | link above target rest =>
      cases links with
      | zero =>
        exact .inl (by rw [follow_link_zero hfollow, follow_link_zero (hsame.trans hfollow)])
      | succ links =>
        rw [follow_link_succ hfollow, follow_link_succ (hsame.trans hfollow)]
        split
        · exact .inl rfl
        · apply ih links (Nat.lt_succ_self links)
          exact dir_from target (fun _ => dir_above_link hfs hl hfollow) hl
  · exact .inr ⟨follow_fault hfault, fun k hk => dir_of_follow hfs hl hk⟩

theorem locate_create (hfs : fs.WellFormed) (hcwd : fs.get? cwd = some .dir) (p : Path) :
    fs.locate cwd .create p = fs.locate cwd .follow p ∨
      fs.locate cwd .create p = .error .isDirectory ∧
        ∀ k, fs.locate cwd .follow p = .ok (.present k) → fs.get? k = some .dir := by
  rw [locate, locate]
  split
  · exact .inl rfl
  split
  · exact .inl rfl
  · exact follow_create hfs (dir_start hcwd p) maxLinks p.names

theorem descend_eq_absent (h : fs.descend purpose k names = .place (.absent l)) :
    l ≠ [] ∧ fs.get? l = none := by
  induction names generalizing k with
  | nil => cases h
  | cons name rest ih =>
    simp only [descend] at h
    split at h
    · exact ih h
    split at h
    · exact ih h
    split at h
    · cases h
    cases hget : fs.get? (k ++ [name]) with
    | none =>
      simp only [hget] at h
      split at h
      · cases h
        exact ⟨by simp, hget⟩
      · cases h
    | some e =>
      cases e with
      | dir =>
        simp only [hget] at h
        exact ih h
      | file =>
        simp only [hget] at h
        split at h <;> cases h
      | link =>
        simp only [hget] at h
        split at h <;> cases h

theorem follow_eq_absent (h : fs.follow purpose links k names = .ok (.absent l)) :
    l ≠ [] ∧ fs.get? l = none := by
  induction links generalizing k names with
  | zero =>
    obtain hhere | ⟨n, _, _, _, hn, -⟩ := follow_eq_ok h
    · exact descend_eq_absent hhere
    · cases hn
  | succ links ih =>
    obtain hhere | ⟨n, above, target, rest, hn, -, -, hrest⟩ := follow_eq_ok h
    · exact descend_eq_absent hhere
    · cases hn
      exact ih hrest

theorem descend_made (hne : l ≠ []) (hl : fs.get? l = none) (content : Bytes) (mode : Nat)
    (k : Location) (names : List Bytes) :
    (fs.descend purpose k names = .place (.absent l) →
      (fs.put l (.file content mode)).descend purpose k names = .place (.present l)) ∧
    ∀ above target rest, fs.descend purpose k names = .link above target rest →
      (fs.put l (.file content mode)).descend purpose k names = .link above target rest := by
  induction names generalizing k with
  | nil => simp [descend]
  | cons name rest ih =>
    simp only [descend, get?_put fs _ hne]
    split
    · exact ih k
    split
    · exact ih _
    split
    · simp
    by_cases hk : k ++ [name] = l
    · rw [hk, hl]
      by_cases hrest : rest = [] <;> simp [hrest]
    · rw [if_neg hk]
      rcases fs.get? (k ++ [name]) with _ | ⟨_, _⟩ | _ | target
      · by_cases hrest : rest = [] <;> simp [hrest, hk]
      · by_cases hrest : rest = [] <;> simp [hrest]
      · exact ih _
      · by_cases hkeep : rest = [] ∧ purpose = .keep <;> simp [hkeep]

theorem locate_made (h : fs.locate cwd purpose p = .ok (.absent l)) (content : Bytes)
    (mode : Nat) :
    (fs.put l (.file content mode)).locate cwd purpose p = .ok (.present l) := by
  obtain ⟨hnul, hempty, hfollow⟩ := locate_eq_ok.1 h
  obtain ⟨hne, hl⟩ := follow_eq_absent hfollow
  refine locate_eq_ok.2 ⟨hnul, hempty, ?_⟩
  apply follow_of_descend (fun k names => (descend_made hne hl content mode k names).1) _ hfollow
  intro k names above target rest _ hlink _
  exact (descend_made hne hl content mode k names).2 above target rest hlink

/-- A file is written where a path leads to one, or where one that is missing would be. -/
inductive WritesTo (fs : FileSystem) (cwd : Location) (p : Path) (l : Location) : Nat → Prop
  | present {old : Bytes} {mode : Nat} (h : fs.stat cwd p = .ok (l, .file old mode)) :
      WritesTo fs cwd p l mode
  | absent (h : fs.locate cwd .follow p = .ok (.absent l)) : WritesTo fs cwd p l 0o644

theorem writeInPlace_cases (hfs : fs.WellFormed) (hcwd : fs.get? cwd = some .dir) (p : Path)
    (content : Bytes) :
    (∃ l mode, fs.WritesTo cwd p l mode ∧
      fs.writeInPlace cwd p content = .ok (fs.put l (.file content mode))) ∨
    ∃ fault, (∀ l old mode, fs.stat cwd p ≠ .ok (l, .file old mode)) ∧
      fs.writeInPlace cwd p content = .error fault := by
  rw [writeInPlace]
  obtain hsame | ⟨hfault, hdir⟩ := locate_create hfs hcwd p
  · rw [hsame]
    cases hlocate : fs.locate cwd .follow p with
    | error fault =>
      refine .inr ⟨fault, fun l old mode hstat => ?_, rfl⟩
      rw [(stat_eq_ok.1 hstat).1] at hlocate
      cases hlocate
    | ok place =>
      cases place with
      | absent l => exact .inl ⟨l, 0o644, .absent hlocate, rfl⟩
      | present l =>
        have hother : (∀ old mode, fs.get? l ≠ some (.file old mode)) →
            ∀ k old mode, fs.stat cwd p ≠ .ok (k, .file old mode) := by
          intro hno k old mode hstat
          obtain ⟨hlocate', hk⟩ := stat_eq_ok.1 hstat
          rw [hlocate] at hlocate'
          cases hlocate'
          exact hno old mode hk
        simp only [bind, Except.bind]
        rcases hget : fs.get? l with _ | ⟨old, mode⟩ | _ | target
        · exact .inr ⟨_, hother (by simp [hget]), rfl⟩
        · exact .inl ⟨l, mode, .present (stat_eq_ok.2 ⟨hlocate, hget⟩), rfl⟩
        · exact .inr ⟨_, hother (by simp [hget]), rfl⟩
        · exact .inr ⟨_, hother (by simp [hget]), rfl⟩
  · rw [hfault]
    refine .inr ⟨_, fun l old mode hstat => ?_, rfl⟩
    obtain ⟨hlocate, hl⟩ := stat_eq_ok.1 hstat
    rw [hdir l hlocate] at hl
    cases hl

theorem Alike.put_file (h : fs.get? l = some (.file old mode)) (content : Bytes) :
    Alike fs (fs.put l (.file content m)) := by
  have hne : l ≠ [] := by
    rintro rfl
    cases h
  intro k
  rw [get?_put fs _ hne]
  split
  · next hk =>
    rw [hk, h]
    rfl
  · rfl

namespace WritesTo

variable {e : Entry}

theorem ne_nil (h : fs.WritesTo cwd p l mode) : l ≠ [] := by
  cases h with
  | present h =>
    rintro rfl
    cases get?_of_stat h
  | absent h => exact (follow_eq_absent (locate_eq_ok.1 h).2.2).1

theorem of_stat (h : fs.WritesTo cwd p l mode) (hstat : fs.stat cwd p = .ok (k, e)) :
    k = l ∧ ∃ old, e = .file old mode := by
  cases h with
  | @present old _ h =>
    rw [h] at hstat
    cases hstat
    exact ⟨rfl, old, rfl⟩
  | absent h =>
    rw [(stat_eq_ok.1 hstat).1] at h
    cases h

theorem of_get? (h : fs.WritesTo cwd p l mode) (hl : fs.get? l = some e) :
    ∃ old, e = .file old mode ∧ fs.stat cwd p = .ok (l, e) := by
  cases h with
  | @present old _ h =>
    rw [get?_of_stat h] at hl
    cases hl
    exact ⟨old, rfl, h⟩
  | absent h =>
    rw [(follow_eq_absent (locate_eq_ok.1 h).2.2).2] at hl
    cases hl

theorem stat_put (h : fs.WritesTo cwd p l mode) (content : Bytes) :
    (fs.put l (.file content mode)).stat cwd p = .ok (l, .file content mode) := by
  have hput : (fs.put l (.file content mode)).get? l = some (.file content mode) := by
    rw [get?_put fs _ h.ne_nil, if_pos rfl]
  refine stat_eq_ok.2 ⟨?_, hput⟩
  cases h with
  | present h =>
    obtain ⟨hlocate, hl⟩ := stat_eq_ok.1 h
    rw [(Alike.put_file hl content).locate, hlocate]
  | absent h => exact locate_made h content _

end WritesTo

end Repath.FileSystem
