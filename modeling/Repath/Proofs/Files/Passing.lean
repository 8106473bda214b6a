import Repath.Proofs.Files.Following

namespace Repath.FileSystem

variable {fs fs' : FileSystem} {cwd l k m : Location} {p : Path} {names : List Bytes} {links : Nat}

/-- On the way that names take from a location, with so many links to follow at most, a place is
reached that is at or below another, or the other is asked for. -/
inductive Meets (fs : FileSystem) (k : Location) : Nat → Location → List Bytes → Prop
  | inside {links : Nat} {l : Location} {names : List Bytes} (h : k <+: l) :
      fs.Meets k links l names
  | asks {links : Nat} {l : Location} {name : Bytes} {rest : List Bytes}
      (hdot : ¬isDot name = true) (hdotDot : name ≠ Path.dotDot) (h : k = l ++ [name]) :
      fs.Meets k links l (name :: rest)
  | stay {links : Nat} {l : Location} {name : Bytes} {rest : List Bytes}
      (hdot : isDot name = true) (h : fs.Meets k links l rest) : fs.Meets k links l (name :: rest)
  | up {links : Nat} {l : Location} {rest : List Bytes} (h : fs.Meets k links l.dropLast rest) :
      fs.Meets k links l (Path.dotDot :: rest)
  | into {links : Nat} {l : Location} {name : Bytes} {rest : List Bytes}
      (hdot : ¬isDot name = true) (hdotDot : name ≠ Path.dotDot)
      (hdir : fs.get? (l ++ [name]) = some .dir) (h : fs.Meets k links (l ++ [name]) rest) :
      fs.Meets k links l (name :: rest)
  | through {links : Nat} {l : Location} {name : Bytes} {rest : List Bytes} {target : Path}
      (hdot : ¬isDot name = true) (hdotDot : name ≠ Path.dotDot)
      (hlink : fs.get? (l ++ [name]) = some (.link target)) (htarget : target.isEmpty = false)
      (h : fs.Meets k links (if target.isAbsolute then [] else l) (target.names ++ rest)) :
      fs.Meets k (links + 1) l (name :: rest)

/-- A location lies on the way of a path, or something below it does. -/
def Passes (fs : FileSystem) (cwd : Location) (p : Path) (k : Location) : Prop :=
  fs.Meets k maxLinks (if p.isAbsolute then [] else cwd) p.names

/-- What is met from how far names could be followed without a link. -/
inductive MeetsOn (fs : FileSystem) (k : Location) : Nat → Progress → Prop
  | here {links : Nat} {m : Location} (h : k <+: m) : fs.MeetsOn k links (.place (.present m))
  | through {links : Nat} {above : Location} {target : Path} {rest : List Bytes}
      (htarget : target.isEmpty = false)
      (h : fs.Meets k links (if target.isAbsolute then [] else above) (target.names ++ rest)) :
      fs.MeetsOn k (links + 1) (.link above target rest)

theorem MeetsOn.meets (h : fs.MeetsOn k links (fs.descend .follow l names)) :
    fs.Meets k links l names := by
  have hfollow : Purpose.follow ≠ .create := by simp
  induction names generalizing l with
  | nil =>
    cases h with
    | here h => exact .inside h
  | cons name rest ih =>
    by_cases hdot : isDot name = true
    · rw [descend_dot hdot] at h
      exact .stay hdot (ih h)
    by_cases hdotDot : name = Path.dotDot
    · rw [descend_dotDot hdot hdotDot] at h
      rw [hdotDot]
      exact .up (ih h)
    cases hget : fs.get? (l ++ [name]) with
    | none =>
      rw [descend_none hfollow hdot hdotDot hget] at h
      split at h <;> cases h
    | some e =>
      cases e with
      | dir =>
        rw [descend_dir hfollow hdot hdotDot hget] at h
        exact .into hdot hdotDot hget (ih h)
      | file content mode =>
        rw [descend_file hfollow hdot hdotDot hget] at h
        split at h
        · cases h with
          | here h => exact (List.prefix_concat_iff.1 h).elim (.asks hdot hdotDot) .inside
        · cases h
      | link target =>
        rw [descend_link hfollow hdot hdotDot hget, if_neg (by simp)] at h
        cases h with
        | through htarget h => exact .through hdot hdotDot hget htarget h

theorem meets_of_follow (h : fs.follow .follow links l names = .ok (.present m)) (hk : k <+: m) :
    fs.Meets k links l names := by
  induction links generalizing l names with
  | zero =>
    obtain hplace | ⟨_, _, _, _, hn, -⟩ := follow_eq_ok h
    · exact MeetsOn.meets (hplace ▸ .here hk)
    · cases hn
  | succ links ih =>
    obtain hplace | ⟨_, above, target, rest, hn, hlink, htarget, hrest⟩ := follow_eq_ok h
    · exact MeetsOn.meets (hplace ▸ .here hk)
    · cases hn
      exact MeetsOn.meets (hlink ▸ .through htarget (ih hrest))

/-- Two file systems differ at or below a location at most. -/
def SameBut (k : Location) (fs fs' : FileSystem) : Prop :=
  ∀ l, ¬k <+: l → fs'.get? l = fs.get? l

theorem sameBut_remove (fs : FileSystem) (k : Location) : SameBut k fs (fs.remove k) := by
  intro l hl
  by_cases hroot : l = []
  · rw [hroot]
    rfl
  · rw [get?_remove fs k hroot, if_neg (by simpa using hl)]

theorem SameBut.descend (h : SameBut k fs fs') (hk : ¬fs.Meets k links l names) :
    fs'.descend .follow l names = fs.descend .follow l names := by
  have hfollow : Purpose.follow ≠ .create := by simp
  induction names generalizing l with
  | nil => rfl
  | cons name rest ih =>
    by_cases hdot : isDot name = true
    · rw [descend_dot hdot, descend_dot hdot]
      exact ih fun hrest => hk (.stay hdot hrest)
    by_cases hdotDot : name = Path.dotDot
    · rw [descend_dotDot hdot hdotDot, descend_dotDot hdot hdotDot]
      refine ih fun hrest => hk ?_
      rw [hdotDot]
      exact .up hrest
    have hget' : fs'.get? (l ++ [name]) = fs.get? (l ++ [name]) :=
      h _ fun hprefix => hk ((List.prefix_concat_iff.1 hprefix).elim (.asks hdot hdotDot) .inside)
    cases hget : fs.get? (l ++ [name]) with
    | none =>
      rw [descend_none hfollow hdot hdotDot hget,
        descend_none hfollow hdot hdotDot (hget'.trans hget)]
    | some e =>
      rw [hget] at hget'
      cases e with
      | dir =>
        rw [descend_dir hfollow hdot hdotDot hget, descend_dir hfollow hdot hdotDot hget']
        exact ih fun hrest => hk (.into hdot hdotDot hget hrest)
      | file =>
        rw [descend_file hfollow hdot hdotDot hget, descend_file hfollow hdot hdotDot hget']
      | link =>
        rw [descend_link hfollow hdot hdotDot hget, descend_link hfollow hdot hdotDot hget']

theorem SameBut.follow (h : SameBut k fs fs') (hk : ¬fs.Meets k links l names) :
    fs'.follow .follow links l names = fs.follow .follow links l names := by
  induction links using Nat.strongRecOn generalizing l names with | ind links ih => ?_
  apply follow_of_step (h.descend hk)
  intro n above target rest hn hlink htarget
  subst hn
  apply ih n (Nat.lt_succ_self n)
  exact fun hrest => hk (MeetsOn.meets (hlink ▸ .through htarget hrest))

theorem SameBut.stat (h : SameBut k fs fs') (hk : ¬fs.Passes cwd p k) :
    fs'.stat cwd p = fs.stat cwd p := by
  have hlocate : fs'.locate cwd .follow p = fs.locate cwd .follow p := by
    rw [FileSystem.locate, FileSystem.locate, h.follow hk]
  rw [FileSystem.stat, FileSystem.stat, hlocate]
  rcases hplace : fs.locate cwd .follow p with fault | m | m
  · rfl
  · have hm : fs'.get? m = fs.get? m :=
      h m fun hprefix => hk (meets_of_follow (locate_eq_ok.1 hplace).2.2 hprefix)
    simp only [bind, Except.bind, hm]
  · rfl

end Repath.FileSystem
