import Repath.Proofs.Files.Following

namespace Repath.FileSystem

variable {fs : FileSystem} {cwd l k : Location} {p : Path} {e : Entry} {names : List Bytes}
  {n links : Nat}

/-- From a location, names lead to another by way of so many links. -/
inductive Leads (fs : FileSystem) : Nat → Location → List Bytes → Location → Prop
  | done (l : Location) : fs.Leads 0 l [] l
  | stay {n : Nat} {l k : Location} {name : Bytes} {rest : List Bytes}
      (hdot : isDot name = true) (h : fs.Leads n l rest k) : fs.Leads n l (name :: rest) k
  | up {n : Nat} {l k : Location} {rest : List Bytes} (h : fs.Leads n l.dropLast rest k) :
      fs.Leads n l (Path.dotDot :: rest) k
  | into {n : Nat} {l k : Location} {name : Bytes} {rest : List Bytes}
      (hdot : ¬isDot name = true) (hdotDot : name ≠ Path.dotDot)
      (hdir : fs.get? (l ++ [name]) = some .dir) (h : fs.Leads n (l ++ [name]) rest k) :
      fs.Leads n l (name :: rest) k
  /-- Nothing lies below a file, so that it can only be the end. -/
  | file {l : Location} {name content : Bytes} {mode : Nat}
      (hdot : ¬isDot name = true) (hdotDot : name ≠ Path.dotDot)
      (hfile : fs.get? (l ++ [name]) = some (.file content mode)) :
      fs.Leads 0 l [name] (l ++ [name])
  | through {n : Nat} {l k : Location} {name : Bytes} {rest : List Bytes} {target : Path}
      (hdot : ¬isDot name = true) (hdotDot : name ≠ Path.dotDot)
      (hlink : fs.get? (l ++ [name]) = some (.link target)) (htarget : target.isEmpty = false)
      (h : fs.Leads n (if target.isAbsolute then [] else l) (target.names ++ rest) k) :
      fs.Leads (n + 1) l (name :: rest) k

/-- A path leads to an entry. -/
structure Resolves (fs : FileSystem) (cwd : Location) (p : Path) (l : Location) (e : Entry) :
    Prop where
  proper : 0 ∉ p.bytes ∧ p.isEmpty = false
  leads : ∃ n ≤ maxLinks, fs.Leads n (if p.isAbsolute then [] else cwd) p.names l
  there : fs.get? l = some e

/-- Where it goes on to from how far names could be followed without a link. -/
inductive LeadsOn (fs : FileSystem) : Progress → Nat → Location → Prop
  | here (k : Location) : fs.LeadsOn (.place (.present k)) 0 k
  | through {n : Nat} {above k : Location} {target : Path} {rest : List Bytes}
      (htarget : target.isEmpty = false)
      (h : fs.Leads n (if target.isAbsolute then [] else above) (target.names ++ rest) k) :
      fs.LeadsOn (.link above target rest) (n + 1) k

theorem LeadsOn.leads (h : fs.LeadsOn (fs.descend .follow l names) n k) :
    fs.Leads n l names k := by
  have hfollow : Purpose.follow ≠ .create := by simp
  induction names generalizing l with
  | nil =>
    cases h
    exact .done k
  | cons name rest ih =>
    by_cases hdot : isDot name = true
    · rw [descend_dot hdot] at h
      exact .stay hdot (ih h)
    by_cases hdotDot : name = Path.dotDot
    · rw [descend_dotDot hdot hdotDot] at h
      rw [hdotDot]
      exact .up (ih h)
    cases hget : fs.get? (l ++ [name]) with
    | none =>
      rw [descend_none hfollow hdot hdotDot hget] at h
      split at h <;> cases h
    | some e =>
      cases e with
      | dir =>
        rw [descend_dir hfollow hdot hdotDot hget] at h
        exact .into hdot hdotDot hget (ih h)
      | file content mode =>
        rw [descend_file hfollow hdot hdotDot hget] at h
        split at h
        · next hrest =>
          cases h
          rw [hrest]
          exact .file hdot hdotDot hget
        · cases h
      | link target =>
        rw [descend_link hfollow hdot hdotDot hget, if_neg (by simp)] at h
        cases h with
        | through htarget h => exact .through hdot hdotDot hget htarget h

theorem leads_of_follow (h : fs.follow .follow links l names = .ok (.present k)) :
    ∃ n ≤ links, fs.Leads n l names k := by
  induction links generalizing l names with
  | zero =>
    obtain hplace | ⟨_, _, _, _, hn, -⟩ := follow_eq_ok h
    · exact ⟨0, Nat.le_refl 0, LeadsOn.leads (hplace ▸ .here k)⟩
    · cases hn
  | succ links ih =>
    obtain hplace | ⟨_, above, target, rest, hn, hlink, htarget, hrest⟩ := follow_eq_ok h
    · exact ⟨0, Nat.zero_le _, LeadsOn.leads (hplace ▸ .here k)⟩
    · cases hn
      obtain ⟨n, hle, hon⟩ := ih hrest
      exact ⟨n + 1, Nat.succ_le_succ hle, LeadsOn.leads (hlink ▸ .through htarget hon)⟩

theorem Leads.follow (h : fs.Leads n l names k) (hle : n ≤ links) :
    fs.follow .follow links l names = .ok (.present k) := by
  have hfollow : Purpose.follow ≠ .create := by simp
  induction h generalizing links with
  | done l => exact follow_place rfl
  | stay hdot h ih => exact (follow_congr (descend_dot hdot)).trans (ih hle)
  | up h ih => exact (follow_congr (descend_dotDot (by decide) rfl)).trans (ih hle)
  | into hdot hdotDot hdir h ih =>
    exact (follow_congr (descend_dir hfollow hdot hdotDot hdir)).trans (ih hle)
  | file hdot hdotDot hfile =>
    rw [follow_place]
    rw [descend_file hfollow hdot hdotDot hfile, if_pos rfl]
  | @through n l k name rest target hdot hdotDot hlink htarget h ih =>
    obtain ⟨m, rfl⟩ : ∃ m, links = m + 1 := ⟨links - 1, by omega⟩
    have hstep : fs.descend .follow l (name :: rest) = .link l target rest := by
      rw [descend_link hfollow hdot hdotDot hlink, if_neg (by simp)]
    rw [follow_link_succ hstep, htarget]
    exact ih (Nat.le_of_succ_le_succ hle)

theorem follow_eq_present : fs.follow .follow links l names = .ok (.present k) ↔
    ∃ n ≤ links, fs.Leads n l names k :=
  ⟨leads_of_follow, fun ⟨_, hle, h⟩ => h.follow hle⟩

/-- What is found by following a path is what it leads to. -/
theorem stat_eq_ok_iff_resolves : fs.stat cwd p = .ok (l, e) ↔ fs.Resolves cwd p l e := by
  rw [stat_eq_ok, locate_eq_ok, follow_eq_present]
  constructor
  · rintro ⟨⟨hnul, hempty, hleads⟩, hl⟩
    exact ⟨⟨hnul, hempty⟩, hleads, hl⟩
  · rintro ⟨⟨hnul, hempty⟩, hleads, hl⟩
    exact ⟨⟨hnul, hempty, hleads⟩, hl⟩

end Repath.FileSystem
