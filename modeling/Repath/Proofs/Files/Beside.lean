import Repath.Proofs.Files.Following
import Repath.Proofs.Files.Replace
import Repath.Proofs.Files.Walk

namespace Repath.FileSystem

variable {fs fs' : FileSystem} {l k above cwd top : Location} {names : List Bytes} {name : Bytes}
  {content : Bytes} {mode links : Nat} {suffix : String} {purpose : Purpose} {p : Path} {e : Entry}

theorem get?_beside_of_ne (h : k ≠ l) : (fs.beside l content mode).get? k = fs.get? k := by
  have hk : (k == l) = false := by simpa using h
  simp [get?, beside, List.lookup_append, List.lookup_cons, hk]

theorem put_absent (h : fs.Unused l) (content : Bytes) (mode : Nat) :
    fs.put l (.file content mode) = fs.beside l content mode := by
  simp [put, h.lookup, beside]

theorem wellFormed_beside (hfs : fs.WellFormed) (h : fs.Unused (above ++ [name]))
    (habove : fs.get? above = some .dir) (hname : IsName name) :
    (fs.beside (above ++ [name]) content mode).WellFormed := by
  have hstill : ∀ {k}, fs.get? k = some .dir →
      (fs.beside (above ++ [name]) content mode).get? k = some .dir := by
    intro k hk
    rw [get?_beside_of_ne, hk]
    rintro rfl
    rw [h.get?_eq_none] at hk
    cases hk
  refine ⟨?_, ?_, ?_, ?_⟩
  · exact nodup_concat hfs.nodup h.lookup _
  · simp only [beside, List.forall_mem_append, List.forall_mem_singleton]
    exact ⟨hfs.nonempty, h.1⟩
  · simp only [beside, List.forall_mem_append, List.forall_mem_singleton]
    exact ⟨hfs.names, hfs.isName habove, hname⟩
  · have hparents : ∀ entry ∈ fs.entries,
        (fs.beside (above ++ [name]) content mode).get? entry.1.dropLast = some .dir :=
      fun entry hentry => hstill (hfs.parents entry hentry)
    have hparent : (fs.beside (above ++ [name]) content mode).get? (above ++ [name]).dropLast =
        some .dir := by
      rw [List.dropLast_concat]
      exact hstill habove
    intro entry hentry
    obtain hentry | hentry := List.mem_append.1 hentry
    · exact hparents entry hentry
    · obtain rfl := List.mem_singleton.1 hentry
      exact hparent

/-- What is there in one file system is there in another, which may hold more. -/
def Within (fs fs' : FileSystem) : Prop := ∀ l e, fs.get? l = some e → fs'.get? l = some e

theorem Unused.within (h : fs.Unused l) (content : Bytes) (mode : Nat) :
    fs.Within (fs.beside l content mode) := by
  intro k e hk
  rw [get?_beside_of_ne, hk]
  rintro rfl
  rw [h.get?_eq_none] at hk
  cases hk

theorem Within.descend (h : fs.Within fs') (purpose : Purpose) (l : Location) (names : List Bytes) :
    (∀ k, fs.descend purpose l names = .place (.present k) →
      fs'.descend purpose l names = .place (.present k)) ∧
    ∀ above target rest, fs.descend purpose l names = .link above target rest →
      fs'.descend purpose l names = .link above target rest := by
  induction names generalizing l with
  | nil => exact ⟨fun k hk => hk, fun above target rest hlink => hlink⟩
  | cons name rest ih =>
    simp only [FileSystem.descend]
    split
    · exact ih l
    split
    · exact ih _
    split
    · simp
    cases hget : fs.get? (l ++ [name]) with
    | none =>
      dsimp only
      split <;> simp
    | some e =>
      rw [h _ _ hget]
      cases e with
      | dir => exact ih _
      | file => exact ⟨fun k hk => hk, fun above target rest hlink => hlink⟩
      | link => exact ⟨fun k hk => hk, fun above target rest hlink => hlink⟩

theorem Within.follow (h : fs.Within fs')
    (hk : fs.follow purpose links l names = .ok (.present k)) :
    fs'.follow purpose links l names = .ok (.present k) :=
  follow_of_descend (fun l names => (h.descend purpose l names).1 k)
    (fun l names above target rest _ hlink _ =>
      (h.descend purpose l names).2 above target rest hlink) hk

theorem Within.locate (h : fs.Within fs') (hp : fs.locate cwd purpose p = .ok (.present l)) :
    fs'.locate cwd purpose p = .ok (.present l) := by
  obtain ⟨hnul, hempty, hfollow⟩ := locate_eq_ok.1 hp
  exact locate_eq_ok.2 ⟨hnul, hempty, h.follow hfollow⟩

theorem Within.stat (h : fs.Within fs') (hp : fs.stat cwd p = .ok (l, e)) :
    fs'.stat cwd p = .ok (l, e) := by
  obtain ⟨hlocate, hl⟩ := stat_eq_ok.1 hp
  exact stat_eq_ok.2 ⟨h.locate hlocate, h l e hl⟩

theorem descend_absent (hname : IsName name) (purpose : Purpose)
    (h : fs.get? (above ++ [name]) = none) :
    fs.descend purpose above [name] = .place (.absent (above ++ [name])) := by
  obtain ⟨hne, -, -, hdot, hdotDot⟩ := hname
  simp [descend, isDot, hne, hdot, hdotDot, h]

theorem locate_absent (hfs : fs.WellFormed) (habove : fs.get? above = some .dir)
    (hname : IsName name) (h : fs.get? (above ++ [name]) = none) (cwd : Location) :
    fs.locate cwd .follow (Location.path (above ++ [name])) =
      .ok (.absent (above ++ [name])) := by
  have hne : above ++ [name] ≠ [] := by simp
  have hproper : ∀ n ∈ above ++ [name], IsName n := by
    simpa [or_imp, forall_and] using ⟨hfs.isName habove, hname⟩
  have hplace : fs.descend .follow [] above = .place (.present above) :=
    descend_present hfs (by rwa [List.nil_append]) (.inr (by simp))
  have hdescend : fs.descend .follow [] (above ++ [name]) = fs.descend .follow above [name] :=
    descend_append hfs (by simp) (by simp) hplace habove
  rw [descend_absent hname .follow h] at hdescend
  refine locate_eq_ok.2 ⟨Location.zero_notMem_path hproper, Location.isEmpty_path _, ?_⟩
  rw [Location.isAbsolute_path, if_pos rfl, Location.names_path hne hproper]
  exact follow_place hdescend

theorem children_beside (l : Location) : (fs.beside (above ++ [name]) content mode).children l =
    fs.children l ++ if above = l then [(name, .file content mode)] else [] := by
  simp only [children, beside, List.filterMap_append, List.filterMap_cons, List.filterMap_nil,
    List.dropLast_concat, List.getLast?_concat, Option.map_some]
  by_cases h : above = l <;> simp [h]

theorem waysBelow_beside (hsuffix : hasSuffix suffix name = false) (depth : Nat) (l : Location) :
    (fs.beside (above ++ [name]) content mode).waysBelow suffix depth l =
      fs.waysBelow suffix depth l := by
  induction depth generalizing l with
  | zero => rfl
  | succ depth ih =>
    simp only [waysBelow, ih, children_beside, List.flatMap_append]
    split
    · simp [waysThrough, hsuffix]
    · simp

theorem waysBelow_of_lt (hfs : fs.WellFormed) {depth : Nat} (h : fs.depth < l.length + depth)
    (more : Nat) : fs.waysBelow suffix (depth + more) l = fs.waysBelow suffix depth l := by
  induction depth generalizing l with
  | zero =>
    refine List.eq_nil_iff_forall_not_mem.2 fun names hnames => ?_
    obtain ⟨-, ⟨content, mode, hfile⟩, -⟩ := (mem_waysBelow hfs).1 hnames
    have hlen := length_le_depth hfile
    rw [List.length_append] at hlen
    omega
  | succ depth ih =>
    have hdeeper : ∀ name, fs.waysBelow suffix (depth + more) (l ++ [name]) =
        fs.waysBelow suffix depth (l ++ [name]) := by
      intro name
      apply ih
      rw [List.length_append, List.length_singleton]
      omega
    rw [Nat.add_right_comm]
    simp only [waysBelow, hdeeper]

theorem depth_le_beside (fs : FileSystem) (l : Location) (content : Bytes) (mode : Nat) :
    fs.depth ≤ (fs.beside l content mode).depth := by
  rw [depth, depth, beside, List.foldl_append]
  exact Nat.le_max_left _ _

theorem candidatesBelow_beside (hfs : fs.WellFormed) (hsuffix : hasSuffix suffix name = false)
    (top : Location) : (fs.beside (above ++ [name]) content mode).candidatesBelow suffix top =
      fs.candidatesBelow suffix top := by
  obtain ⟨more, hmore⟩ := Nat.exists_eq_add_of_le
    (fs.depth_le_beside (above ++ [name]) content mode)
  rw [candidatesBelow, candidatesBelow, waysBelow_beside hsuffix, hmore, Nat.add_right_comm,
    waysBelow_of_lt hfs (by omega)]

end Repath.FileSystem
