import Repath.Files.Resolve
import Repath.Proofs.Files.Locations
import Repath.Proofs.Lookup
import Mathlib.Data.List.Induction

namespace Repath

variable {fs : FileSystem} {l k above : Location} {names : List Bytes} {e : Entry}
  {purpose : Purpose} {cwd : Location}

/-- An entry without the content and the mode of a file. -/
def Entry.outline : Entry → Entry
  | .file .. => .file [] 0
  | e => e

namespace FileSystem

instance : DecidablePred IsName := fun _ => inferInstanceAs (Decidable (_ ∧ _))

theorem mem_of_get? (h : fs.get? l = some e) (hl : l ≠ []) : (l, e) ∈ fs.entries := by
  rw [get?, if_neg hl, List.lookup_eq_some_iff] at h
  obtain ⟨before, after, he, -⟩ := h
  simp [he]

theorem WellFormed.get?_of_mem (hfs : fs.WellFormed) (h : (l, e) ∈ fs.entries) :
    fs.get? l = some e := by
  rw [get?, if_neg (hfs.nonempty _ h)]
  exact (lookup_eq_some_iff hfs.nodup).2 h

theorem WellFormed.isName (hfs : fs.WellFormed) (h : fs.get? l = some e) : ∀ n ∈ l, IsName n := by
  by_cases hl : l = []
  · simp [hl]
  · exact hfs.names _ (mem_of_get? h hl)

theorem WellFormed.dir_above (hfs : fs.WellFormed) (h : fs.get? (l ++ names) = some e)
    (hne : names ≠ []) : fs.get? l = some .dir := by
  induction names using List.reverseRecOn generalizing e with
  | nil => exact absurd rfl hne
  | append_singleton names n ih =>
    have hparent := hfs.parents _ (mem_of_get? h (by simp))
    rw [← List.append_assoc, List.dropLast_concat] at hparent
    by_cases hnames : names = []
    · rwa [hnames, List.append_nil] at hparent
    · exact ih hparent hnames

theorem mem_children {name : Bytes} :
    (name, e) ∈ fs.children l ↔ (l ++ [name], e) ∈ fs.entries := by
  simp only [children, List.mem_filterMap]
  constructor
  · rintro ⟨⟨k, d⟩, hmem, h⟩
    dsimp only at h
    split at h
    · next hk =>
      obtain ⟨n, hn, hnd⟩ := Option.map_eq_some_iff.1 h
      obtain ⟨rfl, rfl⟩ := Prod.mk.injEq .. ▸ hnd
      rwa [← hk, List.dropLast_append_getLast? n hn]
    · cases h
  · intro hmem
    exact ⟨_, hmem, by simp⟩

theorem le_foldl_max {α : Type} (f : α → Nat) {xs : List α} {x : α} (h : x ∈ xs) (n : Nat) :
    f x ≤ xs.foldl (fun n x => Nat.max n (f x)) n := by
  have hle : ∀ (xs : List α) n, n ≤ xs.foldl (fun n x => Nat.max n (f x)) n := by
    intro xs
    induction xs with
    | nil => exact fun n => Nat.le_refl n
    | cons y xs ih => exact fun n => Nat.le_trans (Nat.le_max_left n (f y)) (ih _)
  induction xs generalizing n with
  | nil => cases h
  | cons y xs ih =>
    obtain rfl | h := List.mem_cons.1 h
    · exact Nat.le_trans (Nat.le_max_right n (f x)) (hle xs _)
    · exact ih h _

theorem length_le_depth (h : fs.get? l = some e) : l.length ≤ fs.depth := by
  by_cases hl : l = []
  · simp [hl]
  · exact le_foldl_max (fun entry : Location × Entry => entry.1.length) (mem_of_get? h hl) 0

theorem descend_present (hfs : fs.WellFormed) (h : fs.get? (above ++ names) = some e)
    (he : purpose = .keep ∨ ∀ target, e ≠ .link target) :
    fs.descend purpose above names = .place (.present (above ++ names)) := by
  induction names generalizing above with
  | nil => simp [descend]
  | cons n names ih =>
    have hall := hfs.isName h
    obtain ⟨hne, -, -, hdot, hdotDot⟩ := hall n (by simp)
    have hrest : names ≠ [[]] := fun hr => (hall [] (by simp [hr])).1 rfl
    have hfirst : isDot n = false := by simp [isDot, hne, hdot]
    have hstep : above ++ n :: names = above ++ [n] ++ names := by simp
    rw [hstep] at h ⊢
    rw [descend, if_neg (by simp [hfirst]), if_neg hdotDot, if_neg (by simp [hrest])]
    by_cases hnames : names = []
    · subst hnames
      rw [List.append_nil] at h ⊢
      simp only [h]
      cases e with
      | file => simp
      | dir => simp [descend]
      | link target =>
        obtain rfl : purpose = .keep := he.resolve_right fun h => h target rfl
        simp
    · simp only [hfs.dir_above h hnames]
      exact ih h

theorem locate_path (hfs : fs.WellFormed) (h : fs.get? l = some e) (cwd : Location)
    (he : purpose = .keep ∨ ∀ target, e ≠ .link target) :
    fs.locate cwd purpose l.path = .ok (.present l) := by
  have hnames := hfs.isName h
  have hdescend : fs.descend purpose [] l.path.names = .place (.present l) := by
    by_cases hl : l = []
    · subst hl
      rw [Location.names_path_nil]
      rfl
    · rw [Location.names_path hl hnames]
      rw [← List.nil_append l] at h
      exact descend_present hfs h he
  rw [locate, if_neg (Location.zero_notMem_path hnames), Location.isEmpty_path,
    Location.isAbsolute_path]
  simp [follow, hdescend]

theorem stat_path (hfs : fs.WellFormed) (h : fs.get? l = some e) (cwd : Location)
    (he : ∀ target, e ≠ .link target) : fs.stat cwd l.path = .ok (l, e) := by
  rw [stat, locate_path hfs h cwd (.inr he)]
  simp only [bind, Except.bind, h]
  rfl

theorem get?_of_stat {p : Path} (h : fs.stat cwd p = .ok (l, e)) : fs.get? l = some e := by
  rw [stat] at h
  cases hp : fs.locate cwd .follow p with
  | error fault =>
    rw [hp] at h
    cases h
  | ok place =>
    rw [hp] at h
    cases place with
    | absent k => cases h
    | present k =>
      simp only [bind, Except.bind] at h
      cases hk : fs.get? k with
      | none =>
        rw [hk] at h
        cases h
      | some d =>
        rw [hk] at h
        cases h
        exact hk

def mapEntries (fs : FileSystem) (f : Location → Entry → Entry) : FileSystem :=
  ⟨fs.entries.map fun entry => (entry.1, f entry.1 entry.2)⟩

variable {f g : Location → Entry → Entry}

theorem lookup_mapEntries (f : Location → Entry → Entry) (k : Location)
    (es : List (Location × Entry)) :
    (es.map fun entry => (entry.1, f entry.1 entry.2)).lookup k = (es.lookup k).map (f k) := by
  induction es with
  | nil => rfl
  | cons x es ih =>
    obtain ⟨m, d⟩ := x
    by_cases hm : k = m
    · subst hm
      simp
    · have hl : (k == m) = false := by simp [hm]
      simp only [List.map_cons, List.lookup_cons, hl, ih]

theorem get?_mapEntries (hl : l ≠ []) : (fs.mapEntries f).get? l = (fs.get? l).map (f l) := by
  rw [get?, get?, if_neg hl, if_neg hl, mapEntries, lookup_mapEntries]

theorem mapEntries_mapEntries :
    (fs.mapEntries f).mapEntries g = fs.mapEntries fun l e => g l (f l e) := by
  simp [mapEntries]

theorem mapEntries_congr (h : ∀ entry ∈ fs.entries, f entry.1 entry.2 = g entry.1 entry.2) :
    fs.mapEntries f = fs.mapEntries g := by
  have : (fs.entries.map fun entry => (entry.1, f entry.1 entry.2)) =
      fs.entries.map fun entry => (entry.1, g entry.1 entry.2) :=
    List.map_congr_left fun entry hentry => by rw [h entry hentry]
  rw [mapEntries, mapEntries, this]

theorem mapEntries_self (h : ∀ entry ∈ fs.entries, f entry.1 entry.2 = entry.2) :
    fs.mapEntries f = fs := by
  have : (fs.entries.map fun entry => (entry.1, f entry.1 entry.2)) = fs.entries :=
    (List.map_congr_left fun entry hentry => by rw [h entry hentry]; rfl).trans (List.map_id _)
  rw [mapEntries, this]

theorem put_present (h : fs.get? l = some e) (hl : l ≠ []) (d : Entry) :
    fs.put l d = fs.mapEntries fun k c => if k = l then d else c := by
  rw [get?, if_neg hl] at h
  rw [put, if_pos (by simp [h]), mapEntries]
  congr 1
  apply List.map_congr_left
  rintro ⟨k, c⟩ -
  by_cases hk : k = l
  · simp [hk]
  · simp [hk]

theorem map_fst_mapEntries : (fs.mapEntries f).entries.map (·.1) = fs.entries.map (·.1) := by
  simp [mapEntries]

theorem get?_eq_dir (hf : ∀ k d, fs.get? k = some d → (f k d = .dir ↔ d = .dir)) :
    (fs.mapEntries f).get? l = some .dir ↔ fs.get? l = some .dir := by
  by_cases hl : l = []
  · simp [hl, get?]
  · rw [get?_mapEntries hl]
    cases hget : fs.get? l with
    | none => simp
    | some d => rw [Option.map_some, Option.some_inj, Option.some_inj, hf l d hget]

theorem wellFormed_mapEntries (hf : ∀ k d, fs.get? k = some d → (f k d = .dir ↔ d = .dir)) :
    (fs.mapEntries f).WellFormed ↔ fs.WellFormed := by
  have hall : ∀ P : Location → Prop, (∀ entry ∈ (fs.mapEntries f).entries, P entry.1) ↔
      ∀ entry ∈ fs.entries, P entry.1 := fun P => by simp only [mapEntries, List.forall_mem_map]
  have hnames := hall fun k => ∀ n ∈ k, IsName n
  have hparents := hall fun k => (fs.mapEntries f).get? k.dropLast = some .dir
  simp only [get?_eq_dir hf] at hparents
  constructor
  · intro h
    exact ⟨map_fst_mapEntries ▸ h.nodup, (hall (· ≠ [])).1 h.nonempty, hnames.1 h.names,
      hparents.1 fun entry hentry => (get?_eq_dir hf).1 (h.parents entry hentry)⟩
  · intro h
    exact ⟨map_fst_mapEntries.symm ▸ h.nodup, (hall (· ≠ [])).2 h.nonempty, hnames.2 h.names,
      fun entry hentry => (get?_eq_dir hf).2 (hparents.2 h.parents entry hentry)⟩

/-- The file system without the contents and the modes of its files. -/
def outline (fs : FileSystem) : FileSystem := fs.mapEntries fun _ => Entry.outline

theorem outline_eq_dir : e.outline = .dir ↔ e = .dir := by
  cases e <;> simp [Entry.outline]

theorem outline_mapEntries (hf : ∀ k d, (f k d).outline = d.outline) :
    (fs.mapEntries f).outline = fs.outline := by
  simp [outline, mapEntries_mapEntries, hf]

theorem WellFormed.of_outline {fs' : FileSystem} (h : fs.WellFormed)
    (ho : fs'.outline = fs.outline) : fs'.WellFormed := by
  rw [← wellFormed_mapEntries fun _ _ _ => outline_eq_dir, ← outline] at h ⊢
  rwa [ho]

end FileSystem
end Repath
