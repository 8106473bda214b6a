import Repath.Files.Walk
import Repath.Proofs.Files.Tree

namespace Repath.FileSystem

variable {σ : Type} {fs fs' : FileSystem} {files : σ → FileSystem} {visit : σ → Path → σ}
  {suffix : String} {top l : Location} {names : List Bytes}

/-- The candidates below a directory are the files that are reached from it through directories only
and whose names end with the suffix. -/
structure IsCandidate (fs : FileSystem) (suffix : String) (top l : Location) : Prop where
  below : top <+: l
  proper : l ≠ top
  through : ∀ above, top <+: above → above <+: l → above ≠ l → fs.get? above = some .dir
  file : ∃ content mode, fs.get? l = some (.file content mode)
  suffixed : ∃ name, l.getLast? = some name ∧ hasSuffix suffix name

def waysThrough (suffix : String) (name : Bytes) (deeper : List (List Bytes)) :
    Entry → List (List Bytes)
  | .dir => deeper.map (name :: ·)
  | .file .. => if hasSuffix suffix name then [[name]] else []
  | .link _ => []

/-- The ways from a directory to the candidates below it, in the order of the walk. -/
def waysBelow (fs : FileSystem) (suffix : String) : (depth : Nat) → Location → List (List Bytes)
  | 0, _ => []
  | depth + 1, l => (fs.children l).flatMap fun (name, e) =>
      waysThrough suffix name (waysBelow fs suffix depth (l ++ [name])) e

def candidatesBelow (fs : FileSystem) (suffix : String) (top : Location) : List Location :=
  (fs.waysBelow suffix (fs.depth + 1) top).map (top ++ ·)

theorem mem_waysBelow (hfs : fs.WellFormed) {depth : Nat} :
    names ∈ fs.waysBelow suffix depth l ↔ names.length ≤ depth ∧
      (∃ content mode, fs.get? (l ++ names) = some (.file content mode)) ∧
      ∃ name, names.getLast? = some name ∧ hasSuffix suffix name := by
  induction depth generalizing l names with
  | zero =>
    simp only [waysBelow, List.not_mem_nil, Nat.le_zero, List.length_eq_zero_iff, false_iff]
    rintro ⟨rfl, -, name, h, -⟩
    cases h
  | succ depth ih =>
    simp only [waysBelow, List.mem_flatMap, Prod.exists]
    constructor
    · rintro ⟨name, e, hchild, hnames⟩
      have he := hfs.get?_of_mem (mem_children.1 hchild)
      cases e with
      | dir =>
        obtain ⟨rest, hrest, rfl⟩ := List.mem_map.1 hnames
        obtain ⟨hlen, hfile, last, hlast, hsuffix⟩ := ih.1 hrest
        refine ⟨Nat.succ_le_succ hlen, by simpa using hfile, last, ?_, hsuffix⟩
        rw [List.getLast?_cons, hlast]
        rfl
      | file content mode =>
        rw [waysThrough] at hnames
        split at hnames
        · next hsuffix =>
          obtain rfl := List.mem_singleton.1 hnames
          exact ⟨by simp, ⟨content, mode, he⟩, name, rfl, hsuffix⟩
        · cases hnames
      | link => cases hnames
    · rintro ⟨hlen, ⟨content, mode, hfile⟩, last, hlast, hsuffix⟩
      cases names with
      | nil => cases hlast
      | cons name rest =>
        rw [List.append_cons] at hfile
        by_cases hrest : rest = []
        · subst hrest
          rw [List.append_nil] at hfile
          obtain rfl : name = last := Option.some.inj hlast
          refine ⟨name, _, mem_children.2 (mem_of_get? hfile (by simp)), ?_⟩
          simp [waysThrough, hsuffix]
        · have hdir := hfs.dir_above hfile hrest
          refine ⟨name, .dir, mem_children.2 (mem_of_get? hdir (by simp)), ?_⟩
          refine List.mem_map_of_mem (ih.2 ⟨Nat.le_of_succ_le_succ hlen, ⟨content, mode, hfile⟩,
            last, ?_, hsuffix⟩)
          rwa [List.getLast?_cons_of_ne_nil hrest] at hlast

theorem head?_of_mem_waysThrough {name : Bytes} {deeper : List (List Bytes)} {e : Entry}
    (h : names ∈ waysThrough suffix name deeper e) : names.head? = some name := by
  cases e with
  | dir =>
    obtain ⟨rest, -, rfl⟩ := List.mem_map.1 h
    rfl
  | file =>
    rw [waysThrough] at h
    split at h
    · rw [List.mem_singleton.1 h]
      rfl
    · cases h
  | link => cases h

theorem WellFormed.nodup_children (hfs : fs.WellFormed) (l : Location) :
    ((fs.children l).map (·.1)).Nodup := by
  have hpairwise := List.pairwise_map.1 hfs.nodup
  rw [List.Nodup, List.pairwise_map, children, List.pairwise_filterMap]
  refine hpairwise.imp ?_
  rintro ⟨k, d⟩ ⟨k', d'⟩ hne ⟨n, c⟩ h ⟨n', c'⟩ h' hn
  dsimp only at h h' hn hne
  split at h
  · next hk =>
    split at h'
    · next hk' =>
      obtain ⟨m, hm, hmc⟩ := Option.map_eq_some_iff.1 h
      obtain ⟨m', hm', hmc'⟩ := Option.map_eq_some_iff.1 h'
      obtain ⟨rfl, rfl⟩ := Prod.mk.injEq .. ▸ hmc
      obtain ⟨rfl, rfl⟩ := Prod.mk.injEq .. ▸ hmc'
      apply hne
      rw [← List.dropLast_append_getLast? m hm, ← List.dropLast_append_getLast? m' hm', hk, hk', hn]
    · cases h'
  · cases h

theorem nodup_waysBelow (hfs : fs.WellFormed) (depth : Nat) (l : Location) :
    (fs.waysBelow suffix depth l).Nodup := by
  induction depth generalizing l with
  | zero => exact List.nodup_nil
  | succ depth ih =>
    rw [waysBelow, List.nodup_flatMap]
    constructor
    · rintro ⟨name, e⟩ -
      cases e with
      | dir => exact (ih _).map (List.cons_injective)
      | file =>
        simp only [waysThrough]
        split <;> simp
      | link => exact List.nodup_nil
    · have hchildren := List.pairwise_map.1 (hfs.nodup_children l)
      refine hchildren.imp ?_
      intro x y hne names hx hy
      exact hne (Option.some.inj
        ((head?_of_mem_waysThrough hx).symm.trans (head?_of_mem_waysThrough hy)))

theorem nodup_candidatesBelow (hfs : fs.WellFormed) (suffix : String) (top : Location) :
    (fs.candidatesBelow suffix top).Nodup :=
  (nodup_waysBelow hfs _ _).map (List.append_right_injective top)

theorem mem_candidatesBelow (hfs : fs.WellFormed) :
    l ∈ fs.candidatesBelow suffix top ↔ fs.IsCandidate suffix top l := by
  rw [candidatesBelow, List.mem_map]
  constructor
  · rintro ⟨names, hnames, rfl⟩
    obtain ⟨-, ⟨content, mode, hfile⟩, name, hname, hsuffix⟩ := (mem_waysBelow hfs).1 hnames
    have hne : names ≠ [] := by
      rintro rfl
      cases hname
    refine ⟨List.prefix_append top names, by simpa using hne, ?_, ⟨content, mode, hfile⟩,
      name, ?_, hsuffix⟩
    · rintro above - ⟨rest, hrest⟩ hproper
      rw [← hrest] at hfile hproper
      exact hfs.dir_above hfile (by rintro rfl; simp at hproper)
    · rw [List.getLast?_append_of_ne_nil _ hne, hname]
  · rintro ⟨⟨names, rfl⟩, hproper, -, ⟨content, mode, hfile⟩, name, hname, hsuffix⟩
    have hne : names ≠ [] := by simpa using hproper
    rw [List.getLast?_append_of_ne_nil _ hne] at hname
    have hlen := length_le_depth hfile
    rw [List.length_append] at hlen
    exact ⟨names, (mem_waysBelow hfs).2
      ⟨by omega, ⟨content, mode, hfile⟩, name, hname, hsuffix⟩, rfl⟩

theorem file_of_mem_candidatesBelow (hfs : fs.WellFormed)
    (hl : l ∈ fs.candidatesBelow suffix top) : ∃ content mode, fs.get? l = some (.file content mode) :=
  ((mem_candidatesBelow hfs).1 hl).file

theorem foldl_congr_invariant {α β : Type} {P : β → Prop} {f g : β → α → β} {xs : List α}
    (h : ∀ s, P s → ∀ x ∈ xs, f s x = g s x ∧ P (f s x)) {s : β} (hs : P s) :
    xs.foldl f s = xs.foldl g s ∧ P (xs.foldl f s) := by
  induction xs generalizing s with
  | nil => exact ⟨rfl, hs⟩
  | cons x xs ih =>
    obtain ⟨heq, hP⟩ := h s hs x (by simp)
    rw [List.foldl_cons, List.foldl_cons, ← heq]
    exact ih (fun s hs y hy => h s hs y (List.mem_cons_of_mem x hy)) hP

theorem children_mapEntries (f : Entry → Entry) (l : Location) :
    (fs.mapEntries fun _ => f).children l = (fs.children l).map (Prod.map id f) := by
  simp only [children, mapEntries, List.filterMap_map, List.map_filterMap]
  congr 1
  funext entry
  obtain ⟨k, e⟩ := entry
  dsimp only [Function.comp]
  split
  · simp [Function.comp_def]
  · rfl

theorem foldl_children {β : Type} {f : β → Bytes × Entry → β}
    (hf : ∀ s name e, f s (name, e.outline) = f s (name, e)) (h : fs'.outline = fs.outline)
    (l : Location) (s : β) : (fs'.children l).foldl f s = (fs.children l).foldl f s := by
  have houtline : ∀ fs : FileSystem,
      (fs.outline.children l).foldl f s = (fs.children l).foldl f s := by
    intro fs
    rw [outline, children_mapEntries, List.foldl_map]
    congr 1
    funext s entry
    exact hf s entry.1 entry.2
  rw [← houtline fs', h, houtline]

/-- As long as the visits leave all entries where they are, the walk visits what was below the
directory when it began. -/
theorem visitBelow_eq {depth : Nat} {path : Path} {s : σ} (hs : (files s).outline = fs.outline)
    (hvisit : ∀ s, (files s).outline = fs.outline → ∀ names ∈ fs.waysBelow suffix depth l,
      (files (visit s (path.extend names))).outline = fs.outline) :
    visitBelow files visit suffix depth l path s =
        (fs.waysBelow suffix depth l).foldl (fun s names => visit s (path.extend names)) s ∧
      (files (visitBelow files visit suffix depth l path s)).outline = fs.outline := by
  induction depth generalizing l path s with
  | zero => exact ⟨rfl, hs⟩
  | succ depth ih =>
    rw [visitBelow, waysBelow, List.foldl_flatMap, foldl_children ?kind hs l s]
    case kind =>
      intro s name e
      cases e <;> rfl
    refine foldl_congr_invariant (P := fun s => (files s).outline = fs.outline) ?_ hs
    rintro s hs ⟨name, e⟩ hchild
    have hways : ∀ names ∈ waysThrough suffix name (fs.waysBelow suffix depth (l ++ [name])) e,
        names ∈ fs.waysBelow suffix (depth + 1) l :=
      fun names hnames => List.mem_flatMap.2 ⟨(name, e), hchild, hnames⟩
    cases e with
    | dir =>
      simp only [waysThrough, List.foldl_map]
      refine ih hs fun s hs names hnames => ?_
      exact hvisit s hs _ (hways _ (List.mem_map_of_mem hnames))
    | file content mode =>
      simp only [waysThrough]
      split
      · next hsuffix =>
        exact ⟨rfl, hvisit s hs [name] (hways [name] (by simp [waysThrough, hsuffix]))⟩
      · exact ⟨rfl, hs⟩
    | link target => exact ⟨rfl, hs⟩

/-- From a directory that is there, the walk visits the path of every candidate below it. -/
theorem visitCandidates_path (hfs : fs.WellFormed) (htop : fs.get? top = some .dir)
    (cwd : Location) {s : σ} (hs : files s = fs)
    (hvisit : ∀ s, (files s).outline = fs.outline → ∀ l ∈ fs.candidatesBelow suffix top,
      (files (visit s l.path)).outline = fs.outline) :
    visitCandidates files visit suffix cwd top.path s =
        ((fs.candidatesBelow suffix top).foldl (fun s l => visit s l.path) s, none) ∧
      (files ((fs.candidatesBelow suffix top).foldl (fun s l => visit s l.path) s)).outline =
        fs.outline := by
  have hnames := hfs.isName htop
  have hextend : ∀ names ∈ fs.waysBelow suffix (fs.depth + 1) top,
      top.path.extend names = Location.path (top ++ names) := by
    intro names hmem
    obtain ⟨-, ⟨content, mode, hfile⟩, -⟩ := (mem_waysBelow hfs).1 hmem
    exact Location.extend_path hnames fun n hn => hfs.isName hfile n (by simp [hn])
  obtain ⟨hwalk, hkept⟩ : visitBelow files visit suffix (fs.depth + 1) top top.path s =
      (fs.waysBelow suffix (fs.depth + 1) top).foldl
        (fun s names => visit s (top.path.extend names)) s ∧
      (files (visitBelow files visit suffix (fs.depth + 1) top top.path s)).outline =
        fs.outline := by
    refine visitBelow_eq (congrArg outline hs) fun s hs names hmem => ?_
    rw [hextend names hmem]
    exact hvisit s hs _ (List.mem_map_of_mem hmem)
  have hpaths : (fs.waysBelow suffix (fs.depth + 1) top).foldl
      (fun s names => visit s (top.path.extend names)) s =
      (fs.candidatesBelow suffix top).foldl (fun s l => visit s l.path) s := by
    rw [candidatesBelow, List.foldl_map]
    exact List.foldl_ext _ _ _ fun s names hmem => by rw [hextend names hmem]
  rw [visitCandidates, hs, locate_path hfs htop cwd (.inl rfl)]
  simp only [htop]
  rw [← hpaths, ← hwalk]
  exact ⟨rfl, hkept⟩

end Repath.FileSystem
