import Repath.Files.Replace
import Repath.Proofs.Files.Tree

namespace Repath.FileSystem

variable {fs : FileSystem} {l k above : Location} {mode m : Nat} {content bytes : Bytes}
  {pieces : List Bytes}

/-- Nothing is at a location or below it. -/
def Unused (fs : FileSystem) (l : Location) : Prop := l ≠ [] ∧ ∀ entry ∈ fs.entries, ¬l <+: entry.1

theorem length_lt_temporaryName {inUse : List Bytes} {name : Bytes} (h : name ∈ inUse) :
    name.length < (temporaryName inUse).length := by
  have hle : name.length ≤ inUse.foldl (fun n name => Nat.max n name.length) 0 :=
    le_foldl_max List.length h 0
  have hsuffix : 0 < temporarySuffix.length := by decide
  simp only [temporaryName, temporaryNamed, List.length_append, List.length_replicate]
  omega

theorem get?_temporaryIn (above : Location) : fs.get? (fs.temporaryIn above) = none := by
  by_contra h
  obtain ⟨e, he⟩ := Option.ne_none_iff_exists'.1 h
  have hchild := mem_children.2 (mem_of_get? he (by simp))
  have huse : temporaryName ((fs.children above).map (·.1)) ∈ (fs.children above).map (·.1) :=
    List.mem_map.2 ⟨_, hchild, rfl⟩
  exact Nat.lt_irrefl _ (length_lt_temporaryName huse)

theorem unused_of_get? (hfs : fs.WellFormed) (hl : l ≠ []) (h : fs.get? l = none) :
    fs.Unused l := by
  refine ⟨hl, ?_⟩
  rintro ⟨k, e⟩ hmem ⟨names, rfl⟩
  have he := hfs.get?_of_mem hmem
  by_cases hnames : names = []
  · rw [hnames, List.append_nil, h] at he
    cases he
  · rw [hfs.dir_above he hnames] at h
    cases h

theorem unused_temporaryIn (hfs : fs.WellFormed) (above : Location) :
    fs.Unused (fs.temporaryIn above) :=
  unused_of_get? hfs (by simp [temporaryIn]) (fs.get?_temporaryIn above)

def beside (fs : FileSystem) (l : Location) (content : Bytes) (mode : Nat) : FileSystem :=
  ⟨fs.entries ++ [(l, .file content mode)]⟩

theorem Unused.ne (h : fs.Unused l) : ∀ entry ∈ fs.entries, entry.1 ≠ l := by
  intro entry hentry heq
  exact h.2 entry hentry (heq ▸ List.prefix_refl l)

theorem Unused.lookup (h : fs.Unused l) : fs.entries.lookup l = none := by
  rw [List.lookup_eq_none_iff]
  intro entry hentry
  simpa using (h.ne entry hentry).symm

theorem Unused.get?_eq_none (h : fs.Unused l) : fs.get? l = none := by
  rw [get?, if_neg h.1, h.lookup]

theorem Unused.get?_beside (h : fs.Unused l) :
    (fs.beside l content mode).get? l = some (.file content mode) := by
  simp [get?, h.1, beside, List.lookup_append, h.lookup]

theorem Unused.put_beside (h : fs.Unused l) :
    (fs.beside l content mode).put l (.file bytes m) = fs.beside l bytes m := by
  have hold : (fs.entries.map fun entry => if entry.1 = l then (l, .file bytes m) else entry) =
      fs.entries :=
    (List.map_congr_left fun entry hentry => if_neg (h.ne entry hentry)).trans (List.map_id _)
  simp [put, beside, List.lookup_append, h.lookup, hold]

theorem Unused.append (h : fs.Unused l) :
    (Effect.append l bytes).apply (fs.beside l content mode) =
      fs.beside l (content ++ bytes) mode := by
  simp only [Effect.apply, h.get?_beside, h.put_beside]

theorem Unused.remove_beside (h : fs.Unused l) : (fs.beside l content mode).remove l = fs := by
  have hkeep : ∀ entry ∈ fs.entries, (!l.isPrefixOf entry.1) = true := by
    intro entry hentry
    rw [Bool.not_eq_true', ← Bool.not_eq_true, List.isPrefixOf_iff_prefix]
    exact h.2 entry hentry
  rw [remove, beside, List.filter_append, List.filter_eq_self.2 hkeep]
  simp

theorem Unused.rename (h : fs.Unused l) {e : Entry} (hk : fs.get? k = some e) (hne : k ≠ []) :
    (Effect.rename l k).apply (fs.beside l content mode) = fs.put k (.file content mode) := by
  have hkl : l ≠ k := (h.ne _ (mem_of_get? hk hne)).symm
  have hbeside : (fs.beside l content mode).get? k = some e := by
    rw [get?, if_neg hne] at hk ⊢
    simp [beside, List.lookup_append, hk]
  have hunused : (fs.put k (.file content mode)).Unused l := by
    refine ⟨h.1, ?_⟩
    rw [put_present hk hne, mapEntries, List.forall_mem_map]
    exact h.2
  have hput : (fs.beside l content mode).put k (.file content mode) =
      (fs.put k (.file content mode)).beside l content mode := by
    rw [put_present hbeside hne, put_present hk hne]
    simp [mapEntries, beside, hkl]
  simp only [Effect.apply, h.get?_beside, hput, hunused.remove_beside]

variable {temporary : Location} {e : Entry}

theorem Unused.create (h : fs.Unused l) :
    (Effect.create l).apply fs = fs.beside l [] Effect.privateMode := by
  simp [Effect.apply, put, h.lookup, beside]

theorem Unused.setMode (h : fs.Unused l) :
    (Effect.setMode l m).apply (fs.beside l content mode) = fs.beside l content m := by
  simp only [Effect.apply, h.get?_beside, h.put_beside]

theorem applyAll_append (fs : FileSystem) (effects effects' : List Effect) :
    fs.applyAll (effects ++ effects') = (fs.applyAll effects).applyAll effects' :=
  List.foldl_append

/-- However far the writing has come, a front of the content is under the new name, and in the end
all of it with the mode it is to have. -/
theorem Unused.exists_beside (h : fs.Unused temporary) {done rest : List Effect}
    (hdone : done ++ rest = pieces.map (.append temporary) ++ [.setMode temporary mode])
    (content : Bytes) (m : Nat) : ∃ bytes m', bytes <+: pieces.flatten ∧
      (rest = [] → bytes = pieces.flatten ∧ m' = mode) ∧
      (fs.beside temporary content m).applyAll done =
        fs.beside temporary (content ++ bytes) m' := by
  induction pieces generalizing done content with
  | nil =>
    cases done with
    | nil =>
      refine ⟨[], m, List.nil_prefix, ?_, by rw [List.append_nil]; rfl⟩
      rintro rfl
      cases hdone
    | cons effect done =>
      obtain ⟨rfl, hnil⟩ := List.cons.inj hdone
      obtain ⟨rfl, rfl⟩ := List.append_eq_nil_iff.1 hnil
      refine ⟨[], mode, List.nil_prefix, fun _ => ⟨rfl, rfl⟩, ?_⟩
      rw [List.append_nil]
      exact h.setMode
  | cons piece pieces ih =>
    cases done with
    | nil =>
      refine ⟨[], m, List.nil_prefix, ?_, by rw [List.append_nil]; rfl⟩
      rintro rfl
      cases hdone
    | cons effect done =>
      obtain ⟨rfl, hrest⟩ := List.cons.inj hdone
      obtain ⟨bytes, m', hfront, hall, happly⟩ := ih hrest (content ++ piece)
      refine ⟨piece ++ bytes, m', ?_, ?_, ?_⟩
      · rw [List.flatten_cons]
        exact (List.prefix_append_right_inj piece).2 hfront
      · intro hnil
        obtain ⟨rfl, rfl⟩ := hall hnil
        exact ⟨List.flatten_cons.symm, rfl⟩
      · rw [applyAll, List.foldl_cons, h.append, ← List.append_assoc]
        exact happly

theorem Unused.applyAll_writing (h : fs.Unused temporary) (pieces : List Bytes) (mode : Nat) :
    fs.applyAll (writing temporary pieces mode) = fs.beside temporary pieces.flatten mode := by
  obtain ⟨bytes, m, -, hall, happly⟩ := h.exists_beside (List.append_nil _) [] Effect.privateMode
  obtain ⟨rfl, rfl⟩ := hall rfl
  rw [writing, applyAll, List.cons_append, List.foldl_cons, h.create]
  exact happly

theorem Unused.applyAll_front (h : fs.Unused temporary) {done rest : List Effect}
    (hdone : done ++ rest = replacement temporary k pieces mode) (hrest : rest ≠ []) :
    done = [] ∨ ∃ bytes m', bytes <+: pieces.flatten ∧
      fs.applyAll done = fs.beside temporary bytes m' := by
  cases done with
  | nil => exact .inl rfl
  | cons effect done =>
    obtain ⟨rest, last, rfl⟩ := (List.eq_nil_or_concat' rest).resolve_left hrest
    rw [← List.append_assoc] at hdone
    obtain ⟨hwriting, -⟩ := List.append_inj' hdone rfl
    obtain ⟨rfl, hpieces⟩ := List.cons.inj hwriting
    obtain ⟨bytes, m', hfront, -, happly⟩ := h.exists_beside hpieces [] Effect.privateMode
    refine .inr ⟨bytes, m', hfront, ?_⟩
    rw [applyAll, List.foldl_cons, h.create]
    exact happly

theorem Unused.applyAll_abandoned (h : fs.Unused temporary) {done rest : List Effect}
    (hdone : done ++ rest = replacement temporary k pieces mode) (hrest : rest ≠ []) :
    fs.applyAll (abandoned temporary done) = fs := by
  obtain rfl | ⟨bytes, m', -, happly⟩ := h.applyAll_front hdone hrest
  · rfl
  · cases done with
    | nil => rfl
    | cons effect done =>
      rw [abandoned, applyAll_append, happly]
      · exact h.remove_beside
      · simp

/-- The effects come to one change: the file has the new content and the mode it is given. -/
theorem applyAll_replacement (h : fs.Unused temporary) (hk : fs.get? k = some e) (hne : k ≠ [])
    (pieces : List Bytes) (mode : Nat) : fs.applyAll (replacement temporary k pieces mode) =
      fs.put k (.file pieces.flatten mode) := by
  rw [replacement, applyAll_append, h.applyAll_writing]
  exact h.rename hk hne

end Repath.FileSystem
