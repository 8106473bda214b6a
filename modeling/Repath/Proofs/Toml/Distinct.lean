import Repath.Proofs.Toml.Building
import Repath.Proofs.Toml.DocumentTexts

namespace Repath.Toml

variable {α : Type} {key : String} {path : List String} {t t' : Table} {v : Value}
  {f : Table → Option Table} {es : List (List String × Value)} {n : Nat} {w : List Char}

/-- No table within a value, nor the value itself, has a key twice. -/
inductive Value.Distinct : Value → Prop
  | string (s : String) : Distinct (.string s)
  | scalar (kind : ScalarKind) (spelling : String) : Distinct (.scalar kind spelling)
  | array {isOpen : Bool} {items : List Value} (h : ∀ v ∈ items, Distinct v) :
      Distinct (.array isOpen items)
  | table {kind : TableKind} {t : List (String × Value)} (hkeys : (t.map (·.1)).Nodup)
      (h : ∀ entry ∈ t, Distinct entry.2) : Distinct (.table kind t)

structure Table.Distinct (t : Table) : Prop where
  keys : (t.map (·.1)).Nodup
  values : ∀ entry ∈ t, entry.2.Distinct

namespace Table

theorem distinct_nil : Distinct [] := ⟨List.nodup_nil, fun _ h => absurd h List.not_mem_nil⟩

theorem Distinct.toValue (h : t.Distinct) (kind : TableKind) : (Value.table kind t).Distinct :=
  .table h.keys h.values

theorem Distinct.of_lookup (h : t.Distinct) (hv : t.lookup key = some v) : v.Distinct := by
  obtain ⟨before, after, rfl, -⟩ := List.lookup_eq_some_iff.1 hv
  exact h.values (key, v) (by simp)

theorem distinct_of_value {kind : TableKind} (h : (Value.table kind t).Distinct) : t.Distinct := by
  cases h with
  | table hkeys h => exact ⟨hkeys, h⟩

theorem Distinct.concat (h : t.Distinct) (hnew : t.lookup key = none) (hv : v.Distinct) :
    Distinct (t ++ [(key, v)]) :=
  ⟨nodup_concat h.keys hnew v,
    List.forall_mem_append.2 ⟨h.values, List.forall_mem_singleton.2 hv⟩⟩

theorem map_fst_replace (t : Table) (key : String) (v : Value) :
    (t.replace key v).map (·.1) = t.map (·.1) := by
  rw [replace, List.map_map]
  refine List.map_congr_left fun entry _ => ?_
  by_cases h : entry.1 = key <;> simp [h]

theorem Distinct.replace (h : t.Distinct) (key : String) (hv : v.Distinct) :
    (t.replace key v).Distinct := by
  refine ⟨by rw [map_fst_replace]; exact h.keys, fun entry hentry => ?_⟩
  obtain ⟨entry', hmem, rfl⟩ := List.mem_map.1 hentry
  split
  · exact hv
  · exact h.values entry' hmem

theorem Distinct.assign (h : t.Distinct) (hv : v.Distinct) (hassign : t.assign path v = some t') :
    t'.Distinct := by
  fun_induction Table.assign t path v generalizing t' with
  | case1 => cases hassign
  | case2 => cases hassign
  | case3 t key v hnone =>
    cases hassign
    exact h.concat (Option.not_isSome_iff_eq_none.1 hnone) hv
  | case4 t key path v _ hnone ih =>
    obtain ⟨sub, hsub, rfl⟩ := Option.map_eq_some_iff.1 hassign
    exact h.concat hnone ((ih distinct_nil hv hsub).toValue .dotted)
  | case5 t key path v _ kind sub hsome hkind ih =>
    obtain ⟨sub', hsub, rfl⟩ := Option.map_eq_some_iff.1 hassign
    exact h.replace key ((ih (distinct_of_value (h.of_lookup hsome)) hv hsub).toValue kind)
  | case6 => cases hassign
  | case7 => cases hassign

theorem Distinct.modifyAt (h : t.Distinct)
    (hf : ∀ {t t'}, t.Distinct → f t = some t' → t'.Distinct)
    (hmodify : t.modifyAt path f = some t') : t'.Distinct := by
  fun_induction Table.modifyAt t path f generalizing t' with
  | case1 => exact hf h hmodify
  | case2 t key path f hnone ih =>
    obtain ⟨sub, hsub, rfl⟩ := Option.map_eq_some_iff.1 hmodify
    exact h.concat hnone ((ih distinct_nil hf hsub).toValue .implied)
  | case3 => cases hmodify
  | case4 t key path f kind sub hsome hkind ih =>
    obtain ⟨sub', hsub, rfl⟩ := Option.map_eq_some_iff.1 hmodify
    exact h.replace key ((ih (distinct_of_value (h.of_lookup hsome)) hf hsub).toValue kind)
  | case5 t key path f items hsome kind sub hlast ih =>
    obtain ⟨sub', hsub, rfl⟩ := Option.map_eq_some_iff.1 hmodify
    have hitems : ∀ v ∈ items, v.Distinct := by
      cases h.of_lookup hsome with
      | array h => exact h
    have hsub' := ih (distinct_of_value (hitems _ (List.mem_of_getLast? hlast))) hf hsub
    refine h.replace key (.array (List.forall_mem_append.2 ⟨fun v hv => ?_, ?_⟩))
    · exact hitems v (List.dropLast_subset items hv)
    · exact List.forall_mem_singleton.2 (hsub'.toValue kind)
  | case6 => cases hmodify
  | case7 => cases hmodify

theorem Distinct.addTable (h : t.Distinct) (hadd : addTable key t = some t') : t'.Distinct := by
  unfold Table.addTable at hadd
  split at hadd
  · next hnone =>
    cases hadd
    exact h.concat hnone (distinct_nil.toValue .header)
  · next sub hsome =>
    cases hadd
    exact h.replace key ((distinct_of_value (h.of_lookup hsome)).toValue .header)
  · cases hadd

theorem Distinct.addElement (h : t.Distinct) (hadd : addElement key t = some t') : t'.Distinct := by
  have hnew : (Value.table .header []).Distinct := distinct_nil.toValue .header
  unfold Table.addElement at hadd
  split at hadd
  · next hnone =>
    cases hadd
    exact h.concat hnone (.array (List.forall_mem_singleton.2 hnew))
  · next items hsome =>
    cases hadd
    cases h.of_lookup hsome with
    | array hitems =>
      exact h.replace key
        (.array (List.forall_mem_append.2 ⟨hitems, List.forall_mem_singleton.2 hnew⟩))
  · cases hadd

theorem Distinct.assignAll (h : t.Distinct) (hes : ∀ e ∈ es, e.2.Distinct)
    (hfold : t.assignAll es = some t') : t'.Distinct := by
  induction es generalizing t with
  | nil =>
    cases hfold
    exact h
  | cons e es ih =>
    obtain ⟨he, hes⟩ := List.forall_mem_cons.1 hes
    rw [assignAll_cons] at hfold
    obtain ⟨u, hu, hmore⟩ := Option.bind_eq_some_iff.1 hfold
    exact ih (h.assign he hu) hes hmore

end Table

theorem ValueText.distinct (h : ValueText n w v) : v.Distinct := by
  have hflat : ∀ {w v}, Flat w v → v.Distinct := by
    rintro w v (_ | _)
    · exact .string _
    · exact .scalar _ _
  induction n generalizing w v with
  | zero => exact hflat h
  | succ n ih =>
    obtain h | h := h
    · exact hflat h
    cases h with
    | array h =>
      refine .array fun v hv => ?_
      obtain ⟨u, hu⟩ := h.forall_mem v hv
      exact ih hu
    | table h ht =>
      rw [Table.ofBraces_eq] at ht
      refine (Table.Distinct.assignAll Table.distinct_nil (fun e he => ?_) ht).toValue .braces
      obtain ⟨u, hu⟩ := h.forall_mem e he
      cases hu with
      | intro _ _ _ hw => exact ih hw

theorem Building.distinct_step {b b' : Building} {st : Statement} (h : b.root.Distinct)
    (hst : ∀ path v, st = .assign path v → v.Distinct) (hstep : b.step st = some b') :
    b'.root.Distinct := by
  cases st with
  | assign path v =>
    obtain ⟨root, hroot, rfl⟩ := Option.map_eq_some_iff.1 hstep
    exact h.modifyAt (fun ht hassign => ht.assign (hst path v rfl) hassign) hroot
  | table path =>
    obtain ⟨key, -, hmore⟩ := Option.bind_eq_some_iff.1 hstep
    obtain ⟨root, hroot, heq⟩ := Option.bind_eq_some_iff.1 hmore
    cases heq
    exact h.modifyAt (fun ht hadd => ht.addTable hadd) hroot
  | element path =>
    obtain ⟨key, -, hmore⟩ := Option.bind_eq_some_iff.1 hstep
    obtain ⟨root, hroot, heq⟩ := Option.bind_eq_some_iff.1 hmore
    cases heq
    exact h.modifyAt (fun ht hadd => ht.addElement hadd) hroot

theorem Table.distinct_ofStatements {ss : List Statement}
    (hss : ∀ path v, .assign path v ∈ ss → v.Distinct) (h : Table.ofStatements ss = some t) :
    t.Distinct := by
  obtain ⟨b, hb, rfl⟩ := Option.map_eq_some_iff.1 h
  have hfold : ∀ {ss : List Statement} {b₀ : Building}, b₀.root.Distinct →
      (∀ path v, .assign path v ∈ ss → v.Distinct) → ss.foldlM Building.step b₀ = some b →
        b.root.Distinct := by
    intro ss
    induction ss with
    | nil =>
      intro b₀ hb₀ _ hb
      cases hb
      exact hb₀
    | cons st ss ih =>
      intro b₀ hb₀ hss hb
      rw [List.foldlM_cons] at hb
      obtain ⟨b₁, hstep, hb⟩ := Option.bind_eq_some_iff.1 hb
      refine ih (Building.distinct_step hb₀ (fun path v hst => hss path v ?_) hstep)
        (fun path v hst => hss path v (List.mem_cons_of_mem st hst)) hb
      rw [hst]
      exact List.mem_cons_self
  exact hfold distinct_nil hss hb

/-- In the table of a document, and in every table within it, all keys are different. -/
theorem Document.distinct (h : Document n w t) : t.Distinct := by
  have hlines : ∀ {w ss}, Lines (StatementText (ValueText n)) w ss →
      ∀ path v, .assign path v ∈ ss → v.Distinct := by
    intro w ss hw path v hmem
    obtain ⟨u, hu⟩ := hw.forall_mem _ hmem
    cases hu with
    | assign h =>
      cases h with
      | intro _ _ _ hw => exact hw.distinct
  cases h with
  | intro _ hw ht => exact Table.distinct_ofStatements (hlines hw) ht

namespace Table

variable {p q : List String} {u : Value} {g : Table → Option Table}

/-- A path at which there is something. -/
inductive Taken : Table → List String → Prop
  | here {t : Table} {key : String} {v : Value} (h : t.lookup key = some v) : Taken t [key]
  | through {t sub : Table} {key : String} {kind : TableKind} {path : List String}
      (h : t.lookup key = some (.table kind sub)) (hsub : Taken sub path) : Taken t (key :: path)

theorem Taken.ne_nil (h : Taken t p) : p ≠ [] := by
  cases h <;> exact List.cons_ne_nil _ _

theorem Taken.assign_eq_none (h : Taken t p) (v : Value) : t.assign p v = none := by
  induction h with
  | here h => rw [assign, h, Option.isSome_some, if_pos rfl]
  | through h hsub ih =>
    rw [assign, h]
    · dsimp only
      rw [ih, Option.map_none]
      exact ite_self _
    · exact hsub.ne_nil

theorem taken_of_assign (h : t.assign p v = some t') : Taken t' p := by
  fun_induction Table.assign t p v generalizing t' with
  | case1 => cases h
  | case2 => cases h
  | case3 t key v hnone =>
    cases h
    exact .here (lookup_concat_self (Option.not_isSome_iff_eq_none.1 hnone) v)
  | case4 t key path v _ hnone ih =>
    obtain ⟨sub, hsub, rfl⟩ := Option.map_eq_some_iff.1 h
    exact .through (lookup_concat_self hnone _) (ih hsub)
  | case5 t key path v _ kind sub hsome hkind ih =>
    obtain ⟨sub', hsub, rfl⟩ := Option.map_eq_some_iff.1 h
    exact .through (lookup_replace_self hsome _) (ih hsub)
  | case6 => cases h
  | case7 => cases h

theorem Taken.assign (hp : Taken t p) (h : t.assign q v = some t') : Taken t' p := by
  fun_induction Table.assign t q v generalizing t' p with
  | case1 => cases h
  | case2 => cases h
  | case3 t key v hnone =>
    cases h
    cases hp with
    | here h => exact .here (lookup_concat_of_some h _ _)
    | through h hsub => exact .through (lookup_concat_of_some h _ _) hsub
  | case4 t key path v _ hnone ih =>
    obtain ⟨sub, hsub, rfl⟩ := Option.map_eq_some_iff.1 h
    cases hp with
    | here h => exact .here (lookup_concat_of_some h _ _)
    | through h hsub => exact .through (lookup_concat_of_some h _ _) hsub
  | case5 t key path v _ kind sub hsome hkind ih =>
    obtain ⟨sub', hsub, rfl⟩ := Option.map_eq_some_iff.1 h
    cases hp with
    | @here _ k v h =>
      by_cases hk : k = key
      · rw [hk]
        exact .here (lookup_replace_self hsome _)
      · exact .here (by rw [lookup_replace_of_ne hk, h])
    | @through _ sub₀ k kind₀ path₀ hlookup hsub₀ =>
      by_cases hk : k = key
      · subst hk
        cases hsome.symm.trans hlookup
        exact .through (lookup_replace_self hsome _) (ih hsub₀ hsub)
      · exact .through (by rw [lookup_replace_of_ne hk, hlookup]) hsub₀
  | case6 => cases h
  | case7 => cases h

theorem nodup_of_assignAll (h : t.assignAll es = some t') :
    (es.map (·.1)).Nodup ∧ ∀ e ∈ es, ¬Taken t e.1 := by
  induction es generalizing t with
  | nil => exact ⟨List.nodup_nil, fun _ h => absurd h List.not_mem_nil⟩
  | cons e es ih =>
    rw [assignAll_cons] at h
    obtain ⟨u, hu, hmore⟩ := Option.bind_eq_some_iff.1 h
    obtain ⟨hnodup, hfree⟩ := ih hmore
    have hnew : e.1 ∉ es.map (·.1) := by
      intro hmem
      obtain ⟨e', he', heq⟩ := List.mem_map.1 hmem
      refine hfree e' he' ?_
      rw [heq]
      exact taken_of_assign hu
    have hnot : ¬Taken t e.1 := by
      intro htaken
      rw [htaken.assign_eq_none] at hu
      cases hu
    rw [List.map_cons, List.nodup_cons]
    exact ⟨⟨hnew, hnodup⟩, List.forall_mem_cons.2
      ⟨hnot, fun e' he' htaken => hfree e' he' (htaken.assign hu)⟩⟩

theorem exists_of_modifyAt (h : t.modifyAt p f = some t') : ∃ x y, f x = some y := by
  fun_induction Table.modifyAt t p f generalizing t' with
  | case1 t f => exact ⟨t, t', h⟩
  | case2 t key path f hnone ih =>
    obtain ⟨sub, hsub, rfl⟩ := Option.map_eq_some_iff.1 h
    exact ih hsub
  | case3 => cases h
  | case4 t key path f kind sub hsome hkind ih =>
    obtain ⟨sub', hsub, rfl⟩ := Option.map_eq_some_iff.1 h
    exact ih hsub
  | case5 t key path f items hsome kind sub hlast ih =>
    obtain ⟨sub', hsub, rfl⟩ := Option.map_eq_some_iff.1 h
    exact ih hsub
  | case6 => cases h
  | case7 => cases h

end Table

theorem Table.nodup_of_ofStatements {front rest : List Statement}
    (h : Table.ofStatements (front ++ ((es.map fun e => .assign e.1 e.2) ++ rest)) = some t) :
    (es.map (·.1)).Nodup := by
  by_cases hne : es = []
  · rw [hne]
    exact List.nodup_nil
  obtain ⟨b, hb, -⟩ := Option.map_eq_some_iff.1 h
  rw [List.foldlM_append] at hb
  obtain ⟨b₁, -, hb⟩ := Option.bind_eq_some_iff.1 hb
  rw [List.foldlM_append, Building.foldlM_assigns b₁ hne] at hb
  obtain ⟨b₂, hassigns, -⟩ := Option.bind_eq_some_iff.1 hb
  obtain ⟨root, hroot, -⟩ := Option.map_eq_some_iff.1 hassigns
  obtain ⟨x, y, hxy⟩ := Table.exists_of_modifyAt hroot
  exact (Table.nodup_of_assignAll hxy).1

/-- A text that gives a path two values under one header is no document. -/
theorem not_document_of_repeated {m : List Char} {front rest : List Statement} (hm : Mark m)
    (hw : Lines (StatementText (ValueText maxDepth)) w
      (front ++ ((es.map fun e => .assign e.1 e.2) ++ rest)))
    (hes : ¬(es.map (·.1)).Nodup) (t : Table) : ¬Document maxDepth (m ++ w) t := by
  intro h
  have hread := read_eq_some_iff.2 h
  rw [read_lines hm hw] at hread
  exact hes (Table.nodup_of_ofStatements hread)

end Repath.Toml
