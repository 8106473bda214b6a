import Repath.Proofs.Lookup
import Repath.Toml.Value

namespace Repath.Toml

variable {key k : String} {t : Table} {u v : Value} {es : List (List String × Value)}

namespace Table

theorem lookup_concat_self (h : t.lookup key = none) (v : Value) :
    List.lookup key (t ++ [(key, v)]) = some v := by
  rw [List.lookup_append, h, List.lookup_cons_self, Option.none_or]

theorem lookup_concat_of_some (h : t.lookup k = some u) (key : String) (v : Value) :
    List.lookup k (t ++ [(key, v)]) = some u := by
  rw [List.lookup_append, h, Option.some_or]

theorem lookup_replace_self (h : t.lookup key = some u) (v : Value) :
    (t.replace key v).lookup key = some v := by
  obtain ⟨before, after, rfl, hbefore⟩ := List.lookup_eq_some_iff.1 h
  refine List.lookup_eq_some_iff.2
    ⟨replace before key v, replace after key v, by simp [replace], fun entry hentry => ?_⟩
  obtain ⟨entry', hmem, rfl⟩ := List.mem_map.1 hentry
  have hne := bne_iff_ne.1 (hbefore entry' hmem)
  rw [if_neg hne.symm]
  exact hbefore entry' hmem

theorem lookup_replace_of_ne (hk : k ≠ key) (v : Value) :
    (t.replace key v).lookup k = t.lookup k := by
  induction t with
  | nil => rfl
  | cons entry t ih =>
    have hcons : replace (entry :: t) key v =
        (if entry.1 = key then (key, v) else entry) :: replace t key v := rfl
    obtain ⟨k', x⟩ := entry
    rw [hcons]
    split
    · next heq =>
      obtain rfl : k' = key := heq
      rw [List.lookup_cons, List.lookup_cons, beq_eq_false_iff_ne.2 hk, ih]
    · rw [List.lookup_cons, List.lookup_cons, ih]

theorem replace_concat (h : t.lookup key = none) (u v : Value) :
    replace (t ++ [(key, u)]) key v = t ++ [(key, v)] := by
  have hsame : t.map (fun entry => if entry.1 = key then (key, v) else entry) = t := by
    refine (List.map_congr_left fun entry hentry => ?_).trans (List.map_id t)
    refine if_neg ?_
    rintro rfl
    exact lookup_eq_none_iff.1 h (List.mem_map_of_mem hentry)
  rw [replace, List.map_append, hsame]
  simp

theorem replace_replace (t : Table) (key : String) (u v : Value) :
    (t.replace key u).replace key v = t.replace key v := by
  rw [replace, replace, replace, List.map_map]
  refine List.map_congr_left fun entry _ => ?_
  by_cases h : entry.1 = key <;> simp [h]

def assignAll (t : Table) (es : List (List String × Value)) : Option Table :=
  es.foldlM (fun t e => t.assign e.1 e.2) t

theorem ofBraces_eq (es : List (List String × Value)) : ofBraces es = assignAll [] es := rfl

theorem assignAll_cons (t : Table) (e : List String × Value) (es : List (List String × Value)) :
    t.assignAll (e :: es) = (t.assign e.1 e.2).bind (assignAll · es) := List.foldlM_cons

theorem assignAll_new (new : Table) (h : ((t ++ new).map (·.1)).Nodup) :
    t.assignAll (new.map fun entry => ([entry.1], entry.2)) = some (t ++ new) := by
  induction new generalizing t with
  | nil => rw [List.append_nil]; rfl
  | cons entry new ih =>
    obtain ⟨key, v⟩ := entry
    have hnone : t.lookup key = none := by
      rw [lookup_eq_none_iff]
      rw [List.map_append, List.map_cons, List.nodup_append] at h
      exact fun hmem => h.2.2 key hmem key List.mem_cons_self rfl
    have hassign : t.assign [key] v = some (t ++ [(key, v)]) := by
      rw [assign, hnone, Option.isSome_none, if_neg Bool.false_ne_true]
    rw [List.map_cons, assignAll_cons, hassign, Option.bind_some, ih (by simpa using h)]
    simp

theorem modifyAt_bind (t : Table) (path : List String) (f g : Table → Option Table) :
    (t.modifyAt path f).bind (·.modifyAt path g) = t.modifyAt path fun t => (f t).bind g := by
  fun_induction Table.modifyAt t path f with
  | case1 t f => rw [modifyAt]; rfl
  | case2 t key path f hnone ih =>
    rw [modifyAt, hnone]
    dsimp only
    rw [← ih, Option.bind_map, Option.map_bind]
    refine congrArg (Option.bind _) (funext fun sub => ?_)
    rw [Function.comp_apply, modifyAt, lookup_concat_self hnone]
    dsimp only
    rw [if_neg (by decide)]
    exact congrArg (Option.map · _) (funext fun _ => replace_concat hnone _ _)
  | case3 t key path f sub hsome => rw [modifyAt, hsome]; rfl
  | case4 t key path f kind sub hsome hkind ih =>
    rw [modifyAt, hsome]
    dsimp only
    rw [if_neg hkind, ← ih, Option.bind_map, Option.map_bind]
    refine congrArg (Option.bind _) (funext fun sub => ?_)
    rw [Function.comp_apply, modifyAt, lookup_replace_self hsome]
    dsimp only
    rw [if_neg hkind]
    exact congrArg (Option.map · _) (funext fun _ => replace_replace _ _ _ _)
  | case5 t key path f items hsome kind sub hlast ih =>
    rw [modifyAt, hsome]
    dsimp only
    rw [hlast]
    dsimp only
    rw [← ih, Option.bind_map, Option.map_bind]
    refine congrArg (Option.bind _) (funext fun sub => ?_)
    rw [Function.comp_apply, modifyAt, lookup_replace_self hsome]
    dsimp only
    rw [List.getLast?_concat]
    dsimp only
    rw [List.dropLast_concat]
    exact congrArg (Option.map · _) (funext fun _ => replace_replace _ _ _ _)
  | case6 t key path f items hsome hlast =>
    rw [modifyAt, hsome]
    dsimp only
    split
    · next hlast' => exact absurd hlast' (hlast _ _)
    · rfl
  | case7 t key path f v htable harray hsome =>
    rw [modifyAt, hsome]
    cases v with
    | string | scalar => rfl
    | array isOpen items =>
      cases isOpen with
      | false => rfl
      | true => exact absurd rfl (harray items)
    | table kind sub => exact absurd rfl (htable kind sub)

def withArray (t : Table) (key : String) (items : List Value) : Table :=
  if items.isEmpty then t else t ++ [(key, .array true items)]

theorem withArray_append (t : Table) (key : String) (items : List Value) (item : Value) :
    t.withArray key (items ++ [item]) = t ++ [(key, .array true (items ++ [item]))] := by
  simp [withArray]

theorem addElement_withArray (h : t.lookup key = none) (items : List Value) :
    addElement key (t.withArray key items) =
      some (t.withArray key (items ++ [.table .header []])) := by
  rw [withArray_append]
  cases items with
  | nil =>
    change addElement key t = _
    rw [addElement, h]
    rfl
  | cons item items =>
    change addElement key (t ++ [(key, .array true (item :: items))]) = _
    rw [addElement, lookup_concat_self h]
    exact congrArg some (replace_concat h _ _)

theorem modifyAt_withArray (h : t.lookup key = none) (items : List Value) (kind : TableKind)
    (sub : Table) (f : Table → Option Table) :
    (t.withArray key (items ++ [.table kind sub])).modifyAt [key] f =
      (f sub).map fun sub => t.withArray key (items ++ [.table kind sub]) := by
  rw [withArray_append, modifyAt, lookup_concat_self h]
  dsimp only
  rw [List.getLast?_concat]
  dsimp only
  rw [modifyAt, List.dropLast_concat]
  refine congrArg (Option.map · _) (funext fun sub' => ?_)
  rw [withArray_append]
  exact replace_concat h _ _

end Table

theorem Building.foldlM_assigns (b : Building) (hne : es ≠ []) :
    (es.map fun e => Statement.assign e.1 e.2).foldlM Building.step b =
      (b.root.modifyAt b.path (Table.assignAll · es)).map fun root => { b with root } := by
  induction es generalizing b with
  | nil => exact absurd rfl hne
  | cons e es ih =>
    have hstep : b.step (.assign e.1 e.2) =
        (b.root.modifyAt b.path (·.assign e.1 e.2)).map fun root => { b with root } := rfl
    rw [List.map_cons, List.foldlM_cons, hstep, Option.bind_eq_bind, Option.bind_map]
    by_cases hes : es = []
    · subst hes
      have hone : (Table.assignAll · [e]) = fun t => t.assign e.1 e.2 := by
        funext t
        rw [Table.assignAll_cons]
        cases t.assign e.1 e.2 <;> rfl
      rw [hone]
      exact (Option.map_eq_bind ..).symm
    · have hrest (root : Table) := ih { b with root } hes
      have hcons : (Table.assignAll · (e :: es)) =
          fun t => (t.assign e.1 e.2).bind (Table.assignAll · es) :=
        funext fun t => Table.assignAll_cons t e es
      rw [hcons, ← Table.modifyAt_bind, Option.map_bind]
      exact congrArg (Option.bind _) (funext hrest)

theorem Building.foldlM_new (b : Building) {new : Table} (hne : new ≠ []) :
    (new.map fun entry => Statement.assign [entry.1] entry.2).foldlM Building.step b =
      (b.root.modifyAt b.path
        (Table.assignAll · (new.map fun entry => ([entry.1], entry.2)))).map
          fun root => { b with root } := by
  rw [← foldlM_assigns b (mt List.map_eq_nil_iff.1 hne), List.map_map]
  rfl

theorem Building.foldlM_top {new : Table} (hnew : (new.map (·.1)).Nodup) :
    (new.map fun entry => Statement.assign [entry.1] entry.2).foldlM Building.step ⟨[], []⟩ =
      some ⟨new, []⟩ := by
  by_cases hne : new = []
  · subst hne
    rfl
  · rw [foldlM_new _ hne, Table.modifyAt, Table.assignAll_new (t := []) new hnew]
    rfl

theorem Building.foldlM_section (h : t.lookup key = none) (items : List Value)
    (path : List String) {new : Table} (hnew : (new.map (·.1)).Nodup) :
    (Statement.element [key] :: new.map fun entry => .assign [entry.1] entry.2).foldlM Building.step
        ⟨t.withArray key items, path⟩ =
      some ⟨t.withArray key (items ++ [.table .header new]), [key]⟩ := by
  have hstep : Building.step ⟨t.withArray key items, path⟩ (.element [key]) =
      (Table.addElement key (t.withArray key items)).bind fun root => some ⟨root, [key]⟩ := rfl
  rw [List.foldlM_cons, hstep, Table.addElement_withArray h, Option.bind_some, Option.bind_eq_bind,
    Option.bind_some]
  by_cases hne : new = []
  · subst hne
    rfl
  · rw [foldlM_new _ hne, Table.modifyAt_withArray h, Table.assignAll_new (t := []) new hnew]
    rfl

end Repath.Toml
