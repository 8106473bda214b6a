import Repath.Proofs.Search.Steps
import Mathlib.Data.List.Nodup

namespace Repath

/-- A place in a program or a pattern, by its number, together with a place in a text. -/
abbrev Spot := Nat × Cursor

/-- A choice between two ways: whether it is the preferred one that is taken. -/
structure Choice where
  spot : Spot
  first : Bool
  deriving DecidableEq, Repr

namespace Choice

/-- No choice is made twice at one spot. -/
def CircleFree (ds : List Choice) : Prop := (ds.map (·.spot)).Nodup

/-- Where the choices first differ, `ds` takes the preferred way and `es` the other one. -/
def Beats (ds es : List Choice) : Prop :=
  ∃ (common : List Choice) (x : Spot) (ds' es' : List Choice),
    ds = common ++ ⟨x, true⟩ :: ds' ∧ es = common ++ ⟨x, false⟩ :: es'

theorem Beats.cons {ds es : List Choice} (h : Beats ds es) (d : Choice) :
    Beats (d :: ds) (d :: es) := by
  obtain ⟨common, x, ds', es', rfl, rfl⟩ := h
  exact ⟨d :: common, x, ds', es', rfl, rfl⟩

theorem Beats.of_cons {ds es : List Choice} {d : Choice} (h : Beats (d :: ds) (d :: es)) :
    Beats ds es := by
  obtain ⟨common, x, ds', es', hds, hes⟩ := h
  cases common with
  | nil =>
    have hfirst := (List.cons.inj hds).1.symm.trans (List.cons.inj hes).1
    cases hfirst
  | cons a common => exact ⟨common, x, ds', es', (List.cons.inj hds).2, (List.cons.inj hes).2⟩

theorem Beats.asymm {ds es : List Choice} (h : Beats ds es) : ¬ Beats es ds := by
  rintro ⟨common', y, es', ds', hes, hds⟩
  obtain ⟨common, x, ds₁, es₁, rfl, rfl⟩ := h
  induction common generalizing common' with
  | nil => cases common' <;> grind
  | cons a common ih =>
    cases common' with
    | nil => grind
    | cons b common' => exact ih common' (List.cons.inj hds).2 (List.cons.inj hes).2

end Choice

namespace Program

variable {prog : Program} {t t' u v w w' : Thread} {ps qs : List Spot} {ds es : List Choice}
  {n : Nat} {x : Spot}

/-- From `t` to `v` the program can go through the places `ps` with the choices `ds`. -/
inductive Walk (prog : Program) : Thread → List Spot → List Choice → Thread → Prop
  | refl (t : Thread) : Walk prog t [] [] t
  | step {t u v : Thread} {ps : List Spot} {ds : List Choice} (h : prog.next t = [u])
      (hw : Walk prog u ps ds v) : Walk prog t (t.place :: ps) ds v
  | first {t u w v : Thread} {ps : List Spot} {ds : List Choice} (h : prog.next t = [u, w])
      (hw : Walk prog u ps ds v) : Walk prog t (t.place :: ps) (⟨t.place, true⟩ :: ds) v
  | second {t u w v : Thread} {ps : List Spot} {ds : List Choice} (h : prog.next t = [w, u])
      (hw : Walk prog u ps ds v) : Walk prog t (t.place :: ps) (⟨t.place, false⟩ :: ds) v

theorem Walk.trans (h : prog.Walk t ps ds u) (h' : prog.Walk u qs es v) :
    prog.Walk t (ps ++ qs) (ds ++ es) v := by
  induction h with
  | refl t => exact h'
  | step h _ ih => exact .step h (ih h')
  | first h _ ih => exact .first h (ih h')
  | second h _ ih => exact .second h (ih h')

theorem Walk.next (h : prog.Walk t (x :: ps) ds v) :
    x = t.place ∧ ∃ u es, u ∈ prog.next t ∧ prog.Walk u ps es v := by
  cases h with
  | step h hw => exact ⟨rfl, _, _, by simp [h], hw⟩
  | first h hw => exact ⟨rfl, _, _, by simp [h], hw⟩
  | second h hw => exact ⟨rfl, _, _, by simp [h], hw⟩

theorem Walk.of_single (h : prog.Walk t ps ds v) (hv : v.pc ≠ t.pc) (hn : prog.next t = [u]) :
    ∃ qs, ps = t.place :: qs ∧ prog.Walk u qs ds v := by
  cases h with
  | refl => exact absurd rfl hv
  | step h hw =>
    obtain ⟨rfl⟩ := h.symm.trans hn
    exact ⟨_, rfl, hw⟩
  | first h _ => simp [hn] at h
  | second h _ => simp [hn] at h

theorem Walk.of_pair (h : prog.Walk t ps ds v) (hv : v.pc ≠ t.pc) (hn : prog.next t = [u, w]) :
    ∃ qs es, ps = t.place :: qs ∧ (ds = ⟨t.place, true⟩ :: es ∧ prog.Walk u qs es v ∨
      ds = ⟨t.place, false⟩ :: es ∧ prog.Walk w qs es v) := by
  cases h with
  | refl => exact absurd rfl hv
  | step h _ => simp [hn] at h
  | first h hw =>
    obtain ⟨rfl, -⟩ := List.cons.inj (h.symm.trans hn)
    exact ⟨_, _, rfl, .inl ⟨rfl, hw⟩⟩
  | second h hw =>
    obtain ⟨-, hrest⟩ := List.cons.inj (h.symm.trans hn)
    obtain ⟨rfl⟩ := hrest
    exact ⟨_, _, rfl, .inr ⟨rfl, hw⟩⟩

theorem Walk.steps (h : prog.Walk t ps ds u) : prog.Steps ps.length t u := by
  induction h with
  | refl t => exact .refl t
  | step h _ ih => exact .head (by simp [h]) ih
  | first h _ ih => exact .head (by simp [h]) ih
  | second h _ ih => exact .head (by simp [h]) ih

theorem exists_walk_of_mem_next (hu : u ∈ prog.next t) (h : prog.Walk u ps ds v) :
    ∃ es, prog.Walk t (t.place :: ps) es v := by
  have hlen := length_next_le prog t
  match hn : prog.next t with
  | [] => simp [hn] at hu
  | [a] =>
    obtain rfl : u = a := by simpa [hn] using hu
    exact ⟨_, .step hn h⟩
  | [a, b] =>
    obtain rfl | rfl : u = a ∨ u = b := by simpa [hn] using hu
    · exact ⟨_, .first hn h⟩
    · exact ⟨_, .second hn h⟩
  | a :: b :: c :: rest => simp [hn] at hlen

theorem Steps.exists_walk (h : prog.Steps n t u) :
    ∃ ps ds, ps.length = n ∧ prog.Walk t ps ds u := by
  induction h with
  | refl t => exact ⟨[], [], rfl, .refl t⟩
  | head hu _ ih =>
    obtain ⟨ps, ds, rfl, hw⟩ := ih
    obtain ⟨es, hw⟩ := exists_walk_of_mem_next hu hw
    exact ⟨_, es, rfl, hw⟩

theorem Walk.eq_nil (h : prog.Walk t ps ds v) (ht : prog.size ≤ t.pc) :
    ps = [] ∧ ds = [] ∧ v = t := by
  cases ps with
  | nil =>
    cases h
    exact ⟨rfl, rfl, rfl⟩
  | cons x ps =>
    obtain ⟨-, u, -, hu, -⟩ := h.next
    exact absurd (pc_lt_of_mem_next hu) (Nat.not_lt_of_le ht)

theorem map_place_next (prog : Program) (h : t.place = u.place) :
    (prog.next t).map Thread.place = (prog.next u).map Thread.place := by
  obtain ⟨pc, c, saves⟩ := t
  obtain ⟨pc', c', saves'⟩ := u
  obtain ⟨rfl, rfl⟩ : pc = pc' ∧ c = c' := by simpa [Thread.place] using h
  simp only [Program.next]
  cases prog[pc]? with
  | none => rfl
  | some i =>
    cases i with
    | char s =>
      cases c.next? with
      | none => rfl
      | some next => by_cases hs : s.contains next.1 = true <;> simp [hs, Thread.place]
    | look l => by_cases hl : l.holdsAt c = true <;> simp [hl, Thread.place]
    | save => rfl
    | split => rfl
    | jump => rfl

theorem exists_pair (ht : t.place = t'.place) (h : prog.next t = [u, w]) :
    ∃ u' w', prog.next t' = [u', w'] ∧ u'.place = u.place ∧ w'.place = w.place := by
  have hnext := map_place_next prog ht
  rw [h, List.map_cons, List.map_singleton, eq_comm, List.map_eq_cons_iff] at hnext
  obtain ⟨u', rest, hnext, hu, hrest⟩ := hnext
  obtain ⟨w', rfl, hw⟩ := List.map_eq_singleton_iff.1 hrest
  exact ⟨u', w', hnext, hu, hw⟩

theorem Walk.of_place (h : prog.Walk t ps ds v) (ht : t.place = t'.place) :
    ∃ v', v'.place = v.place ∧ prog.Walk t' ps ds v' := by
  induction h generalizing t' with
  | refl t => exact ⟨t', ht.symm, .refl t'⟩
  | step h _ ih =>
    have hnext := map_place_next prog ht
    rw [h, List.map_singleton, eq_comm, List.map_eq_singleton_iff] at hnext
    obtain ⟨u', hnext, hu⟩ := hnext
    obtain ⟨v', hv, hw⟩ := ih hu.symm
    rw [ht]
    exact ⟨v', hv, .step hnext hw⟩
  | first h _ ih =>
    obtain ⟨u', w', hnext, hu, -⟩ := exists_pair ht h
    obtain ⟨v', hv, hw⟩ := ih hu.symm
    rw [ht]
    exact ⟨v', hv, .first hnext hw⟩
  | second h _ ih =>
    obtain ⟨w', u', hnext, -, hu⟩ := exists_pair ht h
    obtain ⟨v', hv, hw⟩ := ih hu.symm
    rw [ht]
    exact ⟨v', hv, .second hnext hw⟩

theorem Walk.exists_of_mem (h : prog.Walk t ps ds v) (hx : x ∈ ps) :
    ∃ before after t' fs es, ps = before ++ x :: after ∧ ds = fs ++ es ∧ t'.place = x ∧
      prog.Walk t before fs t' ∧ prog.Walk t' (x :: after) es v := by
  induction h with
  | refl t => cases hx
  | @step t u v ps ds h hw ih =>
    obtain rfl | hx := List.mem_cons.1 hx
    · exact ⟨[], ps, t, [], ds, rfl, rfl, rfl, .refl t, .step h hw⟩
    · obtain ⟨before, after, t', fs, es, rfl, rfl, ht, hw', hw''⟩ := ih hx
      exact ⟨t.place :: before, after, t', fs, es, rfl, rfl, ht, .step h hw', hw''⟩
  | @first t u w v ps ds h hw ih =>
    obtain rfl | hx := List.mem_cons.1 hx
    · exact ⟨[], ps, t, [], _, rfl, rfl, rfl, .refl t, .first h hw⟩
    · obtain ⟨before, after, t', fs, es, rfl, rfl, ht, hw', hw''⟩ := ih hx
      exact ⟨t.place :: before, after, t', _ :: fs, es, rfl, rfl, ht, .first h hw', hw''⟩
  | @second t u w v ps ds h hw ih =>
    obtain rfl | hx := List.mem_cons.1 hx
    · exact ⟨[], ps, t, [], _, rfl, rfl, rfl, .refl t, .second h hw⟩
    · obtain ⟨before, after, t', fs, es, rfl, rfl, ht, hw', hw''⟩ := ih hx
      exact ⟨t.place :: before, after, t', _ :: fs, es, rfl, rfl, ht, .second h hw', hw''⟩

theorem Walk.sublist (h : prog.Walk t ps ds v) : (ds.map (·.spot)).Sublist ps := by
  induction h with
  | refl t => exact .slnil
  | step _ _ ih => exact ih.cons _
  | first _ _ ih => exact ih.cons_cons _
  | second _ _ ih => exact ih.cons_cons _

/-- Without its circles a walk leads to the same place. -/
theorem Walk.exists_nodup (h : prog.Walk t ps ds v) :
    ∃ qs es v', qs ⊆ ps ∧ qs.Nodup ∧ v'.place = v.place ∧ prog.Walk t qs es v' := by
  obtain ⟨n, hn⟩ : ∃ n, ps.length = n := ⟨_, rfl⟩
  induction n generalizing t ps ds with
  | zero =>
    obtain rfl := List.eq_nil_of_length_eq_zero hn
    exact ⟨[], ds, v, List.Subset.refl _, List.nodup_nil, rfl, h⟩
  | succ n ih =>
    cases ps with
    | nil => cases hn
    | cons x ps =>
      obtain ⟨rfl, u, es, hu, hw⟩ := h.next
      obtain ⟨qs, es, v', hsub, hnodup, hv, hw⟩ := ih hw (Nat.succ.inj hn)
      by_cases hmem : t.place ∈ qs
      · obtain ⟨before, after, t', fs, es, rfl, rfl, ht, -, hw⟩ := hw.exists_of_mem hmem
        obtain ⟨v'', hv', hw⟩ := hw.of_place ht
        refine ⟨_, _, v'', ?_, hnodup.of_append_right, hv'.trans hv, hw⟩
        exact fun y hy => List.mem_cons_of_mem _ (hsub (List.mem_append_right _ hy))
      · obtain ⟨es, hw⟩ := exists_walk_of_mem_next hu hw
        exact ⟨_, es, v', List.cons_subset_cons _ hsub, List.nodup_cons.2 ⟨hmem, hnodup⟩, hv, hw⟩

theorem Walk.mem_spots (h : prog.Walk t (x :: ps) ds v) (ht : prog.next t = [u, w]) :
    x ∈ ds.map (·.spot) := by
  cases h with
  | step h' _ => simp [h'] at ht
  | first _ _ => exact List.mem_cons_self
  | second _ _ => exact List.mem_cons_self

theorem Walk.not_mem_of_pair (h : prog.Walk u ps ds v) (ht : prog.next t = [w, w'])
    (hds : t.place ∉ ds.map (·.spot)) : t.place ∉ ps := by
  intro hmem
  obtain ⟨before, after, t', fs, es, rfl, rfl, ht', -, hw⟩ := h.exists_of_mem hmem
  obtain ⟨a, b, hpair, -, -⟩ := exists_pair ht'.symm ht
  rw [List.map_append] at hds
  exact hds (List.mem_append_right _ (hw.mem_spots hpair))

/-- A walk to the end that makes no choice twice at one spot comes nowhere twice: a circle without
a choice would never be left. -/
theorem Walk.nodup (h : prog.Walk t ps ds v) (hv : v.pc = prog.size)
    (hds : Choice.CircleFree ds) : ps.Nodup := by
  induction h with
  | refl t => exact List.nodup_nil
  | @step t u v ps ds h hw ih =>
    have hnodup := ih hv hds
    refine List.nodup_cons.2 ⟨fun hmem => ?_, hnodup⟩
    -- coming back, the walk would go on to the place of `u` for a second time
    obtain ⟨before, after, t', fs, es, rfl, rfl, ht', -, hback⟩ := hw.exists_of_mem hmem
    have hnext := map_place_next prog ht'.symm
    rw [h, List.map_singleton, eq_comm, List.map_eq_singleton_iff] at hnext
    obtain ⟨u', hnext, hu⟩ := hnext
    obtain ⟨-, w, es', hw', hback⟩ := hback.next
    obtain rfl : w = u' := by simpa [hnext] using hw'
    have hlt : u.pc < prog.size := by
      by_contra hle
      simpa using (hw.eq_nil (Nat.le_of_not_lt hle)).1
    have hmem' : u.place ∈ after := by
      cases after with
      | nil =>
        cases hback
        have hpc := congrArg Prod.fst hu
        exact absurd (hv ▸ hpc) (Nat.ne_of_gt hlt)
      | cons y after =>
        obtain ⟨rfl, -⟩ := hback.next
        exact hu ▸ List.mem_cons_self
    cases before with
    | nil =>
      obtain ⟨hhead, -⟩ := hw.next
      exact (List.nodup_cons.1 hnodup).1 (hhead ▸ hmem')
    | cons y before =>
      obtain ⟨rfl, -⟩ := hw.next
      refine (List.nodup_cons.1 hnodup).1 ?_
      exact List.mem_append_right _ (List.mem_cons_of_mem _ hmem')
  | @first t u w v ps ds h hw ih =>
    obtain ⟨hnot, hds⟩ := List.nodup_cons.1 hds
    exact List.nodup_cons.2 ⟨hw.not_mem_of_pair h hnot, ih hv hds⟩
  | @second t u w v ps ds h hw ih =>
    obtain ⟨hnot, hds⟩ := List.nodup_cons.1 hds
    exact List.nodup_cons.2 ⟨hw.not_mem_of_pair h hnot, ih hv hds⟩

theorem Walk.exists_circle (h : prog.Walk t ps ds v) (hds : ¬ Choice.CircleFree ds) :
    ∃ u w ps₁ ps₂ ps₃ ds₁ ds₂ ds₃, w.place = u.place ∧ ds₂ ≠ [] ∧ prog.Walk t ps₁ ds₁ u ∧
      prog.Walk u ps₂ ds₂ w ∧ prog.Walk w ps₃ ds₃ v := by
  induction h with
  | refl t => exact absurd List.nodup_nil hds
  | step h _ ih =>
    obtain ⟨u, w, ps₁, ps₂, ps₃, ds₁, ds₂, ds₃, hp, hne, hto, hround, hon⟩ := ih hds
    exact ⟨u, w, _, ps₂, ps₃, ds₁, ds₂, ds₃, hp, hne, .step h hto, hround, hon⟩
  | @first t u w v ps ds h hw ih =>
    by_cases hmem : t.place ∈ ds.map (·.spot)
    · obtain ⟨before, after, t', fs, es, -, -, ht, hround, hon⟩ :=
        hw.exists_of_mem (hw.sublist.subset hmem)
      exact ⟨t, t', [], _, _, [], _ :: fs, es, ht, by simp, .refl t, .first h hround, hon⟩
    · obtain ⟨u, w, ps₁, ps₂, ps₃, ds₁, ds₂, ds₃, hp, hne, hto, hround, hon⟩ :=
        ih fun hds' => hds (List.nodup_cons.2 ⟨hmem, hds'⟩)
      exact ⟨u, w, _, ps₂, ps₃, _ :: ds₁, ds₂, ds₃, hp, hne, .first h hto, hround, hon⟩
  | @second t u w v ps ds h hw ih =>
    by_cases hmem : t.place ∈ ds.map (·.spot)
    · obtain ⟨before, after, t', fs, es, -, -, ht, hround, hon⟩ :=
        hw.exists_of_mem (hw.sublist.subset hmem)
      exact ⟨t, t', [], _, _, [], _ :: fs, es, ht, by simp, .refl t, .second h hround, hon⟩
    · obtain ⟨u, w, ps₁, ps₂, ps₃, ds₁, ds₂, ds₃, hp, hne, hto, hround, hon⟩ :=
        ih fun hds' => hds (List.nodup_cons.2 ⟨hmem, hds'⟩)
      exact ⟨u, w, _, ps₂, ps₃, _ :: ds₁, ds₂, ds₃, hp, hne, .second h hto, hround, hon⟩

/-- A circle can be gone round as often as one likes before going on. -/
theorem Walk.pump (hround : prog.Walk t ps ds u) (hp : u.place = t.place) (hne : ds ≠ [])
    (hon : prog.Walk u qs es v) (k : Nat) :
    ∃ rs fs v', k ≤ fs.length ∧ v'.place = v.place ∧ prog.Walk t rs fs v' := by
  induction k with
  | zero =>
    obtain ⟨v', hv, hw⟩ := hon.of_place hp
    exact ⟨qs, es, v', Nat.zero_le _, hv, hw⟩
  | succ k ih =>
    obtain ⟨rs, fs, v', hk, hv, hw⟩ := ih
    obtain ⟨v'', hv', hw⟩ := hw.of_place hp.symm
    refine ⟨_, _, v'', ?_, hv'.trans hv, hround.trans hw⟩
    have hpos := List.length_pos_iff.2 hne
    rw [List.length_append]
    omega

/-- Where a walk goes in a circle, there are walks to the same place with as many choices as one
likes. -/
theorem Walk.exists_longer (h : prog.Walk t ps ds v) (hds : ¬ Choice.CircleFree ds) (k : Nat) :
    ∃ qs es v', k ≤ es.length ∧ v'.place = v.place ∧ prog.Walk t qs es v' := by
  obtain ⟨u, w, ps₁, ps₂, ps₃, ds₁, ds₂, ds₃, hp, hne, hto, hround, hon⟩ := h.exists_circle hds
  obtain ⟨rs, fs, v', hk, hv, hw⟩ := hround.pump hp hne hon k
  refine ⟨_, _, v', ?_, hv, hto.trans hw⟩
  rw [List.length_append]
  omega

end Program

end Repath
