import Repath.Proofs.Search.Explore
import Repath.Proofs.Search.Walks

namespace Repath.Program

variable {prog : Program} {text : List Char} {seen seen' : Visited} {t t' u v w : Thread}
  {ts rest : List Thread} {ps qs : List Spot} {ds es : List Choice} {fuel : Nat} {x : Spot}

/-- A walk to the end that keeps off the visited places. -/
structure Reaches (prog : Program) (seen : Visited) (t : Thread) (ps : List Spot)
    (ds : List Choice) (v : Thread) : Prop where
  walk : prog.Walk t ps ds v
  stop : v.pc = prog.size
  fresh : ∀ x ∈ ps ++ [v.place], seen.has x.1 x.2.pos = false

theorem Walk.text_eq (h : prog.Walk t ps ds v) (hx : x ∈ ps ++ [v.place]) :
    x.2.text = t.cursor.text := by
  induction ps generalizing t ds with
  | nil =>
    cases h
    obtain rfl := List.mem_singleton.1 hx
    rfl
  | cons y ps ih =>
    obtain ⟨rfl, u, es, hu, hw⟩ := h.next
    obtain rfl | hx := List.mem_cons.1 hx
    · rfl
    · exact (ih hw hx).trans (text_next hu)

namespace Reaches

theorem visit (h : prog.Reaches seen w ps ds v) (hw : w.cursor.text = t.cursor.text)
    (ht : t.pc ≠ prog.size) (hnot : t.place ∉ ps) :
    prog.Reaches (seen.add t.pc t.cursor.pos) w ps ds v := by
  refine ⟨h.walk, h.stop, fun x hx => ?_⟩
  rw [Visited.has_add, h.fresh x hx, Bool.false_or, decide_eq_false_iff_not]
  rintro ⟨hpc, hpos, -⟩
  have hxt : x = t.place :=
    Prod.ext hpc (Cursor.eq_of_pos_eq ((h.walk.text_eq hx).trans hw) hpos)
  obtain hx | hx := List.mem_append.1 hx
  · exact hnot (hxt ▸ hx)
  · obtain rfl := List.mem_singleton.1 hx
    exact ht (hpc ▸ h.stop)

theorem of_visit (h : prog.Reaches (seen.add t.pc t.cursor.pos) w ps ds v) :
    prog.Reaches seen w ps ds v := by
  refine ⟨h.walk, h.stop, fun x hx => ?_⟩
  have hfresh := h.fresh x hx
  rw [Visited.has_add, Bool.or_eq_false_iff] at hfresh
  exact hfresh.1

theorem not_mem_of_visit (h : prog.Reaches (seen.add t.pc t.cursor.pos) w ps ds v)
    (ht : t.cursor.pos < seen.size) : t.place ∉ ps := by
  intro hmem
  simpa [Visited.has_add, Thread.place, ht] using h.fresh _ (List.mem_append_left _ hmem)

theorem not_seen (h : prog.Reaches seen t ps ds v) : ¬ Seen seen t := by
  rw [Bool.not_eq_true]
  cases ps with
  | nil =>
    cases h.walk
    exact h.fresh t.place (by simp)
  | cons x ps =>
    obtain ⟨rfl, -⟩ := h.walk.next
    exact h.fresh t.place (by simp)

theorem exists_of_mem (h : prog.Reaches seen w ps ds v) (ht : t.place ∈ ps) :
    ∃ qs es v', prog.Reaches seen t qs es v' := by
  obtain ⟨before, after, t', fs, es, rfl, rfl, ht', -, hw⟩ := h.walk.exists_of_mem ht
  obtain ⟨v', hv, hw⟩ := hw.of_place ht'
  refine ⟨_, es, v', hw, (congrArg Prod.fst hv).trans h.stop, fun x hx => h.fresh x ?_⟩
  rw [hv] at hx
  rw [List.append_assoc]
  exact List.mem_append_right _ hx

theorem tail (h : prog.Reaches seen t (x :: ps) ds v) (hnodup : (x :: ps).Nodup)
    (hw : prog.Walk w ps es v) (hnext : w ∈ prog.next t) (ht : t.pc ≠ prog.size) :
    prog.Reaches (seen.add t.pc t.cursor.pos) w ps es v := by
  obtain ⟨rfl, -⟩ := h.walk.next
  have hrest : prog.Reaches seen w ps es v :=
    ⟨hw, h.stop, fun x hx => h.fresh x (List.mem_cons_of_mem _ hx)⟩
  exact hrest.visit (text_next hnext) ht (List.nodup_cons.1 hnodup).1

theorem exists_next (h : prog.Reaches seen t ps ds v) (ht : t.pc ≠ prog.size) :
    ∃ w ∈ prog.next t, ∃ qs es v', prog.Reaches (seen.add t.pc t.cursor.pos) w qs es v' := by
  obtain ⟨qs, es, v', hsub, hnodup, hv, hw⟩ := h.walk.exists_nodup
  have hr : prog.Reaches seen t qs es v' := by
    refine ⟨hw, (congrArg Prod.fst hv).trans h.stop, fun x hx => h.fresh x ?_⟩
    rw [hv] at hx
    obtain hx | hx := List.mem_append.1 hx
    · exact List.mem_append_left _ (hsub hx)
    · exact List.mem_append_right _ hx
  cases qs with
  | nil =>
    cases hw
    exact absurd hr.stop ht
  | cons x qs =>
    obtain ⟨-, w, es', hnext, hw'⟩ := hw.next
    exact ⟨w, hnext, qs, es', v', hr.tail hnodup hw' hnext ht⟩

end Reaches

/-- Of the walks from `t` to the end that keep off the visited places and come nowhere twice, the
one with the choices `ds` is preferred. -/
structure Best (prog : Program) (seen : Visited) (t : Thread) (ds : List Choice) (u : Thread) :
    Prop where
  reaches : ∃ ps, ps.Nodup ∧ prog.Reaches seen t ps ds u
  best : ∀ qs es v, qs.Nodup → prog.Reaches seen t qs es v → es = ds ∧ v = u ∨ Choice.Beats ds es

/-- No walk to the end keeps off the visited places. -/
def Dead (prog : Program) (seen : Visited) (t : Thread) : Prop :=
  ∀ ps ds v, ¬ prog.Reaches seen t ps ds v

theorem best_end (ht : t.pc = prog.size) (hs : ¬ Seen seen t) : prog.Best seen t [] t := by
  refine ⟨⟨[], List.nodup_nil, .refl t, ht, fun x hx => ?_⟩, fun qs es v _ hr => ?_⟩
  · obtain rfl := List.mem_singleton.1 hx
    simpa [Seen, Thread.place] using hs
  · obtain ⟨-, rfl, rfl⟩ := hr.walk.eq_nil (Nat.le_of_eq ht.symm)
    exact .inl ⟨rfl, rfl⟩

theorem Best.reaches_cons {ds' : List Choice} (hs : ¬ Seen seen t)
    (hpos : t.cursor.pos < seen.size) (hw : prog.Best (seen.add t.pc t.cursor.pos) w ds u)
    (hwalk : ∀ {ps}, prog.Walk w ps ds u → prog.Walk t (t.place :: ps) ds' u) :
    ∃ ps, ps.Nodup ∧ prog.Reaches seen t ps ds' u := by
  obtain ⟨ps, hnodup, hr⟩ := hw.reaches
  refine ⟨_, List.nodup_cons.2 ⟨hr.not_mem_of_visit hpos, hnodup⟩, hwalk hr.walk, hr.stop, ?_⟩
  intro x hx
  obtain rfl | hx := List.mem_cons.1 hx
  · simpa [Seen, Thread.place] using hs
  · exact hr.of_visit.fresh x hx

/-- The preferred walk from a place that is new begins with the first way that is not dead. -/
theorem Best.of_next {before after : List Thread} (ht : t.pc ≠ prog.size) (hs : ¬ Seen seen t)
    (hpos : t.cursor.pos < seen.size) (hnext : prog.next t = before ++ w :: after)
    (hdead : ∀ v ∈ before, prog.Dead (seen.add t.pc t.cursor.pos) v)
    (hw : prog.Best (seen.add t.pc t.cursor.pos) w ds u) : ∃ ds', prog.Best seen t ds' u := by
  have hlen := length_next_le prog t
  rw [hnext, List.length_append, List.length_cons] at hlen
  have hbest : ∀ d qs es v, (t.place :: qs).Nodup →
      prog.Reaches (seen.add t.pc t.cursor.pos) w qs es v →
      d :: es = d :: ds ∧ v = u ∨ Choice.Beats (d :: ds) (d :: es) := by
    intro d qs es v hnodup hr
    obtain ⟨rfl, rfl⟩ | hbeats := hw.best qs es v (List.nodup_cons.1 hnodup).2 hr
    · exact .inl ⟨rfl, rfl⟩
    · exact .inr (hbeats.cons d)
  match before, after with
  | [], [] =>
    have hnext : prog.next t = [w] := hnext
    refine ⟨ds, hw.reaches_cons hs hpos (.step hnext), fun qs es v hnodup hr => ?_⟩
    obtain ⟨qs, rfl, hwalk⟩ := hr.walk.of_single (hr.stop ▸ ht.symm) hnext
    have hrest := hr.tail hnodup hwalk (by simp [hnext]) ht
    exact hw.best qs es v (List.nodup_cons.1 hnodup).2 hrest
  | [], [y] =>
    have hnext : prog.next t = [w, y] := hnext
    refine ⟨_, hw.reaches_cons hs hpos (.first hnext), fun qs es v hnodup hr => ?_⟩
    obtain ⟨qs, es, rfl, ⟨rfl, hwalk⟩ | ⟨rfl, hwalk⟩⟩ :=
      hr.walk.of_pair (hr.stop ▸ ht.symm) hnext
    · exact hbest _ qs es v hnodup (hr.tail hnodup hwalk (by simp [hnext]) ht)
    · exact .inr ⟨[], t.place, ds, es, rfl, rfl⟩
  | [y], [] =>
    have hnext : prog.next t = [y, w] := hnext
    refine ⟨_, hw.reaches_cons hs hpos (.second hnext), fun qs es v hnodup hr => ?_⟩
    obtain ⟨qs, es, rfl, ⟨rfl, hwalk⟩ | ⟨rfl, hwalk⟩⟩ :=
      hr.walk.of_pair (hr.stop ▸ ht.symm) hnext
    · exact absurd (hr.tail hnodup hwalk (by simp [hnext]) ht) (hdead y (by simp) qs es v)
    · exact hbest _ qs es v hnodup (hr.tail hnodup hwalk (by simp [hnext]) ht)
  | _ :: _ :: _, _ => simp at hlen; omega
  | [_], _ :: _ => simp at hlen; omega
  | [], _ :: _ :: _ => simp at hlen

theorem Dead.of_next (h : ∀ w ∈ prog.next t, prog.Dead (seen.add t.pc t.cursor.pos) w)
    (ht : t.pc ≠ prog.size) : prog.Dead seen t := by
  intro ps ds v hr
  obtain ⟨w, hw, qs, es, v', hr⟩ := hr.exists_next ht
  exact h w hw qs es v' hr

theorem Dead.visit (h : prog.Dead seen t) (hr : prog.Reaches seen w ps ds v)
    (hw : w.cursor.text = t.cursor.text) (ht : t.pc ≠ prog.size) :
    prog.Reaches (seen.add t.pc t.cursor.pos) w ps ds v := by
  refine hr.visit hw ht fun hmem => ?_
  obtain ⟨qs, es, v', hr⟩ := hr.exists_of_mem hmem
  exact h qs es v' hr

/-- If no way from a new place leads to the end, what is preferred is so as if it had not been
visited. -/
theorem Best.of_rest {before : List Thread} (ht : t.pc ≠ prog.size)
    (htext : ∀ v ∈ w :: before, v.cursor.text = t.cursor.text)
    (hdead : ∀ v ∈ prog.next t ++ before, prog.Dead (seen.add t.pc t.cursor.pos) v)
    (hw : prog.Best (seen.add t.pc t.cursor.pos) w ds u) :
    (∀ v ∈ t :: before, prog.Dead seen v) ∧ prog.Best seen w ds u := by
  have htdead : prog.Dead seen t :=
    .of_next (fun v hv => hdead v (List.mem_append_left _ hv)) ht
  obtain ⟨⟨ps, hnodup, hr⟩, hbest⟩ := hw
  refine ⟨fun v hv => ?_, ⟨ps, hnodup, hr.of_visit⟩, fun qs es v hqs hr' => ?_⟩
  · obtain rfl | hv := List.mem_cons.1 hv
    · exact htdead
    · intro qs es v' hr'
      refine hdead v (List.mem_append_right _ hv) qs es v' (htdead.visit hr' ?_ ht)
      exact htext v (List.mem_cons_of_mem _ hv)
  · exact hbest qs es v hqs (htdead.visit hr' (htext w List.mem_cons_self) ht)

/-- The first of the threads that is not dead leads to `u` by its preferred walk. -/
def Finds (prog : Program) (seen : Visited) (ts : List Thread) (u : Thread) : Prop :=
  ∃ before t after ds, ts = before ++ t :: after ∧ (∀ v ∈ before, prog.Dead seen v) ∧
    prog.Best seen t ds u

theorem Finds.of_seen (hs : Seen seen t) (h : prog.Finds seen rest u) :
    prog.Finds seen (t :: rest) u := by
  obtain ⟨before, w, after, ds, rfl, hdead, hbest⟩ := h
  refine ⟨t :: before, w, after, ds, rfl, fun v hv => ?_, hbest⟩
  obtain rfl | hv := List.mem_cons.1 hv
  · exact fun ps ds v hr => hr.not_seen hs
  · exact hdead v hv

/-- What is found behind a new thread is found behind the ways from it, or else behind the threads
after it. -/
theorem Finds.of_visit (ht : t.pc ≠ prog.size) (hs : ¬ Seen seen t)
    (hpos : t.cursor.pos < seen.size) (htext : ∀ v ∈ rest, v.cursor.text = t.cursor.text)
    (h : prog.Finds (seen.add t.pc t.cursor.pos) (prog.next t ++ rest) u) :
    prog.Finds seen (t :: rest) u := by
  obtain ⟨before, w, after, ds, hsplit, hdead, hbest⟩ := h
  obtain ⟨mid, rfl, rfl⟩ | ⟨x, mid, hx, hmid⟩ : (∃ mid, before = prog.next t ++ mid ∧
      rest = mid ++ w :: after) ∨ ∃ x mid, prog.next t = before ++ x :: mid ∧
      w :: after = x :: mid ++ rest := by
    obtain h | ⟨mid, hx, hmid⟩ := List.append_eq_append_iff.1 hsplit
    · exact .inl h
    · cases mid with
      | nil => exact .inl ⟨[], by simpa using hx.symm, hmid.symm⟩
      | cons x mid => exact .inr ⟨x, mid, hx, hmid⟩
  · have htext : ∀ v ∈ w :: mid, v.cursor.text = t.cursor.text := by
      intro v hv
      obtain rfl | hv := List.mem_cons.1 hv
      · exact htext v (by simp)
      · exact htext v (List.mem_append_left _ hv)
    obtain ⟨hdead, hbest⟩ := hbest.of_rest ht htext hdead
    exact ⟨t :: mid, w, after, ds, rfl, hdead, hbest⟩
  · obtain rfl : w = x := (List.cons.inj hmid).1
    obtain ⟨ds', hbest⟩ := hbest.of_next ht hs hpos hx hdead
    exact ⟨[], t, rest, ds', rfl, by simp, hbest⟩

theorem finds_of_explore (hp : prog.TargetsLe) (hts : ∀ t ∈ ts, OnText prog text t)
    (hsize : seen.size = text.length + 1) (h : prog.explore fuel ts seen = (some u, seen')) :
    prog.Finds seen ts u := by
  induction fuel generalizing ts seen with
  | zero => simp [explore] at h
  | succ fuel ih =>
    cases ts with
    | nil => simp [explore] at h
    | cons t rest =>
      have ht := hts t List.mem_cons_self
      rw [explore] at h
      split at h
      · rename_i hs
        exact .of_seen hs (ih (fun u hu => hts u (List.mem_cons_of_mem _ hu)) hsize h)
      · rename_i hs
        split at h
        · rename_i hend
          obtain rfl : t = u := by simpa using congrArg Prod.fst h
          exact ⟨[], t, rest, [], rfl, by simp, best_end hend hs⟩
        · rename_i hend
          have hfinds := ih (onText_visit hp hts) (by rw [Visited.size_add, hsize]) h
          refine .of_visit hend hs (ht.pos_lt hsize) (fun v hv => ?_) hfinds
          exact (hts v (List.mem_cons_of_mem _ hv)).1.trans ht.1.symm

/-- Of the walks from `t` to the end that make no choice twice at one spot, the one with the choices
`ds` is preferred. -/
structure Preferred (prog : Program) (t : Thread) (ds : List Choice) (u : Thread) : Prop where
  circleFree : Choice.CircleFree ds
  stop : u.pc = prog.size
  walk : ∃ ps, prog.Walk t ps ds u
  best : ∀ qs es v, prog.Walk t qs es v → v.pc = prog.size → Choice.CircleFree es →
    es = ds ∧ v = u ∨ Choice.Beats ds es

theorem Closed.reaches (hc : Closed prog text seen []) (ht : t.cursor.text = text)
    (hw : prog.Walk t ps ds v) (hv : v.pc = prog.size) : prog.Reaches seen t ps ds v := by
  refine ⟨hw, hv, fun x hx => ?_⟩
  have hxtext := (hw.text_eq hx).trans ht
  obtain hx | hx := List.mem_append.1 hx
  · obtain ⟨before, after, t', fs, es, rfl, rfl, rfl, -, hw'⟩ := hw.exists_of_mem hx
    by_contra hs
    exact hc.not_leads hxtext (by simpa [Thread.place] using hs) ⟨_, v, hw'.steps, hv⟩
  · obtain rfl := List.mem_singleton.1 hx
    by_contra hs
    exact (hc v hxtext (by simpa [Thread.place] using hs)).1 hv

theorem Best.preferred (h : prog.Best seen t ds u) (hc : Closed prog text seen [])
    (ht : t.cursor.text = text) : prog.Preferred t ds u := by
  obtain ⟨⟨ps, hnodup, hr⟩, hbest⟩ := h
  refine ⟨hnodup.sublist hr.walk.sublist, hr.stop, ⟨ps, hr.walk⟩, fun qs es v hw hv hes => ?_⟩
  exact hbest qs es v (hw.nodup hv hes) (hc.reaches ht hw hv)

end Repath.Program
