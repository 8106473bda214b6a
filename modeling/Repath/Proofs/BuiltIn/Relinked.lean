import Repath.Proofs.BuiltIn.Spans

namespace Repath.BuiltIn

variable {ss ts : List Stale} {prev : Option Char} {c : Char} {cs mid out out' v w r : List Char}
  {x : Site} {rest : List Char}

/-- `out` is `cs` with the sites for the paths `ss` replaced. -/
inductive Relinked (ss : List Stale) : (prev : Option Char) → (cs out : List Char) → Prop
  | nil {prev : Option Char} : Relinked ss prev [] []
  | copy {prev : Option Char} {c : Char} {cs out : List Char}
      (h : ∀ x rest, ¬ Begins ss prev (c :: cs) x rest) (ht : Relinked ss (some c) cs out) :
      Relinked ss prev (c :: cs) (c :: out)
  | site {prev : Option Char} {cs rest out : List Char} {x : Site} (h : Begins ss prev cs x rest)
      (ht : Relinked ss (some x.closer) rest out) : Relinked ss prev cs (x.new ++ out)

theorem missing_ne_nil : ∀ s ∈ stale, s.missing ≠ [] := by
  decide +kernel

theorem Begins.length_lt (h : Begins ss prev cs x rest) : rest.length < cs.length := by
  rw [h.span, Site.old, Site.span]
  simp only [List.length_append, List.length_singleton]
  omega

theorem Begins.old_lt_new (hs : ss ⊆ stale) (h : Begins ss prev cs x rest) :
    x.old.length < x.new.length := by
  have hm := List.length_pos_of_ne_nil (missing_ne_nil x.stale (hs h.known))
  simp only [Site.old, Site.new, Site.span, List.length_append]
  omega

theorem exists_relinked (ss : List Stale) (prev : Option Char) (cs : List Char) :
    ∃ out, Relinked ss prev cs out := by
  induction hn : cs.length using Nat.strongRecOn generalizing prev cs with
  | ind n ih =>
    by_cases h : ∃ x rest, Begins ss prev cs x rest
    · obtain ⟨x, rest, h⟩ := h
      obtain ⟨out, ht⟩ := ih rest.length (hn ▸ h.length_lt) (some x.closer) rest rfl
      exact ⟨_, .site h ht⟩
    · cases cs with
      | nil => exact ⟨[], .nil⟩
      | cons c cs =>
        rw [List.length_cons] at hn
        obtain ⟨out, ht⟩ := ih cs.length (by omega) (some c) cs rfl
        exact ⟨_, .copy (fun x rest hb => h ⟨x, rest, hb⟩) ht⟩

theorem Relinked.congr (h : Relinked ss prev cs out) (hst : ∀ s, s ∈ ss ↔ s ∈ ts) :
    Relinked ts prev cs out := by
  induction h with
  | nil => exact .nil
  | copy h _ ih => exact .copy (fun x rest hb => h x rest (hb.mono ((hst _).2 hb.known))) ih
  | site h _ ih => exact .site (h.mono ((hst _).1 h.known)) ih

theorem Relinked.of_quiet (hq : Quiet prev w) (h : Relinked ss prev (w ++ cs) out) :
    ∃ o, out = w ++ o ∧ Relinked ss (last prev w) cs o := by
  induction w generalizing prev out with
  | nil => exact ⟨out, rfl, h⟩
  | cons c w ih =>
    rw [List.cons_append] at h
    cases h with
    | copy _ ht =>
      obtain ⟨o, rfl, ho⟩ := ih hq.2 ht
      exact ⟨o, rfl, ho⟩
    | site hb => exact absurd hb hq.not_begins

theorem Relinked.of_quiet_out (hq : Quiet prev w) (h : Relinked ss prev cs (w ++ out)) :
    ∃ r, cs = w ++ r ∧ Relinked ss (last prev w) r out := by
  induction w generalizing prev cs with
  | nil => exact ⟨cs, rfl, h⟩
  | cons c w ih =>
    generalize ho : c :: w ++ out = o at h
    cases h with
    | nil => cases ho
    | copy _ ht =>
      obtain ⟨rfl, rfl⟩ := List.cons.inj ho
      obtain ⟨r, rfl, hr⟩ := ih hq.2 ht
      exact ⟨r, rfl, hr⟩
    | @site _ _ _ _ x hb =>
      have hlead : x.lead <+: c :: w ++ out := by
        rw [ho, Site.new, Site.span, List.append_assoc]
        exact List.prefix_append _ _
      exact absurd (hb.lead.stirs hlead (List.prefix_append _ _)) (hq.1 hb.start)

theorem Relinked.of_gap
    (h : ∀ v r, w = v ++ r → r ≠ [] → ∀ x rest, ¬ Begins ss (last prev v) (r ++ cs) x rest)
    (ht : Relinked ss (last prev w) cs out) : Relinked ss prev (w ++ cs) (w ++ out) := by
  induction w generalizing prev with
  | nil => exact ht
  | cons c w ih =>
    refine .copy (h [] (c :: w) rfl (List.cons_ne_nil c w)) (ih ?_ ht)
    rintro v r rfl hr
    exact h (c :: v) r rfl hr

theorem relinked_self
    (h : ∀ w r x rest, cs = w ++ r → ¬ Begins ss (last prev w) r x rest) :
    Relinked ss prev cs cs := by
  have hcopy : Relinked ss prev (cs ++ []) (cs ++ []) :=
    .of_gap (fun v r hw _ x rest => by rw [List.append_nil]; exact h v r x rest hw) .nil
  rwa [List.append_nil] at hcopy

theorem Begins.of_copy (ht : ts ⊆ stale) (hc : Relinked ss (some c) cs mid)
    (h : Begins ts prev (c :: cs) x rest) :
    ∃ o, Begins ts prev (c :: mid) x o ∧ Relinked ss (some x.closer) rest o := by
  obtain ⟨a, v, hold, hq, hlast⟩ := h.quiet_old ht
  have hspan := h.span
  rw [hold] at hspan
  obtain ⟨rfl, rfl⟩ := List.cons.inj hspan
  obtain ⟨o, rfl, ho⟩ := hc.of_quiet hq
  rw [hlast] at ho
  exact ⟨o, ⟨h.start, h.lead, h.known, h.closer, by rw [hold]; rfl⟩, ho⟩

theorem Begins.of_copied (ht : ts ⊆ stale) (hc : Relinked ss (some c) cs mid)
    (h : Begins ts prev (c :: mid) x rest) :
    ∃ r, Begins ts prev (c :: cs) x r ∧ Relinked ss (some x.closer) r rest := by
  obtain ⟨a, v, hold, hq, hlast⟩ := h.quiet_old ht
  have hspan := h.span
  rw [hold] at hspan
  obtain ⟨rfl, rfl⟩ := List.cons.inj hspan
  obtain ⟨r, rfl, hr⟩ := hc.of_quiet_out hq
  rw [hlast] at hr
  exact ⟨r, ⟨h.start, h.lead, h.known, h.closer, by rw [hold]; rfl⟩, hr⟩

/-- A pass leaves alone what another one has brought up to date. -/
theorem Begins.of_new (hs : ss ⊆ stale) (ht : ts ⊆ stale) (hb : Begins ss prev cs x rest)
    (h : Relinked ts prev (x.new ++ mid) out) :
    ∃ o, out = x.new ++ o ∧ Relinked ts (some x.closer) mid o := by
  obtain ⟨a, v, hnew, hq, hlast⟩ := hb.quiet_new hs
  have hno : ∀ y r, ¬ Begins ts prev (x.new ++ mid) y r :=
    fun y r => not_begins_new hb.lead (hs hb.known) ht
  rw [hnew, List.cons_append] at h hno
  cases h with
  | site h => exact absurd h (hno _ _)
  | copy _ hc =>
    obtain ⟨o, rfl, ho⟩ := hc.of_quiet hq
    rw [hlast] at ho
    exact ⟨o, by rw [hnew]; rfl, ho⟩

/-- Passes for two kinds of path, one after the other, are one pass for both. -/
theorem Relinked.trans (hs : ss ⊆ stale) (ht : ts ⊆ stale) (h : Relinked ss prev cs mid)
    (h' : Relinked ts prev mid out) : Relinked (ss ++ ts) prev cs out := by
  induction hn : cs.length using Nat.strongRecOn generalizing prev cs mid out with
  | ind n ih =>
    cases h with
    | nil =>
      cases h' with
      | nil => exact .nil
      | site hb => exact absurd hb.length_lt (by simp)
    | @copy _ c cs mid hno hc =>
      generalize hm : c :: mid = m at h'
      cases h' with
      | nil => cases hm
      | copy hno' hc' =>
        obtain ⟨rfl, rfl⟩ := List.cons.inj hm
        rw [List.length_cons] at hn
        refine .copy (fun x rest hb => ?_) (ih cs.length (by omega) hc hc' rfl)
        obtain hx | hx := List.mem_append.1 hb.known
        · exact hno x rest (hb.mono hx)
        · obtain ⟨o, hb', -⟩ := Begins.of_copy ht hc (hb.mono hx)
          exact hno' x o hb'
      | site hb hc' =>
        subst hm
        obtain ⟨r, hb', hr⟩ := hb.of_copied ht hc
        exact .site (hb'.mono (List.mem_append_right _ hb'.known))
          (ih r.length (hn ▸ hb'.length_lt) hr hc' rfl)
    | @site _ _ rest mid x hb hc =>
      obtain ⟨o, rfl, ho⟩ := hb.of_new hs ht h'
      exact .site (hb.mono (List.mem_append_left _ hb.known))
        (ih rest.length (hn ▸ hb.length_lt) hc ho rfl)

theorem mem_points {p : Nat} {i : Nat × List Char} (h : i ∈ points ss p prev cs) : p ≤ i.1 := by
  induction cs generalizing p prev with
  | nil => cases h
  | cons c cs ih =>
    rw [points] at h
    split at h
    · obtain rfl | h := List.mem_cons.1 h
      · exact Nat.le_add_right _ _
      · exact Nat.le_of_succ_le (ih h)
    · exact Nat.le_of_succ_le (ih h)

theorem points_of_quiet {p : Nat} (hq : Quiet prev w) :
    points ss p prev (w ++ cs) = points ss (p + w.length) (last prev w) cs := by
  induction w generalizing p prev with
  | nil => rfl
  | cons c w ih =>
    have hno : site? ss prev (c :: w ++ cs) = none := site?_eq_none.2 fun _ _ => hq.not_begins
    rw [List.cons_append] at hno ⊢
    rw [points, hno, List.length_cons, Nat.add_comm w.length, ← Nat.add_assoc]
    exact ih hq.2

theorem insertAll_append {is : List (Nat × List Char)} {p : Nat}
    (h : ∀ i ∈ is, i.1 < p ∨ p + w.length ≤ i.1) :
    insertAll is p (w ++ cs) = w ++ insertAll is (p + w.length) cs := by
  induction w generalizing p with
  | nil => rfl
  | cons c w ih =>
    have hnone : is.filter (·.1 = p) = [] := by
      apply List.filter_eq_nil_iff.2
      intro i hi
      have hp := h i hi
      rw [List.length_cons] at hp
      simp only [decide_eq_true_eq]
      omega
    have htail : ∀ i ∈ is, i.1 < p + 1 ∨ p + 1 + w.length ≤ i.1 := by
      intro i hi
      have hp := h i hi
      rw [List.length_cons] at hp
      omega
    rw [List.cons_append, insertAll, hnone, ih htail, List.length_cons, Nat.add_comm w.length,
      ← Nat.add_assoc]
    rfl

theorem insertAll_past {i : Nat × List Char} {is : List (Nat × List Char)} {p : Nat}
    (h : i.1 < p) : insertAll (i :: is) p cs = insertAll is p cs := by
  induction cs generalizing p with
  | nil => rfl
  | cons c cs ih =>
    rw [insertAll, insertAll, ih (by omega), List.filter_cons_of_neg (by simp; omega)]

theorem insertAll_here {is : List (Nat × List Char)} {p : Nat} (hcs : cs ≠ [])
    (h : ∀ i ∈ is, p < i.1) : insertAll ((p, v) :: is) p cs = v ++ insertAll is p cs := by
  obtain ⟨c, cs, rfl⟩ := List.exists_cons_of_ne_nil hcs
  have hnone : is.filter (·.1 = p) = [] := by
    apply List.filter_eq_nil_iff.2
    intro i hi
    have hp := h i hi
    simp only [decide_eq_true_eq]
    omega
  rw [insertAll, insertAll, insertAll_past (Nat.lt_succ_self p), List.filter_cons_of_pos (by simp),
    hnone]
  simp

theorem Begins.points (hs : ss ⊆ stale) (h : Begins ss prev cs x rest) (p : Nat) :
    points ss p prev cs =
      (p + (x.lead ++ x.stale.path).length, x.stale.missing) ::
        points ss (p + (x.lead ++ x.stale.path).length + (x.stale.name ++ [x.closer]).length)
          (some x.closer) rest := by
  obtain ⟨a, v, hold, hq, hlast⟩ := h.quiet_old hs
  have hsite := h.site? hs
  have hlen : 1 + v.length =
      (x.lead ++ x.stale.path).length + (x.stale.name ++ [x.closer]).length := by
    have hspan := congrArg List.length hold
    simp only [Site.old, Site.span, List.length_append, List.length_cons] at hspan ⊢
    omega
  rw [h.span, hold, List.cons_append] at hsite ⊢
  rw [BuiltIn.points, hsite, points_of_quiet hq, hlast, List.length_append, Nat.add_assoc p 1, hlen,
    ← Nat.add_assoc, List.length_append]

/-- A pass inserts what is missing at each point of the text as it was. -/
theorem Relinked.eq_insertAll (hs : ss ⊆ stale) (h : Relinked ss prev cs out) (p : Nat) :
    out = insertAll (points ss p prev cs) p cs := by
  induction h generalizing p with
  | nil => rfl
  | @copy prev c cs out h _ ih =>
    rw [points, site?_eq_none.2 h]
    have hfar : ∀ i ∈ points ss (p + 1) (some c) cs, i.1 < p ∨ p + [c].length ≤ i.1 :=
      fun i hi => .inr (mem_points hi)
    rw [← List.singleton_append, ← List.singleton_append (l := cs), insertAll_append hfar,
      ih (p + 1)]
    rfl
  | @site prev cs rest out x hb _ ih =>
    have hspan : cs = (x.lead ++ x.stale.path) ++ ((x.stale.name ++ [x.closer]) ++ rest) := by
      simp [hb.span, Site.old, Site.span]
    have hnew : x.new ++ out = (x.lead ++ x.stale.path) ++
        (x.stale.missing ++ ((x.stale.name ++ [x.closer]) ++ out)) := by
      simp [Site.new, Site.span]
    have hpos : 0 < (x.stale.name ++ [x.closer]).length := by simp
    rw [hb.points hs p, hnew, hspan]
    rw [insertAll_append, insertAll_here, insertAll_append, ← ih]
    · exact fun i hi => .inr (mem_points hi)
    · simp
    · intro i hi
      have hle := mem_points hi
      omega
    · intro i hi
      obtain rfl | hi := List.mem_cons.1 hi
      · exact .inr (Nat.le_refl _)
      · exact .inr (Nat.le_trans (Nat.le_add_right _ _) (mem_points hi))

theorem Relinked.unique (hs : ss ⊆ stale) (h : Relinked ss prev cs out)
    (h' : Relinked ss prev cs out') : out = out' :=
  (h.eq_insertAll hs 0).trans (h'.eq_insertAll hs 0).symm

theorem Relinked.length_le (hs : ss ⊆ stale) (h : Relinked ss prev cs out) :
    cs.length ≤ out.length := by
  induction h with
  | nil => exact Nat.le_refl _
  | copy _ _ ih => exact Nat.succ_le_succ ih
  | site hb _ ih =>
    have hlt := hb.old_lt_new hs
    rw [hb.span, List.length_append, List.length_append]
    omega

theorem Begins.lt_length (hs : ss ⊆ stale) (hb : Begins ss prev cs x rest)
    (h : Relinked ss (some x.closer) rest out) : cs.length < (x.new ++ out).length := by
  have hlt := hb.old_lt_new hs
  have hle := h.length_le hs
  rw [hb.span, List.length_append, List.length_append]
  omega

theorem Relinked.eq_or_lt (hs : ss ⊆ stale) (h : Relinked ss prev cs out) :
    out = cs ∨ cs.length < out.length := by
  induction h with
  | nil => exact .inl rfl
  | copy _ _ ih =>
    obtain rfl | hlt := ih
    · exact .inl rfl
    · exact .inr (Nat.succ_lt_succ hlt)
  | site hb ht => exact .inr (hb.lt_length hs ht)

theorem Relinked.not_begins (hs : ss ⊆ stale) (h : Relinked ss prev cs out) (ho : cs = out)
    (hw : cs = w ++ r) : ¬ Begins ss (last prev w) r x rest := by
  induction h generalizing w with
  | nil =>
    obtain ⟨rfl, rfl⟩ := List.append_eq_nil_iff.1 hw.symm
    exact fun hb => absurd hb.length_lt (by simp)
  | @copy prev c cs out hno ht ih =>
    cases w with
    | nil =>
      obtain rfl : c :: cs = r := hw
      exact hno _ _
    | cons a w =>
      obtain ⟨rfl, rfl⟩ := List.cons.inj hw
      exact ih (List.cons.inj ho).2 rfl
  | site hb ht =>
    have hlt := hb.lt_length hs ht
    rw [← ho] at hlt
    exact absurd hlt (Nat.lt_irrefl _)

theorem Relinked.self_mono (hs : ss ⊆ stale) (h : Relinked ss prev cs cs) (hts : ts ⊆ ss) :
    Relinked ts prev cs cs :=
  relinked_self fun _ _ _ _ hw hb => h.not_begins hs rfl hw (hb.mono (hts hb.known))

theorem Relinked.idem (hs : ss ⊆ stale) (h : Relinked ss prev cs out) :
    Relinked ss prev out out := by
  obtain ⟨o, ho⟩ := exists_relinked ss prev out
  have hall : Relinked ss prev cs o := (h.trans hs hs ho).congr (by simp)
  rwa [hall.unique hs h] at ho

end Repath.BuiltIn
