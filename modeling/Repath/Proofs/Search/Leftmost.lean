import Repath.Proofs.Search.Preferred

namespace Repath.Program

variable {prog : Program} {c d : Cursor} {m : Match}

/-- A search from `c` on may answer with `m`: no start before that of `m` leads to the end, and of
the walks from there none is preferred to that of `m`. -/
structure Leftmost (prog : Program) (c : Cursor) (m : Match) : Prop where
  reads : ∃ gap, c.Reads gap m.start ∧
    ∀ w e, c.Reads w e → w.length < gap.length → ¬ prog.Leads ⟨0, e, []⟩
  preferred : ∃ ds, prog.Preferred ⟨0, m.start, []⟩ ds ⟨prog.size, m.stop, m.saves⟩

theorem Leftmost.run (h : prog.Leftmost c m) :
    ∃ n, prog.Steps n ⟨0, m.start, []⟩ ⟨prog.size, m.stop, m.saves⟩ := by
  obtain ⟨ds, hds⟩ := h.preferred
  obtain ⟨ps, hw⟩ := hds.walk
  exact ⟨ps.length, hw.steps⟩

/-- No start at or behind `c` leads to the end. -/
def Barren (prog : Program) (c : Cursor) : Prop := ∀ w e, c.Reads w e → ¬ prog.Leads ⟨0, e, []⟩

theorem Barren.of_next {x : Char} (h : c.next? = some (x, d)) (hc : ¬ prog.Leads ⟨0, c, []⟩)
    (hd : prog.Barren d) : prog.Barren c := by
  intro w e hw
  cases w with
  | nil =>
    obtain rfl := Cursor.reads_nil.1 hw
    exact hc
  | cons y w =>
    obtain ⟨f, hf, hw⟩ := Cursor.reads_cons.1 hw
    have hf' := Cursor.reads_singleton.1 hf
    rw [h, Option.some.injEq, Prod.mk.injEq] at hf'
    exact hd w e (hf'.2 ▸ hw)

theorem Leftmost.of_next {x : Char} (h : c.next? = some (x, d)) (hc : ¬ prog.Leads ⟨0, c, []⟩)
    (hd : prog.Leftmost d m) : prog.Leftmost c m := by
  obtain ⟨gap, hgap, hmin⟩ := hd.reads
  refine ⟨⟨x :: gap, (Cursor.reads_singleton.2 h).trans hgap, fun w e hw hlt => ?_⟩,
    hd.preferred⟩
  cases w with
  | nil =>
    obtain rfl := Cursor.reads_nil.1 hw
    exact hc
  | cons y w =>
    obtain ⟨f, hf, hw⟩ := Cursor.reads_cons.1 hw
    have hf' := Cursor.reads_singleton.1 hf
    rw [h, Option.some.injEq, Prod.mk.injEq] at hf'
    exact hmin w e (hf'.2 ▸ hw) (by simpa using hlt)

/-- The search from one start either ends with the preferred walk to the end of the program, or
shows that the start leads nowhere and leaves the visited places closed. -/
theorem explore_start (hp : prog.TargetsLe) {seen : Visited} {text : List Char}
    (hc : Closed prog text seen []) (hsize : seen.size = text.length + 1)
    (htext : c.text = text) :
    match prog.explore (prog.fuelFor (text.length + 1)) [⟨0, c, []⟩] seen with
    | (some t, _) => ∃ ds, prog.Preferred ⟨0, c, []⟩ ds ⟨prog.size, t.cursor, t.saves⟩
    | (none, seen') =>
      Closed prog text seen' [] ∧ seen'.size = text.length + 1 ∧ ¬ prog.Leads ⟨0, c, []⟩ := by
  have hts : ∀ t ∈ [(⟨0, c, []⟩ : Thread)], OnText prog text t := by
    intro t ht
    obtain rfl := List.mem_singleton.1 ht
    exact ⟨htext, Nat.zero_le _⟩
  cases hr : prog.explore (prog.fuelFor (text.length + 1)) [⟨0, c, []⟩] seen with
  | mk found seen' =>
    cases found with
    | some t =>
      obtain ⟨before, u, after, ds, hsplit, -, hbest⟩ := finds_of_explore hp hts hsize hr
      obtain ⟨rfl, rfl, rfl⟩ : before = [] ∧ u = ⟨0, c, []⟩ ∧ after = [] := by
        simpa [List.singleton_eq_append_iff, and_assoc] using hsplit
      have hpref := hbest.preferred hc htext
      exact ⟨ds, hpref.stop ▸ hpref⟩
    | none =>
      have hcard := Visited.card_unseen_le prog.size seen
      have hfuel : 2 * (Visited.unseen prog.size seen).card + 1
          < prog.fuelFor (text.length + 1) := by
        rw [hsize] at hcard
        rw [fuelFor, Nat.mul_assoc]
        omega
      obtain ⟨hc', hsize', -, hnew⟩ := explore_none hp (hc.of_nil _) hts hsize hfuel hr
      exact ⟨hc', hsize', hc'.not_leads htext (hnew _ (by simp))⟩

theorem scan_leftmost (hp : prog.TargetsLe) {text after : List Char} :
    ∀ {before : List Char} {pos : Nat} (hpos : pos = before.length) {seen : Visited},
      Closed prog text seen [] → seen.size = text.length + 1 →
      (⟨before, after, pos, hpos⟩ : Cursor).text = text →
      match prog.scan (prog.fuelFor (text.length + 1)) before after pos hpos seen with
      | some m => prog.Leftmost ⟨before, after, pos, hpos⟩ m
      | none => prog.Barren ⟨before, after, pos, hpos⟩ := by
  induction after with
  | nil =>
    intro before pos hpos seen hc hsize htext
    have he := explore_start hp hc hsize htext
    rw [scan]
    generalize prog.explore _ _ seen = r at he
    obtain ⟨found, seen'⟩ := r
    cases found with
    | some t =>
      exact ⟨⟨[], .refl _, by simp⟩, he⟩
    | none =>
      intro w e hw
      obtain ⟨rfl, -⟩ : w = [] ∧ [] = e.after := by simpa using hw.1.symm
      obtain rfl := Cursor.reads_nil.1 hw
      exact he.2.2
  | cons x after ih =>
    intro before pos hpos seen hc hsize htext
    have he := explore_start hp hc hsize htext
    rw [scan]
    generalize prog.explore _ _ seen = r at he
    obtain ⟨found, seen'⟩ := r
    cases found with
    | some t =>
      exact ⟨⟨[], .refl _, by simp⟩, he⟩
    | none =>
      obtain ⟨hc', hsize', hnot⟩ := he
      have hnext : (⟨before, x :: after, pos, hpos⟩ : Cursor).next? =
          some (x, ⟨x :: before, after, pos + 1, by simp [hpos]⟩) := rfl
      have htext' := (Cursor.text_next? hnext).trans htext
      have h := ih (by simp [hpos]) hc' hsize' htext'
      dsimp only
      split at h
      · rename_i hm
        rw [hm]
        exact h.of_next hnext hnot
      · rename_i hm
        rw [hm]
        exact h.of_next hnext hnot

/-- The search behind a cursor answers with a leftmost match, and fails only if there is none. -/
theorem find?_leftmost (hp : prog.TargetsLe) (c : Cursor) :
    match prog.find? c with
    | some m => prog.Leftmost c m
    | none => prog.Barren c := by
  have hlen : c.pos + c.after.length + 1 = c.text.length + 1 := by
    rw [c.pos_eq, Cursor.text]
    simp
  rw [find?, hlen]
  exact scan_leftmost hp c.pos_eq (closed_none _ _ _ _) (by simp [Visited.none]) rfl

end Repath.Program
