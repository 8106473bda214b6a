import Repath.Proofs.Search.Leftmost

namespace Repath.Program

variable {prog : Program} {c d : Cursor} {m : Match} {n fuel : Nat} {t u : Thread}

theorem reads_next (h : u ∈ prog.next t) : ∃ w, t.cursor.Reads w u.cursor := by
  obtain ⟨i, _, hm⟩ := mem_next.1 h
  cases hm with
  | @char _ x _ _ hx _ => exact ⟨[x], Cursor.reads_singleton.2 hx⟩
  | look | save | first | second | jump => exact ⟨[], .refl _⟩

theorem Steps.reads (h : prog.Steps n t u) : ∃ w, t.cursor.Reads w u.cursor := by
  induction h with
  | refl t => exact ⟨[], .refl _⟩
  | head hu _ ih =>
    obtain ⟨w, hw⟩ := reads_next hu
    obtain ⟨v, hv⟩ := ih
    exact ⟨w ++ v, hw.trans hv⟩

theorem Leftmost.reads_stop (h : prog.Leftmost c m) :
    ∃ gap w, c.Reads gap m.start ∧ m.start.Reads w m.stop := by
  obtain ⟨gap, hgap, -⟩ := h.reads
  obtain ⟨n, hs⟩ := h.run
  obtain ⟨w, hw⟩ := hs.reads
  exact ⟨gap, w, hgap, hw⟩

theorem exists_reads_of_findAfter? (hp : prog.TargetsLe) (h : prog.findAfter? c = some m) :
    ∃ x w, c.Reads (x :: w) m.stop := by
  have hc := find?_leftmost hp c
  rw [findAfter?] at h
  cases hf : prog.find? c with
  | none => simp [hf] at h
  | some m' =>
    rw [hf] at hc
    obtain ⟨gap, w, hgap, hw⟩ := hc.reads_stop
    have hall := hgap.trans hw
    simp only [hf] at h
    split at h
    · obtain ⟨⟨x, d⟩, hx, h⟩ := Option.bind_eq_some_iff.1 h
      have hd := find?_leftmost hp d
      simp only at h
      rw [h] at hd
      obtain ⟨gap, w, hgap, hw⟩ := hd.reads_stop
      exact ⟨x, gap ++ w, (Cursor.reads_singleton.2 hx).trans (hgap.trans hw)⟩
    · rename_i hcond
      obtain rfl : m' = m := Option.some.inj h
      -- a match that reads nothing from `c` on is the empty one that is passed over
      cases hv : gap ++ w with
      | cons x v => exact ⟨x, v, hv ▸ hall⟩
      | nil =>
        exfalso
        apply hcond
        have hw' := hw.pos
        have hall' := hall.pos
        obtain ⟨rfl, rfl⟩ := List.append_eq_nil_iff.1 hv
        simp_all [Match.isEmpty]

/-- What searching on from a cursor finds, up to the end of the text. -/
inductive Successive (prog : Program) : Cursor → List Match → Prop
  | nil {c : Cursor} (h : prog.findAfter? c = none) : Successive prog c []
  | cons {c : Cursor} {m : Match} {ms : List Match} (h : prog.findAfter? c = some m)
      (hs : Successive prog m.stop ms) : Successive prog c (m :: ms)

theorem successive_matchesAfter (hp : prog.TargetsLe) (hfuel : c.after.length < fuel) :
    Successive prog c (prog.matchesAfter fuel c) := by
  induction fuel generalizing c with
  | zero => omega
  | succ fuel ih =>
    rw [matchesAfter]
    cases h : prog.findAfter? c with
    | none => exact .nil h
    | some m =>
      obtain ⟨x, w, hread⟩ := exists_reads_of_findAfter? hp h
      have hlen := congrArg List.length hread.1
      rw [List.length_append, List.length_cons] at hlen
      exact .cons h (ih (by omega))

theorem findAfter?_eq_find? (h : ∀ m, prog.find? c = some m → m.isEmpty = false) :
    prog.findAfter? c = prog.find? c := by
  rw [findAfter?]
  cases hf : prog.find? c with
  | none => rfl
  | some m => simp [h m hf]

/-- Behind its first match, a text is searched to the end. -/
theorem exists_successive (hp : prog.TargetsLe) {text : List Char}
    (hf : prog.find? (.start text) = some m) :
    ∃ ms, prog.allMatches text = m :: ms ∧ Successive prog m.stop ms := by
  have hc := find?_leftmost hp (.start text)
  rw [hf] at hc
  obtain ⟨gap, w, hgap, hw⟩ := hc.reads_stop
  have hlen := congrArg List.length (hgap.trans hw).1
  rw [List.length_append] at hlen
  simp only [Cursor.start] at hlen
  refine ⟨_, ?_, successive_matchesAfter hp (by omega : m.stop.after.length < text.length + 1)⟩
  rw [allMatches, hf]

theorem successive_allMatches (hp : prog.TargetsLe) (text : List Char)
    (h : ∀ m, prog.find? (.start text) = some m → m.isEmpty = false) :
    Successive prog (.start text) (prog.allMatches text) := by
  have hafter := findAfter?_eq_find? h
  cases hf : prog.find? (.start text) with
  | none =>
    rw [allMatches, hf]
    exact .nil (hafter.trans hf)
  | some m =>
    obtain ⟨ms, hall, hms⟩ := exists_successive hp hf
    rw [hall]
    exact .cons (hafter.trans hf) hms

end Repath.Program
