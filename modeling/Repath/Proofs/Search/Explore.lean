import Mathlib.Data.Finset.Card
import Mathlib.Data.Finset.Prod
import Mathlib.Data.Nat.Bitwise
import Repath.Proofs.Search.Steps

namespace Repath

namespace Visited

theorem has_none (positions pc pos : Nat) : (none positions).has pc pos = false := by
  simp only [has, none, Array.getElem?_replicate]
  split <;> simp

theorem size_add (seen : Visited) (pc pos : Nat) : (seen.add pc pos).size = seen.size := by
  simp [add]

theorem has_add (seen : Visited) (pc pos q p : Nat) :
    (seen.add pc pos).has q p = (seen.has q p || decide (q = pc ∧ p = pos ∧ pos < seen.size)) := by
  simp only [has, add, Array.getElem?_modify]
  by_cases hp : pos = p
  · subst hp
    by_cases hs : pos < seen.size
    · simp [hs, Nat.testBit_or, Nat.one_shiftLeft, Nat.testBit_two_pow, eq_comm]
    · simp [hs]
  · simp [hp, Ne.symm hp]

theorem has_add_of_has {seen : Visited} {pc pos q p : Nat} (h : seen.has q p = true) :
    (seen.add pc pos).has q p = true := by
  simp [has_add, h]

def unseen (size : Nat) (seen : Visited) : Finset (Nat × Nat) :=
  (Finset.range (size + 1) ×ˢ Finset.range seen.size).filter fun x => seen.has x.1 x.2 = false

theorem card_unseen_le (size : Nat) (seen : Visited) :
    (unseen size seen).card ≤ (size + 1) * seen.size := by
  have h := Finset.card_filter_le (Finset.range (size + 1) ×ˢ Finset.range seen.size)
    fun x => seen.has x.1 x.2 = false
  simpa [unseen, Finset.card_product] using h

theorem card_unseen_add {size pc pos : Nat} {seen : Visited} (hpc : pc ≤ size)
    (hpos : pos < seen.size) (h : seen.has pc pos = false) :
    (unseen size (seen.add pc pos)).card < (unseen size seen).card := by
  apply Finset.card_lt_card
  rw [Finset.ssubset_iff_of_subset]
  · refine ⟨(pc, pos), ?_, ?_⟩
    · simp [unseen, h, hpos, Nat.lt_succ_of_le hpc]
    · simp [unseen, has_add, hpos]
  · intro x hx
    simp only [unseen, Finset.mem_filter, has_add, Bool.or_eq_false_iff, size_add] at hx ⊢
    exact ⟨hx.1, hx.2.1⟩

end Visited

namespace Program

variable {prog : Program} {text : List Char} {seen seen' : Visited} {t u : Thread}
  {ts rest : List Thread} {fuel : Nat}

abbrev Seen (seen : Visited) (t : Thread) : Prop := seen.has t.pc t.cursor.pos = true

theorem seen_of_place (h : t.place = u.place) (hs : Seen seen t) : Seen seen u := by
  obtain ⟨hpc, hc⟩ := Prod.mk.inj h
  rwa [Seen, ← hpc, ← hc]

/-- No visited place is the end, and from each of them every step leads to a visited place or to
one that is still waiting. -/
def Closed (prog : Program) (text : List Char) (seen : Visited) (ts : List Thread) : Prop :=
  ∀ t : Thread, t.cursor.text = text → Seen seen t →
    t.pc ≠ prog.size ∧
      ∀ u ∈ prog.next t, Seen seen u ∨ ∃ v ∈ ts, v.place = u.place

theorem closed_none (prog : Program) (text : List Char) (positions : Nat) (ts : List Thread) :
    Closed prog text (Visited.none positions) ts := by
  intro t _ hs
  simp [Seen, Visited.has_none] at hs

theorem Closed.of_nil (h : Closed prog text seen []) (ts : List Thread) :
    Closed prog text seen ts := by
  intro t ht hs
  refine ⟨(h t ht hs).1, fun u hu => ?_⟩
  obtain hu | ⟨v, hv, _⟩ := (h t ht hs).2 u hu
  · exact .inl hu
  · simp at hv

theorem Closed.pop (h : Closed prog text seen (t :: rest)) (ht : Seen seen t) :
    Closed prog text seen rest := by
  intro w hw hs
  refine ⟨(h w hw hs).1, fun u hu => ?_⟩
  obtain hu | ⟨v, hv, he⟩ := (h w hw hs).2 u hu
  · exact .inl hu
  · obtain rfl | hv := List.mem_cons.1 hv
    · exact .inl (seen_of_place he ht)
    · exact .inr ⟨v, hv, he⟩

theorem Closed.visit (h : Closed prog text seen (t :: rest)) (ht : t.cursor.text = text)
    (hend : t.pc ≠ prog.size) (hpos : t.cursor.pos < seen.size) :
    Closed prog text (seen.add t.pc t.cursor.pos) (prog.next t ++ rest) := by
  have hseen : Seen (seen.add t.pc t.cursor.pos) t := by simp [Seen, Visited.has_add, hpos]
  intro w hw hs
  rw [Seen, Visited.has_add, Bool.or_eq_true, decide_eq_true_eq] at hs
  obtain hs | ⟨hpc, hp, _⟩ := hs
  · refine ⟨(h w hw hs).1, fun u hu => ?_⟩
    obtain hu | ⟨v, hv, he⟩ := (h w hw hs).2 u hu
    · exact .inl (Visited.has_add_of_has hu)
    · obtain rfl | hv := List.mem_cons.1 hv
      · exact .inl (seen_of_place he hseen)
      · exact .inr ⟨v, List.mem_append_right _ hv, he⟩
  · -- the thread at `w` stands where `t` does, so its successors have just been put on the list
    have hplace : w.place = t.place :=
      Prod.ext hpc (Cursor.eq_of_pos_eq (hw.trans ht.symm) hp)
    refine ⟨hpc ▸ hend, fun u hu => ?_⟩
    obtain ⟨v, hv, he⟩ := exists_mem_next hplace hu
    exact .inr ⟨v, List.mem_append_left _ hv, he⟩

/-- Once nothing is waiting, no visited place leads to the end. -/
theorem Closed.not_leads (h : Closed prog text seen []) (ht : t.cursor.text = text)
    (hs : Seen seen t) : ¬ prog.Leads t := by
  rintro ⟨n, v, hsteps, hv⟩
  induction hsteps with
  | refl t => exact (h t ht hs).1 hv
  | head hu _ ih =>
    obtain hu' | ⟨w, hw, _⟩ := (h _ ht hs).2 _ hu
    · exact ih ((text_next hu).trans ht) hu' hv
    · simp at hw

/-- What threads on the waiting list are known to satisfy. -/
def OnText (prog : Program) (text : List Char) (t : Thread) : Prop :=
  t.cursor.text = text ∧ t.pc ≤ prog.size

theorem OnText.next (hp : prog.TargetsLe) (h : OnText prog text t) (hu : u ∈ prog.next t) :
    OnText prog text u := ⟨(text_next hu).trans h.1, pc_next_le hp hu⟩

theorem OnText.pos_lt (h : OnText prog text t) (hsize : seen.size = text.length + 1) :
    t.cursor.pos < seen.size := by
  have hle := t.cursor.pos_le_length
  rw [h.1] at hle
  omega

theorem onText_visit (hp : prog.TargetsLe) (h : ∀ u ∈ t :: rest, OnText prog text u) :
    ∀ u ∈ prog.next t ++ rest, OnText prog text u := by
  intro u hu
  obtain hu | hu := List.mem_append.1 hu
  · exact (h t List.mem_cons_self).next hp hu
  · exact h u (List.mem_cons_of_mem _ hu)

/-- With enough fuel a search that finds nothing has visited all there is to visit: two threads
at most come in for each new place, and one goes. -/
theorem explore_none (hp : prog.TargetsLe) (hc : Closed prog text seen ts)
    (hts : ∀ t ∈ ts, OnText prog text t) (hsize : seen.size = text.length + 1)
    (hfuel : 2 * (Visited.unseen prog.size seen).card + ts.length < fuel)
    (h : prog.explore fuel ts seen = (none, seen')) :
    Closed prog text seen' [] ∧ seen'.size = text.length + 1 ∧
      (∀ t, Seen seen t → Seen seen' t) ∧ ∀ t ∈ ts, Seen seen' t := by
  induction fuel generalizing ts seen with
  | zero => omega
  | succ fuel ih =>
    cases ts with
    | nil =>
      obtain rfl : seen = seen' := by simpa [explore] using h
      exact ⟨hc, hsize, fun _ => id, by simp⟩
    | cons t rest =>
      have ht := hts t List.mem_cons_self
      have hrest : ∀ u ∈ rest, OnText prog text u := fun u hu => hts u (List.mem_cons_of_mem _ hu)
      rw [explore] at h
      rw [List.length_cons] at hfuel
      split at h
      · rename_i hs
        obtain ⟨hc', hsize', hold, hnew⟩ := ih (hc.pop hs) hrest hsize (by omega) h
        refine ⟨hc', hsize', hold, fun u hu => ?_⟩
        obtain rfl | hu := List.mem_cons.1 hu
        · exact hold u hs
        · exact hnew u hu
      · rename_i hs
        split at h
        · simp at h
        · rename_i hend
          have hpos := ht.pos_lt hsize
          have hcard := Visited.card_unseen_add ht.2 hpos (by simpa using hs)
          have hlen := length_next_le prog t
          obtain ⟨hc', hsize', hold, hnew⟩ := ih (hc.visit ht.1 hend hpos) (onText_visit hp hts)
            (by rw [Visited.size_add, hsize]) (by rw [List.length_append]; omega) h
          refine ⟨hc', hsize', fun u hu => hold u (Visited.has_add_of_has hu), fun u hu => ?_⟩
          obtain rfl | hu := List.mem_cons.1 hu
          · exact hold u (by simp [Seen, Visited.has_add, hpos])
          · exact hnew u (List.mem_append_right _ hu)

end Program

end Repath
