import Repath.Proofs.Pattern.Takes

namespace Repath

/-- From `s` to `u` the text is read through a part that goes from `c` to `d`. -/
def Encloses (s u c d : Cursor) : Prop :=
  ∃ front part back, s.Reads front c ∧ c.Reads part d ∧ d.Reads back u

/-- Where group `i` was opened at last, and where it was closed. -/
def notesOn (i : Nat) (s : Stage) : Option Cursor × Option Cursor :=
  (s.2.lookup (2 * i), s.2.lookup (2 * i + 1))

/-- From `s` to `u` the text is read on, and what is noted of group `i` is left alone or comes to
lie between the two. -/
structure Keeps (i : Nat) (s u : Stage) : Prop where
  reads : ∃ w, s.1.Reads w u.1
  notes : notesOn i u = notesOn i s ∨
    ∃ c d, notesOn i u = (some c, some d) ∧ Encloses s.1 u.1 c d

variable {i j : Nat} {s m u : Stage} {c d : Cursor} {notes : List (Nat × Cursor)}

theorem lookup_note (slot k : Nat) :
    ((slot, d) :: notes).lookup k = if k = slot then some d else notes.lookup k := by
  by_cases h : k = slot
  · simp [h]
  · simp [List.lookup_cons, beq_eq_false_iff_ne.2 h, h]

theorem notesOn_open : notesOn i (c, (2 * j, d) :: notes) =
    (if i = j then some d else (notesOn i (c, notes)).1, (notesOn i (c, notes)).2) := by
  have hsame : 2 * i = 2 * j ↔ i = j := by omega
  have hother : 2 * i + 1 ≠ 2 * j := by omega
  simp [notesOn, lookup_note, hsame, hother]

theorem notesOn_close : notesOn i (c, (2 * j + 1, d) :: notes) =
    ((notesOn i (c, notes)).1, if i = j then some d else (notesOn i (c, notes)).2) := by
  have hsame : 2 * i = 2 * j ↔ i = j := by omega
  have hother : 2 * i ≠ 2 * j + 1 := by omega
  simp [notesOn, lookup_note, hsame, hother]

namespace Keeps

theorem refl (i : Nat) (s : Stage) : Keeps i s s := ⟨⟨[], .refl _⟩, .inl rfl⟩

theorem trans (h : Keeps i s m) (h' : Keeps i m u) : Keeps i s u := by
  obtain ⟨w, hw⟩ := h.reads
  obtain ⟨v, hv⟩ := h'.reads
  refine ⟨⟨w ++ v, hw.trans hv⟩, ?_⟩
  obtain hsame | ⟨c, d, hnotes, front, part, back, hfront, hpart, hback⟩ := h'.notes
  · obtain hsame' | ⟨c, d, hnotes, front, part, back, hfront, hpart, hback⟩ := h.notes
    · exact .inl (hsame.trans hsame')
    · exact .inr ⟨c, d, hsame.trans hnotes, front, part, back ++ v, hfront, hpart, hback.trans hv⟩
  · exact .inr ⟨c, d, hnotes, w ++ front, part, back, hw.trans hfront, hpart, hback⟩

theorem passes {R : Stage → Stage → Prop} (hR : ∀ s u, R s u → Keeps i s u) {n : Nat}
    (h : Passes R n s u) : Keeps i s u := by
  induction n generalizing s with
  | zero =>
    obtain rfl : u = s := h
    exact .refl i u
  | succ n ih =>
    obtain ⟨m, hm, h⟩ := h
    exact (hR s m hm).trans (ih h)

theorem group (h : Keeps i (s.1, (2 * j, s.1) :: s.2) m) :
    Keeps i s (m.1, (2 * j + 1, m.1) :: m.2) := by
  obtain ⟨⟨w, hw⟩, hnotes⟩ := h
  refine ⟨⟨w, hw⟩, ?_⟩
  rw [notesOn_close]
  rw [notesOn_open] at hnotes
  by_cases hij : i = j
  · subst hij
    rw [if_pos rfl] at hnotes ⊢
    refine .inr ?_
    obtain hsame | ⟨c, d, hinner, front, part, back, hfront, hpart, hback⟩ := hnotes
    · exact ⟨s.1, m.1, by rw [hsame], [], w, [], .refl _, hw, .refl _⟩
    · -- the group has been opened once more on the way
      exact ⟨c, m.1, by rw [hinner], front, part ++ back, [], hfront, hpart.trans hback, .refl _⟩
  · rwa [if_neg hij] at hnotes ⊢

end Keeps

theorem Pattern.Takes.keeps {p : Pattern} (h : p.Takes s u) (i : Nat) : Keeps i s u := by
  induction p generalizing s u with
  | empty =>
    obtain rfl : u = s := h
    exact .refl i u
  | char set =>
    obtain ⟨x, -, hx, hnotes⟩ := h
    exact ⟨⟨[x], hx⟩, .inl (by rw [notesOn, notesOn, hnotes])⟩
  | look l =>
    obtain ⟨-, rfl⟩ := h
    exact .refl i u
  | group j p ih =>
    obtain ⟨m, hm, rfl⟩ := h
    exact (ih hm).group
  | cat p q ihp ihq =>
    obtain ⟨m, hm, hu⟩ := h
    exact (ihp hm).trans (ihq hu)
  | alt p q ihp ihq =>
    obtain h | h := h
    · exact ihp h
    · exact ihq h
  | rep p min max greedy ih =>
    obtain ⟨n, -, -, hn⟩ := h
    exact .passes (fun s u hs => ih hs) hn

namespace Match

variable {p : Pattern} {m : Match}

/-- Where group `i` took part at last; group 0 is the whole match. -/
def place? (m : Match) (i : Nat) : Option (Cursor × Cursor) :=
  if i = 0 then some (m.start, m.stop)
  else do return (← m.saves.lookup (2 * i), ← m.saves.lookup (2 * i + 1))

theorem group?_eq (m : Match) (i : Nat) :
    m.group? i = (m.place? i).map fun span => span.1.upTo span.2 := by
  rw [group?, place?]
  split
  · rfl
  · cases m.saves.lookup (2 * i) with
    | none => rfl
    | some opened => cases m.saves.lookup (2 * i + 1) <;> rfl

theorem place?_within (h : p.Takes (m.start, []) (m.stop, m.saves))
    (hplace : m.place? i = some (c, d)) : Encloses m.start m.stop c d := by
  have hkeeps := h.keeps i
  rw [place?] at hplace
  split at hplace
  · cases hplace
    obtain ⟨w, hw⟩ := hkeeps.reads
    exact ⟨[], w, [], .refl _, hw, .refl _⟩
  · obtain ⟨opened, hopened, hplace⟩ := Option.bind_eq_some_iff.1 hplace
    obtain ⟨closed, hclosed, ⟨⟩⟩ := Option.bind_eq_some_iff.1 hplace
    obtain hsame | ⟨c, d, hnotes, hinside⟩ := hkeeps.notes
    · simp [notesOn, hopened] at hsame
    · simp only [notesOn, hopened, hclosed, Prod.mk.injEq, Option.some.injEq] at hnotes
      obtain ⟨rfl, rfl⟩ := hnotes
      exact hinside

theorem group?_within {part : List Char} (h : p.Takes (m.start, []) (m.stop, m.saves))
    (hgroup : m.group? i = some part) :
    ∃ c d front back, m.place? i = some (c, d) ∧ m.start.Reads front c ∧ c.Reads part d ∧
      d.Reads back m.stop := by
  rw [group?_eq, Option.map_eq_some_iff] at hgroup
  obtain ⟨⟨c, d⟩, hplace, rfl⟩ := hgroup
  obtain ⟨front, part, back, hfront, hpart, hback⟩ := place?_within h hplace
  exact ⟨c, d, front, back, hplace, hfront, by rwa [hpart.upTo], hback⟩

end Match

end Repath
