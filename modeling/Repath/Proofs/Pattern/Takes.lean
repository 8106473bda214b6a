import Repath.Pattern.Search
import Repath.Proofs.Text.Reads

namespace Repath

/-- A stage of a match: the place reached, and the notes taken, the latest first. -/
abbrev Stage := Cursor × List (Nat × Cursor)

def Passes {α : Type} (R : α → α → Prop) : Nat → α → α → Prop
  | 0, s, u => u = s
  | n + 1, s, u => ∃ m, R s m ∧ Passes R n m u

section Passes

variable {α : Type} {R : α → α → Prop} {n k : Nat} {s m u : α}

theorem Passes.append (h : Passes R n s m) (h' : Passes R k m u) : Passes R (n + k) s u := by
  induction n generalizing s with
  | zero =>
    obtain rfl : m = s := h
    simpa using h'
  | succ n ih =>
    obtain ⟨x, hx, hn⟩ := h
    have hk : n + 1 + k = n + k + 1 := by omega
    rw [hk]
    exact ⟨x, hx, ih hn⟩

theorem passes_add : Passes R (n + k) s u ↔ ∃ m, Passes R n s m ∧ Passes R k m u := by
  constructor
  · intro h
    induction n generalizing s with
    | zero => exact ⟨s, rfl, by simpa using h⟩
    | succ n ih =>
      have hk : n + 1 + k = n + k + 1 := by omega
      rw [hk] at h
      obtain ⟨x, hx, h⟩ := h
      obtain ⟨m, hn, hm⟩ := ih h
      exact ⟨m, ⟨x, hx, hn⟩, hm⟩
  · rintro ⟨m, hn, hk⟩
    exact hn.append hk

end Passes

namespace Pattern

/-- The ways of a pattern through a text. A repetition whose bounds cross repeats its part as often
as the lower bound says. -/
def Takes : Pattern → Stage → Stage → Prop
  | empty, s, u => u = s
  | char set, s, u => ∃ x, set.contains x = true ∧ s.1.Reads [x] u.1 ∧ u.2 = s.2
  | look l, s, u => l.holdsAt s.1 = true ∧ u = s
  | group i p, s, u =>
    ∃ m, p.Takes (s.1, (2 * i, s.1) :: s.2) m ∧ u = (m.1, (2 * i + 1, m.1) :: m.2)
  | cat p q, s, u => ∃ m, p.Takes s m ∧ q.Takes m u
  | alt p q, s, u => p.Takes s u ∨ q.Takes s u
  | rep p min max _, s, u =>
    ∃ n, min ≤ n ∧ (∀ bound, max = some bound → n = min ∨ n ≤ bound) ∧ Passes p.Takes n s u

/-- A match of the pattern can begin at a cursor. -/
def MatchesAt (p : Pattern) (c : Cursor) : Prop := ∃ u, p.Takes (c, []) u

end Pattern

end Repath
