import Mathlib.Data.List.Basic
import Repath.Text.Cursor

namespace Repath.Cursor

variable {c d e : Cursor} {w v : List Char}

/-- From `c` to `d` the text reads `w`. -/
def Reads (c : Cursor) (w : List Char) (d : Cursor) : Prop :=
  c.after = w ++ d.after ∧ d.before = w.reverse ++ c.before

theorem Reads.refl (c : Cursor) : c.Reads [] c := ⟨rfl, rfl⟩

theorem Reads.trans (h : c.Reads w d) (h' : d.Reads v e) : c.Reads (w ++ v) e := by
  refine ⟨?_, ?_⟩
  · rw [h.1, h'.1, List.append_assoc]
  · rw [h'.2, h.2, List.reverse_append, List.append_assoc]

theorem reads_nil : c.Reads [] d ↔ d = c := by
  constructor
  · rintro ⟨ha, hb⟩
    exact ext_sides hb ha.symm
  · rintro rfl
    exact .refl d

theorem reads_singleton {x : Char} : c.Reads [x] d ↔ c.next? = some (x, d) := by
  obtain ⟨before, after, pos, hpos⟩ := c
  cases after with
  | nil => simp [Reads, next?]
  | cons a rest =>
    constructor
    · rintro ⟨ha, hb⟩
      obtain ⟨rfl, rfl⟩ : a = x ∧ rest = d.after := by simpa using ha
      simp only [next?, Option.some.injEq, Prod.mk.injEq, true_and]
      exact ext_sides hb.symm rfl
    · intro h
      simp only [next?, Option.some.injEq, Prod.mk.injEq] at h
      obtain ⟨rfl, rfl⟩ := h
      exact ⟨rfl, rfl⟩

theorem reads_cons {x : Char} : c.Reads (x :: w) e ↔ ∃ d, c.Reads [x] d ∧ d.Reads w e := by
  constructor
  · rintro ⟨ha, hb⟩
    refine ⟨⟨x :: c.before, w ++ e.after, c.pos + 1, by simp [c.pos_eq]⟩, ⟨ha, rfl⟩, rfl, ?_⟩
    simpa using hb
  · rintro ⟨d, h, h'⟩
    exact h.trans h'

theorem reads_append : c.Reads (w ++ v) e ↔ ∃ d, c.Reads w d ∧ d.Reads v e := by
  induction w generalizing c with
  | nil => simp [reads_nil]
  | cons x w ih =>
    rw [List.cons_append, reads_cons]
    simp only [ih, reads_cons (w := w)]
    constructor
    · rintro ⟨d, h, f, hf, hv⟩
      exact ⟨f, ⟨d, h, hf⟩, hv⟩
    · rintro ⟨f, ⟨d, h, hf⟩, hv⟩
      exact ⟨d, h, f, hf, hv⟩

theorem exists_reads {rest : List Char} (h : c.after = w ++ rest) :
    ∃ d, c.Reads w d ∧ d.after = rest :=
  ⟨⟨w.reverse ++ c.before, rest, w.length + c.pos, by simp [c.pos_eq]⟩, ⟨h, rfl⟩, rfl⟩

theorem Reads.pos (h : c.Reads w d) : d.pos = c.pos + w.length := by
  rw [d.pos_eq, c.pos_eq, h.2]
  simp [Nat.add_comm]

theorem Reads.upTo (h : c.Reads w d) : c.upTo d = w := by
  rw [Cursor.upTo, h.pos, h.1]
  simp

theorem Reads.text_eq (h : c.Reads w d) : d.text = c.text := by
  rw [Cursor.text, Cursor.text, h.1, h.2]
  simp

theorem reads_start (c : Cursor) : (start c.text).Reads c.before.reverse c :=
  ⟨rfl, by simp [start]⟩

theorem eq_of_pos_eq (ht : c.text = d.text) (hp : c.pos = d.pos) : c = d := by
  have hl : c.before.reverse.length = d.before.reverse.length := by
    simpa [← c.pos_eq, ← d.pos_eq] using hp
  obtain ⟨hb, ha⟩ := List.append_inj ht hl
  exact ext_sides (List.reverse_injective hb) ha

theorem pos_le_length (c : Cursor) : c.pos ≤ c.text.length := by
  rw [c.pos_eq, Cursor.text]
  simp

end Repath.Cursor
