
namespace Repath

structure Cursor where
  before : List Char
  after : List Char
  pos : Nat
  pos_eq : pos = before.length
  deriving DecidableEq, Repr

namespace Cursor

def start (text : List Char) : Cursor := ⟨[], text, 0, rfl⟩

def text (c : Cursor) : List Char := c.before.reverse ++ c.after

theorem succ_pos_eq {before : List Char} {pos : Nat} (c : Char) (h : pos = before.length) :
    pos + 1 = (c :: before).length := by
  rw [h, List.length_cons]

def next? : Cursor → Option (Char × Cursor)
  | ⟨_, [], _, _⟩ => none
  | ⟨before, c :: after, pos, h⟩ => some (c, ⟨c :: before, after, pos + 1, succ_pos_eq c h⟩)

/-- The characters from one cursor to a later one on the same text. -/
def upTo (c d : Cursor) : List Char := c.after.take (d.pos - c.pos)

@[ext] theorem ext_sides {c d : Cursor} (hb : c.before = d.before) (ha : c.after = d.after) :
    c = d := by
  cases c; cases d; simp_all

theorem text_next? {c d : Cursor} {x : Char} (h : c.next? = some (x, d)) : d.text = c.text := by
  obtain ⟨before, after, pos, hpos⟩ := c
  cases after with
  | nil => simp [next?] at h
  | cons a rest =>
    simp only [next?, Option.some.injEq, Prod.mk.injEq] at h
    simp [← h.2, text]

end Cursor

end Repath
