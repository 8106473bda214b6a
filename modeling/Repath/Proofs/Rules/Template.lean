import Mathlib.Data.List.Basic
import Repath.Rules.Template

namespace Repath.Template

variable {w cs done : List Char}

theorem read_text (h : '$' ∉ w) : read .text (w ++ cs) = w.map Piece.char ++ read .text cs := by
  induction w with
  | nil => rfl
  | cons c w ih =>
    obtain ⟨hc, hw⟩ := not_or.1 (mt List.mem_cons.2 h)
    rw [List.cons_append, read, if_neg (Ne.symm hc), ih hw]
    rfl

theorem read_braced (h : '}' ∉ w) :
    read (.braced done) (w ++ '}' :: cs) = reference (done.reverse ++ w) :: read .text cs := by
  induction w generalizing done with
  | nil => simp [read]
  | cons c w ih =>
    obtain ⟨hc, hw⟩ := not_or.1 (mt List.mem_cons.2 h)
    rw [List.cons_append, read, if_neg (Ne.symm hc), ih hw]
    simp

theorem read_reference (h : '}' ∉ w) :
    read .text ('$' :: '{' :: (w ++ '}' :: cs)) = reference w :: read .text cs := by
  rw [read, if_pos rfl, read, if_neg (by decide), if_pos (by simp), read_braced h]
  rfl

end Repath.Template
