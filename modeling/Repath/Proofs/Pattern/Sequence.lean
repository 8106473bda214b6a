import Mathlib.Data.List.Forall2
import Repath.Proofs.Pattern.Reading
import Repath.Proofs.Pattern.Takes

namespace Repath

open Unicode (CharSet)

namespace Unicode

theorem contains_single {c x : Char} : (CharSet.single c).contains x = true ↔ x = c := by
  rw [Char.ext_iff, ← UInt32.toNat_inj]
  simp only [CharSet.contains, CharSet.single, CharSet.mem, inside, Char.toNat]
  simp only [Bool.not_false, Bool.and_true, Bool.and_eq_true, decide_eq_true_eq,
    Bool.not_eq_true', decide_eq_false_iff_not]
  omega

end Unicode

namespace Pattern

variable {p : Pattern} {ps qs : List Pattern} {s u : Stage} {w : List Char}
  {ws : List (List Char)} {fs : Flags}

def sequence : List Pattern → Pattern
  | [] => empty
  | [p] => p
  | p :: ps => cat p (sequence ps)

def oneOf : List Pattern → Pattern
  | [] => empty
  | [p] => p
  | p :: ps => alt p (oneOf ps)

def word (w : List Char) : Pattern := sequence (w.map fun c => char (.single c))

theorem takes_sequence_cons :
    (sequence (p :: ps)).Takes s u ↔ ∃ m, p.Takes s m ∧ (sequence ps).Takes m u := by
  cases ps with
  | nil => simp [sequence, Takes]
  | cons q ps => rfl

theorem takes_sequence_append :
    (sequence (ps ++ qs)).Takes s u ↔ ∃ m, (sequence ps).Takes s m ∧ (sequence qs).Takes m u := by
  induction ps generalizing s with
  | nil => simp [sequence, Takes]
  | cons p ps ih =>
    simp only [List.cons_append, takes_sequence_cons, ih]
    constructor
    · rintro ⟨m, hm, n, hn, hu⟩
      exact ⟨n, ⟨m, hm, hn⟩, hu⟩
    · rintro ⟨n, ⟨m, hm, hn⟩, hu⟩
      exact ⟨m, hm, n, hn, hu⟩

theorem takes_char_single {c : Char} :
    (char (.single c)).Takes s u ↔ s.1.Reads [c] u.1 ∧ u.2 = s.2 := by
  simp [Takes, Unicode.contains_single]

theorem takes_word : (word w).Takes s u ↔ s.1.Reads w u.1 ∧ u.2 = s.2 := by
  induction w generalizing s with
  | nil =>
    rw [Cursor.reads_nil]
    exact Prod.ext_iff
  | cons c w ih =>
    simp only [word, List.map_cons, takes_sequence_cons, takes_char_single] at ih ⊢
    simp only [ih, Cursor.reads_cons (w := w)]
    constructor
    · rintro ⟨m, ⟨hc, hm⟩, hw, hu⟩
      exact ⟨⟨m.1, hc, hw⟩, hu.trans hm⟩
    · rintro ⟨⟨d, hc, hw⟩, hu⟩
      exact ⟨(d, s.2), ⟨hc, rfl⟩, hw, hu⟩

theorem takes_oneOf (hne : ps ≠ []) : (oneOf ps).Takes s u ↔ ∃ p ∈ ps, p.Takes s u := by
  induction ps with
  | nil => exact absurd rfl hne
  | cons p ps ih =>
    cases ps with
    | nil => simp [oneOf]
    | cons q ps =>
      change p.Takes s u ∨ (oneOf (q :: ps)).Takes s u ↔ _
      rw [ih (by simp)]
      exact (List.exists_mem_cons_iff (fun p => p.Takes s u) p (q :: ps)).symm

theorem takes_words (hne : ws ≠ []) :
    (oneOf (ws.map word)).Takes s u ↔ ∃ w ∈ ws, s.1.Reads w u.1 ∧ u.2 = s.2 := by
  have hmap : ws.map word ≠ [] := by simpa using hne
  simp [takes_oneOf hmap, takes_word]

theorem passes_char {set : CharSet} {n : Nat} :
    Passes (char set).Takes n s u ↔
      ∃ w, w.length = n ∧ (∀ x ∈ w, set.contains x = true) ∧ s.1.Reads w u.1 ∧ u.2 = s.2 := by
  induction n generalizing s with
  | zero =>
    constructor
    · rintro rfl
      exact ⟨[], rfl, by simp, .refl _, rfl⟩
    · rintro ⟨w, hw, -, hread, hnotes⟩
      rw [List.length_eq_zero_iff.1 hw, Cursor.reads_nil] at hread
      exact Prod.ext hread hnotes
  | succ n ih =>
    constructor
    · rintro ⟨m, ⟨x, hx, hxm, hm⟩, hu⟩
      obtain ⟨w, hw, hall, hread, hnotes⟩ := ih.1 hu
      refine ⟨x :: w, by simp [hw], ?_, hxm.trans hread, hnotes.trans hm⟩
      rintro y (_ | ⟨_, hy⟩)
      · exact hx
      · exact hall y hy
    · rintro ⟨w, hw, hall, hread, hnotes⟩
      cases w with
      | nil => cases hw
      | cons x w =>
        obtain ⟨d, hx, hd⟩ := Cursor.reads_cons.1 hread
        refine ⟨(d, s.2), ⟨x, hall x List.mem_cons_self, hx, rfl⟩, ih.2 ⟨w, ?_, ?_, hd, hnotes⟩⟩
        · exact Nat.succ.inj hw
        · exact fun y hy => hall y (List.mem_cons_of_mem x hy)

theorem takes_many {set : CharSet} {min : Nat} {greedy : Bool} :
    (rep (char set) min none greedy).Takes s u ↔
      ∃ w, min ≤ w.length ∧ (∀ x ∈ w, set.contains x = true) ∧ s.1.Reads w u.1 ∧ u.2 = s.2 := by
  constructor
  · rintro ⟨n, hn, -, hpass⟩
    obtain ⟨w, rfl, h⟩ := passes_char.1 hpass
    exact ⟨w, hn, h⟩
  · rintro ⟨w, hw, h⟩
    exact ⟨w.length, hw, by simp, passes_char.2 ⟨w, rfl, h⟩⟩

theorem resolve_sequence {items : List Syntax}
    (h : List.Forall₂ (fun a p => a.resolve fs = .ok (p, fs)) items ps) :
    (Syntax.sequence items).resolve fs = .ok (sequence ps, fs) := by
  induction h with
  | nil => rfl
  | @cons a p items ps ha hs ih =>
    cases hs with
    | nil => exact ha
    | cons =>
      rw [Syntax.sequence, Syntax.resolve, ha]
      · change (Syntax.sequence _).resolve fs >>= _ = _
        rw [ih]
        rfl
      · simp

theorem resolve_choice {items : List Syntax}
    (h : List.Forall₂ (fun a p => a.resolve fs = .ok (p, fs)) items ps) :
    (Syntax.choice items).resolve fs = .ok (oneOf ps, fs) := by
  induction h with
  | nil => rfl
  | @cons a p items ps ha hs ih =>
    cases hs with
    | nil => exact ha
    | cons =>
      rw [Syntax.choice, Syntax.resolve, ha]
      · change (Syntax.choice _).resolve fs >>= _ = _
        rw [ih]
        rfl
      · simp

theorem resolve_char (hf : fs.caseInsensitive = false) (c : Char) :
    (Syntax.char c).resolve fs = .ok (char (.single c), fs) := by
  rw [Syntax.resolve, Flags.fold, hf]
  rfl

theorem resolve_chars (hf : fs.caseInsensitive = false) (w : List Char) :
    List.Forall₂ (fun a p => a.resolve fs = .ok (p, fs)) (w.map Syntax.char)
      (w.map fun c => char (.single c)) := by
  induction w with
  | nil => exact .nil
  | cons c w ih => exact .cons (resolve_char hf c) ih

theorem resolve_names (hf : fs.caseInsensitive = false) (ws : List (List Char)) :
    (Syntax.choice (ws.map Reader.nameSyntax)).resolve fs = .ok (oneOf (ws.map word), fs) := by
  apply resolve_choice
  induction ws with
  | nil => exact .nil
  | cons w ws ih => exact .cons (resolve_sequence (resolve_chars hf w)) ih

end Pattern

end Repath
