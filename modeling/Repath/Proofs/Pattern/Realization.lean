import Repath.Proofs.Pattern.Fragment
import Repath.Proofs.Search.Leftmost

namespace Repath.Pattern

open Ways

variable {prog : Program} {p : Pattern} {start : Nat}

theorem length_copies {code : Nat → List Instr} {len : Nat} (h : ∀ a, (code a).length = len)
    (n a : Nat) : (copies code len n a).length = n * len := by
  induction n generalizing a with
  | zero => simp [copies]
  | succ n ih => rw [copies, List.length_append, h, ih, Nat.succ_mul, Nat.add_comm]

theorem copies_succ (code : Nat → List Instr) (len n a : Nat) :
    copies code len (n + 1) a = copies code len n a ++ code (a + n * len) := by
  induction n generalizing a with
  | zero => simp [copies]
  | succ n ih =>
    have ha : a + len + n * len = a + (n + 1) * len := by
      rw [Nat.succ_mul]
      omega
    rw [copies, ih, ha, copies, List.append_assoc]

theorem size_between (p : Pattern) (min max : Nat) (greedy : Bool) :
    (rep p min (some max) greedy).size = min * p.size + (max - min) * (p.size + 1) := by
  cases min <;> rfl

theorem code_between (p : Pattern) (min max : Nat) (greedy : Bool) (start : Nat) :
    (rep p min (some max) greedy).code start =
      copies p.code p.size min start ++ copies (fun a => choice greedy (a + 1)
        (start + min * p.size + (max - min) * (p.size + 1)) :: p.code (a + 1)) (p.size + 1)
        (max - min) (start + min * p.size) := by
  cases min <;> rfl

theorem length_code (p : Pattern) (start : Nat) : (p.code start).length = p.size := by
  induction p generalizing start with
  | empty | char | look => rfl
  | group i p ih => simp [code, size, ih]
  | cat p q ihp ihq => simp [code, size, ihp, ihq]
  | alt p q ihp ihq =>
    simp only [code, size, List.length_cons, List.length_append, ihp, ihq]
    omega
  | rep p min max greedy ih =>
    match min, max with
    | 0, none => simp [code, size, ih]
    | min + 1, none => simp [code, size, length_copies ih]
    | min, some max =>
      have ih' : ∀ a, (choice greedy (a + 1) (start + min * p.size + (max - min) * (p.size + 1)) ::
          p.code (a + 1)).length = p.size + 1 := fun a => by simp [ih]
      simp [code_between, size_between, length_copies ih, length_copies ih']

section Repetition

variable {code : Nat → List Instr} {len n a stop : Nat} {greedy : Bool}
  {R : Nat → Ways} (hlen : ∀ a, (code a).length = len)
  (hR : ∀ a, prog.Holds a (code a) → prog.Realizes a (a + len) (R a))

include hlen hR

theorem realizes_copies (h : prog.Holds a (copies code len n a)) :
    prog.Realizes a (a + n * len) (rounds R len n a) := by
  induction n generalizing a with
  | zero => exact (Program.Realizes.nil prog a).congr (by simp) fun s ds u => Iff.rfl
  | succ n ih =>
    rw [copies] at h
    have hrest := h.right (b := a + len) (by rw [hlen])
    refine ((hR a h.left).seq (ih hrest)).congr ?_ fun s ds u => Iff.rfl
    rw [Nat.succ_mul]
    omega

theorem realizes_options (hstop : a + n * (len + 1) = stop)
    (h : prog.Holds a
      (copies (fun b => choice greedy (b + 1) stop :: code (b + 1)) (len + 1) n a)) :
    prog.Realizes a stop (options R greedy len n a) := by
  induction n generalizing a with
  | zero => exact (Program.Realizes.nil prog a).congr (by omega) fun s ds u => Iff.rfl
  | succ n ih =>
    rw [copies] at h
    have hrest := h.right (b := a + (len + 1)) (by rw [List.length_cons, hlen])
    have hnext : a + (len + 1) + n * (len + 1) = stop := by
      rw [← hstop, Nat.succ_mul]
      omega
    have hpart := hR (a + 1) h.left.tail
    rw [Nat.add_right_comm, Nat.add_assoc a] at hpart
    exact Program.Realizes.option h.left.head hpart (ih hnext hrest)

end Repetition

section Parts

variable {greedy : Bool}
  (ih : ∀ a, prog.Holds a (p.code a) → prog.Realizes a (a + p.size) (p.Makes a))

include ih

/-- A loop is laid out in two ways: with a jump back to the choice before the part, or with a
choice behind it. -/
theorem realizes_star (h : prog.Holds start ((rep p 0 none greedy).code start)) :
    prog.Realizes start (start + (rep p 0 none greedy).size)
      ((rep p 0 none greedy).Makes start) := by
  rw [code] at h
  have hpart := ih (start + 1) h.left.tail
  have hlast := h.right (b := start + 1 + p.size) (by simp [length_code]; omega)
  have hback : start + p.size + 2 = start + 1 + p.size + 1 := by omega
  have hend : start + 1 + p.size + 1 = start + (rep p 0 none greedy).size := by
    rw [size]
    omega
  have hs := h.left.head
  rw [hback] at hs hlast
  by_cases hc : p.consumes = true
  · rw [if_pos hc] at hlast
    apply (Program.Realizes.star hs hpart hlast.head).congr hend
    intro s ds u
    rw [Makes, if_pos hc, laps_iff]
  · rw [if_neg hc] at hlast
    have hplus := Program.Realizes.plus hpart hlast.head
    apply (Program.Realizes.option hs hplus (.nil prog _)).congr hend
    intro s ds u
    rw [Makes, if_neg hc, seq_idle, Nat.add_right_comm]

theorem realizes_atLeast {min : Nat}
    (h : prog.Holds start ((rep p (min + 1) none greedy).code start)) :
    prog.Realizes start (start + (rep p (min + 1) none greedy).size)
      ((rep p (min + 1) none greedy).Makes start) := by
  have hmul : (min + 1) * p.size = min * p.size + p.size := Nat.succ_mul min p.size
  rw [code] at h
  have hlast := h.right (b := start + min * p.size + p.size)
    (by rw [length_copies (length_code p), hmul]; omega)
  have hcopies := h.left
  rw [copies_succ] at hcopies
  have hfirst := realizes_copies (length_code p) ih hcopies.left
  have hpart := ih _ (hcopies.right (by rw [length_copies (length_code p)]))
  have hplus := Program.Realizes.plus hpart hlast.head
  exact (hfirst.seq hplus).congr (by rw [size, hmul]; omega) fun s ds u => Iff.rfl

theorem realizes_between {min max : Nat}
    (h : prog.Holds start ((rep p min (some max) greedy).code start)) :
    prog.Realizes start (start + (rep p min (some max) greedy).size)
      ((rep p min (some max) greedy).Makes start) := by
  rw [code_between] at h
  have hfirst := realizes_copies (length_code p) ih h.left
  have hrest := realizes_options (length_code p) ih rfl
    (h.right (by rw [length_copies (length_code p)]))
  rw [makes_between]
  exact (hfirst.seq hrest).congr (by rw [size_between, Nat.add_assoc]) fun s ds u => Iff.rfl

end Parts

theorem realizes_save {i : Nat} (h : prog[start]? = some (.save i)) :
    prog.Realizes start (start + 1) fun s ds u => ds = [] ∧ u = (s.1, (i, s.1) :: s.2) := by
  apply Program.Realizes.instr h (by simp)
  intro s t
  constructor
  · intro hm
    cases hm with
    | save => exact ⟨_, rfl, rfl⟩
  · rintro ⟨u, rfl, rfl⟩
    exact .save

/-- Wherever the code of a pattern stands, it does what the pattern says. -/
theorem realizes_code (p : Pattern) (start : Nat) (h : prog.Holds start (p.code start)) :
    prog.Realizes start (start + p.size) (p.Makes start) := by
  induction p generalizing start with
  | empty => exact Program.Realizes.nil prog start
  | char set =>
    apply Program.Realizes.instr h.head (by simp)
    intro s t
    constructor
    · intro hm
      cases hm with
      | @char _ x d _ hx hs =>
        exact ⟨(d, s.2), ⟨x, hs, Cursor.reads_singleton.2 hx, rfl⟩, rfl⟩
    · rintro ⟨⟨c, saves⟩, ⟨x, hs, hx, rfl⟩, rfl⟩
      exact .char (Cursor.reads_singleton.1 hx) hs
  | look l =>
    apply Program.Realizes.instr h.head (by simp)
    intro s t
    constructor
    · intro hm
      cases hm with
      | look hl => exact ⟨s, ⟨hl, rfl⟩, rfl⟩
    · rintro ⟨u, ⟨hl, rfl⟩, rfl⟩
      exact .look hl
  | group i p ih =>
    rw [code] at h
    have hbody := ih (start + 1) h.left.tail
    have hclose := h.right (b := start + 1 + p.size) (by simp [length_code]; omega)
    have hall := (realizes_save h.left.head).seq (hbody.seq (realizes_save hclose.head))
    apply hall.congr (by rw [size]; omega)
    intro s ds u
    constructor
    · rintro ⟨_, _, _, rfl, ⟨rfl, rfl⟩, m, ds, _, rfl, hm, rfl, rfl⟩
      rw [List.nil_append, List.append_nil]
      exact ⟨m, hm, rfl⟩
    · rintro ⟨m, hm, rfl⟩
      exact ⟨_, [], ds, rfl, ⟨rfl, rfl⟩, m, ds, [], (List.append_nil ds).symm, hm, rfl, rfl⟩
  | cat p q ihp ihq =>
    rw [code] at h
    have hq := ihq _ (h.right (by rw [length_code]))
    exact ((ihp start h.left).seq hq).congr (by rw [size, Nat.add_assoc]) fun s ds u => Iff.rfl
  | alt p q ihp ihq =>
    rw [code] at h
    have hp := ihp (start + 1) h.left.tail
    have hj := h.right (b := start + 1 + p.size) (by simp [length_code]; omega)
    have hfork : start + p.size + 2 = start + 1 + p.size + 1 := by omega
    have hend : start + p.size + q.size + 2 = start + 1 + p.size + 1 + q.size := by omega
    have hs := h.left.head
    rw [hfork] at hs hj
    rw [hend] at hj
    have hq := ihq _ hj.tail
    refine (Program.Realizes.alt hs hp hj.head hq).congr (by rw [size]; omega) fun s ds u => ?_
    rw [Makes, hfork]
  | rep p min max greedy ih =>
    cases max with
    | none =>
      cases min with
      | zero => exact realizes_star ih h
      | succ min => exact realizes_atLeast ih h
    | some max => exact realizes_between ih h

end Repath.Pattern
