import Repath.Pattern.Search
import Repath.Proofs.Text.Reads

namespace Repath

def Thread.place (t : Thread) : Nat × Cursor := (t.pc, t.cursor)

def Instr.targetsLe (n : Nat) : Instr → Prop
  | .split first second => first ≤ n ∧ second ≤ n
  | .jump target => target ≤ n
  | _ => True

/-- What one instruction does to the thread that stands before it. -/
inductive Instr.Moves : Instr → Thread → Thread → Prop
  | char {s : Unicode.CharSet} {x : Char} {d : Cursor} {t : Thread}
      (hx : t.cursor.next? = some (x, d)) (hs : s.contains x = true) :
      Moves (.char s) t ⟨t.pc + 1, d, t.saves⟩
  | look {l : Look} {t : Thread} (hl : l.holdsAt t.cursor = true) :
      Moves (.look l) t ⟨t.pc + 1, t.cursor, t.saves⟩
  | save {slot : Nat} {t : Thread} :
      Moves (.save slot) t ⟨t.pc + 1, t.cursor, (slot, t.cursor) :: t.saves⟩
  | first {a b : Nat} {t : Thread} : Moves (.split a b) t ⟨a, t.cursor, t.saves⟩
  | second {a b : Nat} {t : Thread} : Moves (.split a b) t ⟨b, t.cursor, t.saves⟩
  | jump {a : Nat} {t : Thread} : Moves (.jump a) t ⟨a, t.cursor, t.saves⟩

namespace Program

variable {prog : Program} {t u v : Thread} {n m : Nat}

theorem mem_next : u ∈ prog.next t ↔ ∃ i : Instr, prog[t.pc]? = some i ∧ i.Moves t u := by
  unfold next
  constructor
  · intro h
    split at h
    · simp at h
    · rename_i s hi
      refine ⟨_, hi, ?_⟩
      split at h
      · rename_i x d hx
        split at h
        · rename_i hs
          obtain rfl := List.mem_singleton.1 h
          exact .char hx hs
        · simp at h
      · simp at h
    · rename_i l hi
      refine ⟨_, hi, ?_⟩
      split at h
      · rename_i hl
        obtain rfl := List.mem_singleton.1 h
        exact .look hl
      · simp at h
    · rename_i slot hi
      obtain rfl := List.mem_singleton.1 h
      exact ⟨_, hi, .save⟩
    · rename_i a b hi
      obtain rfl | rfl : u = _ ∨ u = _ := by simpa using h
      · exact ⟨_, hi, .first⟩
      · exact ⟨_, hi, .second⟩
    · rename_i a hi
      obtain rfl := List.mem_singleton.1 h
      exact ⟨_, hi, .jump⟩
  · rintro ⟨i, hi, hm⟩
    cases hm <;> simp_all

theorem length_next_le (prog : Program) (t : Thread) : (prog.next t).length ≤ 2 := by
  unfold next
  split
  · simp
  · split
    · split <;> simp
    · simp
  · split <;> simp
  all_goals simp

theorem text_next (h : u ∈ prog.next t) : u.cursor.text = t.cursor.text := by
  obtain ⟨i, _, hm⟩ := mem_next.1 h
  cases hm with
  | char hx _ => exact Cursor.text_next? hx
  | look | save | first | second | jump => rfl

theorem pc_lt_of_mem_next (h : u ∈ prog.next t) : t.pc < prog.size := by
  obtain ⟨i, hi, _⟩ := mem_next.1 h
  exact (Array.getElem?_eq_some_iff.1 hi).1

def TargetsLe (prog : Program) : Prop :=
  ∀ (i : Nat) (instr : Instr), prog[i]? = some instr → instr.targetsLe prog.size

theorem pc_next_le (hp : prog.TargetsLe) (h : u ∈ prog.next t) : u.pc ≤ prog.size := by
  have hlt := pc_lt_of_mem_next h
  obtain ⟨i, hi, hm⟩ := mem_next.1 h
  have ht := hp t.pc i hi
  cases hm with
  | char | look | save => exact hlt
  | first => exact ht.1
  | second => exact ht.2
  | jump => exact ht

theorem exists_mem_next (h : t.place = u.place) (hv : v ∈ prog.next t) :
    ∃ w ∈ prog.next u, w.place = v.place := by
  obtain ⟨pc, c, saves⟩ := t
  obtain ⟨pc', c', saves'⟩ := u
  obtain ⟨rfl, rfl⟩ : pc = pc' ∧ c = c' := by simpa [Thread.place] using h
  obtain ⟨i, hi, hm⟩ := mem_next.1 hv
  cases hm with
  | char hx hs => exact ⟨_, mem_next.2 ⟨_, hi, .char hx hs⟩, rfl⟩
  | look hl => exact ⟨_, mem_next.2 ⟨_, hi, .look hl⟩, rfl⟩
  | save => exact ⟨_, mem_next.2 ⟨_, hi, .save⟩, rfl⟩
  | first => exact ⟨_, mem_next.2 ⟨_, hi, .first⟩, rfl⟩
  | second => exact ⟨_, mem_next.2 ⟨_, hi, .second⟩, rfl⟩
  | jump => exact ⟨_, mem_next.2 ⟨_, hi, .jump⟩, rfl⟩

/-- `prog.Steps n t u`: in `n` steps a thread can get from `t` to `u`. -/
inductive Steps (prog : Program) : Nat → Thread → Thread → Prop
  | refl (t : Thread) : Steps prog 0 t t
  | head {n : Nat} {t u v : Thread} (h : u ∈ prog.next t) (hs : Steps prog n u v) :
      Steps prog (n + 1) t v

theorem Steps.single (h : u ∈ prog.next t) : prog.Steps 1 t u := .head h (.refl u)

theorem Steps.trans (h : prog.Steps n t u) (h' : prog.Steps m u v) : prog.Steps (n + m) t v := by
  induction h with
  | refl t => simpa using h'
  | @head n t w u hw _ ih =>
    have hn : n + 1 + m = n + m + 1 := by omega
    rw [hn]
    exact .head hw (ih h')

def Leads (prog : Program) (t : Thread) : Prop :=
  ∃ n u, prog.Steps n t u ∧ u.pc = prog.size

end Program

end Repath
