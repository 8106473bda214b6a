import Repath.Proofs.Pattern.Makes

namespace Repath

def Thread.of (pc : Nat) (s : Stage) : Thread := ⟨pc, s.1, s.2⟩

namespace Program

open Ways

variable {prog : Program} {a b c : Nat} {i : Instr} {s u : Stage} {t v : Thread}
  {R S : Ways} {ps : List Spot} {ds : List Choice} {greedy : Bool}

/-- The instructions stand in the program from address `a` on. -/
def Holds (prog : Program) (a : Nat) (code : List Instr) : Prop :=
  ∀ (k : Nat) (i : Instr), code[k]? = some i → prog[a + k]? = some i

theorem Holds.head {code : List Instr} (h : prog.Holds a (i :: code)) : prog[a]? = some i :=
  h 0 i rfl

theorem Holds.tail {code : List Instr} (h : prog.Holds a (i :: code)) :
    prog.Holds (a + 1) code := by
  intro k j hj
  rw [Nat.add_right_comm]
  exact h (k + 1) j hj

theorem Holds.left {x y : List Instr} (h : prog.Holds a (x ++ y)) : prog.Holds a x := by
  intro k j hj
  obtain ⟨hlt, -⟩ := List.getElem?_eq_some_iff.1 hj
  exact h k j (by rwa [List.getElem?_append_left hlt])

theorem Holds.right {x y : List Instr} (h : prog.Holds a (x ++ y)) (hb : a + x.length = b) :
    prog.Holds b y := by
  intro k j hj
  rw [← hb, Nat.add_assoc]
  exact h (x.length + k) j (by rwa [List.getElem?_append_right (by omega), Nat.add_sub_cancel_left])

/-- From `a` to `b` the program does what `R` says. -/
structure Realizes (prog : Program) (a b : Nat) (R : Ways) : Prop where
  le : a ≤ b
  run : ∀ {s ds u}, R s ds u → ∃ ps, prog.Walk (.of a s) ps ds (.of b u)
  only : ∀ {ps s ds t}, prog.Walk (.of a s) ps ds t → ¬ (a ≤ t.pc ∧ t.pc < b) →
    ∃ qs u ds₁ ds₂, qs.length ≤ ps.length ∧ ds = ds₁ ++ ds₂ ∧ R s ds₁ u ∧
      prog.Walk (.of b u) qs ds₂ t

theorem Realizes.congr (h : prog.Realizes a b R) (hbc : b = c)
    (hRS : ∀ s ds u, R s ds u ↔ S s ds u) : prog.Realizes a c S := by
  have hRS : R = S := funext fun s => funext fun ds => funext fun u => propext (hRS s ds u)
  exact hRS ▸ hbc ▸ h

theorem next_of_moves (hi : prog[t.pc]? = some i) (hsplit : ∀ x y, i ≠ .split x y)
    (hm : i.Moves t v) : prog.next t = [v] := by
  unfold next
  cases hm with
  | char hx hs => simp [hi, hx, hs]
  | look hl => simp [hi, hl]
  | save | jump => simp [hi]
  | first | second => exact absurd rfl (hsplit _ _)

theorem Walk.of_moves (hi : prog[a]? = some i) (hsplit : ∀ x y, i ≠ .split x y)
    (hm : i.Moves (.of a s) t) : prog.Walk (.of a s) [(a, s.1)] [] t :=
  .step (next_of_moves hi hsplit hm) (.refl t)

theorem Walk.moves (h : prog.Walk (.of a s) ps ds t) (hi : prog[a]? = some i)
    (hsplit : ∀ x y, i ≠ .split x y) (ha : t.pc ≠ a) :
    ∃ qs v, ps.length = qs.length + 1 ∧ i.Moves (.of a s) v ∧ prog.Walk v qs ds t := by
  obtain ⟨v, hm⟩ : ∃ v, i.Moves (.of a s) v := by
    cases ps with
    | nil =>
      cases h
      exact absurd rfl ha
    | cons x ps =>
      obtain ⟨-, v, -, hv, -⟩ := h.next
      obtain ⟨j, hj, hm⟩ := mem_next.1 hv
      obtain rfl : i = j := Option.some.inj (hi.symm.trans hj)
      exact ⟨v, hm⟩
  obtain ⟨qs, rfl, hw⟩ := h.of_single ha (next_of_moves hi hsplit hm)
  exact ⟨qs, v, rfl, hm, hw⟩

section Choice

variable {inner outer : Nat} (hi : prog[a]? = some (Pattern.choice greedy inner outer))

include hi

theorem next_choice : prog.next (.of a s) =
    if greedy then [.of inner s, .of outer s] else [.of outer s, .of inner s] := by
  have hpc : (Thread.of a s).pc = a := rfl
  unfold next
  rw [hpc, hi]
  cases greedy <;> rfl

theorem Walk.enter : prog.Walk (.of a s) [(a, s.1)] [⟨(a, s.1), greedy⟩] (.of inner s) := by
  have hnext := next_choice hi (s := s)
  cases greedy with
  | false => exact .second hnext (.refl _)
  | true => exact .first hnext (.refl _)

theorem Walk.leave : prog.Walk (.of a s) [(a, s.1)] [⟨(a, s.1), !greedy⟩] (.of outer s) := by
  have hnext := next_choice hi (s := s)
  cases greedy with
  | false => exact .first hnext (.refl _)
  | true => exact .second hnext (.refl _)

theorem Walk.choice (h : prog.Walk (.of a s) ps ds t) (ha : t.pc ≠ a) :
    ∃ qs es, ps.length = qs.length + 1 ∧
      (ds = ⟨(a, s.1), greedy⟩ :: es ∧ prog.Walk (.of inner s) qs es t ∨
        ds = ⟨(a, s.1), !greedy⟩ :: es ∧ prog.Walk (.of outer s) qs es t) := by
  have hnext := next_choice hi (s := s)
  cases greedy with
  | false =>
    obtain ⟨qs, es, rfl, hw⟩ := h.of_pair ha hnext
    exact ⟨qs, es, rfl, hw.symm⟩
  | true =>
    obtain ⟨qs, es, rfl, hw⟩ := h.of_pair ha hnext
    exact ⟨qs, es, rfl, hw⟩

end Choice

theorem Realizes.nil (prog : Program) (a : Nat) : prog.Realizes a a idle := by
  refine ⟨Nat.le_refl a, ?_, fun hw _ => ⟨_, _, [], _, Nat.le_refl _, rfl, ⟨rfl, rfl⟩, hw⟩⟩
  rintro s _ u ⟨rfl, rfl⟩
  exact ⟨[], .refl _⟩

theorem Realizes.instr {A : Stage → Stage → Prop} (hi : prog[a]? = some i)
    (hsplit : ∀ x y, i ≠ .split x y)
    (hA : ∀ s t, i.Moves (.of a s) t ↔ ∃ u, A s u ∧ t = .of (a + 1) u) :
    prog.Realizes a (a + 1) fun s ds u => ds = [] ∧ A s u := by
  refine ⟨Nat.le_succ a, ?_, fun hw ht => ?_⟩
  · rintro s _ u ⟨rfl, hu⟩
    exact ⟨_, .of_moves hi hsplit ((hA _ _).2 ⟨u, hu, rfl⟩)⟩
  · obtain ⟨qs, v, hlen, hm, hw⟩ := hw.moves hi hsplit (by omega)
    obtain ⟨u, hu, rfl⟩ := (hA _ _).1 hm
    exact ⟨qs, u, [], _, by omega, rfl, ⟨rfl, hu⟩, hw⟩

theorem Realizes.seq (h : prog.Realizes a b R) (h' : prog.Realizes b c S) :
    prog.Realizes a c (seq R S) := by
  have hab := h.le
  have hbc := h'.le
  refine ⟨by omega, ?_, fun hw ht => ?_⟩
  · rintro s _ u ⟨m, ds₁, ds₂, rfl, hm, hu⟩
    obtain ⟨ps, hps⟩ := h.run hm
    obtain ⟨qs, hqs⟩ := h'.run hu
    exact ⟨_, hps.trans hqs⟩
  · obtain ⟨ps, m, ds₁, ds₂, hlen, rfl, hm, hw⟩ := h.only hw (by omega)
    obtain ⟨qs, u, es₁, es₂, hlen', rfl, hu, hw⟩ := h'.only hw (by omega)
    refine ⟨qs, u, ds₁ ++ es₁, es₂, by omega, ?_, ⟨m, ds₁, es₁, rfl, hm, hu⟩, hw⟩
    rw [List.append_assoc]

theorem Realizes.alt (hi : prog[a]? = some (.split (a + 1) (b + 1)))
    (h : prog.Realizes (a + 1) b R) (hj : prog[b]? = some (.jump c))
    (h' : prog.Realizes (b + 1) c S) : prog.Realizes a c (fork a true R S) := by
  have hab := h.le
  have hbc := h'.le
  have hi : prog[a]? = some (Pattern.choice true (a + 1) (b + 1)) := hi
  have hjump : ∀ x y, Instr.jump c ≠ .split x y := by simp
  refine ⟨by omega, ?_, fun hw ht => ?_⟩
  · rintro s _ u (⟨ds, rfl, hu⟩ | ⟨ds, rfl, hu⟩)
    · obtain ⟨ps, hps⟩ := h.run hu
      have hback := Walk.of_moves hj hjump .jump (s := u)
      exact ⟨_, ds.append_nil ▸ (Walk.enter hi).trans (hps.trans hback)⟩
    · obtain ⟨ps, hps⟩ := h'.run hu
      exact ⟨_, (Walk.leave hi).trans hps⟩
  · obtain ⟨ps, es, hlen, ⟨rfl, hw'⟩ | ⟨rfl, hw'⟩⟩ := hw.choice hi (by omega)
    · obtain ⟨ps', u, ds₁, ds₂, hlen', rfl, hu, hw⟩ := h.only hw' (by omega)
      obtain ⟨qs, v, hlen₂, hm, hw⟩ := hw.moves hj hjump (by omega)
      cases hm with
      | jump => exact ⟨qs, u, _ :: ds₁, ds₂, by omega, rfl, .inl ⟨ds₁, rfl, hu⟩, hw⟩
    · obtain ⟨qs, u, ds₁, ds₂, hlen', rfl, hu, hw⟩ := h'.only hw' (by omega)
      exact ⟨qs, u, _ :: ds₁, ds₂, by omega, rfl, .inr ⟨ds₁, rfl, hu⟩, hw⟩

theorem Realizes.option (hi : prog[a]? = some (Pattern.choice greedy (a + 1) c))
    (h : prog.Realizes (a + 1) b R) (h' : prog.Realizes b c S) :
    prog.Realizes a c (fork a greedy (.seq R S) idle) := by
  have hs := h.seq h'
  have hac := hs.le
  refine ⟨by omega, ?_, fun hw ht => ?_⟩
  · rintro s _ u (⟨ds, rfl, hu⟩ | ⟨_, rfl, rfl, rfl⟩)
    · obtain ⟨ps, hps⟩ := hs.run hu
      exact ⟨_, (Walk.enter hi).trans hps⟩
    · exact ⟨_, .leave hi⟩
  · obtain ⟨ps, es, hlen, ⟨rfl, hw'⟩ | ⟨rfl, hw'⟩⟩ := hw.choice hi (by omega)
    · obtain ⟨qs, u, ds₁, ds₂, hlen', rfl, hu, hw⟩ := hs.only hw' (by omega)
      exact ⟨qs, u, _ :: ds₁, ds₂, by omega, rfl, .inl ⟨ds₁, rfl, hu⟩, hw⟩
    · exact ⟨ps, _, [_], es, by omega, rfl, .inr ⟨[], rfl, rfl, rfl⟩, hw'⟩

theorem Realizes.plus (h : prog.Realizes a b R)
    (hi : prog[b]? = some (Pattern.choice greedy a (b + 1))) :
    prog.Realizes a (b + 1) (.seq R (Laps R greedy b)) := by
  have hab := h.le
  refine ⟨by omega, ?_, ?_⟩
  · rintro s _ u ⟨m, ds₁, ds₂, rfl, hm, hl⟩
    obtain ⟨ps, hps⟩ := h.run hm
    suffices hloop : ∃ qs, prog.Walk (.of b m) qs ds₂ (.of (b + 1) u) by
      obtain ⟨qs, hqs⟩ := hloop
      exact ⟨_, hps.trans hqs⟩
    clear hm hps
    induction hl with
    | leave m => exact ⟨_, .leave hi⟩
    | more hm _ ih =>
      obtain ⟨ps, hps⟩ := h.run hm
      obtain ⟨qs, hqs⟩ := ih
      exact ⟨_, (Walk.enter hi).trans (hps.trans hqs)⟩
  · intro ps s ds t hw ht
    obtain ⟨n, hn⟩ : ∃ n, ps.length = n := ⟨_, rfl⟩
    induction n using Nat.strongRecOn generalizing ps s ds with
    | _ n ih =>
      obtain ⟨ps', m, ds₁, ds₂, hlen, rfl, hm, hw⟩ := h.only hw (by omega)
      obtain ⟨qs, es, hlen', ⟨rfl, hw'⟩ | ⟨rfl, hw'⟩⟩ := hw.choice hi (by omega)
      · obtain ⟨qs', u, _, es₂, hlen₂, rfl, ⟨m', ds₂, es₁, rfl, hm', hl⟩, hend⟩ :=
          ih qs.length (by omega) hw' rfl
        refine ⟨qs', u, ds₁ ++ ⟨(b, m.1), greedy⟩ :: (ds₂ ++ es₁), es₂, by omega, by simp, ?_, ?_⟩
        · exact ⟨m, ds₁, _, rfl, hm, .more hm' hl⟩
        · exact hend
      · refine ⟨qs, m, ds₁ ++ [⟨(b, m.1), !greedy⟩], es, by omega, by simp, ?_, hw'⟩
        exact ⟨m, ds₁, _, rfl, hm, .leave m⟩

theorem Realizes.star (hi : prog[a]? = some (Pattern.choice greedy (a + 1) (b + 1)))
    (h : prog.Realizes (a + 1) b R) (hj : prog[b]? = some (.jump a)) :
    prog.Realizes a (b + 1) (Laps R greedy a) := by
  have hab := h.le
  have hjump : ∀ x y, Instr.jump a ≠ .split x y := by simp
  refine ⟨by omega, ?_, ?_⟩
  · intro s ds u hl
    induction hl with
    | leave s => exact ⟨_, .leave hi⟩
    | @more s m u ds es hm _ ih =>
      obtain ⟨ps, hps⟩ := h.run hm
      obtain ⟨qs, hqs⟩ := ih
      have hback := Walk.of_moves hj hjump .jump (s := m)
      exact ⟨_, (Walk.enter hi).trans (hps.trans (hback.trans hqs))⟩
  · intro ps s ds t hw ht
    obtain ⟨n, hn⟩ : ∃ n, ps.length = n := ⟨_, rfl⟩
    induction n using Nat.strongRecOn generalizing ps s ds with
    | _ n ih =>
      obtain ⟨ps', es, hlen, ⟨rfl, hw'⟩ | ⟨rfl, hw'⟩⟩ := hw.choice hi (by omega)
      · obtain ⟨qs, m, ds₁, ds₂, hlen', rfl, hm, hw⟩ := h.only hw' (by omega)
        obtain ⟨qs, v, hlen₂, hv, hw⟩ := hw.moves hj hjump (by omega)
        cases hv with
        | jump =>
          obtain ⟨qs', u, es₁, es₂, hlen₃, rfl, hl, hw⟩ := ih qs.length (by omega) hw rfl
          exact ⟨qs', u, _ :: (ds₁ ++ es₁), es₂, by omega, by simp, .more hm hl, hw⟩
      · exact ⟨ps', s, [_], es, by omega, rfl, .leave s, hw'⟩

end Program

end Repath
