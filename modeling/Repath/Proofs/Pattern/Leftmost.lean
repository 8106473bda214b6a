import Repath.Pattern.Regex
import Repath.Proofs.Pattern.Realization
import Repath.Proofs.Search.Successive

namespace Repath.Pattern

variable {p : Pattern} {c d : Cursor} {s u : Stage} {m : Match} {ds : List Choice}

theorem exists_of_mem_copies {code : Nat → List Instr} {len n a : Nat} {i : Instr}
    (h : i ∈ copies code len n a) : ∃ k, k < n ∧ i ∈ code (a + k * len) := by
  induction n generalizing a with
  | zero => simp [copies] at h
  | succ n ih =>
    rw [copies] at h
    obtain h | h := List.mem_append.1 h
    · exact ⟨0, Nat.succ_pos n, by simpa using h⟩
    · obtain ⟨k, hk, hi⟩ := ih h
      refine ⟨k + 1, Nat.succ_lt_succ hk, ?_⟩
      rwa [Nat.succ_mul, Nat.add_comm _ len, ← Nat.add_assoc]

theorem targetsLe_choice {greedy : Bool} {inner outer n : Nat} (hi : inner ≤ n) (ho : outer ≤ n) :
    (choice greedy inner outer).targetsLe n := by
  cases greedy
  · exact ⟨ho, hi⟩
  · exact ⟨hi, ho⟩

theorem targetsLe_copies {code : Nat → List Instr} {len n a stop : Nat} {i : Instr}
    (hcode : ∀ b, b + len ≤ stop → ∀ i ∈ code b, i.targetsLe stop) (hstop : a + n * len ≤ stop)
    (h : i ∈ copies code len n a) : i.targetsLe stop := by
  obtain ⟨k, hk, hi⟩ := exists_of_mem_copies h
  have hle := Nat.mul_le_mul_right len (Nat.succ_le_of_lt hk)
  rw [Nat.succ_mul] at hle
  exact hcode _ (by omega) i hi

theorem targetsLe_code (p : Pattern) {start stop : Nat} (hstop : start + p.size ≤ stop) :
    ∀ i ∈ p.code start, i.targetsLe stop := by
  induction p generalizing start with
  | empty => simp [code]
  | char | look => simp [code, Instr.targetsLe]
  | group i p ih =>
    rw [size] at hstop
    simp only [code, List.cons_append, List.mem_cons, List.mem_append, List.not_mem_nil, or_false]
    rintro j (rfl | h | rfl)
    · trivial
    · exact ih (by omega) j h
    · trivial
  | cat p q ihp ihq =>
    rw [size] at hstop
    simp only [code, List.mem_append]
    rintro j (h | h)
    · exact ihp (by omega) j h
    · exact ihq (by omega) j h
  | alt p q ihp ihq =>
    rw [size] at hstop
    simp only [code, List.cons_append, List.mem_cons, List.mem_append]
    rintro j (rfl | h | rfl | h)
    · exact ⟨by omega, by omega⟩
    · exact ihp (by omega) j h
    · exact (by omega : start + p.size + q.size + 2 ≤ stop)
    · exact ihq (by omega) j h
  | rep p min max greedy ih =>
    cases max with
    | none =>
      cases min with
      | zero =>
        rw [size] at hstop
        have hc : (choice greedy (start + 1) (start + p.size + 2)).targetsLe stop :=
          targetsLe_choice (by omega) (by omega)
        simp only [code, List.cons_append, List.mem_cons, List.mem_append, List.not_mem_nil,
          or_false]
        rintro j (rfl | h | rfl)
        · exact hc
        · exact ih (by omega) j h
        · split
          · exact (by omega : start ≤ stop)
          · exact hc
      | succ min =>
        rw [size, Nat.succ_mul] at hstop
        simp only [code, List.mem_append, List.mem_singleton]
        rintro j (h | rfl)
        · exact targetsLe_copies (fun b hb => ih hb) (by rw [Nat.succ_mul]; omega) h
        · exact targetsLe_choice (by omega) (by omega)
    | some max =>
      rw [size_between] at hstop
      rw [code_between]
      intro j h
      obtain h | h := List.mem_append.1 h
      · exact targetsLe_copies (fun b hb => ih hb) (by omega) h
      · refine targetsLe_copies (fun b hb j hj => ?_) (by omega) h
        obtain rfl | hj := List.mem_cons.1 hj
        · exact targetsLe_choice (by omega) (by omega)
        · exact ih (by omega) j hj

theorem size_program (p : Pattern) : p.program.size = p.size := by
  simp [program, length_code]

theorem getElem?_program {k : Nat} : p.program[k]? = (p.code 0)[k]? := by
  simp [program]

theorem targetsLe_program (p : Pattern) : p.program.TargetsLe := by
  intro k i hi
  rw [getElem?_program] at hi
  rw [size_program]
  exact targetsLe_code p (by omega) i (List.mem_of_getElem? hi)

theorem realizes_program (p : Pattern) : p.program.Realizes 0 p.size (p.Makes 0) := by
  have h : p.program.Holds 0 (p.code 0) := by
    intro k i hi
    rwa [Nat.zero_add, getElem?_program]
  exact (realizes_code p 0 h).congr (by omega) fun s ds u => Iff.rfl

/-- Walks through the program of a pattern, from front to end, are the ways of the pattern with the
choices made on them. -/
theorem makes_iff : p.Makes 0 s ds u ↔
    ∃ ps, p.program.Walk (.of 0 s) ps ds (.of p.program.size u) := by
  rw [size_program]
  constructor
  · exact (realizes_program p).run
  · rintro ⟨ps, hw⟩
    obtain ⟨qs, v, ds₁, ds₂, -, rfl, hv, hw⟩ := (realizes_program p).only hw (by simp [Thread.of])
    obtain ⟨-, rfl, he⟩ := hw.eq_nil (by rw [size_program]; exact Nat.le_refl _)
    obtain rfl : u = v := Prod.ext (congrArg Thread.cursor he) (congrArg Thread.saves he)
    rwa [List.append_nil]

/-- Runs of the program of a pattern, from front to end, are the ways of the pattern. -/
theorem takes_iff : p.Takes s u ↔ ∃ n, p.program.Steps n (.of 0 s) (.of p.program.size u) := by
  rw [← joins_makes (n := 0)]
  constructor
  · rintro ⟨ds, h⟩
    obtain ⟨ps, hw⟩ := makes_iff.1 h
    exact ⟨ps.length, hw.steps⟩
  · rintro ⟨n, h⟩
    obtain ⟨ps, ds, -, hw⟩ := h.exists_walk
    exact ⟨ds, makes_iff.2 ⟨ps, hw⟩⟩

theorem leads_iff : p.program.Leads ⟨0, c, []⟩ ↔ p.MatchesAt c := by
  constructor
  · rintro ⟨n, v, hs, hv⟩
    exact ⟨(v.cursor, v.saves), takes_iff.2 ⟨n, by rw [← hv]; exact hs⟩⟩
  · rintro ⟨u, hu⟩
    obtain ⟨n, hs⟩ := takes_iff.1 hu
    exact ⟨n, _, hs, rfl⟩

/-- `m` is a match behind `c` that begins where the pattern first can. -/
structure First (p : Pattern) (c : Cursor) (m : Match) : Prop where
  reads : ∃ gap, c.Reads gap m.start ∧
    ∀ w e, c.Reads w e → w.length < gap.length → ¬ p.MatchesAt e
  takes : p.Takes (m.start, []) (m.stop, m.saves)

/-- The pattern matches nowhere at or behind `c`. -/
def Absent (p : Pattern) (c : Cursor) : Prop := ∀ w e, c.Reads w e → ¬ p.MatchesAt e

/-- Of the ways of the pattern from `c` on that make no choice twice at one spot, the one with the
choices `ds` is preferred. A way that comes back to a choice without having read anything goes in a
circle, and there is always one without. -/
structure Prefers (p : Pattern) (c : Cursor) (ds : List Choice) (u : Stage) : Prop where
  circleFree : Choice.CircleFree ds
  makes : p.Makes 0 (c, []) ds u
  best : ∀ es v, p.Makes 0 (c, []) es v → Choice.CircleFree es →
    es = ds ∧ v = u ∨ Choice.Beats ds es

theorem Prefers.unique {es : List Choice} {v : Stage} (h : p.Prefers c ds u)
    (h' : p.Prefers c es v) : v = u := by
  obtain ⟨-, hv⟩ | hbeats := h.best es v h'.makes h'.circleFree
  · exact hv
  · obtain ⟨-, hu⟩ | hbeats' := h'.best ds u h.makes h.circleFree
    · exact hu.symm
    · exact absurd hbeats' hbeats.asymm

theorem prefers_of_preferred
    (h : p.program.Preferred (.of 0 (c, [])) ds (.of p.program.size u)) : p.Prefers c ds u := by
  refine ⟨h.circleFree, makes_iff.2 h.walk, fun es v hv hes => ?_⟩
  obtain ⟨qs, hw⟩ := makes_iff.1 hv
  obtain ⟨he, hvu⟩ | hbeats := h.best qs es _ hw rfl hes
  · exact .inl ⟨he, Prod.ext (congrArg Thread.cursor hvu) (congrArg Thread.saves hvu)⟩
  · exact .inr hbeats

theorem exists_circleFree {notes : List (Nat × Cursor)} (h : p.Takes (c, []) (d, notes)) :
    ∃ es notes', Choice.CircleFree es ∧ p.Makes 0 (c, []) es (d, notes') := by
  obtain ⟨ds, hds⟩ := (joins_makes (n := 0)).2 h
  obtain ⟨ps, hw⟩ := makes_iff.1 hds
  obtain ⟨qs, es, ⟨pc, e, notes'⟩, -, hnodup, hv, hw'⟩ := hw.exists_nodup
  obtain ⟨rfl, rfl⟩ : pc = p.program.size ∧ e = d := Prod.mk.inj hv
  exact ⟨es, notes', hnodup.sublist hw'.sublist, makes_iff.2 ⟨qs, hw'⟩⟩

theorem find?_prefers (h : p.program.find? c = some m) :
    ∃ ds, p.Prefers m.start ds (m.stop, m.saves) := by
  have hleft := Program.find?_leftmost (targetsLe_program p) c
  rw [h] at hleft
  obtain ⟨ds, hds⟩ := hleft.preferred
  exact ⟨ds, prefers_of_preferred hds⟩

theorem find?_first (p : Pattern) (c : Cursor) :
    match p.program.find? c with
    | some m => p.First c m
    | none => p.Absent c := by
  have h := Program.find?_leftmost (targetsLe_program p) c
  cases hf : p.program.find? c with
  | some m =>
    rw [hf] at h
    obtain ⟨gap, hgap, hmin⟩ := h.reads
    refine ⟨⟨gap, hgap, fun w e hw hlt hl => hmin w e hw hlt (leads_iff.2 hl)⟩, ?_⟩
    exact takes_iff.2 h.run
  | none =>
    rw [hf] at h
    exact fun w e hw hl => h w e hw (leads_iff.2 hl)

end Repath.Pattern
