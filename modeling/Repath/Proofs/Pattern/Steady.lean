import Mathlib.Tactic.Linarith
import Mathlib.Tactic.Ring
import Repath.Proofs.Pattern.Leftmost

namespace Repath

namespace Pattern

variable {p : Pattern} {s u : Stage} {n : Nat}

theorem Takes.pos_le (h : p.Takes s u) : s.1.pos ≤ u.1.pos := by
  obtain ⟨n, hs⟩ := takes_iff.1 h
  obtain ⟨w, hw⟩ := hs.reads
  have hpos : u.1.pos = s.1.pos + w.length := hw.pos
  omega

theorem pos_of_passes {R : Stage → Stage → Prop} (hR : ∀ s u, R s u → s.1.pos + n ≤ u.1.pos)
    {k : Nat} (h : Passes R k s u) : s.1.pos + k * n ≤ u.1.pos := by
  induction k generalizing s with
  | zero =>
    obtain rfl : u = s := h
    simp
  | succ k ih =>
    obtain ⟨m, hm, h⟩ := h
    have hfirst := hR s m hm
    have hrest := ih h
    rw [Nat.succ_mul]
    omega

theorem pos_add_minLen_le (hn : p.minLen = some n) (h : p.Takes s u) :
    s.1.pos + n ≤ u.1.pos := by
  induction p generalizing s u n with
  | empty =>
    cases hn
    exact h.pos_le
  | char set =>
    obtain ⟨x, -, hx, -⟩ := h
    have hpos : u.1.pos = s.1.pos + 1 := hx.pos
    rw [minLen] at hn
    split at hn <;> cases hn
    omega
  | look l =>
    cases hn
    exact h.pos_le
  | group i p ih =>
    obtain ⟨m, hm, rfl⟩ := h
    have hpos := ih hn hm
    exact hpos
  | cat p q ihp ihq =>
    obtain ⟨a, ha, hn⟩ := Option.bind_eq_some_iff.1 hn
    obtain ⟨b, hb, ⟨⟩⟩ := Option.bind_eq_some_iff.1 hn
    obtain ⟨m, hm, hu⟩ := h
    have hp := ihp ha hm
    have hq := ihq hb hu
    omega
  | alt p q ihp ihq =>
    obtain ⟨a, ha, hn⟩ := Option.bind_eq_some_iff.1 hn
    obtain ⟨b, hb, ⟨⟩⟩ := Option.bind_eq_some_iff.1 hn
    obtain h | h := h
    · exact Nat.le_trans (Nat.add_le_add_left (Nat.min_le_left a b) _) (ihp ha h)
    · exact Nat.le_trans (Nat.add_le_add_left (Nat.min_le_right a b) _) (ihq hb h)
  | rep p min max greedy ih =>
    obtain ⟨a, ha, ⟨⟩⟩ := Option.bind_eq_some_iff.1 hn
    obtain ⟨k, hmin, -, hk⟩ := h
    have hpos := pos_of_passes (fun s u hs => ih ha hs) hk
    have hle := Nat.mul_le_mul_right a hmin
    omega

theorem pos_lt_of_consumes (hp : p.consumes = true) (h : p.Takes s u) : s.1.pos < u.1.pos := by
  rw [consumes] at hp
  cases hn : p.minLen with
  | none => simp [hn] at hp
  | some n =>
    have hpos : 0 < n := by simpa [hn] using hp
    have hle := pos_add_minLen_le hn h
    omega

end Pattern

namespace Ways

variable {R S : Ways} {Q : Nat → Ways} {B C len k n : Nat} {greedy : Bool}

/-- No way makes more than `B` choices for each character that it reads, and as many besides. -/
def Bounded (B : Nat) (R : Ways) : Prop :=
  ∀ s ds u, R s ds u → ∃ k, u.1.pos = s.1.pos + k ∧ ds.length ≤ B * (k + 1)

theorem Bounded.idle : Bounded 0 idle := by
  rintro s _ u ⟨rfl, rfl⟩
  exact ⟨0, rfl, Nat.le_refl 0⟩

theorem Bounded.seq (hR : Bounded B R) (hS : Bounded C S) : Bounded (B + C) (seq R S) := by
  rintro s _ u ⟨m, ds₁, ds₂, rfl, hm, hu⟩
  obtain ⟨j, hj, hlen⟩ := hR _ _ _ hm
  obtain ⟨k, hk, hlen'⟩ := hS _ _ _ hu
  refine ⟨j + k, by omega, ?_⟩
  rw [List.length_append]
  nlinarith

theorem Bounded.fork (hR : Bounded B R) (hS : Bounded C S) :
    Bounded (B + C + 1) (fork n greedy R S) := by
  rintro s _ u (⟨ds, rfl, h⟩ | ⟨ds, rfl, h⟩)
  · obtain ⟨k, hk, hlen⟩ := hR _ _ _ h
    refine ⟨k, hk, ?_⟩
    rw [List.length_cons]
    nlinarith
  · obtain ⟨k, hk, hlen⟩ := hS _ _ _ h
    refine ⟨k, hk, ?_⟩
    rw [List.length_cons]
    nlinarith

theorem Bounded.laps (hR : Bounded B R) (hadv : ∀ s ds u, R s ds u → s.1.pos < u.1.pos) :
    Bounded (2 * B + 1) (Laps R greedy n) := by
  intro s ds u h
  induction h with
  | leave s => exact ⟨0, rfl, by simp⟩
  | more hm _ ih =>
    obtain ⟨j, hj, hlen⟩ := hR _ _ _ hm
    obtain ⟨k, hk, hlen'⟩ := ih
    have hpos := hadv _ _ _ hm
    refine ⟨j + k, by omega, ?_⟩
    have hj' : 1 ≤ j := by omega
    rw [List.length_cons, List.length_append]
    nlinarith

theorem Bounded.rounds (hQ : ∀ n, Bounded B (Q n)) : Bounded (k * B) (rounds Q len k n) := by
  induction k generalizing n with
  | zero =>
    rw [Nat.zero_mul]
    exact .idle
  | succ k ih =>
    rw [Nat.succ_mul, Nat.add_comm]
    exact (hQ n).seq ih

theorem Bounded.options (hQ : ∀ n, Bounded B (Q n)) :
    Bounded (k * (B + 1)) (options Q greedy len k n) := by
  induction k generalizing n with
  | zero =>
    rw [Nat.zero_mul]
    exact .idle
  | succ k ih =>
    have hB : (k + 1) * (B + 1) = B + k * (B + 1) + 0 + 1 := by ring
    rw [hB, Ways.options]
    exact ((hQ (n + 1)).seq ih).fork .idle

end Ways

namespace Pattern

variable {p : Pattern} {c : Cursor} {s u v : Stage} {ds es : List Choice}

/-- Every loop repeats a part that consumes something. -/
def Steady : Pattern → Prop
  | group _ p => p.Steady
  | cat p q | alt p q => p.Steady ∧ q.Steady
  | rep p _ none _ => p.consumes = true ∧ p.Steady
  | rep p _ (some _) _ => p.Steady
  | empty | char _ | look _ => True

open Ways (Bounded)

theorem exists_bounded (h : p.Steady) : ∃ B, ∀ n, Bounded B (p.Makes n) := by
  induction p with
  | empty => exact ⟨0, fun n => .idle⟩
  | char set =>
    refine ⟨0, fun n => ?_⟩
    rintro s _ u ⟨rfl, x, -, hx, -⟩
    exact ⟨1, hx.pos, Nat.zero_le _⟩
  | look l =>
    refine ⟨0, fun n => ?_⟩
    rintro s _ u ⟨rfl, -, rfl⟩
    exact ⟨0, rfl, Nat.le_refl 0⟩
  | group i p ih =>
    obtain ⟨B, hB⟩ := ih h
    refine ⟨B, fun n => ?_⟩
    rintro s ds _ ⟨m, hm, rfl⟩
    have hbound := hB _ _ _ _ hm
    exact hbound
  | cat p q ihp ihq =>
    obtain ⟨B, hB⟩ := ihp h.1
    obtain ⟨C, hC⟩ := ihq h.2
    exact ⟨_, fun n => (hB n).seq (hC _)⟩
  | alt p q ihp ihq =>
    obtain ⟨B, hB⟩ := ihp h.1
    obtain ⟨C, hC⟩ := ihq h.2
    exact ⟨_, fun n => (hB _).fork (hC _)⟩
  | rep p min max greedy ih =>
    cases max with
    | none =>
      obtain ⟨hconsumes, h⟩ := h
      obtain ⟨B, hB⟩ := ih h
      have hadv : ∀ n s ds u, p.Makes n s ds u → s.1.pos < u.1.pos := fun n s ds u hm =>
        pos_lt_of_consumes hconsumes (joins_makes.1 ⟨ds, hm⟩)
      cases min with
      | zero => exact ⟨_, fun n => ((hB _).seq (.laps (hB _) (hadv _))).fork .idle⟩
      | succ min => exact ⟨_, fun n => (Bounded.rounds hB).seq ((hB _).seq (.laps (hB _) (hadv _)))⟩
    | some max =>
      obtain ⟨B, hB⟩ := ih h
      refine ⟨min * B + (max - min) * (B + 1), fun n => ?_⟩
      rw [makes_between]
      exact (Bounded.rounds hB).seq (.options hB)

/-- Where every loop consumes something, no way goes in a circle. -/
theorem circleFree_of_steady (hp : p.Steady) (h : p.Makes 0 s ds u) : Choice.CircleFree ds := by
  by_contra hds
  obtain ⟨B, hB⟩ := exists_bounded hp
  obtain ⟨k, hk, -⟩ := hB 0 s ds u h
  obtain ⟨ps, hw⟩ := makes_iff.1 h
  -- more choices than there can be on a way that ends where this one does
  obtain ⟨qs, es, ⟨pc, d, notes⟩, hlen, hv, hw⟩ := hw.exists_longer hds (B * (k + 1) + 1)
  obtain ⟨rfl, rfl⟩ : pc = p.program.size ∧ d = u.1 := Prod.mk.inj hv
  obtain ⟨j, hj, hle⟩ := hB 0 s es (u.1, notes) (makes_iff.2 ⟨qs, hw⟩)
  obtain rfl : k = j := by
    have hju : u.1.pos = s.1.pos + j := hj
    omega
  omega

/-- Where every loop consumes something, what is preferred is so among all ways. -/
theorem Prefers.best_of_steady (h : p.Prefers c ds u) (hp : p.Steady)
    (hv : p.Makes 0 (c, []) es v) : es = ds ∧ v = u ∨ Choice.Beats ds es :=
  h.best es v hv (circleFree_of_steady hp hv)

end Pattern

end Repath
