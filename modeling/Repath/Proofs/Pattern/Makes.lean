import Repath.Proofs.Pattern.Takes
import Repath.Proofs.Search.Walks
import Repath.Pattern.Program

namespace Repath

/-- A relation of stages, with the choices that lead from the one to the other. -/
abbrev Ways := Stage → List Choice → Stage → Prop

namespace Ways

variable {R S : Ways} {greedy : Bool} {len n k : Nat} {s u : Stage} {ds : List Choice}

def idle : Ways := fun s ds u => ds = [] ∧ u = s

def seq (R S : Ways) : Ways := fun s ds u =>
  ∃ m ds₁ ds₂, ds = ds₁ ++ ds₂ ∧ R s ds₁ m ∧ S m ds₂ u

def chosen (n : Nat) (first : Bool) (R : Ways) : Ways := fun s ds u =>
  ∃ es, ds = ⟨(n, s.1), first⟩ :: es ∧ R s es u

/-- A choice at the place `n` between going in, which is preferred if `greedy`, and going on. -/
def fork (n : Nat) (greedy : Bool) (inner outer : Ways) : Ways := fun s ds u =>
  chosen n greedy inner s ds u ∨ chosen n (!greedy) outer s ds u

/-- Passes as often as chosen at the place `n`. -/
inductive Laps (R : Ways) (greedy : Bool) (n : Nat) : Ways
  | leave (s : Stage) : Laps R greedy n s [⟨(n, s.1), !greedy⟩] s
  | more {s m u : Stage} {ds es : List Choice} (h : R s ds m) (hl : Laps R greedy n m es u) :
      Laps R greedy n s (⟨(n, s.1), greedy⟩ :: (ds ++ es)) u

/-- Copies of a part with `len` places, one after another, the first of them at `n`. -/
def rounds (R : Nat → Ways) (len : Nat) : Nat → Nat → Ways
  | 0, _ => idle
  | k + 1, n => seq (R n) (rounds R len k (n + len))

def options (R : Nat → Ways) (greedy : Bool) (len : Nat) : Nat → Nat → Ways
  | 0, _ => idle
  | k + 1, n => fork n greedy (seq (R (n + 1)) (options R greedy len k (n + len + 1))) idle

/-- The pairs of stages between which there is a way. -/
def Joins (R : Ways) (s u : Stage) : Prop := ∃ ds, R s ds u

theorem laps_iff : Laps R greedy n s ds u ↔ fork n greedy (seq R (Laps R greedy n)) idle s ds u := by
  constructor
  · intro h
    cases h with
    | leave s => exact .inr ⟨[], rfl, rfl, rfl⟩
    | more h hl => exact .inl ⟨_, rfl, _, _, _, rfl, h, hl⟩
  · rintro (⟨_, rfl, m, ds₁, ds₂, rfl, h, hl⟩ | ⟨_, rfl, rfl, rfl⟩)
    · exact .more h hl
    · exact .leave u

theorem seq_idle : seq R idle = R := by
  funext s ds u
  simp [seq, idle]

theorem joins_idle : idle.Joins s u ↔ u = s := by simp [Joins, idle]

theorem joins_seq : (seq R S).Joins s u ↔ ∃ m, R.Joins s m ∧ S.Joins m u := by
  constructor
  · rintro ⟨_, m, ds₁, ds₂, rfl, h, h'⟩
    exact ⟨m, ⟨ds₁, h⟩, ds₂, h'⟩
  · rintro ⟨m, ⟨ds₁, h⟩, ds₂, h'⟩
    exact ⟨_, m, ds₁, ds₂, rfl, h, h'⟩

theorem joins_fork : (fork n greedy R S).Joins s u ↔ R.Joins s u ∨ S.Joins s u := by
  constructor
  · rintro ⟨_, ⟨ds, rfl, h⟩ | ⟨ds, rfl, h⟩⟩
    · exact .inl ⟨ds, h⟩
    · exact .inr ⟨ds, h⟩
  · rintro (⟨ds, h⟩ | ⟨ds, h⟩)
    · exact ⟨_, .inl ⟨ds, rfl, h⟩⟩
    · exact ⟨_, .inr ⟨ds, rfl, h⟩⟩

variable {A : Stage → Stage → Prop}

theorem joins_laps (hR : ∀ s u, R.Joins s u ↔ A s u) :
    (Laps R greedy n).Joins s u ↔ ∃ k, Passes A k s u := by
  constructor
  · rintro ⟨ds, h⟩
    induction h with
    | leave s => exact ⟨0, rfl⟩
    | more h _ ih =>
      obtain ⟨k, hk⟩ := ih
      exact ⟨k + 1, _, (hR _ _).1 ⟨_, h⟩, hk⟩
  · rintro ⟨k, hk⟩
    induction k generalizing s with
    | zero =>
      obtain rfl : u = s := hk
      exact ⟨_, .leave u⟩
    | succ k ih =>
      obtain ⟨m, hm, hk⟩ := hk
      obtain ⟨ds, hm⟩ := (hR _ _).2 hm
      obtain ⟨es, hl⟩ := ih hk
      exact ⟨_, .more hm hl⟩

variable {Q : Nat → Ways} (hQ : ∀ n s u, (Q n).Joins s u ↔ A s u)

include hQ

theorem joins_rounds : (rounds Q len k n).Joins s u ↔ Passes A k s u := by
  induction k generalizing n s with
  | zero => exact joins_idle
  | succ k ih => simp only [rounds, joins_seq, hQ, ih, Passes]

theorem joins_options : (options Q greedy len k n).Joins s u ↔ ∃ j, j ≤ k ∧ Passes A j s u := by
  induction k generalizing n s with
  | zero => simp [options, joins_idle, Passes]
  | succ k ih =>
    simp only [options, joins_fork, joins_seq, joins_idle, hQ, ih]
    constructor
    · rintro (⟨m, hm, j, hj, hp⟩ | rfl)
      · exact ⟨j + 1, Nat.succ_le_succ hj, m, hm, hp⟩
      · exact ⟨0, Nat.zero_le _, rfl⟩
    · rintro ⟨j, hj, hp⟩
      cases j with
      | zero => exact .inr hp
      | succ j =>
        obtain ⟨m, hm, hp⟩ := hp
        exact .inl ⟨m, hm, j, Nat.le_of_succ_le_succ hj, hp⟩

end Ways

namespace Pattern

open Ways

/-- The ways of a pattern whose places are numbered from `n` on, with the choices made on each. -/
def Makes : Pattern → Nat → Ways
  | empty, _ => idle
  | char set, _ => fun s ds u =>
    ds = [] ∧ ∃ x, set.contains x = true ∧ s.1.Reads [x] u.1 ∧ u.2 = s.2
  | look l, _ => fun s ds u => ds = [] ∧ l.holdsAt s.1 = true ∧ u = s
  | group i p, n => fun s ds u =>
    ∃ m, p.Makes (n + 1) (s.1, (2 * i, s.1) :: s.2) ds m ∧ u = (m.1, (2 * i + 1, m.1) :: m.2)
  | cat p q, n => seq (p.Makes n) (q.Makes (n + p.size))
  | alt p q, n => fork n true (p.Makes (n + 1)) (q.Makes (n + p.size + 2))
  | rep p 0 none greedy, n =>
    let again := if p.consumes then n else n + p.size + 1
    fork n greedy (seq (p.Makes (n + 1)) (Laps (p.Makes (n + 1)) greedy again)) idle
  | rep p (min + 1) none greedy, n =>
    let last := n + min * p.size
    seq (rounds p.Makes p.size min n)
      (seq (p.Makes last) (Laps (p.Makes last) greedy (last + p.size)))
  | rep p min (some max) greedy, n =>
    seq (rounds p.Makes p.size min n)
      (options p.Makes greedy p.size (max - min) (n + min * p.size))

variable {s u : Stage} {n : Nat}

theorem makes_between (p : Pattern) (min max : Nat) (greedy : Bool) (n : Nat) :
    (rep p min (some max) greedy).Makes n = seq (rounds p.Makes p.size min n)
      (options p.Makes greedy p.size (max - min) (n + min * p.size)) := by
  cases min <;> rfl

section Repetition

variable {p : Pattern} {greedy : Bool} (ih : ∀ n s u, (p.Makes n).Joins s u ↔ p.Takes s u)

include ih

theorem joins_star : ((rep p 0 none greedy).Makes n).Joins s u ↔
    (rep p 0 none greedy).Takes s u := by
  simp only [Makes, joins_fork, joins_seq, joins_laps (ih (n + 1)), joins_idle, ih, Takes]
  constructor
  · rintro (⟨m, hm, k, hk⟩ | rfl)
    · exact ⟨k + 1, Nat.zero_le _, by simp, m, hm, hk⟩
    · exact ⟨0, Nat.le_refl 0, by simp, rfl⟩
  · rintro ⟨k, -, -, hk⟩
    cases k with
    | zero => exact .inr hk
    | succ k =>
      obtain ⟨m, hm, hk⟩ := hk
      exact .inl ⟨m, hm, k, hk⟩

theorem joins_atLeast {min : Nat} : ((rep p (min + 1) none greedy).Makes n).Joins s u ↔
    (rep p (min + 1) none greedy).Takes s u := by
  simp only [Makes, joins_seq, joins_rounds ih, joins_laps (ih (n + min * p.size)), ih, Takes]
  constructor
  · rintro ⟨m, hm, m', hm', k, hk⟩
    exact ⟨min + (k + 1), by omega, by simp, hm.append ⟨m', hm', hk⟩⟩
  · rintro ⟨k, hmin, -, hk⟩
    obtain ⟨j, rfl⟩ := Nat.exists_eq_add_of_le hmin
    rw [Nat.add_right_comm, Nat.add_assoc] at hk
    obtain ⟨m, hm, m', hm', hj⟩ := passes_add.1 hk
    exact ⟨m, hm, m', hm', j, hj⟩

theorem joins_between {min max : Nat} : ((rep p min (some max) greedy).Makes n).Joins s u ↔
    (rep p min (some max) greedy).Takes s u := by
  rw [makes_between]
  simp only [joins_seq, joins_rounds ih, joins_options ih, Takes]
  constructor
  · rintro ⟨m, hm, k, hk, hp⟩
    refine ⟨min + k, Nat.le_add_right _ _, ?_, hm.append hp⟩
    rintro bound ⟨⟩
    omega
  · rintro ⟨k, hmin, hmax, hk⟩
    obtain ⟨j, rfl⟩ := Nat.exists_eq_add_of_le hmin
    obtain ⟨m, hm, hj⟩ := passes_add.1 hk
    refine ⟨m, hm, j, ?_, hj⟩
    obtain h | h := hmax max rfl
    · omega
    · omega

end Repetition

/-- The ways with their choices are the ways of the pattern. -/
theorem joins_makes {p : Pattern} : (p.Makes n).Joins s u ↔ p.Takes s u := by
  induction p generalizing n s u with
  | empty => exact joins_idle
  | char set => simp [Joins, Makes, Takes]
  | look l => simp [Joins, Makes, Takes]
  | group i p ih =>
    simp only [Takes, ← ih (n := n + 1), Joins, Makes]
    grind
  | cat p q ihp ihq => simp only [Makes, joins_seq, ihp, ihq, Takes]
  | alt p q ihp ihq => simp only [Makes, joins_fork, ihp, ihq, Takes]
  | rep p min max greedy ih =>
    cases max with
    | none =>
      cases min with
      | zero => exact joins_star fun n s u => ih
      | succ min => exact joins_atLeast fun n s u => ih
    | some max => exact joins_between fun n s u => ih

end Pattern

end Repath
