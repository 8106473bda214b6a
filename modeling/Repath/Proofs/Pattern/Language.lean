import Repath.Proofs.Pattern.Classes
import Repath.Proofs.Pattern.Takes

namespace Repath

/-- A relation applied as often as two bounds allow. Where the bounds cross, it is the lower one
that counts. -/
def Repeats {α : Type} (R : α → α → Prop) (min : Nat) (max : Option Nat) (s u : α) : Prop :=
  ∃ n, min ≤ n ∧ (∀ bound, max = some bound → n = min ∨ n ≤ bound) ∧ Passes R n s u

namespace Syntax

def flagsAfter (fs : Flags) : Syntax → Flags
  | setFlags changes => fs.setAll changes
  | rep body .. => body.flagsAfter fs
  | cat a b | alt a b => b.flagsAfter (a.flagsAfter fs)
  | _ => fs

/-- The text between two places is one character of a set. -/
def One (A : Set Nat) (c d : Cursor) : Prop := ∃ x, c.Reads [x] d ∧ x.toNat ∈ A

def dotPoints (fs : Flags) : Set Nat :=
  {n | fs.dotAll = true ∨ n ≠ '\n'.toNat ∧ (fs.crlf = true → n ≠ '\r'.toNat)}

/-- The text from `c` to `d` belongs to the language of the pattern under the flags `fs`. -/
def Spans : Syntax → Flags → Cursor → Cursor → Prop
  | empty, _, c, d => d = c
  | setFlags _, _, c, d => d = c
  | char x, fs, c, d => One (fs.close {x.toNat}) c d
  | byte x, fs, c, d => One (fs.close {x.toNat}) c d
  | dot, fs, c, d => One (dotPoints fs) c d
  | assertion a, fs, c, d => d = c ∧ a.HoldsAt fs c
  | perl k negated, fs, c, d => One ((ClassSyntax.perl k negated).points fs) c d
  | property q negated, fs, c, d => One ((ClassSyntax.property q negated).points fs) c d
  | bracket negated body, fs, c, d => One ((ClassSyntax.bracket negated body).points fs) c d
  | group (.capture _) body, fs, c, d => body.Spans fs c d
  | group (.plain changes) body, fs, c, d => body.Spans (fs.setAll changes) c d
  | rep body min max _, fs, c, d => Repeats (body.Spans fs) min max c d
  | cat a b, fs, c, d => ∃ e, a.Spans fs c e ∧ b.Spans (a.flagsAfter fs) e d
  | alt a b, fs, c, d => a.Spans fs c d ∨ b.Spans (a.flagsAfter fs) c d

end Syntax

namespace Pattern

/-- Seen without its notes, a pattern leads from one place to another as `R` says. -/
def Denotes (p : Pattern) (R : Cursor → Cursor → Prop) : Prop :=
  ∀ c d notes, (∃ notes', p.Takes (c, notes) (d, notes')) ↔ R c d

variable {p q : Pattern} {R S : Cursor → Cursor → Prop} {n : Nat}

theorem Denotes.passes (h : p.Denotes R) {c d : Cursor} {notes : List (Nat × Cursor)} :
    (∃ notes', Passes p.Takes n (c, notes) (d, notes')) ↔ Passes R n c d := by
  induction n generalizing c notes with
  | zero => simp [Passes]
  | succ n ih =>
    simp only [Passes]
    constructor
    · rintro ⟨notes', ⟨e, between⟩, he, hd⟩
      exact ⟨e, (h _ _ _).1 ⟨_, he⟩, ih.1 ⟨_, hd⟩⟩
    · rintro ⟨e, he, hd⟩
      obtain ⟨between, he⟩ := (h _ _ notes).2 he
      obtain ⟨notes', hd⟩ := ih.2 hd
      exact ⟨notes', _, he, hd⟩

theorem denotes_empty : empty.Denotes fun c d => d = c := fun c d notes => by simp [Takes]

theorem denotes_look {l : Look} : (look l).Denotes fun c d => d = c ∧ l.holdsAt c = true := by
  intro c d notes
  constructor
  · rintro ⟨notes', hl, h⟩
    exact ⟨congrArg Prod.fst h, hl⟩
  · rintro ⟨rfl, hl⟩
    exact ⟨notes, hl, rfl⟩

theorem denotes_group (h : p.Denotes R) (i : Nat) : (group i p).Denotes R := by
  intro c d notes
  rw [← h c d ((2 * i, c) :: notes)]
  constructor
  · rintro ⟨notes', m, hm, h⟩
    obtain ⟨rfl, rfl⟩ := Prod.mk.inj h
    exact ⟨m.2, hm⟩
  · rintro ⟨between, hm⟩
    exact ⟨_, _, hm, rfl⟩

theorem denotes_cat (hp : p.Denotes R) (hq : q.Denotes S) :
    (cat p q).Denotes fun c d => ∃ e, R c e ∧ S e d := by
  intro c d notes
  constructor
  · rintro ⟨notes', m, hm, hd⟩
    exact ⟨m.1, (hp _ _ _).1 ⟨_, hm⟩, (hq _ _ _).1 ⟨_, hd⟩⟩
  · rintro ⟨e, he, hd⟩
    obtain ⟨between, he⟩ := (hp _ _ notes).2 he
    obtain ⟨notes', hd⟩ := (hq _ _ between).2 hd
    exact ⟨notes', _, he, hd⟩

theorem denotes_alt (hp : p.Denotes R) (hq : q.Denotes S) :
    (alt p q).Denotes fun c d => R c d ∨ S c d := by
  intro c d notes
  dsimp only
  rw [← hp c d notes, ← hq c d notes, ← exists_or]
  rfl

theorem denotes_rep (h : p.Denotes R) (min : Nat) (max : Option Nat) (greedy : Bool) :
    (rep p min max greedy).Denotes (Repeats R min max) := by
  intro c d notes
  constructor
  · rintro ⟨notes', n, hmin, hmax, hn⟩
    exact ⟨n, hmin, hmax, h.passes.1 ⟨notes', hn⟩⟩
  · rintro ⟨n, hmin, hmax, hn⟩
    obtain ⟨notes', hn⟩ := h.passes.2 hn
    exact ⟨notes', n, hmin, hmax, hn⟩

theorem eq_of_isIdle (h : p.isIdle = true) {s u : Stage} (hs : p.Takes s u) : u.1 = s.1 := by
  induction p generalizing s u with
  | empty => exact congrArg Prod.fst hs
  | char set => cases h
  | look l => exact congrArg Prod.fst hs.2
  | group i p ih =>
    obtain ⟨m, hm, rfl⟩ := hs
    have hm := ih h hm
    exact hm
  | cat p q ihp ihq =>
    obtain ⟨hp, hq⟩ := Bool.and_eq_true_iff.1 h
    obtain ⟨m, hm, hu⟩ := hs
    exact (ihq hq hu).trans (ihp hp hm)
  | alt p q ihp ihq =>
    obtain ⟨hp, hq⟩ := Bool.and_eq_true_iff.1 h
    obtain hs | hs := hs
    · exact ihp hp hs
    · exact ihq hq hs
  | rep p min max greedy ih =>
    obtain ⟨-, hp⟩ := Bool.and_eq_true_iff.1 h
    obtain ⟨n, -, -, hn⟩ := hs
    induction n generalizing s with
    | zero => exact congrArg Prod.fst hn
    | succ n ihn =>
      obtain ⟨m, hm, hn⟩ := hn
      exact (ihn hn).trans (ih hp hm)

theorem passes_of_still (hR : ∀ c d, R c d → d = c) {c d : Cursor} :
    Passes R n c d ↔ d = c ∧ (n = 0 ∨ R c c) := by
  induction n generalizing c with
  | zero => simp [Passes]
  | succ n ih =>
    simp only [Passes, ih]
    constructor
    · rintro ⟨m, hm, rfl, -⟩
      obtain rfl := hR _ _ hm
      exact ⟨rfl, .inr hm⟩
    · rintro ⟨rfl, h⟩
      obtain h | h := h
      · omega
      · exact ⟨d, h, rfl, .inr h⟩

theorem repeats_of_still (hR : ∀ c d, R c d → d = c) {min : Nat} {max : Option Nat}
    {c d : Cursor} : Repeats R min max c d ↔ d = c ∧ (min = 0 ∨ R c c) := by
  simp only [Repeats, passes_of_still hR]
  constructor
  · rintro ⟨n, hmin, -, rfl, h⟩
    obtain rfl | h := h
    · exact ⟨rfl, .inl (Nat.le_zero.1 hmin)⟩
    · exact ⟨rfl, .inr h⟩
  · rintro ⟨rfl, h⟩
    exact ⟨min, Nat.le_refl min, fun _ _ => .inl rfl, rfl, h⟩

theorem repeats_zero {c d : Cursor} : Repeats R 0 (some 0) c d ↔ d = c := by
  simp [Repeats, Passes]

theorem repeats_one {c d : Cursor} : Repeats R 1 (some 1) c d ↔ R c d := by
  constructor
  · rintro ⟨n, hmin, hmax, hn⟩
    obtain rfl : n = 1 := by
      have := hmax 1 rfl
      omega
    obtain ⟨m, hm, rfl⟩ := hn
    exact hm
  · intro h
    exact ⟨1, Nat.le_refl 1, fun _ _ => .inl rfl, d, h, rfl⟩

theorem denotes_repeated (h : p.Denotes R) (min : Nat) (max : Option Nat) (greedy : Bool) :
    (p.repeated min max greedy).Denotes (Repeats R min max) := by
  have hsimple : ∀ min max, (if min = 0 ∧ max = some 0 then empty
      else if min = 1 ∧ max = some 1 then p else rep p min max greedy).Denotes
        (Repeats R min max) := by
    intro min max
    split
    · rename_i hzero
      obtain ⟨rfl, rfl⟩ := hzero
      intro c d notes
      rw [denotes_empty, repeats_zero]
    · split
      · rename_i hone
        obtain ⟨rfl, rfl⟩ := hone
        intro c d notes
        rw [h, repeats_one]
      · exact denotes_rep h min max greedy
  by_cases hidle : p.isIdle = true
  · have hstill : ∀ c d, R c d → d = c := by
      intro c d hcd
      obtain ⟨notes', hs⟩ := (h c d []).2 hcd
      exact eq_of_isIdle hidle hs
    intro c d notes
    simp only [repeated, hidle, if_true]
    rw [hsimple, repeats_of_still hstill, repeats_of_still hstill]
    have hmin : Nat.min min 1 = 0 ↔ min = 0 := by
      change Min.min min 1 = 0 ↔ min = 0
      omega
    rw [hmin]
  · simp only [repeated, hidle]
    exact hsimple min max

end Pattern

namespace Syntax

open Pattern (Denotes)

variable {fs fs' : Flags} {body : Syntax} {p : Pattern} {A : Set Nat} {s : Unicode.CharSet}

theorem denotes_char (h : ∀ x : Char, s.contains x = true ↔ x.toNat ∈ A) :
    (Pattern.char s).Denotes (One A) := by
  intro c d notes
  constructor
  · rintro ⟨notes', x, hx, hr, -⟩
    exact ⟨x, hr, (h x).1 hx⟩
  · rintro ⟨x, hr, hx⟩
    exact ⟨notes, x, (h x).2 hx, hr, rfl⟩

theorem denotes_class {cls : ClassSyntax} (h : cls.resolve fs = .ok s) :
    (Pattern.char s).Denotes (One (cls.points fs)) := by
  refine denotes_char fun x => ?_
  rw [← ClassSyntax.points_resolve h]
  rfl

theorem denotes_close (x : Char) :
    (Pattern.char (fs.fold (.single x))).Denotes (One (fs.close {x.toNat})) := by
  refine denotes_char fun y => ?_
  rw [← Unicode.CharSet.points_single, ← Flags.points_fold]
  rfl

theorem denotes_dot : (Pattern.char (dotSet fs)).Denotes (One (dotPoints fs)) := by
  refine denotes_char fun x => ?_
  change x.toNat ∈ (dotSet fs).points ↔ _
  unfold dotSet dotPoints
  by_cases hd : fs.dotAll = true
  · have hx : x.toNat < 0x110000 := by
      have hvalid := x.valid
      simp only [UInt32.isValidChar, Nat.isValidChar] at hvalid
      change x.val.toNat < 0x110000
      omega
    simp [hd, Unicode.CharSet.all, Unicode.CharSet.mem_points, Unicode.CharSet.mem, Unicode.inside,
      hx]
  · by_cases hc : fs.crlf = true <;> simp [hd, hc, and_comm]

/-- Resolving a pattern keeps its language, and leaves the flags that stand behind it. -/
theorem denotes_resolve (h : body.resolve fs = .ok (p, fs')) :
    p.Denotes (body.Spans fs) ∧ fs' = body.flagsAfter fs := by
  induction body generalizing fs p fs' with
  | empty | setFlags changes =>
    cases h
    exact ⟨Pattern.denotes_empty, rfl⟩
  | char x =>
    cases h
    exact ⟨denotes_close x, rfl⟩
  | byte x =>
    obtain ⟨y, hy, ⟨⟩⟩ := exists_of_bind_ok h
    rw [eq_of_resolveChar hy]
    exact ⟨denotes_close x, rfl⟩
  | dot =>
    rw [resolve] at h
    split at h
    · cases h
      exact ⟨denotes_dot, rfl⟩
    · cases h
  | assertion a =>
    cases h
    refine ⟨fun c d notes => (Pattern.denotes_look c d notes).trans ?_, rfl⟩
    dsimp only
    rw [holdsAt_resolve, Spans]
  | perl k negated =>
    obtain ⟨s, hs, ⟨⟩⟩ := exists_of_bind_ok h
    exact ⟨denotes_class (show (ClassSyntax.perl k negated).resolve fs = .ok s from hs), rfl⟩
  | property q negated =>
    obtain ⟨s, hs, ⟨⟩⟩ := exists_of_bind_ok h
    exact ⟨denotes_class (show (ClassSyntax.property q negated).resolve fs = .ok s from hs), rfl⟩
  | bracket negated body =>
    obtain ⟨t, ht, h⟩ := exists_of_bind_ok h
    obtain ⟨s, hs, ⟨⟩⟩ := exists_of_bind_ok h
    refine ⟨denotes_char fun x => ?_, rfl⟩
    rw [ClassSyntax.points, ← ClassSyntax.points_resolve ht, ← Flags.points_finish hs]
    rfl
  | group kind body ih =>
    cases kind with
    | capture index =>
      obtain ⟨⟨q, after⟩, hq, ⟨⟩⟩ := exists_of_bind_ok h
      exact ⟨Pattern.denotes_group (ih hq).1 index, rfl⟩
    | plain changes =>
      obtain ⟨⟨q, after⟩, hq, ⟨⟩⟩ := exists_of_bind_ok h
      exact ⟨(ih hq).1, rfl⟩
  | rep body min max greedy ih =>
    obtain ⟨⟨q, after⟩, hq, ⟨⟩⟩ := exists_of_bind_ok h
    obtain ⟨hden, rfl⟩ := ih hq
    exact ⟨Pattern.denotes_repeated hden _ _ _, rfl⟩
  | cat a b iha ihb =>
    obtain ⟨⟨q, mid⟩, hq, h⟩ := exists_of_bind_ok h
    obtain ⟨⟨r, last⟩, hr, ⟨⟩⟩ := exists_of_bind_ok h
    obtain ⟨hqd, rfl⟩ := iha hq
    obtain ⟨hrd, rfl⟩ := ihb hr
    exact ⟨Pattern.denotes_cat hqd hrd, rfl⟩
  | alt a b iha ihb =>
    obtain ⟨⟨q, mid⟩, hq, h⟩ := exists_of_bind_ok h
    obtain ⟨⟨r, last⟩, hr, ⟨⟩⟩ := exists_of_bind_ok h
    obtain ⟨hqd, rfl⟩ := iha hq
    obtain ⟨hrd, rfl⟩ := ihb hr
    exact ⟨Pattern.denotes_alt hqd hrd, rfl⟩

end Syntax

end Repath
