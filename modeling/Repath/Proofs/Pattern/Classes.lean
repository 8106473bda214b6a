import Mathlib.Data.Set.Insert
import Mathlib.Order.Interval.Set.Defs
import Repath.Pattern.Resolve

namespace Repath

theorem exists_of_bind_ok {ε α β : Type} {x : Except ε α} {f : α → Except ε β} {b : β}
    (h : x >>= f = .ok b) : ∃ a, x = .ok a ∧ f a = .ok b := by
  cases x with
  | error e => cases h
  | ok a => exact ⟨a, rfl, h⟩

namespace Unicode

def asciiOrbits : List (List Nat) := (List.range 26).map fun i => [65 + i, 97 + i]

namespace CharSet

variable {s t : CharSet} {n : Nat}

def points (s : CharSet) : Set Nat := {n | s.mem n = true}

theorem mem_points : n ∈ s.points ↔ s.mem n = true := Iff.rfl

@[simp] theorem points_none : none.points = ∅ := by
  ext n
  simp [mem_points, none, mem, inside]

@[simp] theorem points_single (c : Char) : (single c).points = {c.toNat} := by
  ext n
  simp only [mem_points, single, mem, inside, Set.mem_singleton_iff, Bool.not_false, Bool.and_true,
    Bool.and_eq_true, decide_eq_true_eq, Bool.not_eq_true', decide_eq_false_iff_not]
  omega

@[simp] theorem points_range (a b : Char) : (range a b).points = Set.Icc a.toNat b.toNat := by
  ext n
  simp only [mem_points, range, mem, inside, Set.mem_Icc, Bool.not_false, Bool.and_true,
    Bool.and_eq_true, decide_eq_true_eq, Bool.not_eq_true', decide_eq_false_iff_not]
  omega

@[simp] theorem points_union : (union s t).points = s.points ∪ t.points := by
  ext n
  simp [mem_points, mem]

@[simp] theorem points_inter : (inter s t).points = s.points ∩ t.points := by
  ext n
  simp [mem_points, mem]

@[simp] theorem points_compl : (compl s).points = (s.points)ᶜ := by
  ext n
  simp [mem_points, mem]

@[simp] theorem points_diff : (diff s t).points = s.points \ t.points := by
  rw [diff, points_inter, points_compl, Set.sdiff_eq]

@[simp] theorem points_symmDiff :
    (symmDiff s t).points = s.points \ t.points ∪ t.points \ s.points := by
  rw [symmDiff, points_union, points_diff, points_diff]

theorem mem_ofList {ss : List CharSet} : n ∈ (ofList ss).points ↔ ∃ s ∈ ss, n ∈ s.points := by
  induction ss with
  | nil => simp [ofList]
  | cons s rest ih =>
    cases rest with
    | nil => simp [ofList]
    | cons t rest => simp [ofList, ih]

theorem mem_ofRanges {rs : List (Char × Char)} :
    n ∈ (ofRanges rs).points ↔ ∃ r ∈ rs, n ∈ Set.Icc r.1.toNat r.2.toNat := by
  simp [ofRanges, mem_ofList]

theorem mem_ofChars {cs : List Nat} : n ∈ (ofChars cs).points ↔ n ∈ cs := by
  have hone : ∀ m, n ∈ (spans [m, m + 1]).points ↔ n = m := by
    intro m
    simp [mem_points, mem, inside]
    omega
  simp [ofChars, mem_ofList, hone]

theorem mem_lacking {orbits : List (List Nat)} :
    n ∈ s.points ∨ n ∈ (orbits.filter fun orbit =>
        orbit.any (s.mem ·) && !orbit.all (s.mem ·)).flatten ↔
      n ∈ s.points ∨ ∃ orbit ∈ orbits, n ∈ orbit ∧ ∃ m ∈ orbit, m ∈ s.points := by
  constructor
  · rintro (h | h)
    · exact .inl h
    · obtain ⟨orbit, horbit, hn⟩ := List.mem_flatten.1 h
      obtain ⟨horbit, hmeets⟩ := List.mem_filter.1 horbit
      obtain ⟨hany, -⟩ := Bool.and_eq_true_iff.1 hmeets
      exact .inr ⟨orbit, horbit, hn, List.any_eq_true.1 hany⟩
  · rintro (h | ⟨orbit, horbit, hn, m, hm, hs⟩)
    · exact .inl h
    · by_cases hall : orbit.all (s.mem ·) = true
      · exact .inl (List.all_eq_true.1 hall n hn)
      · refine .inr (List.mem_flatten.2 ⟨orbit, List.mem_filter.2 ⟨horbit, ?_⟩, hn⟩)
        rw [Bool.and_eq_true, List.any_eq_true]
        exact ⟨⟨m, hm, hs⟩, by simpa using hall⟩

theorem mem_fold : n ∈ s.fold.points ↔
    n ∈ s.points ∨ ∃ orbit ∈ orbits, n ∈ orbit ∧ ∃ m ∈ orbit, m ∈ s.points := by
  rw [← mem_lacking, fold]
  split
  · rename_i h
    simp [h]
  · rw [points_union, Set.mem_union, mem_ofChars]

theorem mem_foldAscii : n ∈ s.foldAscii.points ↔
    n ∈ s.points ∨ ∃ orbit ∈ asciiOrbits, n ∈ orbit ∧ ∃ m ∈ orbit, m ∈ s.points := by
  rw [← mem_lacking, foldAscii]
  split
  · rename_i h
    simp [asciiOrbits, h]
  · rw [points_union, Set.mem_union, mem_ofChars]
    rfl

end CharSet

end Unicode

open Unicode (CharSet)

namespace Flags

variable {fs : Flags} {s t : CharSet} {negated : Bool}

def orbits (fs : Flags) : List (List Nat) :=
  if fs.caseInsensitive then if fs.unicode then Unicode.orbits else Unicode.asciiOrbits else []

/-- All code points that are in a set, or are the same as one of it but for case. -/
def close (fs : Flags) (A : Set Nat) : Set Nat :=
  {n | n ∈ A ∨ ∃ orbit ∈ fs.orbits, n ∈ orbit ∧ ∃ m ∈ orbit, m ∈ A}

theorem points_fold : (fs.fold s).points = fs.close s.points := by
  ext n
  rw [close, Set.mem_ofPred_eq, fold, orbits]
  by_cases hc : fs.caseInsensitive = true
  · by_cases hu : fs.unicode = true
    · simp only [hc, hu, Bool.not_true, Bool.false_eq_true, if_false, if_true]
      exact CharSet.mem_fold
    · simp only [hc, hu, Bool.not_true, Bool.false_eq_true, if_false, if_true]
      exact CharSet.mem_foldAscii
  · simp [hc]

def sign (negated : Bool) (A : Set Nat) : Set Nat := if negated then Aᶜ else A

theorem eq_of_checkAscii (h : fs.checkAscii s = .ok t) : t = s := by
  unfold checkAscii at h
  split at h
  · cases h
  · exact (Except.ok.inj h).symm

theorem points_finish (h : fs.finish negated s = .ok t) :
    t.points = sign negated (fs.close s.points) := by
  rw [eq_of_checkAscii h, sign]
  cases negated <;> simp [points_fold]

end Flags

def PerlClass.points (fs : Flags) (c : PerlClass) : Set Nat := (c.charSet fs.unicode).points

def Unicode.PropertyQuery.points (q : PropertyQuery) : Set Nat :=
  {n | ∃ s, q.charSet? = some s ∧ n ∈ s.points}

theorem points_resolvePerl {fs : Flags} {c : PerlClass} {negated : Bool} {s : CharSet}
    (h : resolvePerl fs c negated = .ok s) : s.points = Flags.sign negated (c.points fs) := by
  rw [Flags.eq_of_checkAscii h, Flags.sign]
  cases negated <;> simp [PerlClass.points]

theorem points_resolveProperty {fs : Flags} {q : Unicode.PropertyQuery} {negated : Bool}
    {s : CharSet} (h : resolveProperty fs q negated = .ok s) :
    s.points = Flags.sign negated (fs.close q.points) := by
  unfold resolveProperty at h
  split at h
  · cases h
  · split at h
    · rename_i t ht
      rw [Flags.points_finish h]
      congr 2
      ext n
      simp [Unicode.PropertyQuery.points, ht]
    · cases h

theorem eq_of_resolveChar {fs : Flags} {c d : Char} (h : resolveChar fs c = .ok d) : d = c := by
  unfold resolveChar at h
  split at h
  · cases h
  · exact (Except.ok.inj h).symm

namespace ClassSyntax

open Flags (sign)

def points (fs : Flags) : ClassSyntax → Set Nat
  | nothing => ∅
  | char c => {c.toNat}
  | range a b => Set.Icc a.toNat b.toNat
  | ascii c negated => sign negated (fs.close c.charSet.points)
  | perl c negated => sign negated (c.points fs)
  | property q negated => sign negated (fs.close q.points)
  | bracket negated body => sign negated (fs.close (body.points fs))
  | both a b => a.points fs ∪ b.points fs
  | op .inter a b => fs.close (a.points fs) ∩ fs.close (b.points fs)
  | op .diff a b => fs.close (a.points fs) \ fs.close (b.points fs)
  | op .symmDiff a b =>
    fs.close (a.points fs) \ fs.close (b.points fs) ∪
      fs.close (b.points fs) \ fs.close (a.points fs)

theorem points_resolve {fs : Flags} {c : ClassSyntax} {s : CharSet} (h : c.resolve fs = .ok s) :
    s.points = c.points fs := by
  induction c generalizing s with
  | nothing =>
    cases h
    exact CharSet.points_none
  | char c =>
    obtain ⟨d, hd, ⟨⟩⟩ := exists_of_bind_ok h
    rw [eq_of_resolveChar hd]
    exact CharSet.points_single c
  | range a b =>
    obtain ⟨a', ha, h⟩ := exists_of_bind_ok h
    obtain ⟨b', hb, ⟨⟩⟩ := exists_of_bind_ok h
    rw [eq_of_resolveChar ha, eq_of_resolveChar hb]
    exact CharSet.points_range a b
  | ascii c negated => exact Flags.points_finish h
  | perl c negated => exact points_resolvePerl h
  | property q negated => exact points_resolveProperty h
  | bracket negated body ih =>
    obtain ⟨t, ht, h⟩ := exists_of_bind_ok h
    rw [Flags.points_finish h, ih ht, points]
  | both a b iha ihb =>
    obtain ⟨t, ht, h⟩ := exists_of_bind_ok h
    obtain ⟨t', ht', ⟨⟩⟩ := exists_of_bind_ok h
    rw [CharSet.points_union, iha ht, ihb ht', points]
  | op o a b iha ihb =>
    obtain ⟨t, ht, h⟩ := exists_of_bind_ok h
    obtain ⟨t', ht', h⟩ := exists_of_bind_ok h
    cases o with
    | inter =>
      cases h
      rw [CharSet.points_inter, Flags.points_fold, Flags.points_fold, iha ht, ihb ht', points]
    | diff =>
      cases h
      rw [CharSet.points_diff, Flags.points_fold, Flags.points_fold, iha ht, ihb ht', points]
    | symmDiff =>
      cases h
      rw [CharSet.points_symmDiff, Flags.points_fold, Flags.points_fold, iha ht, ihb ht', points]

end ClassSyntax

def WordAt (fs : Flags) (side : List Char) : Prop :=
  ∃ x, side.head? = some x ∧ x.toNat ∈ PerlClass.word.points fs

theorem isWord_ascii (x : Char) :
    (x.isAlphanum || x == '_') = true ↔ x.toNat ∈ AsciiClass.word.charSet.points := by
  have halnum : x.isAlphanum = (decide (x.val ≥ 65 ∧ x.val ≤ 90) ||
      (decide (x.val ≥ 97) && decide (x.val ≤ 122)) ||
      (decide (x.val ≥ 48) && decide (x.val ≤ 57))) := rfl
  have hlow : x == '_' ↔ x.toNat = 95 := by
    rw [beq_iff_eq, ← Char.toNat_inj]
    rfl
  simp only [AsciiClass.charSet, CharSet.mem_ofRanges, List.mem_cons, List.not_mem_nil, or_false,
    exists_eq_or_imp, exists_eq_left, Set.mem_Icc, Bool.or_eq_true, hlow, halnum,
    Bool.and_eq_true, decide_eq_true_eq, UInt32.le_iff_toNat_le, ge_iff_le, Char.toNat]
  simp
  omega

theorem isWord_iff {fs : Flags} {side : List Char} :
    Look.isWord fs.unicode side.head? = true ↔ WordAt fs side := by
  unfold WordAt Look.isWord
  cases side.head? with
  | none => simp
  | some x =>
    simp only [Option.some.injEq, exists_eq_left', PerlClass.points, PerlClass.charSet]
    by_cases hu : fs.unicode = true
    · simp only [hu, if_true]
      rfl
    · rw [Bool.not_eq_true] at hu
      simp only [hu]
      exact isWord_ascii x

/-- Where an assertion holds in a text. -/
def Assertion.HoldsAt (fs : Flags) (c : Cursor) : Assertion → Prop
  | lineStart =>
    c.before = [] ∨ fs.multiLine = true ∧ (c.before.head? = some '\n' ∨
      fs.crlf = true ∧ c.before.head? = some '\r' ∧ c.after.head? ≠ some '\n')
  | lineEnd =>
    c.after = [] ∨ fs.multiLine = true ∧ (fs.crlf = true ∧ c.after.head? = some '\r' ∨
      c.after.head? = some '\n' ∧ ¬ (fs.crlf = true ∧ c.before.head? = some '\r'))
  | textStart => c.before = []
  | textEnd => c.after = []
  | boundary => ¬ (WordAt fs c.before ↔ WordAt fs c.after)
  | noBoundary => WordAt fs c.before ↔ WordAt fs c.after
  | wordStart => ¬ WordAt fs c.before ∧ WordAt fs c.after
  | wordEnd => WordAt fs c.before ∧ ¬ WordAt fs c.after
  | wordStartHalf => ¬ WordAt fs c.before
  | wordEndHalf => ¬ WordAt fs c.after

theorem holdsAt_resolve {fs : Flags} {a : Assertion} {c : Cursor} :
    (a.resolve fs).holdsAt c = true ↔ a.HoldsAt fs c := by
  have hboth : ∀ x y : Bool, (x == y) = true ↔ (x = true ↔ y = true) := by decide
  cases a with
  | lineStart =>
    cases hm : fs.multiLine <;>
      simp [Assertion.resolve, Look.holdsAt, Look.holds, Assertion.HoldsAt, hm, or_assoc, and_assoc]
  | lineEnd =>
    cases hm : fs.multiLine <;>
      simp [Assertion.resolve, Look.holdsAt, Look.holds, Assertion.HoldsAt, hm, or_assoc,
        imp_iff_not_or]
  | textStart | textEnd =>
    simp [Assertion.resolve, Look.holdsAt, Look.holds, Assertion.HoldsAt]
  | boundary | noBoundary | wordStart | wordEnd | wordStartHalf | wordEndHalf =>
    simp only [Assertion.resolve, Look.holdsAt, Look.holds, Assertion.HoldsAt, ← isWord_iff,
      bne, Bool.not_eq_true', Bool.and_eq_true, hboth, ← Bool.not_eq_true]

end Repath
