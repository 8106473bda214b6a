import Repath.Files.Walk
import Repath.Proofs.Text.Utf8

namespace Repath

namespace Utf8

variable {b : UInt8} {bs w : Bytes} {c : Char} {cs : List Char} {p : Option Partial} {q : Partial}
  {n : Nat} {o : Option Char} {os os' : List (Option Char)}

/-- A character begun goes on with tails alone. -/
def Partial.Begun (p : Partial) : Prop := 0x80 ≤ p.lo.toNat ∧ p.hi.toNat ≤ 0xBF

theorem start_cases (b : UInt8) :
    (∃ o, start b = ([o], none)) ∨ ∃ q, q.Begun ∧ start b = ([], some q) := by
  unfold start
  repeat' split
  all_goals simp [Partial.Begun]

theorem scan_cons (p : Option Partial) (b : UInt8) (bs : Bytes) :
    scan p (b :: bs) = (step p b).1 ++ scan (step p b).2 bs := by
  cases p <;> rfl

theorem scan_broken (h : ¬(q.lo ≤ b ∧ b ≤ q.hi)) (bs : Bytes) :
    scan (some q) (b :: bs) = none :: scan none (b :: bs) := by
  simp only [scan, step, if_neg h]
  rfl

theorem begun_step (h : (step p b).2 = some q) : q.Begun := by
  have hstart : (start b).2 = some q → q.Begun := by
    intro h
    obtain ⟨o, hb⟩ | ⟨q', hq', hb⟩ := start_cases b
    · rw [hb] at h
      cases h
    · rw [hb] at h
      cases h
      exact hq'
  cases p with
  | none => exact hstart h
  | some p =>
    rw [step] at h
    split at h
    · split at h
      · cases h
      · cases h
        exact ⟨Nat.le_refl _, Nat.le_refl _⟩
    · exact hstart h

/-- What is read in front of the first byte of a character is as if nothing came behind it. -/
theorem scan_append (hp : ∀ q ∈ p, q.Begun) (hb : ¬IsTail b) (w bs : Bytes) :
    scan p (w ++ b :: bs) = scan p w ++ scan none (b :: bs) := by
  induction w generalizing p with
  | nil =>
    cases p with
    | none => rfl
    | some q =>
      have hbroken : ¬(q.lo ≤ b ∧ b ≤ q.hi) := by
        rintro ⟨hlo, hhi⟩
        obtain ⟨hlo', hhi'⟩ := hp q rfl
        exact hb ⟨Nat.le_trans hlo' (UInt8.le_iff_toNat_le.1 hlo),
          Nat.le_trans (UInt8.le_iff_toNat_le.1 hhi) hhi'⟩
      rw [List.nil_append, scan_broken hbroken]
      rfl
  | cons a w ih =>
    rw [List.cons_append, scan_cons, scan_cons, ih fun q hq => begun_step hq, List.append_assoc]

theorem Spells.exists_cons (h : Spells n w) : ∃ b bs, w = b :: bs ∧ ¬IsTail b := by
  have hno : ∀ {a : UInt8}, a.toNat < 0x80 ∨ 0xC2 ≤ a.toNat → ¬IsTail a := by
    rintro a ha ⟨_, _⟩
    omega
  cases h with
  | one ha => exact ⟨_, _, rfl, hno (.inl ha)⟩
  | two ha => exact ⟨_, _, rfl, hno (.inr ha)⟩
  | three ha => exact ⟨_, _, rfl, hno (.inr (by omega))⟩
  | four ha => exact ⟨_, _, rfl, hno (.inr (by omega))⟩

theorem scan_append_encode (w : Bytes) (cs : List Char) :
    scan none (w ++ encode cs) = scan none w ++ cs.map some := by
  cases cs with
  | nil => simp [encode]
  | cons c cs =>
    obtain ⟨v, hv⟩ := exists_spells_char c
    obtain ⟨b, bs, rfl, hb⟩ := hv.exists_cons
    have hc := hv.encodeChar
    rw [Char.ofNat_toNat] at hc
    have hencode : encode (c :: cs) = b :: (bs ++ encode cs) := by
      rw [encode, List.flatMap_cons, hc, List.cons_append, encode]
    rw [← scan_encode, hencode]
    apply scan_append _ hb
    rintro q ⟨⟩

/-- Behind the first thing that is read, the remainder is read as if it stood alone. -/
theorem exists_scan_rest (h : scan p bs = o :: os) :
    ∃ w rest, bs = w ++ rest ∧ scan none rest = os := by
  induction bs generalizing p with
  | nil =>
    cases p with
    | none => cases h
    | some q =>
      cases h
      exact ⟨[], [], rfl, rfl⟩
  | cons b bs ih =>
    have hmore : ∀ {p}, scan p bs = o :: os → ∃ w rest, b :: bs = w ++ rest ∧
        scan none rest = os := by
      intro p h
      obtain ⟨w, rest, rfl, hrest⟩ := ih h
      exact ⟨b :: w, rest, rfl, hrest⟩
    cases p with
    | none =>
      rw [scan_none_cons] at h
      obtain ⟨o', hb⟩ | ⟨q, -, hb⟩ := start_cases b
      · rw [hb] at h
        cases h
        exact ⟨[b], bs, rfl, rfl⟩
      · rw [hb] at h
        exact hmore h
    | some q =>
      by_cases hq : q.lo ≤ b ∧ b ≤ q.hi
      · simp only [scan, step, if_pos hq] at h
        split at h
        · cases h
          exact ⟨[b], bs, rfl, rfl⟩
        · exact hmore h
      · rw [scan_broken hq] at h
        cases h
        exact ⟨[], b :: bs, rfl, rfl⟩

theorem exists_rest (h : scan none bs = os ++ os') :
    ∃ w rest, bs = w ++ rest ∧ scan none rest = os' := by
  induction os generalizing bs with
  | nil => exact ⟨[], bs, rfl, h⟩
  | cons o os ih =>
    obtain ⟨w, rest, rfl, hmore⟩ := exists_scan_rest h
    obtain ⟨v, rest, rfl, hrest⟩ := ih hmore
    exact ⟨w ++ v, rest, (List.append_assoc w v rest).symm, hrest⟩

theorem eq_map_some (h : os.map (·.getD c) = cs) (hc : c ∉ cs) : os = cs.map some := by
  induction os generalizing cs with
  | nil =>
    cases h
    rfl
  | cons o os ih =>
    subst h
    rw [List.map_cons, List.mem_cons, not_or] at hc
    cases o with
    | none => exact absurd rfl hc.1
    | some d => rw [ih rfl hc.2]; simp

theorem isSuffix_lossy (h : '\uFFFD' ∉ cs) : cs <:+ lossy bs ↔ encode cs <:+ bs := by
  constructor
  · rintro ⟨front, hfront⟩
    obtain ⟨os, os', hscan, -, hos'⟩ := List.map_eq_append_iff.1 hfront.symm
    rw [eq_map_some hos' h] at hscan
    obtain ⟨w, rest, rfl, hrest⟩ := exists_rest hscan
    exact ⟨w, by rw [eq_encode_of_scan hrest]⟩
  · rintro ⟨w, rfl⟩
    refine ⟨lossy w, ?_⟩
    have hread : (cs.map some).map (·.getD '\uFFFD') = cs := by
      rw [List.map_map]
      exact List.map_id cs
    rw [lossy, lossy, scan_append_encode, List.map_append, hread]

end Utf8

/-- A name has a suffix just if its bytes end with those of the suffix, whether the name is text or
not. Only a suffix with U+FFFD in it could be mistaken. -/
theorem hasSuffix_iff {suffix : String} (h : '\uFFFD' ∉ suffix.toList) (name : Bytes) :
    hasSuffix suffix name = true ↔ Utf8.encode suffix.toList <:+ name := by
  rw [hasSuffix, List.isSuffixOf_iff_suffix]
  exact Utf8.isSuffix_lossy h

/-- In front of the suffix stands a character of which the last byte is missing. -/
theorem hasSuffix_iff_truncated :
    '\uFFFD' ∉ ".ts".toList ∧
      hasSuffix ".ts" (0xE2 :: 0x82 :: Utf8.encode ".ts".toList) = true := by
  have h : '\uFFFD' ∉ ".ts".toList := by decide
  exact ⟨h, (hasSuffix_iff h _).2 ⟨[0xE2, 0x82], rfl⟩⟩

/-- An ill-formed part does pass for U+FFFD itself. -/
example : hasSuffix "\uFFFD" [0xFF] = true ∧ ¬Utf8.encode "\uFFFD".toList <:+ [0xFF] := by
  decide

end Repath
