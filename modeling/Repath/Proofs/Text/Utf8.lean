import Repath.Text.Utf8

namespace Repath.Utf8

variable {b : UInt8} {bs w : Bytes} {c : Char} {cs : List Char} {p : Partial} {n : Nat}
  {os : List (Option Char)}

theorem start_one (h : b.toNat < 0x80) : start b = ([some (Char.ofNat b.toNat)], none) := by
  have hb : b < 0x80 := UInt8.lt_iff_toNat_lt.2 h
  simp [start, hb]

theorem start_two (h : 0xC2 ≤ b.toNat) (h' : b.toNat < 0xE0) :
    start b = ([], some ⟨1, b.toNat - 0xC0, 0x80, 0xBF⟩) := by
  have h₁ : ¬ b < 0x80 := by rw [UInt8.lt_iff_toNat_lt]; simp; omega
  have h₂ : ¬ b < 0xC2 := by rw [UInt8.lt_iff_toNat_lt]; simp; omega
  have h₃ : b < 0xE0 := by rw [UInt8.lt_iff_toNat_lt]; simpa
  simp [start, h₁, h₂, h₃]

theorem start_three (h : 0xE0 ≤ b.toNat) (h' : b.toNat < 0xF0) :
    start b = ([], some ⟨2, b.toNat - 0xE0, if b = 0xE0 then 0xA0 else 0x80,
      if b = 0xED then 0x9F else 0xBF⟩) := by
  have h₁ : ¬ b < 0x80 := by rw [UInt8.lt_iff_toNat_lt]; simp; omega
  have h₂ : ¬ b < 0xC2 := by rw [UInt8.lt_iff_toNat_lt]; simp; omega
  have h₃ : ¬ b < 0xE0 := by rw [UInt8.lt_iff_toNat_lt]; simpa
  have h₄ : b < 0xF0 := by rw [UInt8.lt_iff_toNat_lt]; simpa
  by_cases h₅ : b = 0xE0
  · subst h₅; rfl
  · by_cases h₆ : b = 0xED
    · subst h₆; rfl
    · simp [start, h₁, h₂, h₃, h₄, h₅, h₆]

theorem start_four (h : 0xF0 ≤ b.toNat) (h' : b.toNat ≤ 0xF4) :
    start b = ([], some ⟨3, b.toNat - 0xF0, if b = 0xF0 then 0x90 else 0x80,
      if b = 0xF4 then 0x8F else 0xBF⟩) := by
  have h₁ : ¬ b < 0x80 := by rw [UInt8.lt_iff_toNat_lt]; simp; omega
  have h₂ : ¬ b < 0xC2 := by rw [UInt8.lt_iff_toNat_lt]; simp; omega
  have h₃ : ¬ b < 0xE0 := by rw [UInt8.lt_iff_toNat_lt]; simp; omega
  have h₄ : ¬ b < 0xF0 := by rw [UInt8.lt_iff_toNat_lt]; simpa
  have h₅ : b ≠ 0xE0 := by rintro rfl; simp at h
  have h₆ : b ≠ 0xED := by rintro rfl; simp at h
  by_cases h₇ : b = 0xF0
  · subst h₇; rfl
  · by_cases h₈ : b = 0xF4
    · subst h₈; rfl
    · have h₉ : b < 0xF4 := by
        have : b.toNat ≠ 0xF4 := fun he => h₈ (UInt8.toNat_inj.1 he)
        rw [UInt8.lt_iff_toNat_lt]; simp; omega
      simp [start, h₁, h₂, h₃, h₄, h₅, h₆, h₇, h₈, h₉]

theorem start_bad (h : (0x80 ≤ b.toNat ∧ b.toNat < 0xC2) ∨ 0xF4 < b.toNat) :
    start b = ([none], none) := by
  have h₁ : ¬ b < 0x80 := by rw [UInt8.lt_iff_toNat_lt]; simp; omega
  by_cases h₂ : b < 0xC2
  · simp [start, h₁, h₂]
  · have hlt : 0xF4 < b.toNat := by rw [UInt8.lt_iff_toNat_lt] at h₂; simp at h₂; omega
    have h₃ : ¬ b < 0xE0 := by rw [UInt8.lt_iff_toNat_lt]; simp; omega
    have h₄ : ¬ b < 0xF0 := by rw [UInt8.lt_iff_toNat_lt]; simp; omega
    have h₅ : ¬ b < 0xF4 := by rw [UInt8.lt_iff_toNat_lt]; simp; omega
    have h₆ : ∀ k : UInt8, k.toNat ≤ 0xF4 → b ≠ k := by rintro k hk rfl; omega
    simp [start, h₁, h₂, h₃, h₄, h₅, h₆ 0xE0 (by decide), h₆ 0xED (by decide),
      h₆ 0xF0 (by decide), h₆ 0xF4 (by decide)]

def IsTail (b : UInt8) : Prop := 0x80 ≤ b.toNat ∧ b.toNat ≤ 0xBF

/-- The rows of bytes that spell a number: no shorter row would do, and no surrogate has one. -/
inductive Spells : Nat → Bytes → Prop
  | one {a : UInt8} (ha : a.toNat < 0x80) : Spells a.toNat [a]
  | two {a b : UInt8} (ha : 0xC2 ≤ a.toNat) (ha' : a.toNat < 0xE0) (hb : IsTail b) :
    Spells (64 * (a.toNat - 0xC0) + (b.toNat - 0x80)) [a, b]
  | three {a b c : UInt8} (ha : 0xE0 ≤ a.toNat) (ha' : a.toNat < 0xF0) (hb : IsTail b)
    (hc : IsTail c) (hlong : a = 0xE0 → 0xA0 ≤ b.toNat) (hplain : a = 0xED → b.toNat ≤ 0x9F) :
    Spells (64 * (64 * (a.toNat - 0xE0) + (b.toNat - 0x80)) + (c.toNat - 0x80)) [a, b, c]
  | four {a b c d : UInt8} (ha : 0xF0 ≤ a.toNat) (ha' : a.toNat ≤ 0xF4) (hb : IsTail b)
    (hc : IsTail c) (hd : IsTail d) (hlong : a = 0xF0 → 0x90 ≤ b.toNat)
    (hsmall : a = 0xF4 → b.toNat ≤ 0x8F) :
    Spells (64 * (64 * (64 * (a.toNat - 0xF0) + (b.toNat - 0x80)) + (c.toNat - 0x80))
      + (d.toNat - 0x80)) [a, b, c, d]

theorem toNat_ofNat (h : n.isValidChar) : (Char.ofNat n).toNat = n := by
  have hchar : Char.ofNat n = Char.ofNatAux n h := dif_pos h
  rw [hchar]
  rfl

/-- Behind the least first byte of three or of four, the second byte has a greater least value. -/
theorem thirtyTwo_le {a b : UInt8} (ha : 0xE0 ≤ a.toNat) (hlong : a = 0xE0 → 0xA0 ≤ b.toNat) :
    32 ≤ 64 * (a.toNat - 0xE0) + (b.toNat - 0x80) := by
  by_cases h : a = 0xE0
  · have := hlong h
    omega
  · have : a.toNat ≠ 0xE0 := fun he => h (UInt8.toNat_inj.1 he)
    omega

theorem sixteen_le {a b : UInt8} (ha : 0xF0 ≤ a.toNat) (hlong : a = 0xF0 → 0x90 ≤ b.toNat) :
    16 ≤ 64 * (a.toNat - 0xF0) + (b.toNat - 0x80) := by
  by_cases h : a = 0xF0
  · have := hlong h
    omega
  · have : a.toNat ≠ 0xF0 := fun he => h (UInt8.toNat_inj.1 he)
    omega

theorem Spells.isValidChar (h : Spells n w) : n.isValidChar := by
  cases h with
  | one ha => exact .inl (by omega)
  | two ha ha' hb => exact .inl (by obtain ⟨_, _⟩ := hb; omega)
  | @three a b c ha ha' hb hc hlong hplain =>
    obtain ⟨_, _⟩ := hb
    obtain ⟨_, _⟩ := hc
    by_cases h : a = 0xED
    · have := hplain h
      subst h
      exact .inl (by simp; omega)
    · have : a.toNat ≠ 0xED := fun he => h (UInt8.toNat_inj.1 he)
      obtain hlt | hlt : a.toNat < 0xED ∨ 0xED < a.toNat := by omega
      · exact .inl (by omega)
      · exact .inr ⟨by omega, by omega⟩
  | @four a b c d ha ha' hb hc hd hlong hsmall =>
    obtain ⟨_, _⟩ := hb
    obtain ⟨_, _⟩ := hc
    obtain ⟨_, _⟩ := hd
    have hlow := sixteen_le ha hlong
    have hhigh : 64 * (a.toNat - 0xF0) + (b.toNat - 0x80) < 272 := by
      by_cases h : a = 0xF4
      · have := hsmall h
        subst h
        simp
        omega
      · have : a.toNat ≠ 0xF4 := fun he => h (UInt8.toNat_inj.1 he)
        omega
    exact .inr ⟨by omega, by omega⟩

theorem scan_more (h : p.lo.toNat ≤ b.toNat) (h' : b.toNat ≤ p.hi.toNat) (hn : p.missing = n + 2) :
    scan (some p) (b :: bs) =
      scan (some ⟨n + 1, 64 * p.value + (b.toNat - 0x80), 0x80, 0xBF⟩) bs := by
  have hb : p.lo ≤ b ∧ b ≤ p.hi := ⟨UInt8.le_iff_toNat_le.2 h, UInt8.le_iff_toNat_le.2 h'⟩
  simp [scan, step, hb, hn]

theorem scan_last (h : p.lo.toNat ≤ b.toNat) (h' : b.toNat ≤ p.hi.toNat) (hn : p.missing = 1) :
    scan (some p) (b :: bs) =
      some (Char.ofNat (64 * p.value + (b.toNat - 0x80))) :: scan none bs := by
  have hb : p.lo ≤ b ∧ b ≤ p.hi := ⟨UInt8.le_iff_toNat_le.2 h, UInt8.le_iff_toNat_le.2 h'⟩
  simp [scan, step, hb, hn]

theorem bounds_of_scan (h : scan (some p) bs = some c :: os) :
    ∃ b rest, bs = b :: rest ∧ p.lo.toNat ≤ b.toNat ∧ b.toNat ≤ p.hi.toNat := by
  cases bs with
  | nil => simp [scan] at h
  | cons b rest =>
    refine ⟨b, rest, rfl, ?_⟩
    by_cases hb : p.lo ≤ b ∧ b ≤ p.hi
    · exact ⟨UInt8.le_iff_toNat_le.1 hb.1, UInt8.le_iff_toNat_le.1 hb.2⟩
    · simp [scan, step, if_neg hb] at h

theorem scan_none_cons : scan none (b :: bs) = (start b).1 ++ scan (start b).2 bs := rfl

theorem bounds_three {a : UInt8} :
    ((if a = 0xE0 then 0xA0 else 0x80 : UInt8).toNat ≤ b.toNat ∧
        b.toNat ≤ (if a = 0xED then 0x9F else 0xBF : UInt8).toNat) ↔
      IsTail b ∧ (a = 0xE0 → 0xA0 ≤ b.toNat) ∧ (a = 0xED → b.toNat ≤ 0x9F) := by
  unfold IsTail
  by_cases h : a = 0xE0
  · subst h
    simp
    omega
  · by_cases h' : a = 0xED
    · subst h'
      simp
      omega
    · simp [h, h']

theorem bounds_four {a : UInt8} :
    ((if a = 0xF0 then 0x90 else 0x80 : UInt8).toNat ≤ b.toNat ∧
        b.toNat ≤ (if a = 0xF4 then 0x8F else 0xBF : UInt8).toNat) ↔
      IsTail b ∧ (a = 0xF0 → 0x90 ≤ b.toNat) ∧ (a = 0xF4 → b.toNat ≤ 0x8F) := by
  unfold IsTail
  by_cases h : a = 0xF0
  · subst h
    simp
    omega
  · by_cases h' : a = 0xF4
    · subst h'
      simp
      omega
    · simp [h, h']

theorem Spells.scan (h : Spells n w) (bs : Bytes) :
    scan none (w ++ bs) = some (Char.ofNat n) :: scan none bs := by
  cases h with
  | one ha => rw [List.cons_append, scan_none_cons, start_one ha]; rfl
  | two ha ha' hb =>
    rw [List.cons_append, scan_none_cons, start_two ha ha', List.nil_append]
    exact scan_last hb.1 hb.2 rfl
  | @three a b c ha ha' hb hc hlong hplain =>
    obtain ⟨hlo, hhi⟩ := bounds_three.2 ⟨hb, hlong, hplain⟩
    rw [List.cons_append, scan_none_cons, start_three ha ha', List.nil_append, List.cons_append,
      scan_more hlo hhi rfl]
    exact scan_last hc.1 hc.2 rfl
  | @four a b c d ha ha' hb hc hd hlong hsmall =>
    obtain ⟨hlo, hhi⟩ := bounds_four.2 ⟨hb, hlong, hsmall⟩
    rw [List.cons_append, scan_none_cons, start_four ha ha', List.nil_append, List.cons_append,
      scan_more hlo hhi rfl, List.cons_append]
    refine (scan_more (p := ⟨2, _, 0x80, 0xBF⟩) hc.1 hc.2 rfl).trans ?_
    exact scan_last hd.1 hd.2 rfl

theorem exists_spells (h : scan none bs = some c :: os) :
    ∃ n w rest, bs = w ++ rest ∧ Spells n w := by
  cases bs with
  | nil => simp [scan] at h
  | cons a bs =>
    rw [scan_none_cons] at h
    have hlt := a.toNat_lt
    by_cases h₁ : a.toNat < 0x80
    · exact ⟨_, [a], bs, rfl, .one h₁⟩
    by_cases h₂ : a.toNat < 0xC2
    · rw [start_bad (.inl ⟨by omega, h₂⟩)] at h
      simp at h
    by_cases h₃ : a.toNat < 0xE0
    · rw [start_two (by omega) h₃] at h
      obtain ⟨b, rest, rfl, hb⟩ := bounds_of_scan h
      exact ⟨_, [a, b], rest, rfl, .two (by omega) h₃ hb⟩
    by_cases h₄ : a.toNat < 0xF0
    · rw [start_three (by omega) h₄, List.nil_append] at h
      obtain ⟨b, rest, rfl, hlo, hhi⟩ := bounds_of_scan h
      rw [scan_more hlo hhi rfl] at h
      obtain ⟨c, rest, rfl, hc⟩ := bounds_of_scan h
      obtain ⟨hb, hlong, hplain⟩ := bounds_three.1 ⟨hlo, hhi⟩
      exact ⟨_, [a, b, c], rest, rfl, .three (by omega) h₄ hb hc hlong hplain⟩
    by_cases h₅ : a.toNat ≤ 0xF4
    · rw [start_four (by omega) h₅, List.nil_append] at h
      obtain ⟨b, rest, rfl, hlo, hhi⟩ := bounds_of_scan h
      rw [scan_more hlo hhi rfl] at h
      obtain ⟨c, rest, rfl, hc⟩ := bounds_of_scan h
      rw [scan_more hc.1 hc.2 rfl] at h
      obtain ⟨d, rest, rfl, hd⟩ := bounds_of_scan h
      obtain ⟨hb, hlong, hsmall⟩ := bounds_four.1 ⟨hlo, hhi⟩
      exact ⟨_, [a, b, c, d], rest, rfl, .four (by omega) h₅ hb hc hd hlong hsmall⟩
    · rw [start_bad (.inr (by omega))] at h
      simp at h

theorem ofNat_eq {a : UInt8} (h : n = a.toNat) : UInt8.ofNat n = a := by
  rw [h, UInt8.ofNat_toNat]

theorem Spells.encodeChar (h : Spells n w) : String.utf8EncodeChar (Char.ofNat n) = w := by
  have hn : (Char.ofNat n).val.toNat = n := toNat_ofNat h.isValidChar
  rw [String.utf8EncodeChar, hn]
  cases h with
  | one ha =>
    rw [if_pos (by omega), UInt8.ofNat_toNat]
  | @two a b ha ha' hb =>
    obtain ⟨_, _⟩ := hb
    rw [if_neg (by omega), if_pos (by omega), ofNat_eq (a := a) (by omega),
      ofNat_eq (a := b) (by omega)]
  | @three a b c ha ha' hb hc hlong hplain =>
    obtain ⟨_, _⟩ := hb
    obtain ⟨_, _⟩ := hc
    have := thirtyTwo_le ha hlong
    rw [if_neg (by omega), if_neg (by omega), if_pos (by omega), ofNat_eq (a := a) (by omega),
      ofNat_eq (a := b) (by omega), ofNat_eq (a := c) (by omega)]
  | @four a b c d ha ha' hb hc hd hlong hsmall =>
    obtain ⟨_, _⟩ := hb
    obtain ⟨_, _⟩ := hc
    obtain ⟨_, _⟩ := hd
    have := sixteen_le ha hlong
    rw [if_neg (by omega), if_neg (by omega), if_neg (by omega), ofNat_eq (a := a) (by omega),
      ofNat_eq (a := b) (by omega), ofNat_eq (a := c) (by omega), ofNat_eq (a := d) (by omega)]

theorem exists_byte (h : n < 256) : ∃ a : UInt8, a.toNat = n :=
  ⟨UInt8.ofNat n, by simp; omega⟩

theorem exists_tail (n : Nat) : ∃ a : UInt8, a.toNat = 0x80 + n % 64 ∧ IsTail a := by
  obtain ⟨a, ha⟩ := exists_byte (n := 0x80 + n % 64) (by omega)
  exact ⟨a, ha, by omega, by omega⟩

theorem exists_spells_char (c : Char) : ∃ w, Spells c.toNat w := by
  have hv : c.toNat < 0xD800 ∨ (0xDFFF < c.toNat ∧ c.toNat < 0x110000) := c.valid
  generalize c.toNat = n at hv
  have of_eq : ∀ {m w}, Spells m w → m = n → Spells n w := fun h hm => hm ▸ h
  by_cases h₁ : n < 0x80
  · obtain ⟨a, rfl⟩ := exists_byte (n := n) (by omega)
    exact ⟨_, .one h₁⟩
  obtain ⟨d, hd, hd'⟩ := exists_tail n
  by_cases h₂ : n < 0x800
  · obtain ⟨a, ha⟩ := exists_byte (n := 0xC0 + n / 64) (by omega)
    exact ⟨[a, d], of_eq (.two (by omega) (by omega) hd') (by omega)⟩
  obtain ⟨c, hc, hc'⟩ := exists_tail (n / 64)
  by_cases h₃ : n < 0x10000
  · obtain ⟨a, ha⟩ := exists_byte (n := 0xE0 + n / 64 / 64) (by omega)
    refine ⟨[a, c, d], of_eq (.three (by omega) (by omega) hc' hd' ?_ ?_) (by omega)⟩
    · rintro rfl
      simp at ha
      omega
    · rintro rfl
      simp at ha
      omega
  · obtain ⟨b, hb, hb'⟩ := exists_tail (n / 64 / 64)
    obtain ⟨a, ha⟩ := exists_byte (n := 0xF0 + n / 64 / 64 / 64) (by omega)
    refine ⟨[a, b, c, d], of_eq (.four (by omega) (by omega) hb' hc' hd' ?_ ?_) (by omega)⟩
    · rintro rfl
      simp at ha
      omega
    · rintro rfl
      simp at ha
      omega

theorem scan_encodeChar (c : Char) (bs : Bytes) :
    scan none (String.utf8EncodeChar c ++ bs) = some c :: scan none bs := by
  obtain ⟨w, hw⟩ := exists_spells_char c
  have hc := hw.encodeChar
  have hs := hw.scan bs
  rw [Char.ofNat_toNat] at hc hs
  rw [hc, hs]

theorem mapM_id_eq_some : os.mapM id = some cs ↔ os = cs.map some := by
  induction os generalizing cs with
  | nil => cases cs <;> simp
  | cons o os ih =>
    cases o with
    | none => cases cs <;> simp
    | some c =>
      rw [List.mapM_cons]
      cases hos : os.mapM id with
      | none =>
        have hne : ∀ ds, os ≠ List.map some ds := fun ds hd => by simp [ih.2 hd] at hos
        cases cs <;> simp [hne]
      | some ds =>
        obtain rfl := ih.1 hos
        cases cs <;> simp [List.map_inj_right]

theorem scan_encode (cs : List Char) : scan none (encode cs) = cs.map some := by
  induction cs with
  | nil => rfl
  | cons c cs ih => rw [encode, List.flatMap_cons, scan_encodeChar, ← encode, ih, List.map_cons]

theorem scan_partial_ne_nil (p : Partial) (bs : Bytes) : scan (some p) bs ≠ [] := by
  induction bs generalizing p with
  | nil => simp [scan]
  | cons b bs ih =>
    by_cases hb : p.lo ≤ b ∧ b ≤ p.hi
    · by_cases hn : p.missing = 1
      · simp [scan, step, hb, hn]
      · simp [scan, step, hb, hn, ih]
    · simp [scan, step, hb]

theorem scan_ne_nil (b : UInt8) (bs : Bytes) : scan none (b :: bs) ≠ [] := by
  have hout : (start b).2 = none → (start b).1 ≠ [] := by
    unfold start
    repeat' split
    all_goals simp
  rw [scan_none_cons]
  cases hp : (start b).2 with
  | none => simp [hout hp]
  | some p => simp [scan_partial_ne_nil]

theorem eq_encode_of_scan (h : scan none bs = cs.map some) : bs = encode cs := by
  induction cs generalizing bs with
  | nil =>
    cases bs with
    | nil => rfl
    | cons b bs => exact absurd h (scan_ne_nil b bs)
  | cons c cs ih =>
    obtain ⟨n, w, rest, rfl, hw⟩ := exists_spells h
    rw [hw.scan, List.map_cons, List.cons.injEq, Option.some.injEq] at h
    rw [encode, List.flatMap_cons, ← h.1, hw.encodeChar, ih h.2, encode]

/-- The strict reading of a row of bytes succeeds on the encodings of texts, and on nothing else. -/
theorem decode?_eq_some_iff : decode? bs = some cs ↔ bs = encode cs := by
  rw [decode?, mapM_id_eq_some]
  constructor
  · exact eq_encode_of_scan
  · rintro rfl
    exact scan_encode cs

theorem encode_injective : Function.Injective encode := by
  intro cs cs' h
  have hcs := decode?_eq_some_iff.2 (rfl : encode cs = encode cs)
  rw [decode?_eq_some_iff.2 h] at hcs
  exact (Option.some.inj hcs).symm

end Repath.Utf8
