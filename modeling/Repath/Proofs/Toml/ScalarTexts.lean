import Mathlib.Data.List.TakeWhile
import Repath.Proofs.Toml.Documents

namespace Repath.Toml.Scalar

open Unicode (hexDigit?)

variable {c : Char} {cs rest w : List Char} {kind : ScalarKind}

def Parts (w : List Char) : Prop := ∀ c ∈ w, isPart c = true

theorem parts_append {v : List Char} : Parts (w ++ v) ↔ Parts w ∧ Parts v := List.forall_mem_append

theorem parts_cons : Parts (c :: w) ↔ isPart c = true ∧ Parts w := List.forall_mem_cons

theorem parts_nil : Parts [] := fun _ h => absurd h List.not_mem_nil

theorem isPart_of_isAlphanum (h : c.isAlphanum = true) : isPart c = true := by
  simp only [isPart, h, Bool.true_or]

theorem isPart_of_isDigit (h : c.isDigit = true) : isPart c = true :=
  isPart_of_isAlphanum (by rw [Char.isAlphanum, h, Bool.or_true])

theorem isAlphanum_of_le (h : '0' ≤ c ∧ c ≤ '9' ∨ 'a' ≤ c ∧ c ≤ 'z' ∨ 'A' ≤ c ∧ c ≤ 'Z') :
    c.isAlphanum = true := by
  have hrange {a b : Char} (h : a ≤ c ∧ c ≤ b) : (decide (a ≤ c) && decide (c ≤ b)) = true :=
    Bool.and_eq_true_iff.2 ⟨decide_eq_true h.1, decide_eq_true h.2⟩
  apply Bool.or_eq_true_iff.2
  obtain h | h | h := h
  · exact .inr (hrange h)
  · exact .inl (Bool.or_eq_true_iff.2 (.inr (hrange h)))
  · exact .inl (Bool.or_eq_true_iff.2 (.inl (decide_eq_true h)))

theorem isPart_of_isHex (h : isHex c = true) : isPart c = true := by
  apply isPart_of_isAlphanum
  apply isAlphanum_of_le
  rw [isHex, hexDigit?] at h
  split at h
  · next hc => exact .inl hc
  split at h
  · next hc => exact .inr (.inl ⟨hc.1, Char.le_trans hc.2 (by decide)⟩)
  split at h
  · next hc => exact .inr (.inr ⟨hc.1, Char.le_trans hc.2 (by decide)⟩)
  · cases h

theorem isPart_of_isOctal (h : isOctal c = true) : isPart c = true := by
  have hc : '0' ≤ c ∧ c ≤ '7' := by simpa [isOctal] using h
  exact isPart_of_isAlphanum (isAlphanum_of_le (.inl ⟨hc.1, Char.le_trans hc.2 (by decide)⟩))

theorem isPart_of_isBinary (h : isBinary c = true) : isPart c = true := by
  have hc : c = '0' ∨ c = '1' := by simpa [isBinary] using h
  obtain rfl | rfl := hc
  · rfl
  · rfl

theorem isPart_of_isMark (h : isMark c = true) : isPart c = true := by
  have hc : c = 'e' ∨ c = 'E' := by simpa [isMark] using h
  obtain rfl | rfl := hc
  · rfl
  · rfl

theorem parts_of_isDigits {isDigit : Char → Bool} (hdigit : ∀ c, isDigit c = true → isPart c = true)
    (h : isDigits isDigit w = true) : Parts w := by
  fun_induction isDigits isDigit w with
  | case1 => cases h
  | case2 c => exact parts_cons.2 ⟨hdigit c h, parts_nil⟩
  | case3 c rest ih =>
    rw [Bool.and_eq_true] at h
    exact parts_cons.2 ⟨hdigit c h.1, parts_cons.2 ⟨rfl, ih h.2⟩⟩
  | case4 c rest _ _ ih =>
    rw [Bool.and_eq_true] at h
    exact parts_cons.2 ⟨hdigit c h.1, ih h.2⟩

theorem parts_of_unsigned (h : Parts (unsigned w)) : Parts w := by
  unfold unsigned at h
  split at h
  · exact parts_cons.2 ⟨rfl, h⟩
  · exact parts_cons.2 ⟨rfl, h⟩
  · exact h

theorem parts_of_isWhole (h : isWhole w = true) : Parts w := by
  rw [isWhole, Bool.and_eq_true] at h
  exact parts_of_isDigits (fun _ => isPart_of_isDigit) h.1

theorem parts_of_isInteger (h : isInteger w = true) : Parts w := by
  unfold isInteger at h
  split at h
  · exact parts_cons.2 ⟨rfl, parts_cons.2 ⟨rfl, parts_of_isDigits (fun _ => isPart_of_isHex) h⟩⟩
  · exact parts_cons.2 ⟨rfl, parts_cons.2 ⟨rfl, parts_of_isDigits (fun _ => isPart_of_isOctal) h⟩⟩
  · exact parts_cons.2 ⟨rfl, parts_cons.2 ⟨rfl, parts_of_isDigits (fun _ => isPart_of_isBinary) h⟩⟩
  · exact parts_of_unsigned (parts_of_isWhole h)

theorem parts_of_isExponent (h : isExponent w = true) : Parts w :=
  parts_of_unsigned (parts_of_isDigits (fun _ => isPart_of_isDigit) h)

theorem parts_of_isFloatTail (h : isFloatTail w = true) : Parts w := by
  unfold isFloatTail at h
  split at h
  · next rest =>
    rw [Bool.and_eq_true] at h
    have hfront := parts_of_isDigits (fun _ => isPart_of_isDigit) h.1
    have hback : Parts (rest.dropWhile fun c => !isMark c) := by
      have hpower := h.2
      split at hpower
      · next hnil =>
        rw [hnil]
        exact parts_nil
      · next c power hcons =>
        have hmark := List.head?_dropWhile_not (fun c => !isMark c) rest
        rw [hcons] at hmark ⊢
        exact parts_cons.2 ⟨isPart_of_isMark (by simpa using hmark), parts_of_isExponent hpower⟩
    refine parts_cons.2 ⟨rfl, ?_⟩
    rw [← List.takeWhile_append_dropWhile (p := fun c => !isMark c) (l := rest)]
    exact parts_append.2 ⟨hfront, hback⟩
  · rw [Bool.and_eq_true] at h
    exact parts_cons.2 ⟨isPart_of_isMark h.1, parts_of_isExponent h.2⟩
  · cases h

theorem parts_of_isFloat (h : isFloat w = true) : Parts w := by
  apply parts_of_unsigned
  simp only [isFloat, Bool.or_eq_true, Bool.and_eq_true, beq_iff_eq] at h
  obtain (hinf | hnan) | ⟨hwhole, htail⟩ := h
  · rw [hinf]
    exact List.all_eq_true.1 rfl
  · rw [hnan]
    exact List.all_eq_true.1 rfl
  · rw [← List.takeWhile_append_dropWhile (p := fun c => c != '.' && !isMark c) (l := unsigned w)]
    exact parts_append.2 ⟨parts_of_isWhole hwhole, parts_of_isFloatTail htail⟩

/-- A reader that takes characters of spellings only. -/
def TakesParts (read : List Char → Option (List Char)) : Prop :=
  ∀ cs rest, read cs = some rest → ∃ d, cs = d ++ rest ∧ Parts d

theorem exists_of_date (h : date? cs = some rest) :
    ∃ d, cs = d ++ rest ∧ Parts d ∧ date? d = some [] := by
  unfold date? at h
  split at h
  · next y1 y2 y3 y4 m1 m2 d1 d2 rest' =>
    dsimp only at h
    split at h
    · next hc =>
      cases h
      refine ⟨[y1, y2, y3, y4, '-', m1, m2, '-', d1, d2], rfl, ?_, if_pos hc⟩
      have hdigits := List.all_eq_true.1 hc.1
      intro c hc
      simp only [List.mem_cons, List.not_mem_nil, or_false] at hc hdigits
      obtain rfl | rfl | rfl | rfl | rfl | rfl | rfl | rfl | rfl | rfl := hc <;>
        first | rfl | exact isPart_of_isDigit (hdigits _ (by simp))
    · cases h
  · cases h

theorem takesParts_clock : TakesParts clock? := by
  intro cs rest h
  unfold clock? at h
  split at h
  · next h1 h2 m1 m2 rest' =>
    split at h
    · next hc =>
      cases h
      refine ⟨[h1, h2, ':', m1, m2], rfl, ?_⟩
      have hdigits := List.all_eq_true.1 hc.1
      intro c hc
      simp only [List.mem_cons, List.not_mem_nil, or_false] at hc hdigits
      obtain rfl | rfl | rfl | rfl | rfl := hc <;>
        first | rfl | exact isPart_of_isDigit (hdigits _ (by simp))
    · cases h
  · cases h

theorem takesParts_fraction : TakesParts fraction? := by
  intro cs rest h
  unfold fraction? at h
  split at h
  · next c rest' =>
    split at h
    · next hc =>
      cases h
      refine ⟨'.' :: c :: rest'.takeWhile Char.isDigit, ?_, ?_⟩
      · simp
      · refine parts_cons.2 ⟨rfl, parts_cons.2 ⟨isPart_of_isDigit hc, fun d hd => ?_⟩⟩
        exact isPart_of_isDigit (List.mem_takeWhile_imp hd)
    · cases h
  · cases h
  · cases h
    exact ⟨[], rfl, parts_nil⟩

theorem takesParts_time : TakesParts time? := by
  intro cs rest h
  rw [time?] at h
  obtain ⟨v, hv, hrest⟩ := Option.bind_eq_some_iff.1 h
  obtain ⟨d, rfl, hd⟩ := takesParts_clock cs v hv
  split at hrest
  · next s1 s2 v =>
    split at hrest
    · next hs =>
      obtain ⟨f, rfl, hf⟩ := takesParts_fraction v rest hrest
      refine ⟨d ++ ':' :: s1 :: s2 :: f, by simp, parts_append.2 ⟨hd, ?_⟩⟩
      exact parts_cons.2 ⟨rfl, parts_cons.2 ⟨isPart_of_isDigit hs.1,
        parts_cons.2 ⟨isPart_of_isDigit hs.2.1, hf⟩⟩⟩
    · cases hrest
  · cases hrest
  · cases hrest
    exact ⟨d, rfl, hd⟩

theorem parts_of_isOffset (h : isOffset w = true) : Parts w := by
  have hclock : ∀ {v}, (clock? v == some []) = true → Parts v := by
    intro v hv
    obtain ⟨d, rfl, hd⟩ := takesParts_clock v [] (by simpa using hv)
    rwa [List.append_nil]
  unfold isOffset at h
  split at h
  · exact parts_nil
  · exact List.all_eq_true.1 rfl
  · exact List.all_eq_true.1 rfl
  · exact parts_cons.2 ⟨rfl, hclock h⟩
  · exact parts_cons.2 ⟨rfl, hclock h⟩
  · cases h

theorem head_of_time (h : time? w = some rest) : ∃ c v, w = c :: v ∧ c.isDigit = true := by
  rw [time?] at h
  obtain ⟨v, hv, -⟩ := Option.bind_eq_some_iff.1 h
  unfold clock? at hv
  split at hv
  · next h1 h2 m1 m2 rest' =>
    split at hv
    · next hc => exact ⟨h1, _, rfl, List.all_eq_true.1 hc.1 h1 (by simp)⟩
    · cases hv
  · cases hv

inductive Spaced : List Char → Prop
  | intro {d v : List Char} {c : Char} (hd : Parts d) (hdate : date? d = some [])
      (hc : c.isDigit = true) (hv : Parts (c :: v)) : Spaced (d ++ ' ' :: c :: v)

theorem spaced_of_isDate (h : isDate w = true) : Parts w ∨ Spaced w := by
  unfold isDate at h
  split at h
  · next hdate =>
    obtain ⟨d, rfl, hd, -⟩ := exists_of_date hdate
    exact .inl (by rwa [List.append_nil])
  · next c rest hdate =>
    obtain ⟨d, rfl, hd, hday⟩ := exists_of_date hdate
    simp only [Bool.and_eq_true, Bool.or_eq_true, beq_iff_eq, Option.any_eq_true] at h
    obtain ⟨hc, v, htime, hoffset⟩ := h
    obtain ⟨t, rfl, ht⟩ := takesParts_time rest v htime
    have htv := parts_append.2 ⟨ht, parts_of_isOffset hoffset⟩
    obtain (rfl | rfl) | rfl := hc
    · exact .inl (parts_append.2 ⟨hd, parts_cons.2 ⟨rfl, htv⟩⟩)
    · exact .inl (parts_append.2 ⟨hd, parts_cons.2 ⟨rfl, htv⟩⟩)
    · obtain ⟨c, u, htu, hc⟩ := head_of_time htime
      rw [htu] at htv ⊢
      exact .inr (.intro hd hday hc htv)
  · obtain ⟨d, rfl, hd⟩ := takesParts_time w [] (by simpa using h)
    exact .inl (by rwa [List.append_nil])

theorem spaced_of_kind (h : kind? w = some kind) : Parts w ∨ Spaced w := by
  unfold kind? at h
  split at h
  · next hw =>
    simp only [Bool.or_eq_true, beq_iff_eq] at hw
    left
    obtain rfl | rfl := hw
    · exact List.all_eq_true.1 rfl
    · exact List.all_eq_true.1 rfl
  split at h
  · next hw => exact .inl (parts_of_isInteger hw)
  split at h
  · next hw => exact .inl (parts_of_isFloat hw)
  split at h
  · next hw => exact spaced_of_isDate hw
  · cases h

theorem head_of_kind (h : kind? w = some kind) : ∃ c v, w = c :: v ∧ isPart c = true := by
  obtain hw | hw := spaced_of_kind h
  · cases w with
    | nil =>
      have hnil : kind? [] = none := by decide
      rw [hnil] at h
      cases h
    | cons c v => exact ⟨c, v, rfl, (parts_cons.1 hw).1⟩
  · obtain @⟨d, v, c, hd, hdate, hc, hv⟩ := hw
    cases d with
    | nil => cases hdate
    | cons c v => exact ⟨c, _, rfl, (parts_cons.1 hd).1⟩

theorem split_of_kind (h : kind? w = some kind) (hrest : ∀ c ∈ rest.head?, isPart c = false)
    (hblank : ∀ c v, rest = ' ' :: c :: v → c.isDigit = false) : split (w ++ rest) = (w, rest) := by
  obtain hw | hw := spaced_of_kind h
  · obtain ⟨htake, hdrop⟩ := span_append hw hrest
    rw [split]
    simp only [htake, hdrop]
    split
    · next c v => rw [hblank c v rfl, Bool.and_false, if_neg (by decide)]
    · rfl
  · obtain @⟨d, v, c, hd, hdate, hc, hv⟩ := hw
    obtain ⟨htake, hdrop⟩ : (d ++ ' ' :: c :: (v ++ rest)).takeWhile isPart = d ∧
        (d ++ ' ' :: c :: (v ++ rest)).dropWhile isPart = ' ' :: c :: (v ++ rest) :=
      span_append hd (by simp [isPart])
    obtain ⟨htake', hdrop'⟩ := span_append hv hrest
    rw [List.cons_append] at htake' hdrop'
    rw [List.append_assoc, List.cons_append, List.cons_append, split]
    simp only [htake, hdrop, hdate, hc, htake', hdrop']
    rfl

theorem append_of_split (h : split cs = (w, rest)) : cs = w ++ rest := by
  have hcs := (List.takeWhile_append_dropWhile (p := isPart) (l := cs)).symm
  unfold split at h
  dsimp only at h
  split at h
  · next c v hdrop =>
    rw [hdrop] at hcs
    split at h
    · cases h
      rw [List.append_assoc, List.cons_append, List.takeWhile_append_dropWhile]
      exact hcs
    · cases h
      exact hcs
  · cases h
    exact hcs

end Repath.Toml.Scalar
