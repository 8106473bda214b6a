import Mathlib.Data.List.Basic
import Repath.Toml.Quoted
import Repath.Toml.Writer

namespace Repath.Toml

variable {c q : Char} {s w cs rest : List Char} {lines : Bool} {free run : Nat}
  {read : List Char → Option (List Char × List Char)}

theorem isPlain_of_isControl (h : isControl c = false) (hn : c ≠ '\n') : isPlain c = true := by
  simp only [isControl, isPlain, Bool.or_eq_false_iff, Bool.and_eq_false_iff,
    decide_eq_false_iff_not, bne_eq_false_iff_eq, beq_eq_false_iff_ne, Bool.or_eq_true, Bool.and_eq_true, decide_eq_true_eq,
    bne_iff_ne, beq_iff_eq] at h ⊢
  obtain ⟨(hlow | htab) | hline, hdel⟩ := h
  · exact .inr ⟨Nat.le_of_not_lt hlow, hdel⟩
  · exact .inl htab
  · exact absurd hline hn

/-- A reader that takes escapes for what they stand for, and characters without a part in the
notation for themselves. -/
structure Unescapes (read : List Char → Option (List Char × List Char)) : Prop where
  letter : ∀ {c d : Char} (cs : List Char), escaped? c = some d →
    read ('\\' :: c :: cs) = prepend d (read cs)
  digits : ∀ {a b c d x : Char} (cs : List Char), charOfHex? [a, b, c, d] = some x →
    read ('\\' :: 'u' :: a :: b :: c :: d :: cs) = prepend x (read cs)
  plain : ∀ {c : Char} (cs : List Char), isPlain c = true → c ≠ '\\' → c ≠ '"' →
    read (c :: cs) = prepend c (read cs)

theorem unescapes_basic : Unescapes basic where
  letter cs h := by
    unfold escaped? at h
    split at h <;> cases h <;> rfl
  digits cs h := by
    rw [basic, h]
    rfl
  plain cs hp hb hq := by
    rw [basic.eq_def]
    split <;> simp_all

theorem unescapes_basicLines : Unescapes (basicLines false) where
  letter cs h := by
    unfold escaped? at h
    split at h <;> cases h <;> rfl
  digits cs h := by
    rw [basicLines, h]
    rfl
  plain cs hp hb hq := by
    rw [basicLines.eq_def]
    split
    case h_7 =>
      rename_i heq
      obtain ⟨rfl, -⟩ := List.cons.inj heq
      exact absurd hp (by decide)
    all_goals simp_all

theorem charOfHex?_hexUpper : ∀ n < 128,
    charOfHex? ['0', '0', hexUpper (n / 16), hexUpper (n % 16)] = some (Char.ofNat n) := by
  decide +kernel

theorem Unescapes.read_escapeChar (h : Unescapes read) (hq : c ≠ '"') :
    read (escapeChar c ++ cs) = prepend c (read cs) := by
  rw [escapeChar]
  by_cases hb : c = '\x08'
  · subst c; exact h.letter cs rfl
  by_cases ht : c = '\t'
  · subst c; exact h.letter cs rfl
  by_cases hn : c = '\n'
  · subst c; exact h.letter cs rfl
  by_cases hf : c = '\x0c'
  · subst c; exact h.letter cs rfl
  by_cases hr : c = '\r'
  · subst c; exact h.letter cs rfl
  by_cases hs : c = '\\'
  · subst c; exact h.letter cs rfl
  simp only [hb, ht, hn, hf, hr, hs, if_false]
  cases hc : isControl c with
  | false => exact h.plain cs (isPlain_of_isControl hc hn) hs hq
  | true =>
    have hlt : c.toNat < 128 := by
      simp only [isControl, Bool.or_eq_true, Bool.and_eq_true, decide_eq_true_eq, beq_iff_eq] at hc
      omega
    have hx := charOfHex?_hexUpper c.toNat hlt
    rw [Char.ofNat_toNat] at hx
    exact h.digits cs hx

theorem escapeText_quote (h : run < free) :
    escapeText lines free run ('"' :: s) = '"' :: escapeText lines free (run + 1) s := by
  rw [escapeText, if_pos rfl, if_pos h]

theorem escapeText_full (h : free ≤ run) :
    escapeText lines free run ('"' :: s) = '\\' :: '"' :: escapeText lines free 0 s := by
  rw [escapeText, if_pos rfl, if_neg (Nat.not_lt.2 h)]

theorem escapeText_lineEnd :
    escapeText true free run ('\n' :: s) = '\n' :: escapeText true free 0 s := by
  rw [escapeText, if_neg (by decide), if_pos ⟨rfl, rfl⟩]

theorem escapeText_other (hq : c ≠ '"') (hn : c = '\n' → lines = false) :
    escapeText lines free run (c :: s) = escapeChar c ++ escapeText lines free 0 s := by
  rw [escapeText, if_neg hq, if_neg fun h => ?_]
  rw [hn h.1] at h
  exact absurd h.2 (by decide)

theorem escapeChar_cons (hq : c ≠ '"') :
    ∃ d w, escapeChar c = d :: w ∧ d ≠ '"' ∧ d ≠ '\r' ∧ d ≠ '\n' := by
  rw [escapeChar]
  repeat' split
  all_goals first
    | exact ⟨_, _, rfl, by decide, by decide, by decide⟩
    | exact ⟨c, [], rfl, hq, by assumption, by assumption⟩

theorem escapeText_cons (lines : Bool) (free run : Nat) (c : Char) (s : List Char) :
    ∃ d w, escapeText lines free run (c :: s) = d :: w ∧ (d = '"' → c = '"' ∧ run < free) ∧
      d ≠ '\r' ∧ (d = '\n' → c = '\n') := by
  by_cases hq : c = '"'
  · subst c
    by_cases hrun : run < free
    · exact ⟨_, _, escapeText_quote hrun, fun _ => ⟨rfl, hrun⟩, by decide, by decide⟩
    · exact ⟨_, _, escapeText_full (Nat.not_lt.1 hrun), (absurd · (by decide)), by decide,
        (absurd · (by decide))⟩
  by_cases hn : c = '\n' ∧ lines = true
  · obtain ⟨rfl, rfl⟩ := hn
    exact ⟨_, _, escapeText_lineEnd, (absurd · (by decide)), by decide, fun _ => rfl⟩
  · obtain ⟨d, w, hw, hdq, hdr, hdn⟩ := escapeChar_cons hq
    refine ⟨d, w ++ escapeText lines free 0 s, ?_, (absurd · hdq), hdr, (absurd · hdn)⟩
    rw [escapeText_other hq (by simpa using hn), hw, List.cons_append]

theorem basic_escapeText :
    basic (escapeText false 0 run s ++ '"' :: rest) = some (s, rest) := by
  induction s generalizing run with
  | nil => rfl
  | cons c s ih =>
    by_cases hq : c = '"'
    · subst c
      rw [escapeText_full (Nat.zero_le run), List.cons_append, List.cons_append,
        unescapes_basic.letter _ rfl, ih]
      rfl
    · rw [escapeText_other hq fun _ => rfl, List.append_assoc,
        unescapes_basic.read_escapeChar hq, ih]
      rfl

theorem closing_nil (hrest : rest.head? ≠ some q) : closing q rest = ([], rest) := by
  cases rest with
  | nil => rfl
  | cons a rest =>
    have ha : a ≠ q := by simpa using hrest
    cases rest <;> simp [closing, ha]

theorem closing_one (hrest : rest.head? ≠ some q) : closing q (q :: rest) = ([q], rest) := by
  cases rest with
  | nil => simp [closing]
  | cons a rest =>
    have ha : a ≠ q := by simpa using hrest
    simp [closing, ha]

theorem closing_two : closing q (q :: q :: rest) = ([q, q], rest) := by
  simp [closing]

theorem basicLines_quote (h : ¬ ['"', '"'] <+: cs) :
    basicLines false ('"' :: cs) = prepend '"' (basicLines false cs) := by
  rw [basicLines.eq_def]
  split
  case h_2 =>
    rename_i heq
    obtain ⟨-, rfl⟩ := List.cons.inj heq
    exact absurd ⟨_, rfl⟩ h
  case h_8 =>
    rename_i heq
    obtain ⟨rfl, rfl⟩ := List.cons.inj heq
    rfl
  case h_1 =>
    rename_i heq
    cases heq
  all_goals
    rename_i heq
    have hne := (List.cons.inj heq).1
    exact absurd hne (by decide)

theorem literalLines_cons (hc : isPlain c = true ∨ c = '\n')
    (h : c = '\'' → ¬ ['\'', '\''] <+: cs) :
    literalLines (c :: cs) = prepend c (literalLines cs) := by
  rw [literalLines.eq_def]
  split
  case h_2 =>
    rename_i heq
    obtain ⟨rfl, rfl⟩ := List.cons.inj heq
    exact absurd ⟨_, rfl⟩ (h rfl)
  case h_3 =>
    rename_i heq
    obtain ⟨rfl, rfl⟩ := List.cons.inj heq
    exact absurd hc (by decide)
  case h_4 =>
    rename_i heq
    obtain ⟨rfl, rfl⟩ := List.cons.inj heq
    rw [if_pos (by simpa using hc)]
  all_goals
    rename_i heq
    cases heq

/-- The quotes that an escaped text goes on with do not reach the closing ones, but for the last
two. -/
theorem not_quotes_of_escapeText (hs : s ≠ []) (h : run = 0 → s ≠ ['"']) :
    ¬ ['"', '"'] <+: escapeText lines 2 (run + 1) s ++ w := by
  cases s with
  | nil => exact absurd rfl hs
  | cons c s =>
    obtain ⟨d, v, hv, hd, -⟩ := escapeText_cons lines 2 (run + 1) c s
    rw [hv, List.cons_append, List.cons_prefix_cons]
    rintro ⟨rfl, hpre⟩
    obtain ⟨rfl, hrun⟩ := hd rfl
    rw [escapeText_quote hrun] at hv
    obtain ⟨-, rfl⟩ := List.cons.inj hv
    obtain rfl : run = 0 := by omega
    cases s with
    | nil => exact h rfl rfl
    | cons c' s =>
      obtain ⟨e, v, hv, he, -⟩ := escapeText_cons lines 2 2 c' s
      rw [hv, List.cons_append, List.cons_prefix_cons] at hpre
      obtain ⟨rfl, -⟩ := hpre
      exact absurd (he rfl).2 (Nat.lt_irrefl 2)

theorem basicLines_escapeText (hrun : run ≤ 2) (hrest : rest.head? ≠ some '"') :
    basicLines false (escapeText true 2 run s ++ '"' :: '"' :: '"' :: rest) = some (s, rest) := by
  induction s generalizing run with
  | nil =>
    change some (closing '"' rest) = _
    rw [closing_nil hrest]
  | cons c s ih =>
    by_cases hq : c = '"'
    · subst c
      by_cases hfree : run < 2
      · rw [escapeText_quote hfree, List.cons_append]
        by_cases hs : s = []
        · subst s
          change some (closing '"' ('"' :: rest)) = _
          rw [closing_one hrest]
        by_cases hs' : run = 0 ∧ s = ['"']
        · obtain ⟨rfl, rfl⟩ := hs'
          change some (closing '"' ('"' :: '"' :: rest)) = _
          rw [closing_two]
        · rw [basicLines_quote (not_quotes_of_escapeText hs fun h h' => hs' ⟨h, h'⟩), ih (by omega)]
          rfl
      · rw [escapeText_full (Nat.not_lt.1 hfree), List.cons_append, List.cons_append,
          unescapes_basicLines.letter _ rfl, ih (Nat.zero_le 2)]
        rfl
    by_cases hn : c = '\n'
    · subst c
      rw [escapeText_lineEnd, List.cons_append]
      change prepend '\n' _ = _
      rw [ih (Nat.zero_le 2)]
      rfl
    · rw [escapeText_other hq (absurd · hn), List.append_assoc,
        unescapes_basicLines.read_escapeChar hq, ih (Nat.zero_le 2)]
      rfl

theorem literal_self (hs : ∀ c ∈ s, isPlain c = true ∧ c ≠ '\'') :
    literal (s ++ '\'' :: rest) = some (s, rest) := by
  induction s with
  | nil => rfl
  | cons c s ih =>
    obtain ⟨hplain, hq⟩ := hs c List.mem_cons_self
    rw [List.cons_append, literal, if_neg hq, if_pos hplain,
      ih fun d hd => hs d (List.mem_cons_of_mem c hd)]
    rfl

theorem le_longestRun (x : Char) (run : Nat) (s : List Char) : run ≤ longestRun x run s := by
  induction s generalizing run with
  | nil => exact Nat.le_refl run
  | cons c s ih =>
    rw [longestRun]
    split
    · exact Nat.le_of_succ_le (ih (run + 1))
    · exact Nat.le_max_left _ _

theorem longestRun_quote {x : Char} (h : longestRun x run (x :: s) ≤ 2) :
    longestRun x (run + 1) s ≤ 2 := by
  rwa [longestRun, if_pos rfl] at h

theorem longestRun_other {x : Char} (hc : c ≠ x) (h : longestRun x run (c :: s) ≤ 2) :
    longestRun x 0 s ≤ 2 := by
  rw [longestRun, if_neg hc] at h
  exact Nat.le_trans (Nat.le_max_right _ _) h

theorem not_mem_of_longestRun {x : Char} (h : longestRun x 0 s = 0) : x ∉ s := by
  induction s with
  | nil => exact List.not_mem_nil
  | cons c s ih =>
    rw [longestRun] at h
    split at h
    · have hle := le_longestRun x (0 + 1) s
      omega
    · rename_i hc
      have hs := Nat.le_trans (Nat.le_max_right 0 (longestRun x 0 s)) (Nat.le_of_eq h)
      rw [List.mem_cons, not_or]
      exact ⟨Ne.symm hc, ih (Nat.le_zero.1 hs)⟩

theorem not_quotes_of_longestRun (hs : s ≠ []) (hs' : s ≠ [q]) (h : longestRun q (run + 1) s ≤ 2) :
    ¬ [q, q] <+: s ++ w := by
  cases s with
  | nil => exact absurd rfl hs
  | cons c s =>
    rw [List.cons_append, List.cons_prefix_cons]
    rintro ⟨rfl, hpre⟩
    have h := longestRun_quote h
    cases s with
    | nil => exact hs' rfl
    | cons d s =>
      rw [List.cons_append, List.cons_prefix_cons] at hpre
      obtain ⟨rfl, -⟩ := hpre
      have hle := Nat.le_trans (le_longestRun q _ s) (longestRun_quote h)
      omega

theorem literalLines_self (hs : ∀ c ∈ s, isPlain c = true ∨ c = '\n')
    (hrun : longestRun '\'' run s ≤ 2) (hrest : rest.head? ≠ some '\'') :
    literalLines (s ++ '\'' :: '\'' :: '\'' :: rest) = some (s, rest) := by
  induction s generalizing run with
  | nil =>
    change some (closing '\'' rest) = _
    rw [closing_nil hrest]
  | cons c s ih =>
    have hc := hs c List.mem_cons_self
    have htail : ∀ d ∈ s, isPlain d = true ∨ d = '\n' :=
      fun d hd => hs d (List.mem_cons_of_mem c hd)
    by_cases hq : c = '\''
    · subst c
      have hrun := longestRun_quote hrun
      rw [List.cons_append]
      by_cases hnil : s = []
      · subst s
        change some (closing '\'' ('\'' :: rest)) = _
        rw [closing_one hrest]
      by_cases hone : s = ['\'']
      · subst s
        change some (closing '\'' ('\'' :: '\'' :: rest)) = _
        rw [closing_two]
      · rw [literalLines_cons hc fun _ => not_quotes_of_longestRun hnil hone hrun, ih htail hrun]
        rfl
    · rw [List.cons_append, literalLines_cons hc (absurd · hq), ih htail (longestRun_other hq hrun)]
      rfl

theorem style_cases (s : List Char) :
    StringStyle.of s = ⟨false, false⟩ ∨ StringStyle.of s = ⟨false, true⟩ ∨
      (StringStyle.of s = ⟨true, false⟩ ∧ ∀ c ∈ s, isPlain c = true ∧ c ≠ '\'') ∨
      (StringStyle.of s = ⟨true, true⟩ ∧ (∀ c ∈ s, isPlain c = true ∨ c = '\n') ∧
        longestRun '\'' 0 s ≤ 2) := by
  have hplain : s.any isControl = false → ∀ c ∈ s, isPlain c = true ∨ c = '\n' := by
    intro hc c hmem
    by_cases hn : c = '\n'
    · exact .inr hn
    · exact .inl (isPlain_of_isControl (by simpa using List.any_eq_false.1 hc c hmem) hn)
  rw [StringStyle.of]
  split
  · exact .inl rfl
  split
  · rename_i h
    simp only [Bool.and_eq_true, Bool.not_eq_true', decide_eq_true_eq] at h
    obtain ⟨⟨hc, hsingles⟩, hn⟩ := h
    refine .inr (.inr (.inl ⟨rfl, fun c hmem => ⟨?_, ?_⟩⟩))
    · apply (hplain hc c hmem).resolve_right
      rintro rfl
      simp [hmem] at hn
    · rintro rfl
      exact not_mem_of_longestRun hsingles hmem
  split
  · exact .inr (.inl rfl)
  split
  · rename_i h
    simp only [Bool.and_eq_true, Bool.not_eq_true', decide_eq_true_eq] at h
    exact .inr (.inr (.inr ⟨rfl, hplain h.1, h.2⟩))
  · cases s.contains '\n' with
    | false => exact .inl rfl
    | true => exact .inr (.inl rfl)

theorem trimLineEnd_cons (hr : c ≠ '\r') (hn : c ≠ '\n') : trimLineEnd (c :: cs) = c :: cs := by
  rw [trimLineEnd]
  · rintro rest h
    exact hn (List.cons.inj h).1
  · rintro rest h
    exact hr (List.cons.inj h).1

theorem trimLineEnd_opening {body : List Char} (h : '\n' ∉ s → trimLineEnd body = body) :
    trimLineEnd ((if s.contains '\n' then ['\n'] else []) ++ body) = body := by
  by_cases hn : '\n' ∈ s
  · simp [hn, trimLineEnd]
  · simp [hn, h hn]

theorem string_basic (h : ¬ ['"', '"'] <+: cs) : string ('"' :: cs) = basic cs := by
  rw [string]
  rintro rest rfl
  exact h ⟨rest, rfl⟩

theorem string_literal (h : ¬ ['\'', '\''] <+: cs) : string ('\'' :: cs) = literal cs := by
  rw [string]
  rintro rest rfl
  exact h ⟨rest, rfl⟩

theorem not_quotes_of_basic :
    ¬ ['"', '"'] <+: escapeText false 0 0 s ++ '"' :: '\n' :: rest := by
  cases s with
  | nil => simp [escapeText]
  | cons c s =>
    obtain ⟨d, v, hv, hd, -⟩ := escapeText_cons false 0 0 c s
    rw [hv, List.cons_append, List.cons_prefix_cons]
    rintro ⟨rfl, -⟩
    exact absurd (hd rfl).2 (Nat.lt_irrefl 0)

theorem not_quotes_of_literal (hs : ∀ c ∈ s, isPlain c = true ∧ c ≠ '\'') :
    ¬ ['\'', '\''] <+: s ++ '\'' :: '\n' :: rest := by
  cases s with
  | nil => simp
  | cons c s =>
    rw [List.cons_append, List.cons_prefix_cons]
    rintro ⟨rfl, -⟩
    exact (hs _ List.mem_cons_self).2 rfl

theorem trimLineEnd_escapeText (hn : '\n' ∉ s) :
    trimLineEnd (escapeText true 2 0 s ++ '"' :: w) = escapeText true 2 0 s ++ '"' :: w := by
  cases s with
  | nil => exact trimLineEnd_cons (by decide) (by decide)
  | cons c s =>
    obtain ⟨d, v, hv, -, hr, hd⟩ := escapeText_cons true 2 0 c s
    rw [hv, List.cons_append]
    apply trimLineEnd_cons hr
    rintro rfl
    exact hn (hd rfl ▸ List.mem_cons_self)

theorem trimLineEnd_self (hs : ∀ c ∈ s, isPlain c = true ∨ c = '\n') (hn : '\n' ∉ s) :
    trimLineEnd (s ++ '\'' :: w) = s ++ '\'' :: w := by
  cases s with
  | nil => exact trimLineEnd_cons (by decide) (by decide)
  | cons c s =>
    have hne : c ≠ '\n' := fun h => hn (h ▸ List.mem_cons_self)
    refine trimLineEnd_cons ?_ hne
    rintro rfl
    exact absurd (hs _ List.mem_cons_self) (by decide)

/-- A text written as a string, at the end of a line, is read as it was. -/
theorem string_writeString (s rest : List Char) :
    string (writeString s ++ '\n' :: rest) = some (s, '\n' :: rest) := by
  obtain h | h | ⟨h, hs⟩ | ⟨h, hs, hrun⟩ := style_cases s
  · have hw : writeString s ++ '\n' :: rest =
        '"' :: (escapeText false 0 0 s ++ '"' :: '\n' :: rest) := by
      simp [writeString, h]
    rw [hw, string_basic not_quotes_of_basic, basic_escapeText]
  · have hw : writeString s ++ '\n' :: rest =
        '"' :: '"' :: '"' :: ((if s.contains '\n' then ['\n'] else []) ++
          (escapeText true 2 0 s ++ '"' :: '"' :: '"' :: '\n' :: rest)) := by
      simp [writeString, h, List.replicate]
    rw [hw]
    change basicLines false (trimLineEnd _) = _
    rw [trimLineEnd_opening trimLineEnd_escapeText,
      basicLines_escapeText (Nat.zero_le 2) (by simp)]
  · have hw : writeString s ++ '\n' :: rest = '\'' :: (s ++ '\'' :: '\n' :: rest) := by
      simp [writeString, h]
    rw [hw, string_literal (not_quotes_of_literal hs), literal_self hs]
  · have hw : writeString s ++ '\n' :: rest =
        '\'' :: '\'' :: '\'' :: ((if s.contains '\n' then ['\n'] else []) ++
          (s ++ '\'' :: '\'' :: '\'' :: '\n' :: rest)) := by
      simp [writeString, h, List.replicate]
    rw [hw]
    change literalLines (trimLineEnd _) = _
    rw [trimLineEnd_opening (trimLineEnd_self hs), literalLines_self hs hrun (by simp)]

end Repath.Toml
