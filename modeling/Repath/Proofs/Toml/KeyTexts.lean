import Mathlib.Data.List.TakeWhile
import Repath.Proofs.Toml.StringTexts

namespace Repath.Toml

variable {c : Char} {b cs e g k rest t u w : List Char} {part : String} {path : List String}
  {fuel : Nat} {inComment : Bool}

theorem blanks_nil : Blanks [] := fun _ h => absurd h List.not_mem_nil

theorem blanks_cons : Blanks (c :: b) ↔ isBlank c = true ∧ Blanks b := List.forall_mem_cons

theorem skipBlanks_append (hb : Blanks b) (hcs : ∀ c ∈ cs.head?, isBlank c = false) :
    skipBlanks (b ++ cs) = cs :=
  (span_append hb hcs).2

theorem exists_skipBlanks (cs : List Char) : ∃ b, Blanks b ∧ cs = b ++ skipBlanks cs :=
  ⟨cs.takeWhile isBlank, fun _ hc => List.mem_takeWhile_imp hc,
    List.takeWhile_append_dropWhile.symm⟩

theorem skipLines_plain (hu : ∀ c ∈ u, isPlain c = true) (cs : List Char) :
    skipLines true (u ++ cs) = skipLines true cs := by
  induction u with
  | nil => rfl
  | cons c u ih =>
    obtain ⟨hc, hu⟩ := List.forall_mem_cons.1 hu
    have hn : c ≠ '\n' := fun h => absurd hc (by rw [h]; decide)
    have hr : c ≠ '\r' := fun h => absurd hc (by rw [h]; decide)
    rw [List.cons_append, skipLines, if_pos hc, ih hu]
    · exact hn
    · exact fun _ h => absurd h hr

theorem skipLines_lineEnd (he : LineEnd e) (cs : List Char) :
    skipLines inComment (e ++ cs) = skipLines false cs := by
  cases he
  · rfl
  · rfl

theorem skipLines_comment (ht : Comment t) (cs : List Char) :
    skipLines false (t ++ cs) = skipLines true cs := by
  cases ht with
  | intro hw => exact skipLines_plain hw cs

theorem skipLines_blank (hc : isBlank c = true) (cs : List Char) :
    skipLines false (c :: cs) = skipLines false cs := by
  obtain rfl | rfl := isBlank_iff.1 hc
  · rfl
  · rfl

theorem skipLines_gap (hg : Gap true g) (cs : List Char) :
    skipLines false (g ++ cs) = skipLines false cs := by
  induction hg with
  | nil => rfl
  | blank hc h ih => rw [List.cons_append, skipLines_blank hc, ih]
  | line he h ih => rw [List.append_assoc, skipLines_lineEnd he, ih]
  | comment _ ht he h ih =>
    rw [List.append_assoc, List.append_assoc, skipLines_comment ht, skipLines_lineEnd he, ih]

theorem skipLines_stop (hc : isBlank c = false) (hn : c ≠ '\n') (hr : c ≠ '\r') (hs : c ≠ '#')
    (cs : List Char) : skipLines false (c :: cs) = some (c :: cs) := by
  rw [skipLines, hc, if_neg (by decide), if_neg hs]
  · exact hn
  · exact fun _ h => absurd h hr

theorem Comment.concat (ht : Comment t) (hc : isPlain c = true) : Comment (t ++ [c]) := by
  cases ht with
  | intro hw => exact .intro (List.forall_mem_append.2 ⟨hw, List.forall_mem_singleton.2 hc⟩)

def Begun (inComment : Bool) (front : List Char) : Prop :=
  if inComment then Comment front else front = []

theorem Begun.gap (h : Begun inComment t) (he : LineEnd e) (hg : Gap true g) :
    Gap true (t ++ (e ++ g)) := by
  cases inComment with
  | false =>
    obtain rfl : t = [] := h
    have hline : Gap true (e ++ g) := .line he hg
    exact hline
  | true =>
    rw [← List.append_assoc]
    exact .comment rfl h he hg

theorem exists_skipLines (h : skipLines inComment cs = some rest) (front : List Char)
    (hfront : Begun inComment front) :
    ∃ g t, Gap true g ∧ front ++ cs = g ++ (t ++ rest) ∧ (t = [] ∨ Comment t ∧ rest = []) := by
  fun_induction skipLines inComment cs generalizing front with
  | case1 inComment =>
    cases h
    refine ⟨[], front, .nil, rfl, ?_⟩
    cases inComment with
    | false => exact .inl hfront
    | true => exact .inr ⟨hfront, rfl⟩
  | case2 inComment cs ih =>
    obtain ⟨g, t, hg, rfl, ht⟩ := ih h [] rfl
    exact ⟨_, t, hfront.gap .feed hg, by simp, ht⟩
  | case3 inComment cs ih =>
    obtain ⟨g, t, hg, rfl, ht⟩ := ih h [] rfl
    exact ⟨_, t, hfront.gap .carriage hg, by simp, ht⟩
  | case4 c cs _ _ hc ih =>
    obtain ⟨g, t, hg, hcs, ht⟩ := ih h (front ++ [c]) (Comment.concat hfront hc)
    exact ⟨g, t, hg, by rw [← hcs, List.append_assoc]; rfl, ht⟩
  | case5 => cases h
  | case6 c cs _ _ hc ih =>
    obtain ⟨g, t, hg, rfl, ht⟩ := ih h [] rfl
    obtain rfl : front = [] := hfront
    exact ⟨c :: g, t, .blank hc hg, rfl, ht⟩
  | case7 cs _ _ _ ih =>
    obtain rfl : front = [] := hfront
    exact ih h ['#'] (Comment.intro fun _ h => absurd h List.not_mem_nil)
  | case8 c cs =>
    cases h
    obtain rfl : front = [] := hfront
    exact ⟨[], [], .nil, rfl, .inl rfl⟩

theorem exists_gap (h : skipLines false cs = some (c :: rest)) :
    ∃ g, Gap true g ∧ cs = g ++ c :: rest := by
  obtain ⟨g, t, hg, rfl, rfl | ⟨-, hrest⟩⟩ := exists_skipLines h [] rfl
  · exact ⟨g, hg, rfl⟩
  · cases hrest

theorem KeyPart.exists_cons (h : KeyPart w part) :
    ∃ c v, w = c :: v ∧ (isBareKeyChar c = true ∨ c = '"' ∨ c = '\'') := by
  cases h with
  | bare h =>
    obtain ⟨c, v, rfl, hc⟩ := h.exists_cons
    exact ⟨c, v, rfl, .inl hc⟩
  | @quoted style w s hl h =>
    refine ⟨style.quote, _, rfl, .inr ?_⟩
    rw [StringStyle.quote]
    split
    · exact .inr rfl
    · exact .inl rfl

theorem keyPart_append (h : KeyPart w part) (hrest : ∀ c ∈ rest.head?, isBareKeyChar c = false) :
    keyPart (w ++ rest) = some (part, rest) := by
  cases h with
  | bare h => exact keyPart_bare h (by simpa [Option.all_eq_true] using hrest)
  | @quoted style w s hl h =>
    match style with
    | ⟨false, false⟩ =>
      change keyPart ('"' :: (w ++ ['"'] ++ rest)) = _
      rw [List.append_assoc, keyPart, List.singleton_append, basic_of_body h]
      rfl
    | ⟨true, false⟩ =>
      change keyPart ('\'' :: (w ++ ['\''] ++ rest)) = _
      rw [List.append_assoc, keyPart, List.singleton_append, literal_of_body h]
      rfl
    | ⟨_, true⟩ => cases hl

theorem exists_keyPart (h : keyPart cs = some (part, rest)) :
    ∃ w, KeyPart w part ∧ cs = w ++ rest := by
  unfold keyPart at h
  split at h
  · obtain ⟨⟨s, v⟩, hread, heq⟩ := Option.map_eq_some_iff.1 h
    cases heq
    obtain ⟨w, hw, rfl⟩ := body_of_basic hread
    exact ⟨_, .quoted rfl hw, by simp [StringStyle.quote]⟩
  · obtain ⟨⟨s, v⟩, hread, heq⟩ := Option.map_eq_some_iff.1 h
    cases heq
    obtain ⟨w, hw, rfl⟩ := body_of_literal hread
    exact ⟨_, .quoted rfl hw, by simp [StringStyle.quote]⟩
  · split at h
    · cases h
    · next hne =>
      cases h
      refine ⟨_, .bare ⟨hne, ?_⟩, List.takeWhile_append_dropWhile.symm⟩
      exact List.all_eq_true.2 fun _ hc => List.mem_takeWhile_imp hc

theorem keyText_of_keyPart (h : keyPart k = some (part, [])) : KeyText k [part] := by
  obtain ⟨w, hw, heq⟩ := exists_keyPart h
  rw [heq, List.append_nil]
  exact .last hw

theorem KeyText.exists_cons (h : KeyText k path) :
    ∃ c v, k = c :: v ∧ (isBareKeyChar c = true ∨ c = '"' ∨ c = '\'') := by
  cases h with
  | last h => exact h.exists_cons
  | dotted hw =>
    obtain ⟨c, v, rfl, hc⟩ := hw.exists_cons
    exact ⟨c, _, rfl, hc⟩

theorem KeyText.not_blank (h : KeyText k path) (cs : List Char) :
    ∀ c ∈ (k ++ cs).head?, isBlank c = false := by
  obtain ⟨c, v, rfl, hc⟩ := h.exists_cons
  rintro d hd
  obtain rfl := Option.some.inj hd
  obtain hc | rfl | rfl := hc
  · exact not_isBlank_of_bare hc
  · rfl
  · rfl

theorem not_bare_of_blanks (hb : Blanks b) (hc : isBareKeyChar c = false) :
    ∀ d ∈ (b ++ c :: rest).head?, isBareKeyChar d = false := by
  rintro d hd
  cases b with
  | nil =>
    obtain rfl := Option.some.inj hd
    exact hc
  | cons x b =>
    obtain rfl := Option.some.inj hd
    obtain rfl | rfl := isBlank_iff.1 (blanks_cons.1 hb).1
    · rfl
    · rfl

theorem key_append (h : KeyText k path) (hb : Blanks b) (hc : c = '=' ∨ c = ']')
    (hfuel : k.length ≤ fuel) : key fuel (k ++ (b ++ c :: rest)) = some (path, c :: rest) := by
  induction h generalizing fuel with
  | @last w part h =>
    obtain ⟨d, v, rfl, -⟩ := h.exists_cons
    obtain ⟨fuel, rfl⟩ := Nat.exists_eq_add_of_le' (Nat.le_trans (Nat.succ_pos _) hfuel)
    have hpart : keyPart (d :: v ++ (b ++ c :: rest)) = some (part, b ++ c :: rest) := by
      refine keyPart_append h (not_bare_of_blanks hb ?_)
      obtain rfl | rfl := hc <;> rfl
    have hskip : skipBlanks (b ++ c :: rest) = c :: rest := by
      refine skipBlanks_append hb fun d hd => ?_
      obtain rfl := Option.some.inj hd
      obtain rfl | rfl := hc <;> rfl
    rw [key, hpart]
    simp only [Option.bind_eq_bind, Option.bind_some, hskip]
    obtain rfl | rfl := hc <;> rfl
  | @dotted w b₁ b₂ u part parts hw hb₁ hb₂ hu ih =>
    obtain ⟨d, v, rfl, -⟩ := hw.exists_cons
    obtain ⟨fuel, rfl⟩ := Nat.exists_eq_add_of_le' (Nat.le_trans (Nat.succ_pos _) hfuel)
    have hpart : keyPart (d :: v ++ (b₁ ++ '.' :: (b₂ ++ (u ++ (b ++ c :: rest))))) =
        some (part, b₁ ++ '.' :: (b₂ ++ (u ++ (b ++ c :: rest)))) :=
      keyPart_append hw (not_bare_of_blanks hb₁ rfl)
    have hskip : skipBlanks (b₁ ++ '.' :: (b₂ ++ (u ++ (b ++ c :: rest)))) =
        '.' :: (b₂ ++ (u ++ (b ++ c :: rest))) :=
      skipBlanks_append hb₁ (by simp [isBlank])
    have hlen : u.length ≤ fuel := by
      simp only [List.length_append, List.length_cons] at hfuel
      omega
    have hrest := ih hlen
    simp only [List.append_assoc, List.cons_append] at hpart ⊢
    rw [key, hpart]
    simp only [Option.bind_eq_bind, Option.bind_some, hskip]
    rw [skipBlanks_append hb₂ (hu.not_blank _), hrest]
    rfl

theorem exists_key (h : key fuel cs = some (path, rest)) :
    ∃ k b, KeyText k path ∧ Blanks b ∧ cs = k ++ (b ++ rest) := by
  induction fuel generalizing cs path with
  | zero => cases h
  | succ fuel ih =>
    rw [key] at h
    obtain ⟨⟨part, v⟩, hpart, hmore⟩ := Option.bind_eq_some_iff.1 h
    obtain ⟨w, hw, rfl⟩ := exists_keyPart hpart
    obtain ⟨b, hb, hv⟩ := exists_skipBlanks v
    dsimp only at hmore
    split at hmore
    · next u hu =>
      obtain ⟨⟨parts, rest'⟩, hkey, heq⟩ := Option.bind_eq_some_iff.1 hmore
      cases heq
      obtain ⟨k, b', hk, hb', hskip⟩ := ih hkey
      obtain ⟨b₂, hb₂, hcs⟩ := exists_skipBlanks u
      refine ⟨_, b', .dotted hw hb hb₂ hk, hb', ?_⟩
      rw [hv, hu, hcs, hskip]
      simp
    · cases hmore
      exact ⟨w, b, .last hw, hb, by rw [← hv]⟩

end Repath.Toml
