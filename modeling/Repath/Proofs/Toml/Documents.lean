import Repath.Proofs.Toml.Strings
import Repath.Toml.Reader

namespace Repath.Toml

variable {name s cs cs' rest rest' : List Char} {fuel room : Nat} {st : Statement} {v : Value}

def IsBare (name : List Char) : Prop := name ≠ [] ∧ name.all isBareKeyChar = true

theorem IsBare.exists_cons (h : IsBare name) :
    ∃ c w, name = c :: w ∧ isBareKeyChar c = true := by
  obtain ⟨c, w, rfl⟩ := List.exists_cons_of_ne_nil h.1
  exact ⟨c, w, rfl, List.all_eq_true.1 h.2 c List.mem_cons_self⟩

theorem ne_of_isBareKeyChar {c d : Char} (hc : isBareKeyChar c = true)
    (hd : isBareKeyChar d = false) : c ≠ d := by
  rintro rfl
  rw [hc] at hd
  cases hd

theorem not_isBlank_of_bare {c : Char} (hc : isBareKeyChar c = true) : isBlank c = false := by
  cases h : isBlank c with
  | false => rfl
  | true =>
    have hor : c = ' ' ∨ c = '\t' := by simpa [isBlank] using h
    obtain rfl | rfl := hor
    · exact absurd hc (by decide)
    · exact absurd hc (by decide)

theorem span_append {p : Char → Bool} (hname : ∀ c ∈ name, p c = true)
    (hrest : ∀ c ∈ rest.head?, p c = false) :
    (name ++ rest).takeWhile p = name ∧ (name ++ rest).dropWhile p = rest := by
  have hstop : rest.takeWhile p = [] ∧ rest.dropWhile p = rest := by
    cases rest with
    | nil => exact ⟨rfl, rfl⟩
    | cons c rest =>
      have hc : ¬p c = true := by simpa using hrest
      exact ⟨List.takeWhile_cons_of_neg hc, List.dropWhile_cons_of_neg hc⟩
  rw [List.takeWhile_append_of_pos hname, List.dropWhile_append_of_pos hname, hstop.1, hstop.2]
  exact ⟨List.append_nil name, rfl⟩

theorem span_bare (hname : IsBare name) (hrest : rest.head?.all (!isBareKeyChar ·) = true) :
    (name ++ rest).takeWhile isBareKeyChar = name ∧
      (name ++ rest).dropWhile isBareKeyChar = rest := by
  apply span_append (List.all_eq_true.1 hname.2)
  simpa [Option.all_eq_true] using hrest

theorem keyPart_bare (hname : IsBare name) (hrest : rest.head?.all (!isBareKeyChar ·) = true) :
    keyPart (name ++ rest) = some (String.ofList name, rest) := by
  obtain ⟨htake, hdrop⟩ := span_bare hname hrest
  obtain ⟨c, w, rfl, hc⟩ := hname.exists_cons
  rw [List.cons_append] at htake hdrop ⊢
  rw [keyPart, htake, hdrop]
  · rintro t h
    exact ne_of_isBareKeyChar hc (by decide) (List.cons.inj h).1
  · rintro t h
    exact ne_of_isBareKeyChar hc (by decide) (List.cons.inj h).1

theorem key_bare {c : Char} (hname : IsBare name)
    (hrest : rest.head?.all (!isBareKeyChar ·) = true) (hskip : skipBlanks rest = c :: rest')
    (hc : c ≠ '.') : key (fuel + 1) (name ++ rest) = some ([String.ofList name], c :: rest') := by
  rw [key, keyPart_bare hname hrest]
  simp only [Option.bind_eq_bind, Option.bind_some, hskip]
  split
  · rename_i h
    exact absurd (List.cons.inj h).1 hc
  · rfl

theorem writeString_cons (s : List Char) :
    ∃ q w, writeString s = q :: w ∧ (q = '"' ∨ q = '\'') := by
  obtain h | h | ⟨h, -⟩ | ⟨h, -⟩ := style_cases s
  · exact ⟨_, _, by rw [writeString, h]; rfl, .inl rfl⟩
  · exact ⟨_, _, by rw [writeString, h]; rfl, .inl rfl⟩
  · exact ⟨_, _, by rw [writeString, h]; rfl, .inr rfl⟩
  · exact ⟨_, _, by rw [writeString, h]; rfl, .inr rfl⟩

theorem skipBlanks_writeString (s rest : List Char) :
    skipBlanks (' ' :: (writeString s ++ rest)) = writeString s ++ rest := by
  obtain ⟨q, w, hw, hq⟩ := writeString_cons s
  rw [hw]
  obtain rfl | rfl := hq
  · rfl
  · rfl

theorem value_writeString (fuel room : Nat) (s rest : List Char) :
    value (fuel + 1) room (writeString s ++ '\n' :: rest) =
      some (.string (String.ofList s), '\n' :: rest) := by
  obtain ⟨q, w, hw, hq⟩ := writeString_cons s
  have hs := string_writeString s rest
  rw [hw, List.cons_append] at hs ⊢
  obtain rfl | rfl := hq
  · rw [value, hs]
    rfl
  · rw [value, hs]
    rfl

theorem value_emptyArray : value (fuel + 2) (room + 1) ('[' :: ']' :: rest) =
    some (.array false [], rest) := by
  rw [value, items]
  rfl

theorem assignment_bare (hname : IsBare name)
    (hv : value (fuel + 1) room (skipBlanks cs) = some (v, rest)) :
    assignment (fuel + 2) room (name ++ ' ' :: '=' :: cs) =
      some (([String.ofList name], v), rest) := by
  have hkey : key (fuel + 2) (name ++ ' ' :: '=' :: cs) = some ([String.ofList name], '=' :: cs) :=
    key_bare hname rfl rfl (by decide)
  rw [assignment, hkey]
  simp only [Option.bind_eq_bind, Option.bind_some, hv]

theorem statement_bare (hname : IsBare name)
    (hv : value (fuel + 1) maxDepth (skipBlanks cs) = some (v, rest)) :
    statement (fuel + 2) (name ++ ' ' :: '=' :: cs) =
      some (.assign [String.ofList name] v, rest) := by
  have ha := assignment_bare hname hv
  obtain ⟨c, w, rfl, hbare⟩ := hname.exists_cons
  have hc : c ≠ '[' := ne_of_isBareKeyChar hbare (by decide)
  rw [List.cons_append] at ha ⊢
  rw [statement, ha]
  · rfl
  · rintro t h
    exact hc (List.cons.inj h).1
  · rintro t h
    exact hc (List.cons.inj h).1

theorem statement_element (hname : IsBare name) :
    statement (fuel + 1) ('[' :: '[' :: (name ++ ']' :: ']' :: rest)) =
      some (.element [String.ofList name], rest) := by
  have hkey : key (fuel + 1) (name ++ ']' :: ']' :: rest) =
      some ([String.ofList name], ']' :: ']' :: rest) :=
    key_bare hname rfl rfl (by decide)
  have hskip : skipBlanks (name ++ ']' :: ']' :: rest) = name ++ ']' :: ']' :: rest := by
    obtain ⟨c, w, rfl, hc⟩ := hname.exists_cons
    exact List.dropWhile_cons_of_neg (by simp [not_isBlank_of_bare hc])
  rw [statement, hskip, hkey]
  rfl

theorem statements_cons (hskip : skipLines false cs = some cs') (hne : cs' ≠ [])
    (hst : statement (2 * fuel + 2) cs' = some (st, rest)) (hend : lineEnd? rest = some rest') :
    statements (fuel + 1) cs = (statements fuel rest').map (st :: ·) := by
  obtain ⟨c, w, rfl⟩ := List.exists_cons_of_ne_nil hne
  rw [statements, hskip]
  simp only [Option.bind_eq_bind, Option.bind_some, hst, hend]
  cases statements fuel rest' <;> rfl

theorem skipLines_bare (hname : IsBare name) :
    skipLines false (name ++ rest) = some (name ++ rest) := by
  obtain ⟨c, w, rfl, hc⟩ := hname.exists_cons
  rw [List.cons_append, skipLines, not_isBlank_of_bare hc, if_neg (by decide),
    if_neg (ne_of_isBareKeyChar hc (by decide))]
  · exact fun h => ne_of_isBareKeyChar hc (by decide) h
  · exact fun _ h => absurd h (ne_of_isBareKeyChar hc (by decide))

def isSkipped : (inComment : Bool) → List Char → Bool
  | inComment, [] => !inComment
  | true, c :: w => if c = '\n' then isSkipped false w else isPlain c && isSkipped true w
  | false, c :: w =>
    if c = '\n' ∨ isBlank c then isSkipped false w else c == '#' && isSkipped true w

theorem skipLines_skipped {inComment : Bool} {w : List Char} (h : isSkipped inComment w = true) :
    skipLines inComment (w ++ rest) = skipLines false rest := by
  induction w generalizing inComment with
  | nil =>
    cases inComment with
    | false => rfl
    | true => cases h
  | cons c w ih =>
    by_cases hn : c = '\n'
    · subst c
      cases inComment with
      | false => exact ih (by simpa [isSkipped] using h)
      | true => exact ih (by simpa [isSkipped] using h)
    by_cases hr : c = '\r'
    · subst c
      cases inComment with
      | false => cases h
      | true => cases h
    cases inComment with
    | false =>
      rw [isSkipped] at h
      rw [List.cons_append, skipLines]
      · by_cases hb : isBlank c = true
        · rw [if_pos (.inr hb)] at h
          rw [if_pos hb, ih h]
        · rw [if_neg (by simp [hn, hb]), Bool.and_eq_true, beq_iff_eq] at h
          rw [if_neg hb, if_pos h.1, ih h.2]
      · exact hn
      · exact fun _ h => absurd h hr
    | true =>
      rw [isSkipped, if_neg hn, Bool.and_eq_true] at h
      rw [List.cons_append, skipLines]
      · rw [if_pos h.1, ih h.2]
      · exact hn
      · exact fun _ h => absurd h hr

theorem statements_bare (hname : IsBare name)
    (hv : value (2 * fuel + 1) maxDepth (skipBlanks cs) = some (v, '\n' :: rest)) :
    statements (fuel + 1) (name ++ ' ' :: '=' :: cs) =
      (statements fuel rest).map (.assign [String.ofList name] v :: ·) :=
  statements_cons (skipLines_bare hname) (List.append_ne_nil_of_left_ne_nil hname.1 _)
    (statement_bare hname hv) rfl

theorem statements_writeString (hname : IsBare name) :
    statements (fuel + 1) (name ++ ' ' :: '=' :: ' ' :: (writeString s ++ '\n' :: rest)) =
      (statements fuel rest).map
        (.assign [String.ofList name] (.string (String.ofList s)) :: ·) := by
  apply statements_bare hname
  rw [skipBlanks_writeString, value_writeString]

theorem read_eq {text : List Char} (h : text.head? ≠ some '\uFEFF') :
    read text = (statements (text.length + 1) text).bind Table.ofStatements := by
  unfold read
  dsimp only
  split
  · exact absurd rfl h
  · rfl

end Repath.Toml
