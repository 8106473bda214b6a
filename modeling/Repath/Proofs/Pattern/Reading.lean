import Mathlib.Tactic.FinCases
import Repath.Pattern.Regex

namespace Repath.Reader

variable {fuel groups : Nat} {names : List (String × Nat)} {done items : List Syntax}
  {rest : List Char} {c : Char}

abbrev counting (groups : Nat) (names : List (String × Nat)) : State := ⟨false, groups, names⟩

theorem choices_plain (hc : isMeta c = false) :
    choices (fuel + 1) (counting groups names) done items (c :: rest) =
      choices fuel (counting groups names) done (.char c :: items) rest := by
  rw [choices]
  simp only [skip, Bool.false_eq_true, if_false]
  split
  case h_1 h => cases h
  case h_14 h =>
    obtain ⟨rfl, rfl⟩ := List.cons.inj h
    rfl
  all_goals
    rename_i h
    obtain ⟨rfl, rfl⟩ := List.cons.inj h
    exact absurd hc (by decide)

theorem escape_of_isMeta (hc : isMeta c = true) :
    escape false (c :: rest) = .ok (.char c, rest) := by
  have hm : c ∈ ['\\', '.', '+', '*', '?', '(', ')', '|', '[', ']', '{', '}', '^', '$', '#', '&',
      '-', '~'] := by simpa [isMeta] using hc
  fin_cases hm <;> rfl

theorem choices_escaped (hc : isMeta c = true) :
    choices (fuel + 1) (counting groups names) done items ('\\' :: c :: rest) =
      choices fuel (counting groups names) done (.char c :: items) rest := by
  rw [choices]
  simp only [skip, Bool.false_eq_true, if_false, escape_of_isMeta hc]
  rfl

def escaped (w : List Char) : List Char := w.flatMap fun c => if isMeta c then ['\\', c] else [c]

theorem toList_escapeText (s : String) : (escapeText s).toList = escaped s.toList := by
  rw [escapeText, String.toList_ofList, escaped]

theorem escaped_cons (c : Char) (w : List Char) :
    escaped (c :: w) = (if isMeta c then ['\\', c] else [c]) ++ escaped w := rfl

theorem length_le_escaped (w : List Char) : w.length ≤ (escaped w).length := by
  induction w with
  | nil => simp [escaped]
  | cons c w ih =>
    rw [escaped_cons, List.length_append, List.length_cons]
    split <;> simp <;> omega

theorem choices_escapedText (w : List Char) :
    choices (fuel + w.length) (counting groups names) done items (escaped w ++ rest) =
      choices fuel (counting groups names) done ((w.map Syntax.char).reverse ++ items) rest := by
  induction w generalizing items with
  | nil => rfl
  | cons c w ih =>
    rw [escaped_cons, List.length_cons, ← Nat.add_assoc, List.append_assoc]
    cases hc : isMeta c with
    | false => simp [choices_plain hc, ih]
    | true => simp [choices_escaped hc, ih]

def alternatives (ws : List (List Char)) : List Char := ['|'].intercalate (ws.map escaped)

theorem choices_bar :
    choices (fuel + 1) (counting groups names) done items ('|' :: rest) =
      choices fuel (counting groups names) (.sequence items.reverse :: done) [] rest := rfl

/-- A choice ends at a closing parenthesis or with the pattern. -/
def Closes (rest : List Char) : Prop := ∀ c ∈ rest.head?, c = ')'

theorem choices_closes (h : Closes rest) :
    choices (fuel + 1) (counting groups names) done items rest =
      .ok ((.choice (.sequence items.reverse :: done).reverse, counting groups names), rest) := by
  cases rest with
  | nil => rfl
  | cons c rest =>
    obtain rfl := h c rfl
    rfl

def nameSyntax (w : List Char) : Syntax := .sequence (w.map Syntax.char)

theorem choices_alternatives {ws : List (List Char)} (hne : ws ≠ []) (hrest : Closes rest)
    (hfuel : (alternatives ws).length < fuel) :
    choices fuel (counting groups names) done [] (alternatives ws ++ rest) =
      .ok ((.choice (done.reverse ++ ws.map nameSyntax), counting groups names), rest) := by
  induction ws generalizing fuel done with
  | nil => exact absurd rfl hne
  | cons w ws ih =>
    have hw := length_le_escaped w
    cases ws with
    | nil =>
      simp only [alternatives, List.map_cons, List.map_nil, List.intercalate_singleton] at hfuel ⊢
      obtain ⟨k, rfl⟩ := Nat.exists_eq_add_of_lt hfuel
      have hk : (escaped w).length + k + 1 =
          ((escaped w).length - w.length + k + 1) + w.length := by
        omega
      rw [hk, choices_escapedText, choices_closes hrest]
      simp [nameSyntax]
    | cons v ws =>
      have hcons : alternatives (w :: v :: ws) = escaped w ++ '|' :: alternatives (v :: ws) := by
        simp [alternatives, List.intercalate_cons_cons]
      rw [hcons] at hfuel ⊢
      rw [List.length_append, List.length_cons] at hfuel
      obtain ⟨k, rfl⟩ := Nat.exists_eq_add_of_lt hfuel
      have hk : (escaped w).length + ((alternatives (v :: ws)).length + 1) + k + 1 =
          ((escaped w).length - w.length + (alternatives (v :: ws)).length + k + 1) + 1
            + w.length := by
        omega
      rw [hk, List.append_assoc, choices_escapedText, List.cons_append, choices_bar,
        ih (by simp) (by omega)]
      simp [nameSyntax]

theorem choices_capture {body : Syntax} {more : List Char} {groups' : Nat}
    {names' : List (String × Nat)}
    (ho : opening (counting groups names) rest =
      .ok ((.group (.capture (groups + 1)), counting (groups + 1) names), rest))
    (h : choices fuel (counting (groups + 1) names) [] [] rest =
      .ok ((body, counting groups' names'), ')' :: more)) :
    choices (fuel + 1) (counting groups names) done items ('(' :: rest) =
      choices fuel (counting groups' names') done (.group (.capture (groups + 1)) body :: items)
        more := by
  rw [choices]
  simp only [skip, Bool.false_eq_true, if_false, ho]
  change (choices fuel (counting (groups + 1) names) [] [] rest >>= _) = _
  rw [h]
  rfl

theorem opening_capture (hc : c ≠ '?') :
    opening (counting groups names) (c :: rest) =
      .ok ((.group (.capture (groups + 1)), counting (groups + 1) names), c :: rest) := by
  rw [opening]
  simp only [skip, Bool.false_eq_true, if_false]
  split
  case h_8 => rfl
  all_goals
    rename_i h
    exact absurd (List.cons.inj h).1 hc

theorem opening_alternatives (ws : List (List Char)) :
    opening (counting groups names) (alternatives ws ++ ')' :: rest) =
      .ok ((.group (.capture (groups + 1)), counting (groups + 1) names),
        alternatives ws ++ ')' :: rest) := by
  match ws with
  | [] | [[]] => exact opening_capture (by decide)
  | [] :: v :: ws =>
    simp only [alternatives, List.map_cons, List.intercalate_cons_cons]
    exact opening_capture (by decide)
  | (c :: w) :: ws =>
    have hcons : ∃ r, alternatives ((c :: w) :: ws) =
        (if isMeta c then ['\\', c] else [c]) ++ r := by
      cases ws <;> simp [alternatives, List.intercalate_cons_cons, escaped_cons]
    obtain ⟨r, hr⟩ := hcons
    rw [hr, List.append_assoc]
    cases hc : isMeta c with
    | true => exact opening_capture (by decide)
    | false =>
      apply opening_capture
      rintro rfl
      cases hc

end Repath.Reader
