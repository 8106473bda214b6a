import Mathlib.Data.List.Infix
import Repath.Pattern.Reader
import Repath.Proofs.Pattern.Classes

namespace Repath.Reader

variable {α β : Type} {verbose negated comment : Bool} {cs ds rest done : List Char} {a : α}
  {n : Nat}

/-- Unless it fails, a reader gives back an end of what it was given. -/
def Leaves (r : Read (α × List Char)) (cs : List Char) : Prop :=
  ∀ a rest, r = .ok (a, rest) → rest <:+ cs

namespace Leaves

theorem ok (h : rest <:+ cs) : Leaves (.ok (a, rest)) cs := by
  rintro _ _ ⟨⟩
  exact h

theorem error (e : PatternError) : Leaves (.error e : Read (α × List Char)) cs := by
  rintro _ _ ⟨⟩

theorem trans {r : Read (α × List Char)} (h : Leaves r ds) (hds : ds <:+ cs) : Leaves r cs :=
  fun a rest hr => (h a rest hr).trans hds

theorem cons {r : Read (α × List Char)} (h : Leaves r cs) (c : Char) : Leaves r (c :: cs) :=
  h.trans (List.suffix_cons c cs)

theorem bind {r : Read (α × List Char)} {f : α × List Char → Read (β × List Char)}
    (hr : Leaves r cs) (hf : ∀ a rest, rest <:+ cs → Leaves (f (a, rest)) rest) :
    Leaves (r >>= f) cs := by
  intro b end' h
  obtain ⟨⟨a, rest⟩, hok, h⟩ := exists_of_bind_ok h
  exact ((hf a rest (hr a rest hok)) b end' h).trans (hr a rest hok)

theorem map {r : Read (α × List Char)} (hr : Leaves r cs) (g : α → β) :
    Leaves (r.map fun (a, rest) => (g a, rest)) cs := by
  cases r with
  | error e => exact .error e
  | ok r => exact .ok (hr r.1 r.2 rfl)

theorem value {x : Except PatternError α} {g : α → β} (h : rest <:+ cs) :
    Leaves (x >>= fun a => pure (g a, rest)) cs := by
  cases x with
  | error e => exact .error e
  | ok a => exact .ok h

end Leaves

theorem skipBlank_suffix (comment : Bool) (cs : List Char) : skipBlank comment cs <:+ cs := by
  fun_induction skipBlank comment cs with
  | case1 => exact List.suffix_refl _
  | case2 c cs ih => exact ih.trans (List.suffix_cons c cs)
  | case3 c cs h ih => exact ih.trans (List.suffix_cons c cs)
  | case4 c cs h h' ih => exact ih.trans (List.suffix_cons c cs)
  | case5 => exact List.suffix_refl _

theorem skip_suffix (verbose : Bool) (cs : List Char) : skip verbose cs <:+ cs := by
  rw [skip]
  split
  · exact skipBlank_suffix false cs
  · exact List.suffix_refl cs

theorem skip_cons_suffix {c : Char} (h : skip verbose cs = c :: rest) : rest <:+ cs :=
  (List.suffix_cons c rest).trans (h ▸ skip_suffix verbose cs)

theorem digits_suffix (verbose comment : Bool) (cs done : List Char) :
    (digits verbose comment cs done).2 <:+ cs := by
  fun_induction digits verbose comment cs done with
  | case1 => exact List.suffix_refl _
  | case2 c cs done ih => exact ih.trans (List.suffix_cons c cs)
  | case3 c cs done h ih => exact ih.trans (List.suffix_cons c cs)
  | case4 c cs done h h' ih => exact ih.trans (List.suffix_cons c cs)
  | case5 c cs done h h' h'' ih => exact ih.trans (List.suffix_cons c cs)
  | case6 => exact List.suffix_refl _

theorem leaves_decimal (verbose : Bool) (cs : List Char) : Leaves (decimal verbose cs) cs := by
  have hdigits := digits_suffix verbose false (cs.dropWhile Unicode.isSpace) []
  rw [decimal]
  split
  rename_i ds rest hread
  rw [hread] at hdigits
  dsimp only
  split
  · exact .error _
  · exact .ok ((List.dropWhile_suffix _).trans (hdigits.trans (List.dropWhile_suffix _)))

theorem leaves_hexDigits (verbose : Bool) (n : Nat) (cs : List Char) :
    Leaves (hexDigits verbose n cs) cs := by
  induction n generalizing cs with
  | zero => exact .ok (List.suffix_refl cs)
  | succ n ih =>
    cases cs with
    | nil => exact .error _
    | cons c cs =>
      rw [hexDigits]
      split
      · exact .error _
      · exact (((ih (skip verbose cs)).trans (skip_suffix verbose cs)).map (c :: ·)).cons c

theorem leaves_untilBrace (verbose comment : Bool) (cs : List Char) :
    Leaves (untilBrace verbose comment cs) cs := by
  fun_induction untilBrace verbose comment cs with
  | case1 => exact .error _
  | case2 c cs ih => exact ih.cons c
  | case3 c cs h ih => exact ih.cons c
  | case4 c cs h h' ih => exact ih.cons c
  | case5 c cs => exact .ok (List.suffix_cons c cs)
  | case6 c cs h h' h'' ih => exact (ih.map (c :: ·)).cons c

theorem leaves_hexEscape (verbose : Bool) (kind : Char) (cs : List Char) :
    Leaves (hexEscape verbose kind cs) cs := by
  rw [hexEscape]
  split
  · exact .error _
  · next rest h =>
    refine ((leaves_untilBrace verbose false rest).bind fun ds rest _ => ?_).trans
      (skip_cons_suffix h)
    dsimp only
    split
    · exact .error _
    · split
      · exact .ok (skip_suffix verbose rest)
      · exact .error _
  · refine ((leaves_hexDigits verbose _ (skip verbose cs)).bind fun ds rest _ => ?_).trans
      (skip_suffix verbose cs)
    dsimp only
    split
    · exact .ok (List.suffix_refl rest)
    · exact .error _

theorem leaves_property (verbose negated : Bool) (cs : List Char) :
    Leaves (property verbose negated cs) cs := by
  rw [property]
  split
  · exact .error _
  · next rest h =>
    refine ((leaves_untilBrace verbose false rest).bind fun body rest _ => ?_).trans
      (skip_cons_suffix h)
    dsimp only
    repeat' split
    all_goals exact .ok (List.suffix_refl rest)
  · exact .error _
  · next h => exact .ok (skip_cons_suffix h)

theorem leaves_boundaryName (verbose : Bool) (cs : List Char) :
    Leaves (boundaryName verbose cs) cs := by
  rw [boundaryName.eq_def]
  dsimp only
  split
  · next rest =>
    split
    · exact .error _
    · next h =>
      split
      · exact .ok (List.suffix_refl _)
      · refine (((leaves_untilBrace verbose false _).bind fun name rest _ => ?_).trans
          (h ▸ skip_suffix verbose rest)).cons _
        dsimp only
        split
        · exact .ok (List.suffix_refl rest)
        · exact .ok (List.suffix_refl rest)
        · exact .ok (List.suffix_refl rest)
        · exact .ok (List.suffix_refl rest)
        · exact .error _
  · exact .ok (List.suffix_refl cs)

theorem leaves_escape (verbose : Bool) (cs : List Char) : Leaves (escape verbose cs) cs := by
  rw [escape.eq_def]
  split
  · exact .error _
  · next c rest =>
    refine Leaves.cons ?_ c
    split
    · refine (leaves_hexEscape verbose c rest).bind fun value rest _ => ?_
      exact .ok (List.suffix_refl rest)
    split
    · refine (leaves_property verbose (c = 'P') rest).bind fun query rest _ => ?_
      exact .ok (List.suffix_refl rest)
    split
    · exact .ok (List.suffix_refl rest)
    split
    case h_15 =>
      refine (leaves_boundaryName verbose rest).bind fun a rest _ => ?_
      exact .ok (List.suffix_refl rest)
    case h_19 => exact .error _
    all_goals exact .ok (List.suffix_refl rest)

theorem dropWhile_rest {p : Char → Bool} (h : cs.dropWhile p = rest) : rest <:+ cs :=
  h ▸ List.dropWhile_suffix p

theorem namedClass?_suffix {c : ClassSyntax} (h : namedClass? cs = some (c, rest)) :
    rest <:+ cs := by
  rw [namedClass?.eq_def] at h
  split at h
  · next body =>
    dsimp only at h
    split at h
    · next rest' hrest =>
      obtain ⟨c', -, ⟨⟩⟩ := Option.bind_eq_some_iff.1 h
      have hskip : rest <:+ ':' :: ']' :: rest := ⟨[':', ']'], rfl⟩
      refine ((hskip.trans (dropWhile_rest hrest)).trans ?_).trans (List.suffix_cons ':' body)
      split
      · exact List.suffix_cons _ _
      · exact List.suffix_refl _
    · cases h
  · cases h

theorem leaves_classItem (verbose : Bool) (cs : List Char) : Leaves (classItem verbose cs) cs := by
  rw [classItem.eq_def]
  split
  · exact .error _
  · exact (leaves_escape verbose _).cons _
  · exact .ok (List.suffix_cons _ _)

theorem leaves_classRange (verbose : Bool) (cs : List Char) :
    Leaves (classRange verbose cs) cs := by
  rw [classRange]
  refine (leaves_classItem verbose cs).bind fun first rest _ => ?_
  dsimp only
  split
  · exact .error _
  · next rest' hrest =>
    split
    · exact .value (hrest ▸ skip_suffix verbose rest)
    · refine Leaves.trans ?_ (skip_cons_suffix hrest)
      split
      · exact .error _
      · refine ((leaves_classItem verbose _).bind fun last rest _ => ?_).trans
          (skip_suffix verbose rest')
        split
        · split
          · exact .error _
          · exact .ok (List.suffix_refl rest)
        · exact .error _
  · exact .value (skip_suffix verbose rest)

theorem hyphens_suffix (verbose comment : Bool) (cs : List Char) :
    (hyphens verbose comment cs).2 <:+ cs := by
  fun_induction hyphens verbose comment cs with
  | case1 => exact List.suffix_refl _
  | case2 c cs ih => exact ih.trans (List.suffix_cons c cs)
  | case3 cs found rest h ih =>
    rw [h] at ih
    exact ih.trans (List.suffix_cons _ cs)
  | case4 c cs h h' ih => exact ih.trans (List.suffix_cons c cs)
  | case5 c cs h h' h'' ih => exact ih.trans (List.suffix_cons c cs)
  | case6 => exact List.suffix_refl _

theorem hyphens_rest {found : List ClassSyntax} (h : hyphens verbose comment cs = (found, rest)) :
    rest <:+ cs := by
  have hsuffix := hyphens_suffix verbose comment cs
  rwa [h] at hsuffix

theorem leaves_classStart (verbose : Bool) (cs : List Char) :
    Leaves (classStart verbose cs) cs := by
  have hskip := skip_suffix verbose cs
  fun_cases classStart verbose cs with
  | case2 => exact .error _
  | case1 _ ds hcaret _ hhyphens | case3 _ ds hcaret _ _ _ _ hhyphens =>
    have hds : ds <:+ cs := by
      split at hcaret <;> cases hcaret
      · next h => exact (List.suffix_cons _ _).trans (h ▸ hskip)
      · exact hskip
    have hrest := (hyphens_rest hhyphens).trans hds
    exact .ok (List.IsSuffix.trans (by simp) hrest)

theorem leaves_classBody (verbose : Bool) (fuel : Nat) (pending : Pending)
    (items : List ClassSyntax) (cs : List Char) :
    Leaves (classBody verbose fuel pending items cs) cs := by
  induction fuel generalizing pending items cs with
  | zero => exact .error _
  | succ fuel ih =>
    rw [classBody.eq_def]
    dsimp only
    have hskip := skip_suffix verbose cs
    generalize skip verbose cs = ds at hskip ⊢
    refine Leaves.trans ?_ hskip
    split
    · exact .error _
    · exact .ok (List.suffix_cons _ _)
    · exact ((ih _ _ _).cons _).cons _
    · exact ((ih _ _ _).cons _).cons _
    · exact ((ih _ _ _).cons _).cons _
    · refine Leaves.cons ?_ _
      split
      · next h => exact (ih _ _ _).trans (namedClass?_suffix h)
      · refine Leaves.bind (leaves_classStart verbose _) fun start rest _ => ?_
        exact Leaves.bind (ih none start.2 rest) fun body rest _ => ih _ _ rest
    · exact (leaves_classRange verbose _).bind fun c rest _ => ih _ _ rest

theorem leaves_bracketed (verbose : Bool) (cs : List Char) :
    Leaves (bracketed verbose cs) cs := by
  rw [bracketed]
  refine (leaves_classStart verbose cs).bind fun start rest _ => ?_
  refine (leaves_classBody verbose _ none _ rest).bind fun body rest _ => ?_
  exact .ok (List.suffix_refl rest)

theorem greed_suffix (cs : List Char) : (greed cs).2 <:+ cs := by
  rw [greed.eq_def]
  split
  · exact List.suffix_cons _ _
  · exact List.suffix_refl cs

theorem leaves_bounds (verbose : Bool) (cs : List Char) : Leaves (bounds verbose cs) cs := by
  rw [bounds]
  refine ((leaves_decimal verbose (skip verbose cs)).trans (skip_suffix verbose cs)).bind
    fun min rest _ => ?_
  have hclose : ∀ {refused : Prop} [Decidable refused] {bound : Option Nat} {ds : List Char}
      {r : Read ((Nat × Option Nat) × List Char)}, Leaves (if refused then (do
        throw PatternError.badRepetition
        r) else pure ((min, bound), skip verbose ds)) ('}' :: ds) := by
    intro refused _ bound ds r
    split
    · exact .error _
    · exact .ok ((skip_suffix verbose ds).trans (List.suffix_cons _ ds))
  dsimp only
  split
  · refine Leaves.cons ?_ _
    split
    · rw [pure_bind]
      refine Leaves.trans ?_ (skip_suffix verbose _)
      split
      · next h =>
        dsimp only at h
        rw [h]
        exact hclose
      · exact .error _
    · refine Leaves.trans (.bind ((leaves_decimal verbose _).map some) fun bound rest _ => ?_)
        (skip_suffix verbose _)
      split
      · next h =>
        cases h
        exact hclose
      · exact .error _
  · rw [pure_bind]
    split
    · next h =>
      cases h
      exact hclose
    · exact .error _

theorem leaves_flags (value : Bool) (changes : List FlagChange) (cs : List Char) :
    Leaves (flags value changes cs) cs := by
  fun_induction flags value changes cs with
  | case1 | case2 | case5 | case6 | case7 => exact .error _
  | case3 => exact .ok (List.suffix_refl _)
  | case4 => rename_i ih; exact ih.cons _
  | case8 => rename_i ih; exact ih.cons _

theorem leaves_groupName (cs : List Char) : Leaves (groupName cs) cs := by
  rw [groupName.eq_def]
  dsimp only
  split
  · next hrest =>
    split
    · exact .ok ((List.suffix_cons _ _).trans (hrest ▸ List.dropWhile_suffix _))
    · exact .error _
  · exact .error _

theorem leaves_opening (st : State) (cs : List Char) : Leaves (opening st cs) cs := by
  rw [opening.eq_def]
  have hskip := skip_suffix st.verbose cs
  generalize skip st.verbose cs = ds at hskip ⊢
  refine Leaves.trans ?_ hskip
  split
  · exact .error _
  · exact .error _
  · exact .error _
  · exact .error _
  · refine (((Leaves.bind (leaves_groupName _) fun name rest _ => ?_).cons _).cons _).cons _
    exact .value (List.suffix_refl rest)
  · refine ((Leaves.bind (leaves_groupName _) fun name rest _ => ?_).cons _).cons _
    exact .value (List.suffix_refl rest)
  · refine (Leaves.bind (leaves_flags true [] _) fun changes rest _ => ?_).cons _
    split
    · next h =>
      cases h
      split
      · exact .error _
      · exact .ok (List.suffix_cons _ _)
    · next h =>
      cases h
      exact .ok (List.tail_suffix _)
  · exact .value (List.suffix_refl _)

end Repath.Reader
