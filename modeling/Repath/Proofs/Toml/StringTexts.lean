import Repath.Proofs.Toml.Grammar

namespace Repath.Toml

variable {c x q : Char} {b cs e f s t w rest : List Char} {run : Nat} {folding : Bool}
  {read : List Char → Option (List Char × List Char)} {r : Option (List Char × List Char)}

theorem prepend_eq_some :
    prepend c r = some (s, rest) ↔ ∃ s', s = c :: s' ∧ r = some (s', rest) := by
  simp only [prepend, Option.map_eq_some_iff, Prod.exists, Prod.mk.injEq]
  constructor
  · rintro ⟨s', rest', hr, rfl, rfl⟩
    exact ⟨s', rfl, hr⟩
  · rintro ⟨s', rfl, hr⟩
    exact ⟨s', rest, hr, rfl, rfl⟩

theorem bind_prepend_eq_some {o : Option Char} : (o.bind fun x => prepend x r) = some (s, rest) ↔
    ∃ x s', o = some x ∧ s = x :: s' ∧ r = some (s', rest) := by
  cases o with
  | none => simp
  | some x => simp [prepend_eq_some]

theorem Escape.exists_cons (h : Escape e x) : ∃ v, e = '\\' :: v := by
  cases h <;> exact ⟨_, rfl⟩

theorem basic_escape (h : Escape e x) (cs : List Char) :
    basic (e ++ cs) = prepend x (basic cs) := by
  cases h with
  | letter h => exact unescapes_basic.letter cs h
  | byte h =>
    simp only [List.cons_append, List.nil_append, basic, h, Option.bind_eq_bind, Option.bind_some]
  | short h => exact unescapes_basic.digits cs h
  | long h =>
    simp only [List.cons_append, List.nil_append, basic, h, Option.bind_eq_bind, Option.bind_some]

theorem basicLines_escape (h : Escape e x) (cs : List Char) :
    basicLines false (e ++ cs) = prepend x (basicLines false cs) := by
  cases h with
  | letter h => exact unescapes_basicLines.letter cs h
  | byte h =>
    simp only [List.cons_append, List.nil_append, basicLines, h, Option.bind_eq_bind, Option.bind_some]
  | short h => exact unescapes_basicLines.digits cs h
  | long h =>
    simp only [List.cons_append, List.nil_append, basicLines, h, Option.bind_eq_bind, Option.bind_some]

theorem basic_of_body (h : Body ⟨false, false⟩ run w s) (rest : List Char) :
    basic (w ++ '"' :: rest) = some (s, rest) := by
  induction h with
  | nil => rfl
  | quote hl => cases hl
  | plain hc hq hb h ih =>
    rw [List.cons_append, unescapes_basic.plain _ hc (fun h => by cases hb h) hq, ih]
    rfl
  | line hl => cases hl
  | escape hl he h ih =>
    rw [List.append_assoc, basic_escape he, ih]
    rfl
  | fold hl => cases hl

theorem body_of_basic (h : basic cs = some (s, rest)) :
    ∃ w, Body ⟨false, false⟩ 0 w s ∧ cs = w ++ '"' :: rest := by
  fun_induction basic cs generalizing s with
  | case1 => cases h
  | case2 rest' =>
    cases h
    exact ⟨[], .nil, rfl⟩
  | case3 a b cs ih =>
    obtain ⟨x, s, hx, rfl, hcs⟩ := bind_prepend_eq_some.1 h
    obtain ⟨w, hw, rfl⟩ := ih hcs
    exact ⟨_, .escape rfl (.byte hx) hw, rfl⟩
  | case4 a b c d cs ih =>
    obtain ⟨x, s, hx, rfl, hcs⟩ := bind_prepend_eq_some.1 h
    obtain ⟨w, hw, rfl⟩ := ih hcs
    exact ⟨_, .escape rfl (.short hx) hw, rfl⟩
  | case5 a b c d e f g i cs ih =>
    obtain ⟨x, s, hx, rfl, hcs⟩ := bind_prepend_eq_some.1 h
    obtain ⟨w, hw, rfl⟩ := ih hcs
    exact ⟨_, .escape rfl (.long hx) hw, rfl⟩
  | case6 c cs _ _ _ ih =>
    obtain ⟨x, s, hx, rfl, hcs⟩ := bind_prepend_eq_some.1 h
    obtain ⟨w, hw, rfl⟩ := ih hcs
    exact ⟨_, .escape rfl (.letter hx) hw, rfl⟩
  | case7 c cs hq _ _ _ _ hc ih =>
    obtain ⟨s, rfl, hcs⟩ := prepend_eq_some.1 h
    obtain ⟨w, hw, rfl⟩ := ih hcs
    rw [Bool.and_eq_true, bne_iff_ne] at hc
    exact ⟨_, .plain hc.1 hq (absurd · hc.2) hw, rfl⟩
  | case8 => cases h

theorem literal_of_body (h : Body ⟨true, false⟩ run w s) (rest : List Char) :
    literal (w ++ '\'' :: rest) = some (s, rest) := by
  induction h with
  | nil => rfl
  | quote hl => cases hl
  | plain hc hq hb h ih =>
    have hq : ¬_ = '\'' := hq
    rw [List.cons_append, literal, if_neg hq, if_pos hc, ih]
    rfl
  | line hl => cases hl
  | escape hl => cases hl
  | fold hl => cases hl

theorem body_of_literal (h : literal cs = some (s, rest)) :
    ∃ w, Body ⟨true, false⟩ 0 w s ∧ cs = w ++ '\'' :: rest := by
  fun_induction literal cs generalizing s with
  | case1 => cases h
  | case2 rest' =>
    cases h
    exact ⟨[], .nil, rfl⟩
  | case3 c cs hq hc ih =>
    obtain ⟨s, rfl, hcs⟩ := prepend_eq_some.1 h
    obtain ⟨w, hw, rfl⟩ := ih hcs
    exact ⟨_, .plain hc hq (fun _ => rfl) hw, rfl⟩
  | case4 => cases h

/-- Behind `run` quotes of the text, no closing quotes have begun. -/
def Free (q : Char) (run : Nat) (cs : List Char) : Prop :=
  0 < run → run ≤ 2 ∧ ¬List.replicate (3 - run) q <+: cs

theorem free_zero (q : Char) (cs : List Char) : Free q 0 cs :=
  fun h => absurd h (Nat.lt_irrefl 0)

theorem Free.close (h : Free q run (q :: q :: q :: cs)) : run = 0 := by
  match run with
  | 0 => rfl
  | 1 => exact absurd ⟨q :: cs, rfl⟩ (h Nat.one_pos).2
  | 2 => exact absurd ⟨q :: q :: cs, rfl⟩ (h Nat.two_pos).2
  | run + 3 => exact absurd (h (Nat.succ_pos _)).1 (by omega)

theorem Free.quote (h : Free q run (q :: cs)) (hcs : ¬[q, q] <+: cs) :
    run < 2 ∧ Free q (run + 1) cs := by
  match run with
  | 0 => exact ⟨Nat.two_pos, fun _ => ⟨Nat.le_succ 1, hcs⟩⟩
  | 1 =>
    refine ⟨Nat.one_lt_two, fun _ => ⟨Nat.le_refl 2, fun hpre => (h Nat.one_pos).2 ?_⟩⟩
    exact List.prefix_cons_inj q |>.2 hpre
  | 2 => exact absurd ⟨cs, rfl⟩ (h Nat.two_pos).2
  | run + 3 => exact absurd (h (Nat.succ_pos _)).1 (by omega)

theorem closing_eq (h : closing q cs = (s, rest)) :
    ∃ k ≤ 2, s = List.replicate k q ∧ cs = List.replicate k q ++ rest := by
  unfold closing at h
  split at h
  · next a b cs =>
    split at h
    · next hab =>
      obtain ⟨rfl, rfl⟩ := hab
      cases h
      exact ⟨2, Nat.le_refl 2, rfl, rfl⟩
    split at h
    · next ha =>
      subst ha
      cases h
      exact ⟨1, Nat.le_succ 1, rfl, rfl⟩
    · cases h
      exact ⟨0, Nat.zero_le 2, rfl, rfl⟩
  · next a =>
    split at h
    · next ha =>
      subst ha
      cases h
      exact ⟨1, Nat.le_succ 1, rfl, rfl⟩
    · cases h
      exact ⟨0, Nat.zero_le 2, rfl, rfl⟩
  · cases h
    exact ⟨0, Nat.zero_le 2, rfl, rfl⟩

theorem body_quotes (style : StringStyle) (hl : style.lines = true) {k : Nat} (h : run + k ≤ 2) :
    Body style run (List.replicate k style.quote) (List.replicate k style.quote) := by
  induction k generalizing run with
  | zero => exact .nil
  | succ k ih => exact .quote hl (by omega) (ih (by omega))

theorem replicate_append_quotes (k : Nat) (q : Char) (rest : List Char) :
    List.replicate k q ++ q :: q :: q :: rest = q :: q :: q :: (List.replicate k q ++ rest) := by
  induction k with
  | zero => rfl
  | succ k ih => rw [List.replicate_succ, List.cons_append, ih, List.cons_append]

/-- What the readers of the two styles with lines have in common. -/
structure LinesReader (style : StringStyle) (read : List Char → Option (List Char × List Char)) :
    Prop where
  close : ∀ cs, read (style.quote :: style.quote :: style.quote :: cs) =
    some (closing style.quote cs)
  quote : ∀ {cs}, ¬[style.quote, style.quote] <+: cs →
    read (style.quote :: cs) = prepend style.quote (read cs)
  plain : ∀ {c} cs, isPlain c = true → c ≠ style.quote → (c = '\\' → style.literal = true) →
    read (c :: cs) = prepend c (read cs)
  line : ∀ {e cs s rest}, LineEnd e → read cs = some (s, rest) →
    read (e ++ cs) = some (e ++ s, rest)
  escape : ∀ {e x} cs, style.literal = false → Escape e x → read (e ++ cs) = prepend x (read cs)
  fold : ∀ {f cs}, style = ⟨false, true⟩ → Gap false f → '\n' ∈ f → Solid cs →
    read ('\\' :: (f ++ cs)) = read cs

section
variable {style : StringStyle} {k : Nat}

theorem StringStyle.quote_ne {style : StringStyle} (hc : c ≠ '"') (hc' : c ≠ '\'') :
    c ≠ style.quote := by
  rw [quote]
  split
  · exact hc'
  · exact hc

theorem LinesReader.quotes (hr : LinesReader style read) (hk : k ≤ 2)
    (hcs : cs.head? ≠ some style.quote) (h : read cs = some (s, rest)) :
    read (List.replicate k style.quote ++ cs) =
      some (List.replicate k style.quote ++ s, rest) := by
  have hone : ¬[style.quote] <+: cs := by
    rintro ⟨v, rfl⟩
    exact hcs rfl
  have htwo : ¬[style.quote, style.quote] <+: cs := fun ⟨v, hv⟩ => hone ⟨style.quote :: v, hv⟩
  have hread : read (style.quote :: cs) = some (style.quote :: s, rest) := by
    rw [hr.quote htwo, h]
    rfl
  match k with
  | 0 => exact h
  | 1 => exact hread
  | 2 =>
    change read (style.quote :: style.quote :: cs) = _
    rw [hr.quote fun hpre => hone ((List.prefix_cons_inj _).1 hpre), hread]
    rfl

theorem LinesReader.closes (hr : LinesReader style read) (hk : k ≤ 2)
    (hrest : rest.head? ≠ some style.quote) :
    read (List.replicate k style.quote ++ style.quote :: style.quote :: style.quote :: rest) =
      some (List.replicate k style.quote, rest) := by
  rw [replicate_append_quotes, hr.close]
  match k with
  | 0 => exact congrArg some (closing_nil hrest)
  | 1 => exact congrArg some (closing_one hrest)
  | 2 => exact congrArg some closing_two

theorem Solid.append (h : Solid w) (hcs : Solid cs) : Solid (w ++ cs) := by
  cases w with
  | nil => exact hcs
  | cons c w => exact h

theorem solid_quote (style : StringStyle) (cs : List Char) : Solid (style.quote :: cs) := by
  rintro c hc
  obtain rfl : style.quote = c := by simpa using hc
  rw [StringStyle.quote]
  split <;> exact ⟨rfl, by decide, by decide⟩

/-- The reader of a style with lines takes all of a text in that style, and of the quotes behind it
those that close it. -/
theorem LinesReader.read_body (hr : LinesReader style read) (h : Body style run w s)
    (hrun : run ≤ 2) (hrest : rest.head? ≠ some style.quote) :
    read (List.replicate run style.quote ++
        (w ++ style.quote :: style.quote :: style.quote :: rest)) =
      some (List.replicate run style.quote ++ s, rest) := by
  induction h with
  | nil =>
    rw [List.append_nil]
    exact hr.closes hrun hrest
  | @quote run w s hl hlt h ih =>
    have hmore : ∀ v, List.replicate run style.quote ++ style.quote :: v =
        List.replicate (run + 1) style.quote ++ v := by
      intro v
      rw [List.replicate_succ', List.append_assoc]
      rfl
    rw [List.cons_append, hmore, hmore]
    exact ih hlt
  | plain hc hq hb h ih =>
    refine hr.quotes hrun (by simpa using hq) ?_
    rw [List.cons_append, hr.plain _ hc hq hb]
    exact congrArg (prepend _) (ih (Nat.zero_le 2))
  | line hl he h ih =>
    refine hr.quotes hrun ?_ ?_
    · cases he
      · exact fun h => StringStyle.quote_ne (by decide) (by decide) (Option.some.inj h)
      · exact fun h => StringStyle.quote_ne (by decide) (by decide) (Option.some.inj h)
    · rw [List.append_assoc]
      exact hr.line he (ih (Nat.zero_le 2))
  | escape hl he h ih =>
    refine hr.quotes hrun ?_ ?_
    · obtain ⟨v, rfl⟩ := he.exists_cons
      exact fun h => StringStyle.quote_ne (by decide) (by decide) (Option.some.inj h)
    · rw [List.append_assoc, hr.escape _ hl he]
      exact congrArg (prepend _) (ih (Nat.zero_le 2))
  | fold hl hf hn hw h ih =>
    refine hr.quotes hrun ?_ ?_
    · exact fun h => StringStyle.quote_ne (by decide) (by decide) (Option.some.inj h)
    · rw [List.cons_append, List.append_assoc,
        hr.fold hl hf hn (hw.append (solid_quote style _))]
      exact ih (Nat.zero_le 2)

end

theorem isBlank_iff : isBlank c = true ↔ c = ' ' ∨ c = '\t' := by
  simp [isBlank]

theorem basicLines_solid (h : Solid cs) : basicLines true cs = basicLines false cs := by
  cases cs with
  | nil => rfl
  | cons c cs =>
    obtain ⟨hblank, hn, hr⟩ := h c rfl
    have hblank : c ≠ ' ' ∧ c ≠ '\t' := by simpa [isBlank] using hblank
    rw [basicLines.eq_def, basicLines.eq_def false]
    split <;> simp_all

theorem basicLines_gap (h : Gap false f) (cs : List Char) :
    basicLines true (f ++ cs) = basicLines true cs := by
  induction h with
  | nil => rfl
  | blank hc h ih =>
    obtain rfl | rfl := isBlank_iff.1 hc
    · exact ih
    · exact ih
  | line he h ih =>
    rw [List.append_assoc]
    cases he
    · exact ih
    · exact ih
  | comment hc => cases hc

theorem endsLine_gap (h : Gap false f) (hcs : Solid cs) :
    endsLine (f ++ cs) = true ↔ '\n' ∈ f := by
  induction h with
  | nil =>
    cases cs with
    | nil => simp [endsLine]
    | cons c cs =>
      obtain ⟨hblank, hn, hr⟩ := hcs c rfl
      have hdrop : (c :: cs).dropWhile (fun c => c == ' ' || c == '\t') = c :: cs :=
        List.dropWhile_cons_of_neg (by simpa [isBlank] using hblank)
      rw [List.nil_append, endsLine, hdrop]
      split <;> simp_all
  | @blank c w hc h ih =>
    have hn : '\n' ≠ c := by
      rintro rfl
      cases hc
    rw [List.mem_cons, or_iff_right hn, ← ih]
    obtain rfl | rfl := isBlank_iff.1 hc
    · exact Iff.rfl
    · exact Iff.rfl
  | line he h ih =>
    cases he
    · simp [endsLine]
    · simp [endsLine]
  | comment hc => cases hc

theorem Gap.head {comments : Bool} (h : Gap comments (c :: f)) :
    c = ' ' ∨ c = '\t' ∨ c = '\n' ∨ c = '\r' ∨ comments = true ∧ c = '#' := by
  generalize hw : c :: f = w at h
  cases h with
  | nil => cases hw
  | blank hc =>
    obtain ⟨rfl, -⟩ := List.cons.inj hw
    obtain rfl | rfl := isBlank_iff.1 hc
    · exact .inl rfl
    · exact .inr (.inl rfl)
  | line he =>
    cases he
    · exact .inr (.inr (.inl (List.cons.inj hw).1))
    · exact .inr (.inr (.inr (.inl (List.cons.inj hw).1)))
  | comment hc ht =>
    cases ht
    exact .inr (.inr (.inr (.inr ⟨hc, (List.cons.inj hw).1⟩)))

theorem linesReader_basicLines : LinesReader ⟨false, true⟩ (basicLines false) where
  close _ := rfl
  quote h := basicLines_quote h
  plain cs hc hq hb := unescapes_basicLines.plain cs hc (fun h => by cases hb h) hq
  line he h := by
    cases he
    · exact congrArg (prepend _) h
    · exact congrArg (fun r => prepend _ (prepend _ r)) h
  escape cs _ he := basicLines_escape he cs
  fold {f cs} _ hf hn hcs := by
    have hends := (endsLine_gap hf hcs).2 hn
    have hread := basicLines_gap hf cs
    cases f with
    | nil => cases hn
    | cons c f =>
      rw [← basicLines_solid hcs, ← hread]
      rw [List.cons_append] at hends ⊢
      obtain rfl | rfl | rfl | rfl | ⟨h, -⟩ := hf.head
      · simp [basicLines, escaped?, hends]
      · simp [basicLines, escaped?, hends]
      · simp [basicLines, escaped?, hends]
      · simp [basicLines, escaped?, hends]
      · cases h

theorem linesReader_literalLines : LinesReader ⟨true, true⟩ literalLines where
  close _ := rfl
  quote h := literalLines_cons (.inl rfl) fun _ => h
  plain cs hc hq _ := literalLines_cons (.inl hc) fun h => absurd h hq
  line he h := by
    cases he
    · exact congrArg (prepend _) h
    · exact congrArg (fun r => prepend _ (prepend _ r)) h
  escape _ hl := by cases hl
  fold hl := by cases hl

/-- What the reader of a basic string with lines takes up to the closing quotes. While it is
folding, that begins with all there is to fold. -/
inductive Taken (rest : List Char) : (folding : Bool) → (run : Nat) → List Char → List Char → Prop
  | text {run : Nat} {w s : List Char} (h : Body ⟨false, true⟩ run w s) :
      Taken rest false run (w ++ '"' :: '"' :: '"' :: rest) s
  | folded {f w s : List Char} (hf : Gap false f) (hw : Solid w) (h : Body ⟨false, true⟩ 0 w s) :
      Taken rest true 0 (f ++ (w ++ '"' :: '"' :: '"' :: rest)) s

theorem Taken.of_body (h : Body ⟨false, true⟩ run w s) (hsolid : folding = true → Solid w)
    (hrun : folding = true → run = 0) :
    Taken rest folding run (w ++ '"' :: '"' :: '"' :: rest) s := by
  cases folding with
  | false => exact .text h
  | true =>
    obtain rfl := hrun rfl
    exact .folded .nil (hsolid rfl) h

theorem Taken.exists_body (h : Taken rest false run cs s) :
    ∃ w, cs = w ++ '"' :: '"' :: '"' :: rest ∧ Body ⟨false, true⟩ run w s := by
  cases h with
  | text h => exact ⟨_, rfl, h⟩

theorem solid_cons (hc : isBlank c = false) (hn : c ≠ '\n') (hr : c ≠ '\r') : Solid (c :: w) := by
  rintro d hd
  obtain rfl := Option.some.inj hd
  exact ⟨hc, hn, hr⟩

theorem Taken.escape (he : Escape e x) (hrun : folding = true → run = 0)
    (h : Taken rest false 0 cs s) : Taken rest folding run (e ++ cs) (x :: s) := by
  obtain ⟨w, rfl, hw⟩ := h.exists_body
  rw [← List.append_assoc]
  refine .of_body (.escape rfl he hw) (fun _ => ?_) hrun
  obtain ⟨v, rfl⟩ := he.exists_cons
  exact solid_cons rfl (by decide) (by decide)

theorem taken_of_basicLines (h : basicLines folding cs = some (s, rest))
    (hrun : folding = true → run = 0) (hfree : Free '"' run cs) :
    Taken rest folding run cs s := by
  have hfalse : ∀ {n : Nat}, false = true → n = 0 := fun h => absurd h (by decide)
  fun_induction basicLines folding cs generalizing s run with
  | case1 => cases h
  | case2 folding cs =>
    obtain ⟨k, hk, rfl, rfl⟩ := closing_eq (Option.some.inj h)
    obtain rfl := hfree.close
    rw [← replicate_append_quotes]
    have hbody : Body ⟨false, true⟩ 0 (List.replicate k '"') (List.replicate k '"') :=
      body_quotes ⟨false, true⟩ rfl (by omega)
    refine .of_body hbody (fun _ => ?_) hrun
    cases k with
    | zero => exact fun c hc => absurd hc (by simp)
    | succ k => exact solid_cons rfl (by decide) (by decide)
  | case3 folding a b cs ih =>
    obtain ⟨x, s, hx, rfl, hcs⟩ := bind_prepend_eq_some.1 h
    exact .escape (.byte hx) hrun (ih hcs hfalse (free_zero _ _))
  | case4 folding a b c d cs ih =>
    obtain ⟨x, s, hx, rfl, hcs⟩ := bind_prepend_eq_some.1 h
    exact .escape (.short hx) hrun (ih hcs hfalse (free_zero _ _))
  | case5 folding a b c d e f g i cs ih =>
    obtain ⟨x, s, hx, rfl, hcs⟩ := bind_prepend_eq_some.1 h
    exact .escape (.long hx) hrun (ih hcs hfalse (free_zero _ _))
  | case6 folding c cs _ _ _ x hx ih =>
    obtain ⟨s, rfl, hcs⟩ := prepend_eq_some.1 h
    exact .escape (.letter hx) hrun (ih hcs hfalse (free_zero _ _))
  | case7 folding c cs _ _ _ _ hends ih =>
    generalize hcs : c :: cs = cs' at h hends ih
    cases ih h (fun _ => rfl) (free_zero _ _) with
    | folded hf hw hbody =>
      have hn := (endsLine_gap hf (hw.append (solid_quote ⟨false, true⟩ _))).1 hends
      rw [← List.append_assoc]
      exact .of_body (.fold rfl hf hn hw hbody)
        (fun _ => solid_cons rfl (by decide) (by decide)) hrun
  | case8 => cases h
  | case9 cs ih =>
    cases ih h (fun _ => rfl) (free_zero _ _) with
    | folded hf hw hbody =>
      obtain rfl := hrun rfl
      exact .folded (.line .carriage hf) hw hbody
  | case10 folding cs hfold ih =>
    obtain ⟨s, rfl, hline⟩ := prepend_eq_some.1 h
    obtain ⟨s, rfl, hcs⟩ := prepend_eq_some.1 hline
    obtain ⟨w, rfl, hw⟩ := (ih hcs hfalse (free_zero _ _)).exists_body
    obtain rfl : folding = false := by simpa using hfold
    exact .text (.line rfl .carriage hw)
  | case11 folding c cs _ _ _ _ _ _ hfold ih =>
    simp only [Bool.and_eq_true, Bool.or_eq_true, beq_iff_eq] at hfold
    obtain ⟨rfl, hc⟩ := hfold
    cases ih h (fun _ => rfl) (free_zero _ _) with
    | folded hf hw hbody =>
      obtain rfl := hrun rfl
      obtain hc | rfl := hc
      · exact .folded (.blank (isBlank_iff.2 hc) hf) hw hbody
      · exact .folded (.line .feed hf) hw hbody
  | case12 folding c cs hquotes _ _ _ _ _ hfold hc ih =>
    obtain ⟨s, rfl, hcs⟩ := prepend_eq_some.1 h
    by_cases hq : c = '"'
    · subst hq
      obtain ⟨hlt, hfree⟩ := hfree.quote fun ⟨v, hv⟩ => hquotes v rfl hv.symm
      obtain ⟨w, rfl, hw⟩ := (ih hcs hfalse hfree).exists_body
      have hbody : Body ⟨false, true⟩ run ('"' :: w) ('"' :: s) := .quote rfl hlt hw
      exact .of_body hbody (fun _ => solid_cons rfl (by decide) (by decide)) hrun
    obtain ⟨w, rfl, hw⟩ := (ih hcs hfalse (free_zero _ _)).exists_body
    simp only [Bool.and_eq_true, Bool.or_eq_true, beq_iff_eq, not_and, not_or, bne_iff_ne]
      at hfold hc
    obtain ⟨hplain, hback⟩ | rfl := hc
    · refine .of_body (.plain hplain hq (absurd · hback) hw) (fun hf => ?_) hrun
      obtain ⟨hblank, hn⟩ := hfold hf
      refine solid_cons (by simpa [isBlank] using hblank) hn ?_
      rintro rfl
      exact absurd hplain (by decide)
    · exact .of_body (.line rfl .feed hw) (fun hf => absurd rfl (hfold hf).2) hrun
  | case13 => cases h

theorem body_of_literalLines (h : literalLines cs = some (s, rest)) (hfree : Free '\'' run cs) :
    ∃ w, cs = w ++ '\'' :: '\'' :: '\'' :: rest ∧ Body ⟨true, true⟩ run w s := by
  fun_induction literalLines cs generalizing s run with
  | case1 => cases h
  | case2 cs =>
    obtain ⟨k, hk, rfl, rfl⟩ := closing_eq (Option.some.inj h)
    obtain rfl := hfree.close
    exact ⟨_, (replicate_append_quotes k '\'' rest).symm,
      body_quotes ⟨true, true⟩ rfl (by omega)⟩
  | case3 cs ih =>
    obtain ⟨s, rfl, hline⟩ := prepend_eq_some.1 h
    obtain ⟨s, rfl, hcs⟩ := prepend_eq_some.1 hline
    obtain ⟨w, rfl, hw⟩ := ih hcs (free_zero _ _)
    exact ⟨_, rfl, .line rfl .carriage hw⟩
  | case4 c cs hquotes _ hc ih =>
    obtain ⟨s, rfl, hcs⟩ := prepend_eq_some.1 h
    by_cases hq : c = '\''
    · subst hq
      obtain ⟨hlt, hfree⟩ := hfree.quote fun ⟨v, hv⟩ => hquotes v rfl hv.symm
      obtain ⟨w, rfl, hw⟩ := ih hcs hfree
      have hbody : Body ⟨true, true⟩ run ('\'' :: w) ('\'' :: s) := .quote rfl hlt hw
      exact ⟨_, rfl, hbody⟩
    obtain ⟨w, rfl, hw⟩ := ih hcs (free_zero _ _)
    rw [Bool.or_eq_true, beq_iff_eq] at hc
    obtain hplain | rfl := hc
    · exact ⟨_, rfl, .plain hplain hq (fun _ => rfl) hw⟩
    · exact ⟨_, rfl, .line rfl .feed hw⟩
  | case5 => cases h

theorem exists_trimLineEnd (cs : List Char) : ∃ t, cs = t ++ trimLineEnd cs ∧
    (LineEnd t ∨ t = [] ∧ ∀ e, LineEnd e → ¬e <+: trimLineEnd cs) := by
  unfold trimLineEnd
  split
  · exact ⟨['\n'], rfl, .inl .feed⟩
  · exact ⟨['\r', '\n'], rfl, .inl .carriage⟩
  · next hfeed hcarriage =>
    refine ⟨[], rfl, .inr ⟨rfl, fun e he hpre => ?_⟩⟩
    obtain ⟨v, rfl⟩ := hpre
    cases he
    · exact hfeed v rfl
    · exact hcarriage v rfl

theorem trimLineEnd_opens {style : StringStyle} (hl : style.lines = true) (h : Opening style t w)
    (cs : List Char) : trimLineEnd (t ++ (w ++ style.quote :: cs)) = w ++ style.quote :: cs := by
  cases h with
  | line hl he =>
    cases he
    · rfl
    · rfl
  | none h =>
    have hn : '\n' ≠ style.quote := StringStyle.quote_ne (by decide) (by decide)
    have hr : '\r' ≠ style.quote := StringStyle.quote_ne (by decide) (by decide)
    rw [List.nil_append, trimLineEnd]
    · rintro v hv
      cases w with
      | nil => exact hn (List.cons.inj hv).1.symm
      | cons c w =>
        obtain ⟨rfl, -⟩ := List.cons.inj hv
        exact h hl _ .feed ⟨w, rfl⟩
    · rintro v hv
      cases w with
      | nil => exact hr (List.cons.inj hv).1.symm
      | cons c w =>
        obtain ⟨rfl, hw⟩ := List.cons.inj hv
        cases w with
        | nil => exact hn (List.cons.inj hw).1.symm
        | cons d w =>
          obtain ⟨rfl, -⟩ := List.cons.inj hw
          exact h hl _ .carriage ⟨w, rfl⟩

theorem Body.not_quotes {style : StringStyle} (h : Body style run w s) (hl : style.lines = false)
    (hrest : rest.head? ≠ some style.quote) :
    ¬[style.quote, style.quote] <+: w ++ style.quote :: rest := by
  have hcons : ∀ {c v}, c ≠ style.quote → ¬[style.quote, style.quote] <+: c :: v :=
    fun hc hpre => hc (List.cons_prefix_cons.1 hpre).1.symm
  cases h with
  | nil =>
    intro hpre
    obtain ⟨v, hv⟩ := (List.prefix_cons_inj style.quote).1 hpre
    rw [← hv] at hrest
    exact hrest rfl
  | quote hlines => rw [hl] at hlines; cases hlines
  | plain hc hq => exact hcons hq
  | line hlines => rw [hl] at hlines; cases hlines
  | escape _ he =>
    obtain ⟨v, rfl⟩ := he.exists_cons
    exact hcons (StringStyle.quote_ne (by decide) (by decide))
  | fold hstyle => rw [hstyle] at hl; cases hl

theorem string_of_text (h : StringText w s) (hdouble : rest.head? ≠ some '"')
    (hsingle : rest.head? ≠ some '\'') : string (w ++ rest) = some (s, rest) := by
  obtain @⟨style, t, w, s, ht, hbody⟩ := h
  match style with
  | ⟨false, false⟩ =>
    cases ht with
    | line hl => cases hl
    | none =>
      have hw := hbody.not_quotes rfl hdouble
      change string ('"' :: (w ++ ['"'] ++ rest)) = _
      rw [List.append_assoc]
      exact (string_basic hw).trans (basic_of_body hbody rest)
  | ⟨true, false⟩ =>
    cases ht with
    | line hl => cases hl
    | none =>
      have hw := hbody.not_quotes rfl hsingle
      change string ('\'' :: (w ++ ['\''] ++ rest)) = _
      rw [List.append_assoc]
      exact (string_literal hw).trans (literal_of_body hbody rest)
  | ⟨false, true⟩ =>
    have htrim := trimLineEnd_opens rfl ht ('"' :: '"' :: rest)
    have hread := linesReader_basicLines.read_body hbody (Nat.zero_le 2) hdouble
    change basicLines false (trimLineEnd (t ++ w ++ ['"', '"', '"'] ++ rest)) = _
    rw [List.append_assoc, List.append_assoc]
    exact (congrArg (basicLines false) htrim).trans hread
  | ⟨true, true⟩ =>
    have htrim := trimLineEnd_opens rfl ht ('\'' :: '\'' :: rest)
    have hread := linesReader_literalLines.read_body hbody (Nat.zero_le 2) hsingle
    change literalLines (trimLineEnd (t ++ w ++ ['\'', '\'', '\''] ++ rest)) = _
    rw [List.append_assoc, List.append_assoc]
    exact (congrArg literalLines htrim).trans hread

/-- Behind the opening quotes of a style with lines, what the reader takes is a string. -/
theorem text_of_lines (style : StringStyle) (hl : style.lines = true)
    (hcs : trimLineEnd cs = w ++ style.quote :: style.quote :: style.quote :: rest)
    (h : Body style 0 w s) :
    ∃ v, StringText v s ∧ style.quote :: style.quote :: style.quote :: cs = v ++ rest := by
  obtain ⟨t, ht, hopen⟩ := exists_trimLineEnd cs
  have hquotes : style.quotes = [style.quote, style.quote, style.quote] := by
    rw [StringStyle.quotes, if_pos hl]
    rfl
  have hopening : Opening style t w := by
    obtain he | ⟨rfl, hnone⟩ := hopen
    · exact .line hl he
    · refine .none fun _ e he hpre => hnone e he ?_
      rw [hcs]
      exact hpre.trans (List.prefix_append _ _)
  refine ⟨_, .intro hopening h, ?_⟩
  rw [ht, hcs, hquotes]
  simp

theorem text_of_string (h : string cs = some (s, rest)) :
    ∃ w, StringText w s ∧ cs = w ++ rest := by
  have hnone : ∀ {style : StringStyle} {w : List Char}, style.lines = false →
      Opening style [] w := fun hl => .none fun h => by simp [hl] at h
  unfold string at h
  split at h
  · obtain ⟨w, hcs, hw⟩ := (taken_of_basicLines h (fun h => by cases h) (free_zero _ _)).exists_body
    exact text_of_lines ⟨false, true⟩ rfl hcs hw
  · obtain ⟨w, hw, rfl⟩ := body_of_basic h
    exact ⟨_, .intro (hnone rfl) hw, by simp [StringStyle.quotes, StringStyle.quote]⟩
  · obtain ⟨w, hcs, hw⟩ := body_of_literalLines h (free_zero _ _)
    exact text_of_lines ⟨true, true⟩ rfl hcs hw
  · obtain ⟨w, hw, rfl⟩ := body_of_literal h
    exact ⟨_, .intro (hnone rfl) hw, by simp [StringStyle.quotes, StringStyle.quote]⟩
  · cases h

theorem stringText_of_string (h : string w = some (s, [])) : StringText w s := by
  obtain ⟨v, hv, heq⟩ := text_of_string h
  rw [heq, List.append_nil]
  exact hv

end Repath.Toml
