import Repath.Proofs.Toml.ValueTexts

namespace Repath.Toml

variable {α : Type} {c : Char} {b cs e g rest t u w : List Char} {R : List Char → α → Prop}
  {xs : List α} {st : Statement} {ss : List Statement} {fuel n : Nat} {table : Table}

theorem Trail.blank (ht : Trail t) (hc : isBlank c = true) : Trail (c :: t) := by
  cases ht with
  | blanks hb => exact .blanks (blanks_cons.2 ⟨hc, hb⟩)
  | @comment b t hb ht =>
    have htrail : Trail (c :: b ++ t) := .comment (blanks_cons.2 ⟨hc, hb⟩) ht
    exact htrail

theorem Lines.blank (h : Lines R w xs) (hc : isBlank c = true) : Lines R (c :: w) xs := by
  have hline : ∀ {w xs}, Line R w xs → Line R (c :: w) xs := by
    rintro w xs (ht | ⟨hb, hw, ht⟩)
    · exact .empty (ht.blank hc)
    · exact .full (blanks_cons.2 ⟨hc, hb⟩) hw ht
  cases h with
  | last h => exact .last (hline h)
  | cons h he hu => exact .cons (hline h) he hu

theorem Lines.gap (h : Lines R w xs) (hg : Gap true g) : Lines R (g ++ w) xs := by
  induction hg with
  | nil => exact h
  | blank hc hg ih => exact ih.blank hc
  | @line e g he hg ih =>
    have hlines : Lines R ([] ++ (e ++ (g ++ w))) ([] ++ xs) :=
      .cons (.empty (.blanks blanks_nil)) he ih
    rw [List.append_assoc]
    exact hlines
  | @comment t e g _ ht he hg ih =>
    have hlines : Lines R ([] ++ t ++ (e ++ (g ++ w))) ([] ++ xs) :=
      .cons (.empty (.comment blanks_nil ht)) he ih
    rw [List.append_assoc, List.append_assoc]
    exact hlines

theorem gap_of_blanks (hb : Blanks b) : Gap true b := by
  induction b with
  | nil => exact .nil
  | cons c b ih =>
    obtain ⟨hc, hb⟩ := blanks_cons.1 hb
    exact .blank hc (ih hb)

inductive AtEnd : List Char → List Char → Prop
  | text : AtEnd [] []
  | line {e cs : List Char} (he : LineEnd e) : AtEnd (e ++ cs) cs

theorem AtEnd.not_blank (h : AtEnd cs rest) : ∀ c ∈ cs.head?, isBlank c = false := by
  rintro c hc
  cases h with
  | text => cases hc
  | line he =>
    cases he
    · obtain rfl := Option.some.inj hc
      rfl
    · obtain rfl := Option.some.inj hc
      rfl

theorem AtEnd.skip (h : AtEnd cs rest) (inComment : Bool) :
    skipLines inComment cs = skipLines false rest := by
  cases h with
  | text => cases inComment <;> rfl
  | line he => exact skipLines_lineEnd he rest

theorem Trail.skip (ht : Trail t) (h : AtEnd cs rest) :
    skipLines false (t ++ cs) = skipLines false rest := by
  cases ht with
  | blanks hb => rw [skipLines_gap (gap_of_blanks hb), h.skip]
  | comment hb ht =>
    rw [List.append_assoc, skipLines_gap (gap_of_blanks hb), skipLines_comment ht, h.skip]

theorem Trail.ends (ht : Trail t) (h : AtEnd cs rest) : Ends (t ++ cs) := by
  have hblanks : ∀ {b cs}, Blanks b → Ends cs → Ends (b ++ cs) := by
    intro b cs hb hcs
    induction b with
    | nil => exact hcs
    | cons c b ih =>
      obtain ⟨hc, hb⟩ := blanks_cons.1 hb
      exact .blank hc (ih hb)
  cases ht with
  | blanks hb =>
    refine hblanks hb ?_
    cases h with
    | text => exact .nil
    | line he => cases he <;> exact .stop rfl rfl
  | comment hb ht =>
    rw [List.append_assoc]
    refine hblanks hb ?_
    cases ht
    exact .stop rfl rfl

theorem comment?_append (hu : ∀ c ∈ u, isPlain c = true) (h : AtEnd cs rest) :
    comment? (u ++ cs) = some cs := by
  induction u with
  | nil =>
    cases h with
    | text => rfl
    | line he => cases he <;> rfl
  | cons c u ih =>
    obtain ⟨hc, hu⟩ := List.forall_mem_cons.1 hu
    have hn : c ≠ '\n' := fun h => absurd hc (by rw [h]; decide)
    have hr : c ≠ '\r' := fun h => absurd hc (by rw [h]; decide)
    rw [List.cons_append, comment?, if_pos hc, ih hu]
    · exact hn
    · exact fun _ h => absurd h hr

theorem exists_comment (h : comment? cs = some rest) :
    ∃ u, (∀ c ∈ u, isPlain c = true) ∧ cs = u ++ rest ∧ ∃ v, AtEnd rest v := by
  fun_induction comment? cs with
  | case1 =>
    cases h
    exact ⟨[], by simp, rfl, _, .text⟩
  | case2 cs =>
    cases h
    exact ⟨[], by simp, rfl, _, .line .feed⟩
  | case3 cs =>
    cases h
    exact ⟨[], by simp, rfl, _, .line .carriage⟩
  | case4 c cs _ _ hc ih =>
    obtain ⟨u, hu, rfl, hend⟩ := ih h
    exact ⟨c :: u, List.forall_mem_cons.2 ⟨hc, hu⟩, rfl, hend⟩
  | case5 => cases h

theorem Trail.lineEnd (ht : Trail t) (h : AtEnd cs rest) : lineEnd? (t ++ cs) = some rest := by
  cases ht with
  | blanks hb =>
    rw [lineEnd?, skipBlanks_append hb h.not_blank]
    cases h with
    | text => rfl
    | line he => cases he <;> rfl
  | comment hb ht =>
    obtain ⟨hu⟩ := ht
    rw [List.append_assoc, lineEnd?, skipBlanks_append hb (by simp [isBlank]), List.cons_append]
    simp only [comment?_append hu h, Option.bind_eq_bind, Option.bind_some]
    cases h with
    | text => rfl
    | line he => cases he <;> rfl

theorem exists_lineEnd (h : lineEnd? cs = some rest) :
    ∃ t v, Trail t ∧ AtEnd v rest ∧ cs = t ++ v := by
  obtain ⟨b, hb, hcs⟩ := exists_skipBlanks cs
  unfold lineEnd? at h
  split at h
  · next u hu =>
    obtain ⟨v, hv, hrest⟩ := Option.bind_eq_some_iff.1 h
    obtain ⟨w, hw, rfl, -⟩ := exists_comment hv
    have htrail : Trail (b ++ '#' :: w) := .comment hb (.intro hw)
    have hcs : cs = b ++ '#' :: w ++ v := by
      rw [hcs, hu, List.append_assoc]
      rfl
    dsimp only at hrest
    split at hrest
    · cases hrest
      exact ⟨_, _, htrail, .text, hcs⟩
    · cases hrest
      exact ⟨_, _, htrail, .line .feed, hcs⟩
    · cases hrest
      exact ⟨_, _, htrail, .line .carriage, hcs⟩
    · cases hrest
  · generalize skipBlanks cs = v at h hcs
    dsimp only [Option.bind_eq_bind, Option.bind_some] at h
    split at h
    · cases h
      exact ⟨b, _, .blanks hb, .text, hcs⟩
    · cases h
      exact ⟨b, _, .blanks hb, .line .feed, hcs⟩
    · cases h
      exact ⟨b, _, .blanks hb, .line .carriage, hcs⟩
    · cases h

theorem KeyText.exists_ne {k : List Char} {path : List String} (h : KeyText k path) :
    ∃ c v, k = c :: v ∧ c ≠ '[' ∧ c ≠ '\uFEFF' := by
  obtain ⟨c, v, rfl, hc⟩ := h.exists_cons
  refine ⟨c, v, rfl, ?_⟩
  obtain hc | rfl | rfl := hc
  · exact ⟨ne_of_isBareKeyChar hc (by decide), ne_of_isBareKeyChar hc (by decide)⟩
  · decide
  · decide

theorem Keyval.exists_ne {y : List String × α} (h : Keyval R w y) :
    ∃ c v, w = c :: v ∧ c ≠ '[' ∧ c ≠ '\uFEFF' := by
  cases h with
  | intro hk =>
    obtain ⟨c, v, rfl, hc⟩ := hk.exists_ne
    exact ⟨c, _, rfl, hc⟩

theorem StatementText.firm {R : List Char → Value → Prop} (h : StatementText R w st) : Firm w := by
  cases h with
  | assign h => exact h.firm
  | table => exact ⟨_, _, rfl, rfl⟩
  | element => exact ⟨_, _, rfl, rfl⟩

theorem statement_append (h : StatementText (ValueText maxDepth) w st) (hrest : Ends rest)
    (hfuel : 2 * w.length ≤ fuel) : statement fuel (w ++ rest) = some (st, rest) := by
  cases h with
  | @assign w path v h =>
    have hread : assignment fuel maxDepth (w ++ rest) = some ((path, v), rest) :=
      readsAll_assignment (readsAll_value maxDepth) ValueText.firm w (path, v) h fuel rest hfuel
        hrest
    obtain ⟨c, u, rfl, hc, -⟩ := h.exists_ne
    have hne : ∀ v, c :: u ++ rest = '[' :: v → False := fun v hv => hc (List.cons.inj hv).1
    rw [statement, hread]
    · rfl
    · exact fun v hv => hne _ hv
    · exact hne
  | @table b k b' path hb hk hb' =>
    simp only [List.length_append, List.length_cons] at hfuel
    have hkey : key fuel (k ++ (b' ++ ']' :: rest)) = some (path, ']' :: rest) :=
      key_append hk hb' (.inr rfl) (by omega)
    have hskip : skipBlanks (b ++ (k ++ (b' ++ ']' :: rest))) = k ++ (b' ++ ']' :: rest) :=
      skipBlanks_append hb (hk.not_blank _)
    have hne : ∀ v, b ++ (k ++ (b' ++ ']' :: rest)) = '[' :: v → False := by
      intro v hv
      cases b with
      | nil =>
        obtain ⟨c, u, rfl, hc, -⟩ := hk.exists_ne
        exact hc (List.cons.inj hv).1
      | cons c b =>
        have hblank := (blanks_cons.1 hb).1
        rw [(List.cons.inj hv).1] at hblank
        cases hblank
    simp only [List.cons_append, List.append_assoc, List.nil_append]
    rw [statement, hskip, hkey]
    · rfl
    · exact hne
  | @element b k b' path hb hk hb' =>
    simp only [List.length_append, List.length_cons] at hfuel
    have hkey : key fuel (k ++ (b' ++ ']' :: ']' :: rest)) = some (path, ']' :: ']' :: rest) :=
      key_append hk hb' (.inr rfl) (by omega)
    have hskip : skipBlanks (b ++ (k ++ (b' ++ ']' :: ']' :: rest))) =
        k ++ (b' ++ ']' :: ']' :: rest) := skipBlanks_append hb (hk.not_blank _)
    simp only [List.cons_append, List.append_assoc, List.nil_append]
    rw [statement, hskip, hkey]
    rfl

theorem text_of_statement (h : statement fuel cs = some (st, rest)) :
    ∃ w, StatementText (ValueText maxDepth) w st ∧ cs = w ++ rest := by
  unfold statement at h
  split at h
  · next cs =>
    obtain ⟨⟨path, u⟩, hkey, hmore⟩ := Option.bind_eq_some_iff.1 h
    obtain ⟨k, b', hk, hb', hskip⟩ := exists_key hkey
    obtain ⟨b, hb, hcs⟩ := exists_skipBlanks cs
    dsimp only at hmore
    split at hmore
    · cases hmore
      exact ⟨_, .element hb hk hb', by rw [hcs, hskip]; simp⟩
    · cases hmore
  · next cs _ =>
    obtain ⟨⟨path, u⟩, hkey, hmore⟩ := Option.bind_eq_some_iff.1 h
    obtain ⟨k, b', hk, hb', hskip⟩ := exists_key hkey
    obtain ⟨b, hb, hcs⟩ := exists_skipBlanks cs
    dsimp only at hmore
    split at hmore
    · cases hmore
      exact ⟨_, .table hb hk hb', by rw [hcs, hskip]; simp⟩
    · cases hmore
  · obtain ⟨⟨⟨path, v⟩, u⟩, hread, heq⟩ := Option.map_eq_some_iff.1 h
    cases heq
    obtain ⟨w, hw, rfl⟩ := (readsTexts fuel).assignment maxDepth hread
    exact ⟨w, .assign hw, rfl⟩

theorem statements_congr (h : skipLines false cs = skipLines false w) (fuel : Nat) :
    statements fuel cs = statements fuel w := by
  cases fuel with
  | zero => rw [statements, statements]
  | succ fuel => rw [statements, statements, h]

theorem statements_full (hb : Blanks b) (hw : StatementText (ValueText maxDepth) w st)
    (ht : Trail t) (hend : AtEnd cs rest) (hfuel : w.length ≤ fuel) :
    statements (fuel + 1) (b ++ (w ++ (t ++ cs))) = (statements fuel rest).map (st :: ·) := by
  have hfirm := hw.firm.append (t ++ cs)
  have hskip : skipLines false (b ++ (w ++ (t ++ cs))) = some (w ++ (t ++ cs)) := by
    rw [skipLines_gap (gap_of_blanks hb), hfirm.skip]
  have hne : w ++ (t ++ cs) ≠ [] := List.ne_nil_of_length_pos hfirm.pos
  exact statements_cons hskip hne (statement_append hw (ht.ends hend) (by omega)) (ht.lineEnd hend)

theorem statements_of_lines (h : Lines (StatementText (ValueText maxDepth)) w ss)
    (hfuel : w.length < fuel) : statements fuel w = some ss := by
  induction h generalizing fuel with
  | last h =>
    obtain ⟨fuel, rfl⟩ := Nat.exists_eq_add_of_le' (Nat.zero_lt_of_lt hfuel)
    cases h with
    | @empty t ht =>
      have hskip := ht.skip .text
      rw [List.append_nil] at hskip
      rw [statements_congr hskip]
      rfl
    | @full b w t st hb hw ht =>
      simp only [List.length_append] at hfuel
      have hpos := hw.firm.pos
      obtain ⟨fuel, rfl⟩ := Nat.exists_eq_add_of_le' (show 1 ≤ fuel by omega)
      have hread := statements_full hb hw ht .text (show w.length ≤ fuel + 1 by omega)
      rw [List.append_nil] at hread
      rw [hread]
      rfl
  | @cons w e u ss ss' h he hu ih =>
    simp only [List.length_append] at hfuel
    obtain ⟨fuel, rfl⟩ := Nat.exists_eq_add_of_le' (Nat.zero_lt_of_lt hfuel)
    cases h with
    | empty ht =>
      rw [statements_congr (ht.skip (.line he))]
      exact ih (by omega)
    | @full b w t st hb hw ht =>
      simp only [List.length_append] at hfuel
      have hpos := hw.firm.pos
      rw [List.append_assoc, List.append_assoc,
        statements_full hb hw ht (.line he) (by omega), ih (by omega)]
      rfl

theorem statements_nil (h : statements fuel [] = some ss) : ss = [] := by
  cases fuel with
  | zero =>
    rw [statements] at h
    cases h
  | succ fuel =>
    cases h
    rfl

theorem lines_of_statements (h : statements fuel w = some ss) :
    Lines (StatementText (ValueText maxDepth)) w ss := by
  induction fuel generalizing w ss with
  | zero =>
    rw [statements] at h
    cases h
  | succ fuel ih =>
    rw [statements] at h
    obtain ⟨v, hskip, hmore⟩ := Option.bind_eq_some_iff.1 h
    obtain ⟨g, t, hg, hw, ht⟩ := exists_skipLines hskip [] rfl
    rw [List.nil_append] at hw
    rw [hw]
    refine Lines.gap ?_ hg
    split at hmore
    · cases hmore
      rw [List.append_nil]
      obtain rfl | ⟨ht, -⟩ := ht
      · exact .last (.empty (.blanks blanks_nil))
      · have htrail : Trail ([] ++ t) := .comment blanks_nil ht
        exact .last (.empty htrail)
    · next hne =>
      obtain rfl : t = [] := ht.resolve_right fun h => hne h.2
      obtain ⟨⟨st, u⟩, hst, hmore⟩ := Option.bind_eq_some_iff.1 hmore
      obtain ⟨rest, hend, hmore⟩ := Option.bind_eq_some_iff.1 hmore
      obtain ⟨ss, hss, heq⟩ := Option.bind_eq_some_iff.1 hmore
      cases heq
      obtain ⟨x, hx, rfl⟩ := text_of_statement hst
      obtain ⟨t, cs, htrail, hcs, rfl⟩ := exists_lineEnd hend
      have hline : Line (StatementText (ValueText maxDepth)) ([] ++ (x ++ t)) [st] :=
        .full blanks_nil hx htrail
      cases hcs with
      | text =>
        obtain rfl := statements_nil hss
        rw [List.append_nil]
        exact .last hline
      | line he =>
        have hlines := Lines.cons hline he (ih hss)
        rw [List.nil_append, List.append_assoc] at hlines
        exact hlines

def Unmarked (w : List Char) : Prop := w.head? ≠ some '\uFEFF'

theorem Blanks.unmarked (hb : Blanks b) (h : Unmarked cs) : Unmarked (b ++ cs) := by
  cases b with
  | nil => exact h
  | cons c b =>
    intro hmark
    have hc := (blanks_cons.1 hb).1
    rw [Option.some.inj hmark] at hc
    cases hc

theorem Trail.unmarked (ht : Trail t) (h : Unmarked cs) : Unmarked (t ++ cs) := by
  cases ht with
  | blanks hb => exact hb.unmarked h
  | comment hb ht =>
    rw [List.append_assoc]
    refine hb.unmarked ?_
    cases ht
    exact fun hmark => absurd (Option.some.inj hmark) (by decide)

theorem StatementText.unmarked {R : List Char → Value → Prop} (h : StatementText R w st)
    (cs : List Char) : Unmarked (w ++ cs) := by
  cases h with
  | assign h =>
    obtain ⟨c, v, rfl, -, hc⟩ := h.exists_ne
    exact fun hmark => hc (Option.some.inj hmark)
  | table => exact fun hmark => absurd (Option.some.inj hmark) (by decide)
  | element => exact fun hmark => absurd (Option.some.inj hmark) (by decide)

theorem not_marked {R : List Char → Value → Prop} (h : Lines (StatementText R) w ss) :
    Unmarked w := by
  have hline : ∀ {w ss cs}, Line (StatementText R) w ss → Unmarked cs → Unmarked (w ++ cs) := by
    rintro w ss cs (ht | ⟨hb, hw, ht⟩) hcs
    · exact ht.unmarked hcs
    · rw [List.append_assoc, List.append_assoc]
      exact hb.unmarked (hw.unmarked _)
  cases h with
  | last h =>
    have hnil : Unmarked [] := by simp [Unmarked]
    rw [← List.append_nil w]
    exact hline h hnil
  | cons h he =>
    refine hline h ?_
    cases he
    · exact fun hmark => absurd (Option.some.inj hmark) (by decide)
    · exact fun hmark => absurd (Option.some.inj hmark) (by decide)

theorem read_marked (w : List Char) :
    read ('\uFEFF' :: w) = (statements (w.length + 1) w).bind Table.ofStatements := rfl

theorem read_lines {m : List Char} (hm : Mark m)
    (hw : Lines (StatementText (ValueText maxDepth)) w ss) :
    read (m ++ w) = Table.ofStatements ss := by
  have hstatements := statements_of_lines hw (Nat.lt_succ_self _)
  cases hm with
  | absent => rw [List.nil_append, read_eq (not_marked hw), hstatements, Option.bind_some]
  | present =>
    rw [List.singleton_append, read_marked, hstatements, Option.bind_some]

/-- A text is read as a table just when, as a document of the grammar, it stands for it. -/
theorem read_eq_some_iff : read cs = some table ↔ Document maxDepth cs table := by
  constructor
  · intro h
    by_cases hmark : cs.head? = some '\uFEFF'
    · rw [eq_cons_of_head? hmark] at h ⊢
      rw [read_marked] at h
      obtain ⟨ss, hss, ht⟩ := Option.bind_eq_some_iff.1 h
      exact .intro .present (lines_of_statements hss) ht
    · rw [read_eq hmark] at h
      obtain ⟨ss, hss, ht⟩ := Option.bind_eq_some_iff.1 h
      exact .intro .absent (lines_of_statements hss) ht
  · intro ⟨hm, hw, ht⟩
    rw [read_lines hm hw, ht]

end Repath.Toml
