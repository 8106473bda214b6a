import Repath.Proofs.BuiltIn.Moves
import Repath.Proofs.Pattern.Steady
import Repath.Proofs.Rules.Expansion

namespace Repath

variable {ws : List (List Char)} {w r cs gap rest : List Char} {c : Cursor} {m : Match}
  {ms : List Match} {n k : Nat} {s u : Stage} {ds : List Choice}

/-- Goes through a text from left to right. The first of the names that the text goes on with gives
way to `r`, and a character at which no name begins is kept. -/
def replaceNames (ws : List (List Char)) (r : List Char) : List Char → List Char
  | [] => []
  | c :: cs =>
    match ws.find? (·.isPrefixOf (c :: cs)) with
    | some w => r ++ replaceNames ws r (cs.drop (w.length - 1))
    | none => c :: replaceNames ws r cs
termination_by cs => cs.length
decreasing_by
  · rw [List.length_drop, List.length_cons]
    omega
  · exact Nat.lt_succ_self _

theorem replaceNames_gap
    (h : ∀ v v', gap = v ++ v' → v' ≠ [] → ws.find? (·.isPrefixOf (v' ++ rest)) = none) :
    replaceNames ws r (gap ++ rest) = gap ++ replaceNames ws r rest := by
  induction gap with
  | nil => rfl
  | cons c gap ih =>
    have hnone := h [] (c :: gap) rfl (by simp)
    have hgap := ih fun v v' hv => h (c :: v) v' (by rw [hv, List.cons_append])
    rw [List.cons_append] at hnone ⊢
    rw [replaceNames, hnone, List.cons_append, ← hgap]

theorem replaceNames_name (hw : w ≠ []) (h : ws.find? (·.isPrefixOf (w ++ rest)) = some w) :
    replaceNames ws r (w ++ rest) = r ++ replaceNames ws r rest := by
  obtain ⟨c, v, rfl⟩ := List.exists_cons_of_ne_nil hw
  rw [List.cons_append] at h ⊢
  rw [replaceNames, h]
  simp

namespace Pattern

open Ways

theorem makes_sequence_cons {p : Pattern} {ps : List Pattern} :
    (sequence (p :: ps)).Makes n = seq (p.Makes n) ((sequence ps).Makes (n + p.size)) := by
  cases ps with
  | nil => exact seq_idle.symm
  | cons q ps => rfl

theorem choices_of_makes_word (h : (word w).Makes n s ds u) : ds = [] := by
  induction w generalizing n s ds with
  | nil => exact h.1
  | cons c w ih =>
    rw [word, List.map_cons, makes_sequence_cons] at h
    obtain ⟨m, ds₁, ds₂, rfl, ⟨rfl, -⟩, hrest⟩ := h
    exact ih hrest

theorem makes_word : (word w).Makes n s ds u ↔ ds = [] ∧ s.1.Reads w u.1 ∧ u.2 = s.2 := by
  constructor
  · intro h
    exact ⟨choices_of_makes_word h, takes_word.1 (joins_makes.1 ⟨ds, h⟩)⟩
  · rintro ⟨rfl, h⟩
    obtain ⟨es, hes⟩ := (joins_makes (n := n)).2 (takes_word.2 h)
    obtain rfl := choices_of_makes_word hes
    exact hes

theorem find?_of_best (hne : ws ≠ []) (h : (oneOf (ws.map word)).Makes n s ds u)
    (hbest : ∀ es v, (oneOf (ws.map word)).Makes n s es v → es = ds ∧ v = u ∨ Choice.Beats ds es) :
    ∃ w, ws.find? (·.isPrefixOf s.1.after) = some w ∧ s.1.Reads w u.1 := by
  induction ws generalizing n ds with
  | nil => exact absurd rfl hne
  | cons w ws ih =>
    have hfirst : s.1.Reads w u.1 →
        ∃ v, (w :: ws).find? (·.isPrefixOf s.1.after) = some v ∧ s.1.Reads v u.1 := by
      intro hread
      refine ⟨w, List.find?_cons_of_pos ?_, hread⟩
      rw [List.isPrefixOf_iff_prefix, hread.1]
      exact List.prefix_append _ _
    cases ws with
    | nil => exact hfirst (makes_word.1 h).2.1
    | cons v ws =>
      obtain ⟨es, rfl, h⟩ | ⟨es, rfl, h⟩ := h
      · exact hfirst (makes_word.1 h).2.1
      · have hw : ¬w.isPrefixOf s.1.after = true := by
          intro hprefix
          obtain ⟨rest, hrest⟩ := List.isPrefixOf_iff_prefix.1 hprefix
          obtain ⟨d, hd, -⟩ := Cursor.exists_reads hrest.symm
          obtain ⟨heq, -⟩ | hbeats := hbest [⟨(n, s.1), true⟩] (d, s.2)
            (.inl ⟨[], rfl, makes_word.2 ⟨rfl, hd, rfl⟩⟩)
          · cases heq
          · exact hbeats.asymm ⟨[], (n, s.1), [], es, rfl, rfl⟩
        have hskip : (w :: v :: ws).find? (·.isPrefixOf s.1.after) =
            (v :: ws).find? (·.isPrefixOf s.1.after) := List.find?_cons_of_neg hw
        rw [hskip]
        refine ih (by simp) h fun es' v' h' => ?_
        obtain ⟨heq, hv⟩ | hbeats := hbest (⟨(n, s.1), false⟩ :: es') v' (.inr ⟨es', rfl, h'⟩)
        · exact .inl ⟨(List.cons.inj heq).2, hv⟩
        · exact .inr hbeats.of_cons

theorem steady_word : (word w).Steady := by
  induction w with
  | nil => trivial
  | cons c w ih =>
    cases w with
    | nil => trivial
    | cons d w => exact ⟨trivial, ih⟩

theorem steady_names : (oneOf (ws.map word)).Steady := by
  induction ws with
  | nil => trivial
  | cons w ws ih =>
    cases ws with
    | nil => exact steady_word
    | cons v ws => exact ⟨steady_word, ih⟩

theorem matchesAt_names (hne : ws ≠ []) :
    (oneOf (ws.map word)).MatchesAt c ↔ ∃ w ∈ ws, w <+: c.after := by
  simp only [MatchesAt, takes_words hne]
  constructor
  · rintro ⟨u, w, hw, hread, -⟩
    exact ⟨w, hw, u.1.after, hread.1.symm⟩
  · rintro ⟨w, hw, rest, hrest⟩
    obtain ⟨d, hd, -⟩ := Cursor.exists_reads hrest.symm
    exact ⟨(d, []), w, hw, hd, rfl⟩

theorem find?_eq_none_of_not_matchesAt (hne : ws ≠ [])
    (h : ¬(oneOf (ws.map word)).MatchesAt c) : ws.find? (·.isPrefixOf c.after) = none := by
  refine List.find?_eq_none.2 fun w hw hprefix => h ((matchesAt_names hne).2 ⟨w, hw, ?_⟩)
  exact List.isPrefixOf_iff_prefix.1 hprefix

theorem find?_names (hne : ws ≠ []) (h : (oneOf (ws.map word)).program.find? c = some m) :
    ∃ gap w, c.Reads gap m.start ∧ m.start.Reads w m.stop ∧
      ws.find? (·.isPrefixOf m.start.after) = some w ∧
      ∀ v v', gap = v ++ v' → v' ≠ [] →
        ws.find? (·.isPrefixOf (v' ++ m.start.after)) = none := by
  have hfirst := (oneOf (ws.map word)).find?_first c
  rw [h] at hfirst
  obtain ⟨gap, hgap, hmin⟩ := hfirst.reads
  obtain ⟨ds, hds⟩ := find?_prefers h
  obtain ⟨w, hw, hread⟩ := find?_of_best hne hds.makes fun es v => hds.best_of_steady steady_names
  refine ⟨gap, w, hgap, hread, hw, ?_⟩
  rintro v v' rfl hv'
  obtain ⟨e, he, hrest⟩ := Cursor.reads_append.1 hgap
  rw [← hrest.1]
  refine find?_eq_none_of_not_matchesAt hne (hmin v e he ?_)
  have hpos := List.length_pos_of_ne_nil hv'
  rw [List.length_append]
  omega

theorem isEmpty_find?_names (hne : ws ≠ []) (hnames : [] ∉ ws)
    (h : (oneOf (ws.map word)).program.find? c = some m) : m.isEmpty = false := by
  obtain ⟨gap, w, -, hread, hw, -⟩ := find?_names hne h
  have hpos : m.stop.pos = m.start.pos + w.length := hread.pos
  have hne' := ne_of_mem_of_not_mem (List.mem_of_find?_eq_some hw) hnames
  have hlen := List.length_pos_of_ne_nil hne'
  rw [Match.isEmpty, beq_eq_false_iff_ne]
  omega

theorem splice_names (hne : ws ≠ []) (hnames : [] ∉ ws)
    (h : (oneOf (ws.map word)).program.Successive c ms) :
    Rule.splice (fun _ => r) c ms = replaceNames ws r c.after := by
  have hafter : ∀ c, (oneOf (ws.map word)).program.findAfter? c =
      (oneOf (ws.map word)).program.find? c :=
    fun c => Program.findAfter?_eq_find? fun m => isEmpty_find?_names hne hnames
  induction h with
  | @nil c h =>
    rw [hafter] at h
    have habsent := (oneOf (ws.map word)).find?_first c
    rw [h] at habsent
    have hgap : replaceNames ws r (c.after ++ []) = c.after ++ replaceNames ws r [] := by
      refine replaceNames_gap fun v v' hv _ => ?_
      obtain ⟨d, hd, hrest⟩ := Cursor.exists_reads hv
      rw [List.append_nil, ← hrest]
      exact find?_eq_none_of_not_matchesAt hne (habsent v d hd)
    rw [List.append_nil] at hgap
    rw [Rule.splice, hgap, replaceNames, List.append_nil]
  | @cons c m ms h _ ih =>
    rw [hafter] at h
    obtain ⟨gap, w, hgap, hread, hw, hnone⟩ := find?_names hne h
    have hwne := ne_of_mem_of_not_mem (List.mem_of_find?_eq_some hw) hnames
    rw [Rule.splice, hgap.upTo, ih, hgap.1, replaceNames_gap hnone, List.append_assoc]
    rw [hread.1] at hw ⊢
    rw [replaceNames_name hwne hw]

end Pattern

namespace Syntax

theorem depth_nameSyntax (w : List Char) : (Reader.nameSyntax w).depth ≤ 1 := by
  induction w with
  | nil => exact Nat.zero_le _
  | cons c w ih =>
    cases w with
    | nil => exact Nat.zero_le _
    | cons d w =>
      cases w with
      | nil => exact Nat.le_refl _
      | cons e w => exact Nat.max_le.2 ⟨Nat.le_refl _, ih⟩

theorem depth_choice {as : List Syntax} (h : ∀ a ∈ as, a.depth ≤ k) :
    (choice as).depth ≤ k + 1 := by
  induction as with
  | nil => exact Nat.zero_le _
  | cons a as ih =>
    obtain ⟨ha, has⟩ := List.forall_mem_cons.1 h
    cases as with
    | nil => exact Nat.le_succ_of_le ha
    | cons b as =>
      refine Nat.max_le.2 ⟨Nat.succ_le_succ ha, ?_⟩
      cases as with
      | cons c as => exact ih has
      | nil =>
        have hb := has b List.mem_cons_self
        rw [choice]
        split
        · exact Nat.le_succ_of_le hb
        · exact Nat.succ_le_succ hb

end Syntax

namespace BuiltIn

variable {fits : String → Bool} {names : List String}

theorem read_alternation (hne : names ≠ []) : Syntax.read (alternation names).toList =
    .ok (.choice ((names.map String.toList).map Reader.nameSyntax), []) := by
  have hws : names.map String.toList ≠ [] := by simpa using hne
  rw [toList_alternation]
  generalize names.map String.toList = ws at hws
  have hchoices : Reader.choices ((Reader.alternatives ws).length + 1) (Reader.counting 0 []) [] []
      (Reader.alternatives ws ++ []) =
      .ok ((.choice ([].reverse ++ ws.map Reader.nameSyntax), Reader.counting 0 []), []) :=
    Reader.choices_alternatives hws (by simp [Reader.Closes]) (Nat.lt_succ_self _)
  have hdepth : (Syntax.choice (ws.map Reader.nameSyntax)).depth ≤ Syntax.maxDepth := by
    have hle : (Syntax.choice (ws.map Reader.nameSyntax)).depth ≤ 2 := by
      refine Syntax.depth_choice fun a ha => ?_
      obtain ⟨w, -, rfl⟩ := List.mem_map.1 ha
      exact Syntax.depth_nameSyntax w
    exact hle.trans (by decide)
  rw [List.append_nil] at hchoices
  rw [Syntax.read, hchoices]
  change (if Syntax.maxDepth < (Syntax.choice (ws.map Reader.nameSyntax)).depth then _ else _) = _
  rw [if_neg (Nat.not_lt.2 hdepth)]
  rfl

def namesPattern (names : List String) : Pattern :=
  .oneOf ((names.map String.toList).map Pattern.word)

theorem compile_alternation (hne : names ≠ []) : Regex.compile fits (alternation names) =
    if fits (alternation names) then .ok { pattern := namesPattern names, names := [] }
    else .error .tooLarge := by
  rw [Regex.compile, read_alternation hne]
  change (Syntax.choice _).resolve .initial >>= _ = _
  rw [Pattern.resolve_names rfl]
  change (if !fits (alternation names) then _ else _) = _
  cases fits (alternation names) <;> rfl

theorem expand_doubled (r : List Char) (regex : Regex) :
    (Template.ofString (.ofList (Template.doubled r))).expand regex = fun _ => r := by
  have hread := Template.read_doubled r []
  rw [List.append_nil, Template.read, List.append_nil] at hread
  funext m
  rw [Template.ofString, String.toList_ofList, hread, Template.expand, List.flatMap_map]
  exact List.flatMap_singleton' r

/-- A pattern for names compiles unless it is too large, and a rule that puts a text in the place
of them does what a plain scan does. -/
theorem apply_alternation (fits : String → Bool) (names : List String) (hne : names ≠ [])
    (hnames : "" ∉ names) (r : List Char) :
    let compiled := Rule.compile fits ⟨alternation names, .ofList (Template.doubled r)⟩
    (fits (alternation names) = false → compiled = .error .tooLarge) ∧
    (fits (alternation names) = true → ∃ rule, compiled = .ok rule ∧
      ∀ text, rule.apply text =
        .ofList (replaceNames (names.map String.toList) r text.toList)) := by
  have hcompile := @compile_alternation fits names hne
  refine ⟨fun hlarge => ?_, fun hfits => ?_⟩
  · rw [Rule.compile, hcompile, hlarge]
    rfl
  rw [if_pos hfits] at hcompile
  have hws : names.map String.toList ≠ [] := by simpa using hne
  have hempty : [] ∉ names.map String.toList := by simpa using hnames
  refine ⟨_, by rw [Rule.compile, hcompile]; rfl, fun text => ?_⟩
  have hsuccessive := Program.successive_allMatches (Pattern.targetsLe_program (namesPattern names))
    text.toList fun m => Pattern.isEmpty_find?_names hws hempty
  rw [Rule.apply_eq_splice, expand_doubled]
  exact congrArg String.ofList (Pattern.splice_names hws hempty hsuccessive)

/-- Names that are patterns or templates when they are not escaped, and one that begins another. -/
theorem apply_alternation_sample :
    ["a.", "a.b", "$|"] ≠ [] ∧ "" ∉ ["a.", "a.b", "$|"] ∧
    ∃ rule, Rule.compile (fun _ => true) ⟨alternation ["a.", "a.b", "$|"], "<$$0>"⟩ = .ok rule ∧
      rule.apply "a.b$|ab" = "<$0>b<$0>ab" := by
  have hne : ["a.", "a.b", "$|"] ≠ [] := by decide
  have hnames : "" ∉ ["a.", "a.b", "$|"] := by decide
  obtain ⟨rule, hcompile, happly⟩ :=
    (apply_alternation (fun _ => true) ["a.", "a.b", "$|"] hne hnames "<$0>".toList).2 rfl
  refine ⟨hne, hnames, rule, hcompile, ?_⟩
  rw [happly]
  have hscan : replaceNames (["a.", "a.b", "$|"].map String.toList) "<$0>".toList
      "a.b$|ab".toList = "<$0>b<$0>ab".toList := by
    simp [replaceNames]
  rw [hscan]
  exact String.ofList_toList

end BuiltIn

end Repath
