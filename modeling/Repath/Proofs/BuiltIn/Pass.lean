import Repath.Proofs.BuiltIn.Recognition
import Repath.Proofs.BuiltIn.Relinked
import Repath.Proofs.Rules.Template

namespace Repath.BuiltIn

variable {m : Move} {c d : Cursor} {x : Site} {u : Stage} {k : Match} {ks : List Match}
  {w cs out : List Char}

theorem head?_reverse_append (w b : List Char) : (w.reverse ++ b).head? = last b.head? w := by
  induction w generalizing b with
  | nil => rfl
  | cons c w ih => rw [List.reverse_cons, List.append_assoc, ih]; rfl

theorem head?_before (h : c.Reads w d) : d.before.head? = last c.before.head? w := by
  rw [h.2, head?_reverse_append]

theorem revise?_eq_none {r : Rule} {text : String} (h : r.revise? text = none) :
    r.regex.matchesIn text.toList = [] := by
  rw [Rule.revise?] at h
  cases hm : r.regex.matchesIn text.toList with
  | nil => rfl
  | cons k ks => simp [hm] at h

namespace Move

theorem moves_dollar : ∀ m ∈ moves, '$' ∉ (m.path ++ m.missing).toList := by
  decide +kernel

theorem template_eq (hm : m ∈ moves) :
    Template.ofString m.rule.replacement =
      .group 1 :: ((m.path ++ m.missing).toList.map Piece.char ++ [.group 2, .group 3]) := by
  have htext : m.rule.replacement.toList =
      '$' :: '{' :: (['1'] ++ '}' :: ((m.path ++ m.missing).toList ++
        '$' :: '{' :: (['2'] ++ '}' :: '$' :: '{' :: (['3'] ++ '}' :: [])))) := by
    simp [rule]
  rw [Template.ofString, htext, Template.read_reference (by decide),
    Template.read_text (moves_dollar m hm), Template.read_reference (by decide),
    Template.read_reference (by decide)]
  rfl

theorem group?_found (h : m.Found c x u) :
    Match.group? ⟨c, u.1, u.2⟩ 1 = some x.lead ∧
      Match.group? ⟨c, u.1, u.2⟩ 2 = some x.stale.name ∧
      Match.group? ⟨c, u.1, u.2⟩ 3 = some [x.closer] := by
  obtain ⟨d, e, f, hd, he, hf, hu, hnotes⟩ := h.notes
  have h1 : Match.group? ⟨c, u.1, u.2⟩ 1 = some (c.upTo d) := by rw [hnotes]; rfl
  have h2 : Match.group? ⟨c, u.1, u.2⟩ 2 = some (e.upTo f) := by rw [hnotes]; rfl
  have h3 : Match.group? ⟨c, u.1, u.2⟩ 3 = some (f.upTo u.1) := by rw [hnotes]; rfl
  rw [h1, h2, h3, hd.upTo, hf.upTo, hu.upTo]
  exact ⟨rfl, rfl, rfl⟩

theorem expand_found (hm : m ∈ moves) (h : m.Found c x u) :
    (Template.ofString m.rule.replacement).expand m.regex ⟨c, u.1, u.2⟩ = x.new := by
  obtain ⟨h1, h2, h3⟩ := group?_found h
  obtain ⟨n, -, hx⟩ := mem_stale.1 h.known
  rw [template_eq hm]
  simp [Template.expand, Piece.value, h1, h2, h3, Site.new, Site.span, hx, List.flatMap_map]

theorem words_ne_nil (hm : m ∈ moves) : m.words ≠ [] := (moves_readable m hm).1

theorem found_of_find? (hm : m ∈ moves) (h : m.pattern.program.find? c = some k) :
    (∃ x, m.Found k.start x (k.stop, k.saves)) ∧ ∃ gap, c.Reads gap k.start ∧
      ∀ v r, gap = v ++ r → r ≠ [] → ∀ y rest,
        ¬ Begins m.stale (last c.before.head? v) (r ++ k.start.after) y rest := by
  have hfirst := m.pattern.find?_first c
  rw [h] at hfirst
  obtain ⟨gap, hgap, hmin⟩ := hfirst.reads
  refine ⟨(takes_pattern (words_ne_nil hm)).1 hfirst.takes, gap, hgap, ?_⟩
  rintro v r rfl hr y rest hb
  obtain ⟨e, he, hrest⟩ := Cursor.reads_append.1 hgap
  rw [← head?_before he, ← hrest.1] at hb
  refine hmin v e he ?_ ((matchesAt_iff (words_ne_nil hm)).2 ⟨y, rest, hb⟩)
  have hpos := List.length_pos_of_ne_nil hr
  rw [List.length_append]
  omega

theorem Found.closer_before (h : m.Found c x u) : u.1.before.head? = some x.closer := by
  obtain ⟨d, e, f, -, -, -, hu, -⟩ := h.notes
  rw [hu.2]
  rfl

theorem isEmpty_found (h : m.Found k.start x (k.stop, k.saves)) : k.isEmpty = false := by
  obtain ⟨d, e, f, hd, he, hf, hu, -⟩ := h.notes
  have hpos := hu.pos
  rw [hf.pos, he.pos, hd.pos, List.length_singleton] at hpos
  rw [Match.isEmpty, beq_eq_false_iff_ne]
  change k.stop.pos = _ at hpos
  omega

theorem findAfter?_eq (hm : m ∈ moves) (c : Cursor) :
    m.pattern.program.findAfter? c = m.pattern.program.find? c :=
  Program.findAfter?_eq_find? fun _ hk => by
    obtain ⟨⟨x, hx⟩, -⟩ := found_of_find? hm hk
    exact isEmpty_found hx

theorem absent_of_find? (h : m.pattern.program.find? c = none) :
    m.pattern.Absent c := by
  have hfirst := m.pattern.find?_first c
  rwa [h] at hfirst

theorem relinked_splice (hm : m ∈ moves) (h : Program.Successive m.pattern.program c ks) :
    Relinked m.stale c.before.head? c.after
      (Rule.splice ((Template.ofString m.rule.replacement).expand m.regex) c ks) := by
  induction h with
  | @nil c h =>
    rw [findAfter?_eq hm] at h
    have habsent := absent_of_find? h
    rw [Rule.splice]
    apply relinked_self
    intro w r y rest hw hb
    obtain ⟨e, he, hr⟩ := Cursor.exists_reads hw
    rw [← head?_before he, ← hr] at hb
    exact habsent w e he ((matchesAt_iff (words_ne_nil hm)).2 ⟨y, rest, hb⟩)
  | @cons c k ks h _ ih =>
    rw [findAfter?_eq hm] at h
    obtain ⟨⟨x, hx⟩, gap, hgap, hno⟩ := found_of_find? hm h
    have hexpand : (Template.ofString m.rule.replacement).expand m.regex k = x.new :=
      expand_found hm hx
    rw [Rule.splice, hgap.upTo, hexpand, hgap.1, List.append_assoc]
    refine .of_gap hno ?_
    rw [hx.closer_before] at ih
    rw [← head?_before hgap]
    exact .site hx.begins ih

theorem stale_subset (hm : m ∈ moves) : m.stale ⊆ BuiltIn.stale := by
  rw [stale_eq]
  exact fun s hs => List.mem_flatMap.2 ⟨m, hm, hs⟩

/-- A built-in rule brings the sites for its family up to date, and reports a match just when the
text changes. -/
theorem exists_revise (hm : m ∈ moves) (text : String) :
    ∃ out, Relinked m.stale none text.toList out ∧
      m.compiled.revise? text = if out = text.toList then none else some (.ofList out) := by
  have hsucc : Program.Successive m.pattern.program (.start text.toList)
      (m.compiled.regex.matchesIn text.toList) :=
    Program.successive_allMatches (Pattern.targetsLe_program _) _ fun k hk => by
      obtain ⟨⟨x, hx⟩, -⟩ := found_of_find? hm hk
      exact isEmpty_found hx
  have hpass := relinked_splice hm hsucc
  refine ⟨_, hpass, ?_⟩
  rw [Rule.revise?]
  generalize m.compiled.regex.matchesIn text.toList = ks at hsucc hpass
  cases hsucc with
  | nil => exact (if_pos rfl).symm
  | @cons _ k ks h _ =>
    rw [findAfter?_eq hm] at h
    obtain ⟨⟨x, hx⟩, gap, hgap, -⟩ := found_of_find? hm h
    have hb := hx.begins
    rw [head?_before hgap] at hb
    rw [if_neg fun heq => hpass.not_begins (stale_subset hm) heq.symm hgap.1 hb]
    rfl

theorem absent_of_relinked (hm : m ∈ moves) (h : Relinked m.stale none cs cs) :
    m.pattern.Absent (.start cs) := by
  intro w e hw hmatch
  obtain ⟨x, rest, hb⟩ := (matchesAt_iff (words_ne_nil hm)).1 hmatch
  rw [head?_before hw] at hb
  exact h.not_begins (stale_subset hm) rfl hw.1 hb

theorem matchesIn_of_relinked (hm : m ∈ moves) (h : Relinked m.stale none cs cs) :
    m.regex.matchesIn cs = [] := by
  obtain ⟨out, hout, hrevise⟩ := exists_revise hm (.ofList cs)
  rw [String.toList_ofList] at hout hrevise
  rw [if_pos (hout.unique (stale_subset hm) h)] at hrevise
  have hnone := revise?_eq_none hrevise
  rwa [String.toList_ofList] at hnone

end Move

end Repath.BuiltIn
