import Repath.Proofs.Pattern.Language
import Repath.Proofs.Pattern.Steady
import Repath.Rules.Rule

namespace Repath

variable {body : Syntax} {p : Pattern} {fs fs' : Flags} {text : List Char} {c d : Cursor}
  {m : Match}

/-- `m` is the match that a leftmost-first search for a pattern finds in a text. Here `body` is the
pattern as it is written, and `p` what it comes to once its flags are resolved. -/
structure LeftmostFirst (body : Syntax) (p : Pattern) (text : List Char) (m : Match) : Prop where
  onText : m.start.text = text
  spans : body.Spans .initial m.start m.stop
  leftmost : ∀ c d, c.text = text → body.Spans .initial c d → m.start.pos ≤ c.pos
  /-- It is preferred to the other ways from where it starts: to those without circles, and so to
  all if every loop consumes something. -/
  first : ∃ ds, p.Prefers m.start ds (m.stop, m.saves) ∧
    (p.Steady → ∀ es v, p.Makes 0 (m.start, []) es v →
      es = ds ∧ v = (m.stop, m.saves) ∨ Choice.Beats ds es)
  /-- Every part of the text that matches from there is the end of a way without circles. -/
  covers : ∀ d, body.Spans .initial m.start d →
    ∃ es notes, Choice.CircleFree es ∧ p.Makes 0 (m.start, []) es (d, notes)

/-- `m` is the match that such a search finds from a place in a text on. What stands before the
place is seen all the same. -/
structure LeftmostFirstFrom (body : Syntax) (p : Pattern) (c : Cursor) (m : Match) : Prop where
  reads : ∃ gap, c.Reads gap m.start
  spans : body.Spans .initial m.start m.stop
  leftmost : ∀ gap d e, c.Reads gap d → body.Spans .initial d e → m.start.pos ≤ d.pos
  first : ∃ ds, p.Prefers m.start ds (m.stop, m.saves) ∧
    (p.Steady → ∀ es v, p.Makes 0 (m.start, []) es v →
      es = ds ∧ v = (m.stop, m.saves) ∨ Choice.Beats ds es)
  covers : ∀ d, body.Spans .initial m.start d →
    ∃ es notes, Choice.CircleFree es ∧ p.Makes 0 (m.start, []) es (d, notes)

/-- From a place on, no part of the text belongs to the language of the pattern. -/
def Syntax.AbsentFrom (body : Syntax) (c : Cursor) : Prop :=
  ∀ gap d e, c.Reads gap d → ¬ body.Spans .initial d e

theorem Syntax.spans_iff (h : body.resolve fs = .ok (p, fs')) :
    body.Spans fs c d ↔ ∃ notes, p.Takes (c, []) (d, notes) :=
  ((Syntax.denotes_resolve h).1 c d []).symm

theorem Syntax.matchesAt_iff (h : body.resolve fs = .ok (p, fs')) :
    p.MatchesAt c ↔ ∃ d, body.Spans fs c d := by
  simp only [Syntax.spans_iff h, Pattern.MatchesAt, Prod.exists]

theorem leftmostFirstFrom_of_find? (h : body.resolve .initial = .ok (p, fs'))
    (hm : p.program.find? c = some m) : LeftmostFirstFrom body p c m := by
  have hfirst := Pattern.find?_first p c
  rw [hm] at hfirst
  obtain ⟨gap, hgap, hmin⟩ := hfirst.reads
  obtain ⟨ds, hds⟩ := Pattern.find?_prefers hm
  refine ⟨⟨gap, hgap⟩, (Syntax.spans_iff h).2 ⟨m.saves, hfirst.takes⟩, fun w d e hd hde => ?_,
    ⟨ds, hds, fun hp es v => hds.best_of_steady hp⟩, fun d hd => ?_⟩
  · have hle : gap.length ≤ w.length := by
      by_contra hlt
      exact hmin w d hd (Nat.lt_of_not_le hlt) ((Syntax.matchesAt_iff h).2 ⟨e, hde⟩)
    rw [hgap.pos, hd.pos]
    omega
  · obtain ⟨notes, hd⟩ := (Syntax.spans_iff h).1 hd
    exact Pattern.exists_circleFree hd

theorem absentFrom_of_find? (h : body.resolve .initial = .ok (p, fs'))
    (hm : p.program.find? c = none) : body.AbsentFrom c := by
  have habsent := Pattern.find?_first p c
  rw [hm] at habsent
  intro gap d e hd hde
  exact habsent gap d hd ((Syntax.matchesAt_iff h).2 ⟨e, hde⟩)

theorem LeftmostFirstFrom.of_start (h : LeftmostFirstFrom body p (.start text) m) :
    LeftmostFirst body p text m := by
  obtain ⟨gap, hgap⟩ := h.reads
  refine ⟨hgap.text_eq, h.spans, fun c d hc hcd => ?_, h.first, h.covers⟩
  subst hc
  exact h.leftmost _ c d (Cursor.reads_start c) hcd

namespace Rule

variable {fits : String → Bool} {spec : RuleSpec} {rule : Rule}

theorem regex_of_compile (h : compile fits spec = .ok rule) : rule.spec = spec ∧
    ∃ body fs, Syntax.read spec.pattern.toList = .ok (body, rule.regex.names) ∧
      body.resolve .initial = .ok (rule.regex.pattern, fs) := by
  obtain ⟨regex, hregex, ⟨⟩⟩ := exists_of_bind_ok h
  obtain ⟨⟨body, names⟩, hread, hregex⟩ := exists_of_bind_ok hregex
  obtain ⟨⟨pattern, fs⟩, hresolve, hregex⟩ := exists_of_bind_ok hregex
  dsimp only at hregex
  split at hregex
  · cases hregex
  · cases hregex
    exact ⟨rfl, body, fs, hread, hresolve⟩

theorem exists_of_compile (h : compile fits spec = .ok rule) : rule.spec = spec ∧
    ∃ body names fs, Syntax.read spec.pattern.toList = .ok (body, names) ∧
      body.resolve .initial = .ok (rule.regex.pattern, fs) := by
  obtain ⟨hspec, body, fs, hread, hresolve⟩ := regex_of_compile h
  exact ⟨hspec, body, _, fs, hread, hresolve⟩

/-- A rule leaves a text as it is exactly when no part of it belongs to the language of the pattern.
Otherwise the leftmost-first match is the first to be replaced. -/
theorem revise?_leftmostFirst (h : compile fits spec = .ok rule) (text : String) :
    ∃ body names fs, Syntax.read spec.pattern.toList = .ok (body, names) ∧
      body.resolve .initial = .ok (rule.regex.pattern, fs) ∧
      (rule.revise? text = none ↔
        ∀ c d, c.text = text.toList → ¬ body.Spans .initial c d) ∧
      ∀ out, rule.revise? text = some out →
        ∃ m ms, LeftmostFirst body rule.regex.pattern text.toList m ∧
          rule.regex.matchesIn text.toList = m :: ms ∧
          out.toList = (Cursor.start text.toList).upTo m.start ++
            (Template.ofString spec.replacement).expand rule.regex m ++
            splice ((Template.ofString spec.replacement).expand rule.regex) m.stop ms := by
  obtain ⟨rfl, body, names, fs, hread, hresolve⟩ := exists_of_compile h
  refine ⟨body, names, fs, hread, hresolve, ?_⟩
  have hmatches : rule.regex.matchesIn text.toList =
      rule.regex.pattern.program.allMatches text.toList := by
    rw [Regex.matchesIn, rule.regex.program_eq]
  cases hf : rule.regex.pattern.program.find? (.start text.toList) with
  | none =>
    have hnone : rule.regex.matchesIn text.toList = [] := by
      rw [hmatches, Program.allMatches, hf]
    have hrevise : rule.revise? text = none := by
      rw [revise?, hnone]
    refine ⟨iff_of_true hrevise fun c d hc => ?_, fun out hout => ?_⟩
    · rw [← hc] at hf
      exact absentFrom_of_find? hresolve hf _ c d (Cursor.reads_start c)
    · rw [hrevise] at hout
      cases hout
  | some m =>
    have hfirst := (leftmostFirstFrom_of_find? hresolve hf).of_start
    obtain ⟨ms, hsome⟩ : ∃ ms, rule.regex.matchesIn text.toList = m :: ms := by
      rw [hmatches, Program.allMatches, hf]
      exact ⟨_, rfl⟩
    have hrevise := revise?.eq_1 rule text
    rw [hsome] at hrevise
    refine ⟨iff_of_false (by simp [hrevise]) fun hall => ?_, fun out hout => ?_⟩
    · exact hall m.start m.stop hfirst.onText hfirst.spans
    · refine ⟨m, ms, hfirst, hsome, ?_⟩
      rw [hrevise] at hout
      obtain rfl := Option.some.inj hout
      rw [String.toList_ofList, splice]

def sample : RuleSpec := ⟨"a|ab", "<$0>"⟩

def compiledSample : Rule where
  spec := sample
  regex := {
    pattern := .alt (.char (.single 'a')) (.cat (.char (.single 'a')) (.char (.single 'b')))
    names := [] }

/-- The earlier alternative is found although the later one is longer. -/
theorem revise?_leftmostFirst_sample : compile (fun _ => true) sample = .ok compiledSample ∧
    compiledSample.revise? "xab" = some "x<a>b" ∧
    LeftmostFirst (.alt (.char 'a') (.cat (.char 'a') (.char 'b'))) compiledSample.regex.pattern
      "xab".toList ⟨⟨['x'], ['a', 'b'], 1, rfl⟩, ⟨['a', 'x'], ['b'], 2, rfl⟩, []⟩ := by
  have hcompile : compile (fun _ => true) sample = .ok compiledSample := rfl
  have hrevise : compiledSample.revise? "xab" = some "x<a>b" := by decide +kernel
  have hmatches : compiledSample.regex.matchesIn "xab".toList =
      [⟨⟨['x'], ['a', 'b'], 1, rfl⟩, ⟨['a', 'x'], ['b'], 2, rfl⟩, []⟩] := by decide +kernel
  have hread : Syntax.read sample.pattern.toList =
      .ok (.alt (.char 'a') (.cat (.char 'a') (.char 'b')), []) := rfl
  obtain ⟨body, names, fs, hbody, -, -, hsome⟩ := revise?_leftmostFirst hcompile "xab"
  obtain ⟨m, ms, hfirst, hms, -⟩ := hsome _ hrevise
  obtain ⟨rfl, rfl⟩ := List.cons.inj (hms.symm.trans hmatches)
  obtain ⟨rfl, rfl⟩ := Prod.mk.inj (Except.ok.inj (hread.symm.trans hbody))
  exact ⟨hcompile, hrevise, hfirst⟩

end Rule

end Repath
