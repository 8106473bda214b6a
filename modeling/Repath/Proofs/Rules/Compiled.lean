import Repath.Proofs.Rules.Matching
import Repath.Proofs.Rules.Table

namespace Repath

variable {fits : String → Bool} {spec : RuleSpec} {rule : Rule} {text : String}

theorem RuleSpec.compiles_iff :
    spec.Compiles fits ↔ ∃ regex, Regex.compile fits spec.pattern = .ok regex := by
  rw [Compiles]
  cases hregex : Regex.compile fits spec.pattern with
  | error cause => simp [Rule.compile, hregex, Except.map]
  | ok regex => simp [Rule.compile, hregex, Except.map]

/-- No part of a text belongs to the language of the pattern of a rule. -/
def RuleSpec.Misses (spec : RuleSpec) (text : String) : Prop :=
  ∀ body names, Syntax.read spec.pattern.toList = .ok (body, names) →
    ∀ c d, c.text = text.toList → ¬body.Spans .initial c d

namespace Rule

theorem revise?_eq_none_iff_find? :
    rule.revise? text = none ↔ rule.regex.pattern.program.find? (.start text.toList) = none := by
  rw [revise?, Regex.matchesIn, rule.regex.program_eq, Program.allMatches]
  cases rule.regex.pattern.program.find? (.start text.toList) <;> simp

theorem revise?_eq_none (h : compile fits spec = .ok rule) :
    rule.revise? text = none ↔ spec.Misses text := by
  obtain ⟨rfl, body, names, fs, hread, hresolve⟩ := exists_of_compile h
  rw [revise?_eq_none_iff_find?]
  constructor
  · intro hf body' names' hread' c d hc
    cases hread.symm.trans hread'
    rw [← hc] at hf
    exact absentFrom_of_find? hresolve hf _ c d (Cursor.reads_start c)
  · intro hmisses
    by_contra hf
    obtain ⟨m, hm⟩ := Option.ne_none_iff_exists'.1 hf
    have hfirst := (leftmostFirstFrom_of_find? hresolve hm).of_start
    exact hmisses body names hread m.start m.stop hfirst.onText hfirst.spans

end Rule

namespace RuleTable

variable {specs specs' : List RuleSpec} {t u : RuleTable}

theorem forall₂_of_compile (h : compile fits specs = .ok t) :
    List.Forall₂ (fun spec rule => Rule.compile fits spec = .ok rule) specs t.rules := by
  induction specs generalizing t with
  | nil =>
    cases h
    exact .nil
  | cons spec specs ih =>
    obtain ⟨r, u, hr, hu, rfl⟩ := of_compile_cons h
    exact .cons hr (ih hu)

theorem specs_of_compile (h : compile fits specs = .ok t) : t.specs = specs := by
  induction specs generalizing t with
  | nil =>
    cases h
    rfl
  | cons spec specs ih =>
    obtain ⟨r, u, hr, hu, rfl⟩ := of_compile_cons h
    obtain ⟨rfl, -⟩ := Rule.exists_of_compile hr
    exact congrArg (r.spec :: ·) (ih hu)

theorem exists_compile :
    (∃ t, compile fits specs = .ok t) ↔ ∀ spec ∈ specs, spec.Compiles fits := by
  constructor
  · rintro ⟨t, h⟩
    exact compiles_of_compile h
  · intro hall
    cases h : compile fits specs with
    | ok t => exact ⟨t, rfl⟩
    | error bad => exact absurd hall (refuses_of_compile h).not_compiles

/-- A table leaves a text alone just when its rules, as they are written, all miss the text. -/
theorem revise?_eq_none_of_compile (h : compile fits specs = .ok t) :
    t.revise? text = none ↔ ∀ spec ∈ specs, spec.Misses text := by
  rw [revise?_eq_none]
  induction specs generalizing t with
  | nil =>
    cases h
    simp
  | cons spec specs ih =>
    obtain ⟨r, u, hr, hu, rfl⟩ := of_compile_cons h
    rw [List.forall_mem_cons, List.forall_mem_cons]
    exact and_congr (Rule.revise?_eq_none hr) (ih hu)

/-- What lists of rules come to: a table of all of them in their order, or the first that does not
compile. A table leaves a text alone just when its rules miss it, and the table of two lists does
what their tables do in turn. -/
theorem compile_exact (fits : String → Bool) (specs : List RuleSpec) :
    ((∃ t, compile fits specs = .ok t) ↔
      ∀ spec ∈ specs, ∃ regex, Regex.compile fits spec.pattern = .ok regex) ∧
    match compile fits specs with
    | .error bad => Refuses fits specs bad
    | .ok t => t.specs = specs ∧
      List.Forall₂ (fun spec rule => Rule.compile fits spec = .ok rule) specs t.rules ∧
      ∀ text, (t.revise? text = none ↔ ∀ spec ∈ specs, spec.Misses text) ∧
        (t.revise? text = none → t.apply text = text) ∧
        ∀ specs' u, compile fits specs' = .ok u → ∃ w, compile fits (specs ++ specs') = .ok w ∧
          w.apply text = u.apply (t.apply text) ∧
          (w.revise? text = none ↔ t.revise? text = none ∧ u.revise? (t.apply text) = none) := by
  constructor
  · simp only [exists_compile, RuleSpec.compiles_iff]
  cases h : compile fits specs with
  | error bad => exact refuses_of_compile h
  | ok t =>
    refine ⟨specs_of_compile h, forall₂_of_compile h, fun text =>
      ⟨revise?_eq_none_of_compile h, apply_of_unchanged, fun specs' u hu => ?_⟩⟩
    exact ⟨_, compile_append h hu, apply_append t u text, revise?_append t u text⟩

def inPlace : RuleTable :=
  ⟨[{ spec := ⟨"a", "$0"⟩, regex := { pattern := .char (.single 'a'), names := [] } }]⟩

def behind : RuleTable :=
  ⟨[{ spec := ⟨"b", "c"⟩, regex := { pattern := .char (.single 'b'), names := [] } }]⟩

/-- A match counts although the text is the same after it and no rule behind it matches. -/
theorem compile_exact_inPlace :
    compile (fun _ => true) [⟨"a", "$0"⟩] = .ok inPlace ∧
    compile (fun _ => true) [⟨"b", "c"⟩] = .ok behind ∧
    behind.revise? "a" = none ∧ ¬RuleSpec.Misses ⟨"a", "$0"⟩ "a" ∧
    ∃ w, compile (fun _ => true) ([⟨"a", "$0"⟩] ++ [⟨"b", "c"⟩]) = .ok w ∧ w.apply "a" = "a" ∧
      w.revise? "a" ≠ none := by
  have hfirst : compile (fun _ => true) [⟨"a", "$0"⟩] = .ok inPlace := rfl
  have hsecond : compile (fun _ => true) [⟨"b", "c"⟩] = .ok behind := rfl
  have hmatch : inPlace.revise? "a" = some "a" := by decide +kernel
  have hnone : behind.revise? "a" = none := by decide +kernel
  obtain ⟨-, -, -, hall⟩ := compile_exact (fun _ => true) [⟨"a", "$0"⟩]
  obtain ⟨hmisses, -, happend⟩ := hall "a"
  obtain ⟨w, hw, happly, hrevise⟩ := happend _ _ hsecond
  refine ⟨hfirst, hsecond, hnone, fun h => ?_, w, hw, ?_, fun h => ?_⟩
  · have hleft : inPlace.revise? "a" = none := hmisses.2 (by simpa using h)
    rw [hmatch] at hleft
    cases hleft
  · have hsame : inPlace.apply "a" = "a" := by rw [apply, hmatch, Option.getD_some]
    have hthen : behind.apply "a" = "a" := apply_of_unchanged hnone
    exact happly.trans ((congrArg behind.apply hsame).trans hthen)
  · have hleft : inPlace.revise? "a" = none := (hrevise.1 h).1
    rw [hmatch] at hleft
    cases hleft

end RuleTable

end Repath
