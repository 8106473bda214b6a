import Mathlib.Data.List.Basic
import Repath.Rules.Table

namespace Repath

def Rule.apply (r : Rule) (text : String) : String := (r.revise? text).getD text

def RuleSpec.Compiles (spec : RuleSpec) (fits : String → Bool) : Prop :=
  ∃ r, Rule.compile fits spec = .ok r

namespace RuleTable

variable {fits : String → Bool} {specs specs' : List RuleSpec} {t u : RuleTable}
  {rules : List Rule} {text : String} {bad : BadRule}

theorem of_compile_cons {spec : RuleSpec} (h : compile fits (spec :: specs) = .ok t) :
    ∃ r u, Rule.compile fits spec = .ok r ∧ compile fits specs = .ok u ∧ t = ⟨r :: u.rules⟩ := by
  rw [compile] at h
  cases hr : Rule.compile fits spec with
  | error cause =>
    rw [hr] at h
    cases h
  | ok r =>
    rw [hr] at h
    cases hu : compile fits specs with
    | error bad =>
      rw [hu] at h
      cases h
    | ok u =>
      rw [hu] at h
      cases h
      exact ⟨r, u, rfl, rfl, rfl⟩

theorem compile_append (h : compile fits specs = .ok t) (h' : compile fits specs' = .ok u) :
    compile fits (specs ++ specs') = .ok ⟨t.rules ++ u.rules⟩ := by
  induction specs generalizing t with
  | nil =>
    cases h
    exact h'
  | cons spec specs ih =>
    obtain ⟨r, rest, hr, hrest, rfl⟩ := of_compile_cons h
    simp only [List.cons_append, compile, hr, ih hrest]
    rfl

theorem compile_flatten {lists : List (List RuleSpec)} {tables : List RuleTable}
    (h : List.Forall₂ (fun specs t => compile fits specs = .ok t) lists tables) :
    compile fits lists.flatten = .ok ⟨tables.flatMap (·.rules)⟩ := by
  induction h with
  | nil => rfl
  | cons hfirst _ ih =>
    rw [List.flatten_cons, List.flatMap_cons]
    exact compile_append hfirst ih

/-- The first rule that does not compile, with the reason. -/
def Refuses (fits : String → Bool) (specs : List RuleSpec) (bad : BadRule) : Prop :=
  ∃ good spec rest cause, specs = good ++ spec :: rest ∧ (∀ g ∈ good, g.Compiles fits) ∧
    Rule.compile fits spec = .error cause ∧ bad = ⟨spec.pattern, cause⟩

theorem refuses_of_compile (h : compile fits specs = .error bad) : Refuses fits specs bad := by
  induction specs with
  | nil => cases h
  | cons spec specs ih =>
    rw [compile] at h
    cases hr : Rule.compile fits spec with
    | error cause =>
      rw [hr] at h
      exact ⟨[], spec, specs, cause, rfl, by simp, hr, (Except.error.inj h).symm⟩
    | ok r =>
      rw [hr] at h
      cases ht : compile fits specs with
      | ok rest =>
        rw [ht] at h
        cases h
      | error bad' =>
        rw [ht] at h
        cases h
        obtain ⟨good, spec', rest, cause, rfl, hgood, hbad, rfl⟩ := ih ht
        refine ⟨spec :: good, spec', rest, cause, rfl, ?_, hbad, rfl⟩
        exact List.forall_mem_cons.2 ⟨⟨r, hr⟩, hgood⟩

theorem Refuses.not_compiles (h : Refuses fits specs bad) :
    ¬∀ spec ∈ specs, spec.Compiles fits := by
  obtain ⟨good, spec, rest, cause, rfl, -, hbad, -⟩ := h
  intro hall
  obtain ⟨r, hr⟩ := hall spec (by simp)
  rw [hbad] at hr
  cases hr

theorem compiles_of_compile (h : compile fits specs = .ok t) :
    ∀ spec ∈ specs, spec.Compiles fits := by
  induction specs generalizing t with
  | nil => simp
  | cons spec specs ih =>
    obtain ⟨r, rest, hr, hrest, -⟩ := of_compile_cons h
    exact List.forall_mem_cons.2 ⟨⟨r, hr⟩, ih hrest⟩

theorem step_eq (text : String) (changed : Bool) (r : Rule) :
    step (text, changed) r = (r.apply text, changed || (r.revise? text).isSome) := by
  rw [step, Rule.apply]
  cases r.revise? text <;> simp

theorem foldl_step (rules : List Rule) (text : String) (changed : Bool) :
    (rules.foldl step (text, changed)).1 = rules.foldl (fun text r => r.apply text) text := by
  induction rules generalizing text changed with
  | nil => rfl
  | cons r rules ih => rw [List.foldl_cons, List.foldl_cons, step_eq, ih]

/-- A rule that does not match leaves the text to those behind it, so that it is the same text that
none of them matches. -/
theorem foldl_step_eq_false {changed : Bool} : (rules.foldl step (text, changed)).2 = false ↔
    changed = false ∧ ∀ r ∈ rules, r.revise? text = none := by
  induction rules generalizing text changed with
  | nil => simp
  | cons r rules ih =>
    rw [List.foldl_cons, step_eq, ih, Bool.or_eq_false_iff, Option.isSome_eq_false_iff,
      Option.isNone_iff_eq_none, List.forall_mem_cons, and_assoc]
    refine and_congr_right fun _ => and_congr_right fun hr => ?_
    rw [Rule.apply, hr, Option.getD_none]

theorem foldl_apply_self (h : ∀ r ∈ rules, r.apply text = text) :
    rules.foldl (fun text r => r.apply text) text = text := by
  induction rules with
  | nil => rfl
  | cons r rules ih =>
    obtain ⟨hr, hrules⟩ := List.forall_mem_cons.1 h
    rw [List.foldl_cons, hr]
    exact ih hrules

theorem foldl_apply_of_unchanged (h : ∀ r ∈ rules, r.revise? text = none) :
    rules.foldl (fun text r => r.apply text) text = text :=
  foldl_apply_self fun r hr => by rw [Rule.apply, h r hr, Option.getD_none]

theorem apply_eq_foldl (t : RuleTable) (text : String) :
    t.apply text = t.rules.foldl (fun text r => r.apply text) text := by
  rw [← foldl_step t.rules text false, apply, revise?]
  rcases hr : t.rules.foldl step (text, false) with ⟨out, changed⟩
  cases changed with
  | true => rfl
  | false =>
    have hnone := (foldl_step_eq_false.1 (congrArg Prod.snd hr)).2
    have hout := foldl_apply_of_unchanged hnone
    rw [← foldl_step t.rules text false, hr] at hout
    exact hout.symm

theorem apply_of_unchanged (h : t.revise? text = none) : t.apply text = text := by
  rw [apply, h, Option.getD_none]

theorem revise?_eq_none : t.revise? text = none ↔ ∀ r ∈ t.rules, r.revise? text = none := by
  have hfold : _ ↔ false = false ∧ ∀ r ∈ t.rules, r.revise? text = none := foldl_step_eq_false
  rw [revise?]
  rcases hr : t.rules.foldl step (text, false) with ⟨out, changed⟩
  rw [hr] at hfold
  cases changed with
  | true => simpa using hfold
  | false => simpa using hfold

theorem revise?_append (t u : RuleTable) (text : String) :
    revise? ⟨t.rules ++ u.rules⟩ text = none ↔
      t.revise? text = none ∧ u.revise? (t.apply text) = none := by
  rw [revise?_eq_none, List.forall_mem_append, ← revise?_eq_none]
  refine and_congr_right fun ht => ?_
  rw [apply_of_unchanged ht, revise?_eq_none]

theorem apply_append (t u : RuleTable) (text : String) :
    apply ⟨t.rules ++ u.rules⟩ text = u.apply (t.apply text) := by
  rw [apply_eq_foldl, apply_eq_foldl, apply_eq_foldl, List.foldl_append]

end RuleTable

end Repath
