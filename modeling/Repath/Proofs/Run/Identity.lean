import Repath.Proofs.Rules.Compiled
import Repath.Proofs.Rules.Replacing
import Repath.Proofs.Run.Accounting

namespace Repath

variable {fits : String → Bool} {spec : RuleSpec} {rule : Rule} {specs : List RuleSpec}
  {t : RuleTable} {c : Cursor} {ms : List Match} {out : List Char}

/-- The template of the rule is the whole match. -/
def RuleSpec.IsIdentity (spec : RuleSpec) : Prop :=
  spec.replacement = "$0" ∨ spec.replacement = "$\x7b0\x7d"

theorem Replaced.eq_after (h : Replaced Match.text c ms out) : out = c.after := by
  induction h with
  | rest c => rfl
  | replace hgap hm hs ih => rw [ih, Match.text, hm.upTo, hgap.1, hm.1, List.append_assoc]

theorem RuleSpec.IsIdentity.expand (h : spec.IsIdentity) (regex : Regex) :
    (Template.ofString spec.replacement).expand regex = Match.text := by
  have hread : Template.ofString spec.replacement = [.group 0] := by
    obtain h | h := h
    · rw [h]
      rfl
    · rw [h]
      rfl
  rw [hread]
  funext m
  exact List.append_nil _

theorem Rule.apply_of_isIdentity (h : compile fits spec = .ok rule) (hspec : spec.IsIdentity)
    (text : String) : rule.apply text = text := by
  obtain ⟨rfl, body, names, fs, -, hresolve⟩ := exists_of_compile h
  have hdecomposes : Decomposes body _ Match.text _ _ _ :=
    (foundIn_matchesIn hresolve text.toList).decomposes
  rw [apply_eq_splice, hspec.expand, hdecomposes.replaced.eq_after]
  exact String.ofList_toList

namespace RuleTable

theorem exists_of_mem_rules {r : Rule} (h : compile fits specs = .ok t) (hr : r ∈ t.rules) :
    ∃ spec ∈ specs, Rule.compile fits spec = .ok r := by
  induction specs generalizing t with
  | nil =>
    cases h
    cases hr
  | cons spec specs ih =>
    obtain ⟨r', u, hr', hu, rfl⟩ := of_compile_cons h
    obtain rfl | hr := List.mem_cons.1 hr
    · exact ⟨spec, List.mem_cons_self, hr'⟩
    · obtain ⟨spec', hspec', hcompile⟩ := ih hu hr
      exact ⟨spec', List.mem_cons_of_mem spec hspec', hcompile⟩

theorem apply_of_isIdentity (h : compile fits specs = .ok t)
    (hspecs : ∀ spec ∈ specs, spec.IsIdentity) (text : String) : t.apply text = text := by
  rw [apply_eq_foldl]
  refine foldl_apply_self fun r hr => ?_
  obtain ⟨spec, hspec, hcompile⟩ := exists_of_mem_rules h hr
  exact Rule.apply_of_isIdentity hcompile (hspecs spec hspec) text

theorem revise?_of_isIdentity (h : compile fits specs = .ok t)
    (hspecs : ∀ spec ∈ specs, spec.IsIdentity) (text : String) :
    (t.revise? text = none ↔ ∀ spec ∈ specs, spec.Misses text) ∧
      (t.revise? text = some text ↔ ∃ spec ∈ specs, ¬spec.Misses text) := by
  have hnone : t.revise? text = none ↔ ∀ spec ∈ specs, spec.Misses text :=
    revise?_eq_none_of_compile h
  have hsome : t.revise? text = some text ↔ ¬t.revise? text = none := by
    have happly := apply_of_isIdentity h hspecs text
    rw [apply] at happly
    cases hr : t.revise? text with
    | none => simp
    | some new =>
      rw [hr, Option.getD_some] at happly
      simp [happly]
  refine ⟨hnone, ?_⟩
  rw [hsome, hnone]
  simp only [not_forall, exists_prop]

end RuleTable

section Fixed

variable (hfixed : ∀ content, t.reviseContent content = content)

include hfixed

theorem RuleTable.outcome_of_fixed (p : Path) (content : Bytes) :
    t.outcome p content = .unchanged ∨
      t.outcome p content = .failed (Error.fileRead p .notUtf8).chain := by
  rw [outcome]
  cases Utf8.decode? content with
  | none => exact .inr rfl
  | some cs => exact .inl (if_pos (hfixed content))

namespace FileSystem

theorem left_of_fixed (fs : FileSystem) (mode : WriteMode) (ls : List Location) :
    fs.left t mode ls = fs := by
  have hentry : ∀ e : Entry, e.revise t = e := by
    rintro (⟨content, m⟩ | _ | _)
    · rw [Entry.revise, hfixed]
    · rfl
    · rfl
  cases mode with
  | apply =>
    rw [left, revised]
    refine mapEntries_self fun entry _ => ?_
    rw [hentry, ite_self]
  | dryRun => rfl

theorem outcome_reportOn_of_fixed (fs : FileSystem) (root : Path) (l : Location) :
    (fs.reportOn t root l).outcome = .unchanged ∨
      (fs.reportOn t root l).outcome = .failed (Error.fileRead l.path .notUtf8).chain := by
  rw [reportOn]
  dsimp only
  split
  · exact t.outcome_of_fixed hfixed l.path _
  · exact .inl rfl

end FileSystem

end Fixed

namespace RuleTable

/-- Rules that put every match in its own place give every text back, although it counts as revised
where one of them matches. A run by them leaves the files as they are, and reports every candidate
as unchanged, or as failed because it holds no text. -/
theorem attempt_of_isIdentity (h : compile fits specs = .ok t)
    (hspecs : ∀ spec ∈ specs, spec.IsIdentity) :
    (∀ text, t.apply text = text ∧ (t.revise? text = none ↔ ∀ spec ∈ specs, spec.Misses text) ∧
      (t.revise? text = some text ↔ ∃ spec ∈ specs, ¬spec.Misses text)) ∧
    ∀ (fs : FileSystem) cwd root suffix, fs.WellFormed →
      match fs.attempt cwd ⟨root, suffix, .apply⟩ t with
      | (r, none) => r.files = fs ∧ r.summary.changed = 0 ∧
          (∃ top, fs.stat cwd root = .ok (top, .dir) ∧ fs.Accounts suffix top r) ∧
          ∀ report ∈ r.reports, report.outcome = .unchanged ∨
            report.outcome = .failed (Error.fileRead report.path .notUtf8).chain
      | (r, some e) => fs.resolveRoot cwd root = .error e ∧ r.files = fs ∧ r.reports = [] := by
  have happly := apply_of_isIdentity h hspecs
  refine ⟨fun text => ⟨happly text, revise?_of_isIdentity h hspecs text⟩,
    fun fs cwd root suffix hfs => ?_⟩
  have hfixed := reviseContent_of_apply happly
  obtain ⟨top, hstat⟩ | ⟨e, hroot⟩ := fs.root_cases cwd root
  · have haccounts := FileSystem.accounts_runBelow hfs t suffix top
    have houtcome : ∀ report ∈ (fs.runBelow t .apply suffix top).reports,
        report.outcome = .unchanged ∨
          report.outcome = .failed (Error.fileRead report.path .notUtf8).chain := by
      intro report hreport
      obtain ⟨l, -, rfl⟩ := List.mem_map.1 hreport
      exact FileSystem.outcome_reportOn_of_fixed hfixed fs top.path l
    rw [FileSystem.attempt_ok hfs hstat]
    refine ⟨FileSystem.left_of_fixed hfixed fs .apply _, ?_, ⟨top, hstat, haccounts⟩, houtcome⟩
    rw [haccounts.changed, List.length_eq_zero_iff, List.filter_eq_nil_iff]
    intro report hreport
    obtain hunchanged | hfailed := houtcome report hreport
    · simp [hunchanged]
    · simp [hfailed]
  · rw [FileSystem.attempt_error hroot]
    exact ⟨hroot, rfl, rfl⟩

def identitySample : List RuleSpec := [⟨"a*", "$0"⟩, ⟨"\\b", "$\x7b0\x7d"⟩]

def compiledIdentitySample : RuleTable :=
  ⟨[{ spec := ⟨"a*", "$0"⟩
      regex := { pattern := .rep (.char (.single 'a')) 0 none true, names := [] } },
    { spec := ⟨"\\b", "$\x7b0\x7d"⟩
      regex := { pattern := .look (.boundary true), names := [] } }]⟩

/-- Empty matches between characters and at the bounds of words are put back like all others. -/
theorem attempt_of_isIdentity_sample :
    compile (fun _ => true) identitySample = .ok compiledIdentitySample ∧
    compiledIdentitySample.revise? "baa n" = some "baa n" ∧
    (¬∀ spec ∈ identitySample, spec.Misses "baa n") ∧
    ∃ r top, FileSystem.sample.attempt [] ⟨.ofString "/src", ".ts", .apply⟩ compiledIdentitySample =
        (r, none) ∧
      FileSystem.sample.stat [] (.ofString "/src") = .ok (top, .dir) ∧
      r.files = FileSystem.sample ∧ r.summary.changed = 0 ∧
      FileSystem.sample.Accounts ".ts" top r ∧
      ∀ report ∈ r.reports, report.outcome = .unchanged ∨
        report.outcome = .failed (Error.fileRead report.path .notUtf8).chain := by
  have hcompile : compile (fun _ => true) identitySample = .ok compiledIdentitySample := rfl
  have hspecs : ∀ spec ∈ identitySample, spec.IsIdentity := by
    simp [identitySample, RuleSpec.IsIdentity]
  have hrevise : compiledIdentitySample.revise? "baa n" = some "baa n" := by decide +kernel
  have hattempt := FileSystem.attempt_ok FileSystem.wellFormed_sample FileSystem.stat_sample ".ts"
    .apply compiledIdentitySample
  obtain ⟨htext, hrun⟩ := attempt_of_isIdentity hcompile hspecs
  obtain ⟨-, hnone, -⟩ := htext "baa n"
  have hleft := hrun _ [] (.ofString "/src") ".ts" FileSystem.wellFormed_sample
  rw [hattempt] at hleft
  obtain ⟨hfiles, hchanged, ⟨top, hstat, haccounts⟩, houtcome⟩ := hleft
  refine ⟨hcompile, hrevise, fun hmisses => ?_, _, top, hattempt, hstat, hfiles, hchanged,
    haccounts, houtcome⟩
  rw [hnone.2 hmisses] at hrevise
  cases hrevise

end RuleTable

end Repath
