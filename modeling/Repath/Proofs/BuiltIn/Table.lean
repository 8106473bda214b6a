import Mathlib.Data.List.Perm.Basic
import Repath.Proofs.BuiltIn.Pass

namespace Repath.BuiltIn

variable {fits : String → Bool} {ms : List Move} {specs : List RuleSpec}

theorem relinked_nil (prev : Option Char) (cs : List Char) : Relinked [] prev cs cs :=
  relinked_self fun _ _ _ _ _ hb => List.not_mem_nil hb.known

theorem changed_iff {ss ts : List Stale} {prev : Option Char} {cs mid out : List Char}
    (hs : ss ⊆ stale) (ht : ts ⊆ stale) (h : Relinked ss prev cs mid)
    (h' : Relinked ts prev mid out) : out ≠ cs ↔ mid ≠ cs ∨ out ≠ mid := by
  constructor
  · intro hne
    by_cases hmid : mid = cs
    · exact .inr (hmid ▸ hne)
    · exact .inl hmid
  · rintro hne rfl
    obtain rfl | hlt := h.eq_or_lt hs
    · exact hne.elim (absurd rfl) (absurd rfl)
    · exact absurd (h'.length_le ht) (Nat.not_le.2 hlt)

theorem flatMap_stale_subset (h : ms ⊆ moves) : ms.flatMap Move.stale ⊆ stale := by
  intro s hs
  obtain ⟨m, hm, hs⟩ := List.mem_flatMap.1 hs
  exact Move.stale_subset (h hm) hs

theorem foldl_step (h : ms ⊆ moves) (text : String) (changed : Bool) :
    ∃ out, Relinked (ms.flatMap Move.stale) none text.toList out ∧
      (ms.map Move.compiled).foldl RuleTable.step (text, changed) =
        (.ofList out, changed || decide (out ≠ text.toList)) := by
  induction ms generalizing text changed with
  | nil => exact ⟨text.toList, relinked_nil _ _, by simp⟩
  | cons m ms ih =>
    obtain ⟨hm, hms⟩ := List.cons_subset.1 h
    obtain ⟨mid, hmid, hrevise⟩ := Move.exists_revise hm text
    have hstep : RuleTable.step (text, changed) m.compiled =
        (.ofList mid, changed || decide (mid ≠ text.toList)) := by
      rw [RuleTable.step, hrevise]
      by_cases heq : mid = text.toList
      · simp [heq]
      · simp [heq]
    obtain ⟨out, hout, hfold⟩ := ih hms (.ofList mid) (changed || decide (mid ≠ text.toList))
    rw [String.toList_ofList] at hout hfold
    have hss := Move.stale_subset hm
    have hts := flatMap_stale_subset hms
    refine ⟨out, hmid.trans hss hts hout, ?_⟩
    rw [List.map_cons, List.foldl_cons, hstep, hfold, Bool.or_assoc]
    simp [changed_iff hss hts hmid hout]

/-- A table of built-in rules makes one pass, and reports a match just when the text changes. -/
theorem exists_revise_table (h : ms ⊆ moves) (text : String) :
    ∃ out, Relinked (ms.flatMap Move.stale) none text.toList out ∧
      RuleTable.revise? ⟨ms.map Move.compiled⟩ text =
        if out = text.toList then none else some (.ofList out) := by
  obtain ⟨out, hout, hfold⟩ := foldl_step h text false
  refine ⟨out, hout, ?_⟩
  rw [RuleTable.revise?, hfold]
  by_cases heq : out = text.toList
  · simp [heq]
  · simp [heq]

theorem apply_of_revise {table : RuleTable} {text : String} {out : List Char}
    (h : table.revise? text = if out = text.toList then none else some (.ofList out)) :
    table.apply text = .ofList out := by
  rw [RuleTable.apply, h]
  split
  · rename_i heq
    rw [heq, String.ofList_toList, Option.getD_none]
  · rfl

def table : RuleTable := ⟨moves.map Move.compiled⟩

theorem compile_rules (hfits : ∀ rule ∈ rules, fits rule.pattern = true) :
    RuleTable.compile fits rules = .ok table := by
  rw [rules_eq, compile_moves (List.Subset.refl _) hfits]
  rfl

/-- A limit that the built-in patterns keep. -/
def isShort (pattern : String) : Bool := pattern.toList.length ≤ 200

theorem isShort_of_mem_rules : ∀ rule ∈ rules, isShort rule.pattern = true := by
  have hmoves : ∀ m ∈ moves, (importStart.toList ++ (Reader.escaped m.path.toList ++
      '(' :: (Reader.alternatives m.words ++ ')' :: "([/'\"])".toList))).length ≤ 200 := by
    decide +kernel
  intro rule hrule
  rw [rules_eq] at hrule
  obtain ⟨m, hm, rfl⟩ := List.mem_map.1 hrule
  rw [isShort, Move.toList_pattern]
  exact decide_eq_true (hmoves m hm)

theorem exists_revise_rules (text : String) :
    ∃ out, Relinked stale none text.toList out ∧
      table.revise? text = if out = text.toList then none else some (.ofList out) := by
  rw [stale_eq]
  exact exists_revise_table (List.Subset.refl _) text

theorem table_apply_apply (text : String) : table.apply (table.apply text) = table.apply text := by
  obtain ⟨out, hout, hrevise⟩ := exists_revise_rules text
  obtain ⟨out', hout', hrevise'⟩ := exists_revise_rules (.ofList out)
  have hidem := hout.idem (List.Subset.refl _)
  rw [String.toList_ofList] at hout'
  obtain rfl : out' = out := hout'.unique (List.Subset.refl _) hidem
  rw [apply_of_revise hrevise, apply_of_revise hrevise']

/-- The built-in table leaves nothing to do: run on what it made, it changes nothing, and none of
its patterns matches there. -/
theorem apply_idempotent (hfits : ∀ rule ∈ rules, fits rule.pattern = true) :
    ∃ table, RuleTable.compile fits rules = .ok table ∧ ∀ text,
      table.apply (table.apply text) = table.apply text ∧
      table.revise? (table.apply text) = none ∧
      ∀ r ∈ table.rules, r.regex.matchesIn (table.apply text).toList = [] ∧
        r.regex.pattern.Absent (.start (table.apply text).toList) := by
  refine ⟨table, compile_rules hfits, fun text => ?_⟩
  obtain ⟨out, hout, hrevise⟩ := exists_revise_rules text
  have hidem := hout.idem (List.Subset.refl _)
  obtain ⟨out', hout', hrevise'⟩ := exists_revise_rules (.ofList out)
  rw [String.toList_ofList] at hout' hrevise'
  obtain rfl : out' = out := hout'.unique (List.Subset.refl _) hidem
  rw [apply_of_revise hrevise, apply_of_revise (by rwa [String.toList_ofList]), hrevise',
    if_pos rfl, String.toList_ofList]
  refine ⟨rfl, rfl, fun r hr => ?_⟩
  obtain ⟨m, hm, rfl⟩ := List.mem_map.1 hr
  have hself := hidem.self_mono (List.Subset.refl _) (Move.stale_subset hm)
  exact ⟨Move.matchesIn_of_relinked hm hself, Move.absent_of_relinked hm hself⟩

theorem apply_idempotent_isShort : (∀ rule ∈ rules, isShort rule.pattern = true) ∧
    ∃ table, RuleTable.compile isShort rules = .ok table ∧ ∀ text,
      table.apply (table.apply text) = table.apply text ∧
      table.revise? (table.apply text) = none ∧
      ∀ r ∈ table.rules, r.regex.matchesIn (table.apply text).toList = [] ∧
        r.regex.pattern.Absent (.start (table.apply text).toList) :=
  ⟨isShort_of_mem_rules, apply_idempotent isShort_of_mem_rules⟩

/-- The built-in table does in one pass what the sites of the text as it was ask for. -/
theorem apply_eq_relink (hfits : ∀ rule ∈ rules, fits rule.pattern = true) :
    ∃ table, RuleTable.compile fits rules = .ok table ∧
      ∀ text, table.apply text = .ofList (relink text.toList) := by
  refine ⟨table, compile_rules hfits, fun text => ?_⟩
  obtain ⟨out, hout, hrevise⟩ := exists_revise_rules text
  rw [apply_of_revise hrevise, hout.eq_insertAll (List.Subset.refl _) 0]
  rfl

theorem apply_eq_relink_isShort : (∀ rule ∈ rules, isShort rule.pattern = true) ∧
    ∃ table, RuleTable.compile isShort rules = .ok table ∧
      ∀ text, table.apply text = .ofList (relink text.toList) :=
  ⟨isShort_of_mem_rules, apply_eq_relink isShort_of_mem_rules⟩

/-- The order of the built-in rules makes no difference, neither to the text nor to the report of
a match. -/
theorem revise?_perm (hfits : ∀ rule ∈ rules, fits rule.pattern = true)
    (h : specs.Perm rules) :
    ∃ table table', RuleTable.compile fits rules = .ok table ∧
      RuleTable.compile fits specs = .ok table' ∧
      ∀ text, table'.apply text = table.apply text ∧
        (table'.revise? text = none ↔ table.revise? text = none) := by
  rw [rules_eq] at h
  obtain ⟨ms, rfl, hms⟩ : ∃ ms : List Move, specs = ms.map Move.rule ∧ ms.Perm moves :=
    (congrFun₂ (List.eq_map_comp_perm Move.rule) specs moves).mpr h
  refine ⟨table, _, compile_rules hfits, compile_moves hms.subset hfits, fun text => ?_⟩
  obtain ⟨out, hout, hrevise⟩ := exists_revise_rules text
  obtain ⟨out', hout', hrevise'⟩ := exists_revise_table hms.subset text
  have hsame : Relinked stale none text.toList out' := by
    apply hout'.congr
    intro s
    rw [stale_eq]
    exact (hms.flatMap_right Move.stale).mem_iff
  obtain rfl : out' = out := hsame.unique (List.Subset.refl _) hout
  rw [apply_of_revise hrevise, apply_of_revise hrevise', hrevise, hrevise']
  exact ⟨rfl, Iff.rfl⟩

theorem revise?_reverse : (∀ rule ∈ rules, isShort rule.pattern = true) ∧
    rules.reverse.Perm rules ∧
    ∃ table table', RuleTable.compile isShort rules = .ok table ∧
      RuleTable.compile isShort rules.reverse = .ok table' ∧
      ∀ text, table'.apply text = table.apply text ∧
        (table'.revise? text = none ↔ table.revise? text = none) :=
  ⟨isShort_of_mem_rules, rules.reverse_perm,
    revise?_perm isShort_of_mem_rules rules.reverse_perm⟩

end Repath.BuiltIn
