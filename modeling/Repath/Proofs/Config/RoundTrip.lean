import Repath.Config.Settings
import Repath.Proofs.Toml.Building
import Repath.Proofs.Toml.Documents

namespace Repath.RuleFile

open Toml (Statement Value Table Building)

variable {key : String} {rules : List RuleSpec} {fuel : Nat} {rest : List Char}

theorem statements_writeEntry (hkey : Toml.IsBare key.toList) (value : String) :
    Toml.statements (fuel + 1) (writeEntry key value ++ rest) =
      (Toml.statements fuel rest).map (.assign [key] (.string value) :: ·) := by
  have hline : writeEntry key value ++ rest =
      key.toList ++ ' ' :: '=' :: ' ' :: (Toml.writeString value.toList ++ '\n' :: rest) := by
    simp [writeEntry]
  rw [hline, Toml.statements_writeString hkey, String.ofList_toList, String.ofList_toList]

theorem statements_heading :
    Toml.statements fuel (headingText.toList ++ rest) = Toml.statements fuel rest := by
  have hskip : Toml.isSkipped false headingText.toList = true := by decide +kernel
  cases fuel with
  | zero => simp only [Toml.statements]
  | succ fuel => rw [Toml.statements, Toml.statements, Toml.skipLines_skipped hskip]

theorem statements_element :
    Toml.statements (fuel + 1) ("\n[[rules]]\n".toList ++ rest) =
      (Toml.statements fuel rest).map (.element ["rules"] :: ·) := by
  have hbare : Toml.IsBare "rules".toList := ⟨by decide, by decide⟩
  have hst : Toml.statement (2 * fuel + 2)
      ('[' :: '[' :: ("rules".toList ++ ']' :: ']' :: '\n' :: rest)) = _ :=
    Toml.statement_element hbare
  rw [String.ofList_toList] at hst
  exact Toml.statements_cons rfl (by simp) hst rfl

def statementsOf (r : RuleSpec) : List Statement :=
  [.element ["rules"], .assign ["pattern"] (.string r.pattern),
    .assign ["replacement"] (.string r.replacement)]

theorem writeRule_append (r : RuleSpec) (rest : List Char) :
    writeRule r ++ rest = "\n[[rules]]\n".toList ++ (writeEntry "pattern" r.pattern ++
      (writeEntry "replacement" r.replacement ++ rest)) := by
  have hassoc (a b c d : List Char) : a ++ b ++ c ++ d = a ++ (b ++ (c ++ d)) := by simp
  exact hassoc _ _ _ _

theorem statements_rules (h : 3 * rules.length < fuel) :
    Toml.statements fuel (rules.flatMap writeRule) = some (rules.flatMap statementsOf) := by
  induction rules generalizing fuel with
  | nil =>
    obtain ⟨k, rfl⟩ : ∃ k, fuel = k + 1 := ⟨fuel - 1, by omega⟩
    rfl
  | cons r rules ih =>
    rw [List.length_cons] at h
    obtain ⟨k, rfl⟩ : ∃ k, fuel = k + 3 := ⟨fuel - 3, by omega⟩
    have hpattern : Toml.IsBare "pattern".toList := ⟨by decide, by decide⟩
    have hreplacement : Toml.IsBare "replacement".toList := ⟨by decide, by decide⟩
    rw [List.flatMap_cons, writeRule_append, statements_element, statements_writeEntry hpattern,
      statements_writeEntry hreplacement, ih (by omega)]
    rfl

def tableOf (root extension : String) (items : List Value) : Table :=
  ("root", .string root) :: ("extension", .string extension) ::
    if items.isEmpty then [] else [("rules", .array true items)]

def ruleTable (r : RuleSpec) : Value :=
  .table .header [("pattern", .string r.pattern), ("replacement", .string r.replacement)]

variable {root extension : String} {items : List Value} {path : List String}

theorem tableOf_eq (root extension : String) (items : List Value) : tableOf root extension items =
    Table.withArray [("root", .string root), ("extension", .string extension)] "rules" items := by
  cases items <;> rfl

theorem foldlM_statementsOf (r : RuleSpec) :
    (statementsOf r).foldlM Building.step ⟨tableOf root extension items, path⟩ =
      some ⟨tableOf root extension (items ++ [ruleTable r]), ["rules"]⟩ := by
  rw [tableOf_eq, tableOf_eq]
  have hkeys : [("pattern", Value.string r.pattern), ("replacement", .string r.replacement)].map
      (·.1) |>.Nodup := by simp
  exact Building.foldlM_section rfl items path hkeys

theorem foldlM_rules (rules : List RuleSpec) :
    ((rules.flatMap statementsOf).foldlM Building.step ⟨tableOf root extension items, path⟩).map
        (·.root) = some (tableOf root extension (items ++ rules.map ruleTable)) := by
  induction rules generalizing items path with
  | nil => simp [tableOf]
  | cons r rules ih =>
    rw [List.flatMap_cons, List.foldlM_append, foldlM_statementsOf]
    simp only [Option.bind_eq_bind, Option.bind_some, ih]
    simp

def rulesValue (rules : List RuleSpec) : Value :=
  .array (!rules.isEmpty) (rules.map ruleTable)

theorem writeEntry_pos (key value : String) : 0 < (writeEntry key value).length := by
  rw [writeEntry, List.length_append]
  exact Nat.succ_pos _

theorem length_le_writeRules (rules : List RuleSpec) :
    3 * rules.length ≤ (rules.flatMap writeRule).length := by
  induction rules with
  | nil => exact Nat.le_refl 0
  | cons r rules ih =>
    have hpattern := writeEntry_pos "pattern" r.pattern
    have hreplacement := writeEntry_pos "replacement" r.replacement
    rw [List.flatMap_cons, writeRule_append, List.length_append, List.length_append,
      List.length_append, List.length_cons]
    have hheader : 0 < "\n[[rules]]\n".toList.length := by decide
    generalize "\n[[rules]]\n".toList.length = n at hheader
    omega

theorem statements_noRules :
    Toml.statements (fuel + 3) "rules = []\n".toList =
      some [.assign ["rules"] (.array false [])] := by
  have hbare : Toml.IsBare "rules".toList := ⟨by decide, by decide⟩
  have hv : Toml.value (2 * (fuel + 2) + 1) Toml.maxDepth
      (Toml.skipBlanks [' ', '[', ']', '\n']) = some (.array false [], ['\n']) :=
    Toml.value_emptyArray
  have hline := Toml.statements_bare hbare hv
  rw [String.ofList_toList] at hline
  exact hline

def rulesText (rules : List RuleSpec) : List Char :=
  if rules.isEmpty then "rules = []\n".toList else rules.flatMap writeRule

def rulesStatements (rules : List RuleSpec) : List Statement :=
  if rules.isEmpty then [.assign ["rules"] (.array false [])] else rules.flatMap statementsOf

theorem statements_rulesText (h : (rulesText rules).length < fuel) :
    Toml.statements fuel (rulesText rules) = some (rulesStatements rules) := by
  rw [rulesText] at h ⊢
  rw [rulesStatements]
  cases rules with
  | nil =>
    have hlen : 3 ≤ "rules = []\n".toList.length := by decide
    obtain ⟨k, rfl⟩ := Nat.exists_eq_add_of_le' (Nat.le_trans hlen (Nat.le_of_lt h))
    exact statements_noRules
  | cons r rules =>
    exact statements_rules (Nat.lt_of_le_of_lt (length_le_writeRules _) h)

theorem toList_render (rules : List RuleSpec) (root extension : String) :
    (render rules root extension).toList = headingText.toList ++
      (writeEntry "root" root ++ (writeEntry "extension" extension ++ rulesText rules)) := by
  have hassoc (a b c d : List Char) : a ++ b ++ c ++ d = a ++ (b ++ (c ++ d)) := by simp
  rw [render, String.toList_ofList]
  exact hassoc _ _ _ _

theorem statements_render (rules : List RuleSpec) (root extension : String) :
    Toml.statements ((render rules root extension).toList.length + 1)
        (render rules root extension).toList =
      some (.assign ["root"] (.string root) :: .assign ["extension"] (.string extension) ::
        rulesStatements rules) := by
  have hroot : Toml.IsBare "root".toList := ⟨by decide, by decide⟩
  have hextension : Toml.IsBare "extension".toList := ⟨by decide, by decide⟩
  have hr := writeEntry_pos "root" root
  have he := writeEntry_pos "extension" extension
  obtain ⟨k, hk⟩ : ∃ k, (render rules root extension).toList.length + 1 = k + 2 ∧
      (rulesText rules).length < k := by
    refine ⟨(render rules root extension).toList.length - 1, ?_⟩
    rw [toList_render, List.length_append, List.length_append, List.length_append]
    omega
  rw [hk.1, toList_render, statements_heading, statements_writeEntry hroot,
    statements_writeEntry hextension, statements_rulesText hk.2]
  rfl

theorem ofStatements_render (rules : List RuleSpec) (root extension : String) :
    Table.ofStatements (.assign ["root"] (.string root) ::
        .assign ["extension"] (.string extension) :: rulesStatements rules) =
      some [("root", .string root), ("extension", .string extension),
        ("rules", rulesValue rules)] := by
  have hsettings : Table.ofStatements (.assign ["root"] (.string root) ::
      .assign ["extension"] (.string extension) :: rulesStatements rules) =
        ((rulesStatements rules).foldlM Building.step ⟨tableOf root extension [], []⟩).map
          (·.root) := by
    rfl
  rw [hsettings, rulesStatements]
  cases rules with
  | nil => rfl
  | cons r rules => exact foldlM_rules (r :: rules)

theorem read_render (rules : List RuleSpec) (root extension : String) :
    Toml.read (render rules root extension).toList =
      some [("root", .string root), ("extension", .string extension),
        ("rules", rulesValue rules)] := by
  have hmark : (render rules root extension).toList.head? ≠ some '\uFEFF' := by
    have hhead : headingText.toList.head? = some '#' := by decide +kernel
    rw [toList_render, List.head?_append, hhead, Option.some_or]
    decide
  rw [Toml.read_eq hmark, statements_render, Option.bind_some, ofStatements_render]

theorem ruleOf?_ruleTable (r : RuleSpec) : ruleOf? (ruleTable r) = some r := by
  simp [ruleOf?, ruleTable, stringOf?, List.lookup_cons]

theorem ofToml?_written (rules : List RuleSpec) (root extension : String) :
    ofToml? [("root", .string root), ("extension", .string extension),
      ("rules", rulesValue rules)] = some ⟨some (Path.ofString root), some extension, rules⟩ := by
  have hrules : rulesOf? (rulesValue rules) = some rules := by
    change (rules.map ruleTable).mapM ruleOf? = some rules
    induction rules with
    | nil => rfl
    | cons r rules ih =>
      rw [List.map_cons, List.mapM_cons, ruleOf?_ruleTable, ih]
      rfl
  simp [ofToml?, optional, List.lookup_cons, stringOf?, hrules]

theorem firstEmptyPattern?_eq_none {n : Nat} :
    firstEmptyPattern? n rules = none ↔ ∀ r ∈ rules, r.pattern ≠ "" := by
  induction rules generalizing n with
  | nil => simp [firstEmptyPattern?]
  | cons r rules ih =>
    rw [firstEmptyPattern?, List.forall_mem_cons]
    by_cases hr : r.pattern = ""
    · simp [hr]
    · simp [hr, ih]

theorem flaw?_eq_none {root : Option Path} :
    flaw? ⟨root, some extension, rules⟩ = none ↔
      extension ≠ "" ∧ ∀ r ∈ rules, r.pattern ≠ "" := by
  rw [flaw?]
  by_cases he : extension = ""
  · simp [he]
  · simp [he, firstEmptyPattern?_eq_none]

theorem parseFor_written (p : Path) (rules : List RuleSpec) (root extension : String) :
    parseFor p (render rules root extension) =
      match flaw? ⟨some (Path.ofString root), some extension, rules⟩ with
      | none => .ok ⟨some (Path.ofString root), some extension, rules⟩
      | some flaw => .error (.invalidRuleFile p flaw) := by
  rw [parseFor, parse, read_render, Option.bind_some, ofToml?_written]
  cases hf : flaw? ⟨some (Path.ofString root), some extension, rules⟩ with
  | none => simp only [hf]
  | some flaw => simp only [hf]

/-- What is rendered is read back as it was, whatever the texts hold, unless the extension or a
pattern is empty; then, and only then, the file is refused, as flawed. -/
theorem parseFor_render (p : Path) (rules : List RuleSpec) (root extension : String) :
    (parseFor p (render rules root extension) =
        .ok ⟨some (Path.ofString root), some extension, rules⟩ ↔
      extension ≠ "" ∧ ∀ r ∈ rules, r.pattern ≠ "") ∧
    ((∃ flaw, parseFor p (render rules root extension) = .error (.invalidRuleFile p flaw)) ↔
      extension = "" ∨ ∃ r ∈ rules, r.pattern = "") := by
  have hsound : flaw? ⟨some (Path.ofString root), some extension, rules⟩ = none ↔
      extension ≠ "" ∧ ∀ r ∈ rules, r.pattern ≠ "" := flaw?_eq_none
  have hflawed : (extension = "" ∨ ∃ r ∈ rules, r.pattern = "") ↔
      ¬ (extension ≠ "" ∧ ∀ r ∈ rules, r.pattern ≠ "") := by
    simp [Classical.or_iff_not_imp_left]
  rw [parseFor_written, hflawed, ← hsound]
  cases flaw? ⟨some (Path.ofString root), some extension, rules⟩ with
  | none => simp
  | some flaw => simp

end Repath.RuleFile
