import Mathlib.Data.List.Forall2
import Repath.Proofs.Config.RoundTrip
import Repath.Proofs.Toml.Distinct

namespace Repath.RuleFile

open Toml (Value Table Statement Document Lines Mark StatementText ValueText)

variable {f : RuleFile} {t : Table} {v : Value} {r : RuleSpec} {s : String} {rules : List RuleSpec}
  {entries : List (String × Value)} {items : List Value}

/-- What a value says if it says a rule. A table has both parts and nothing else; an array begins
with them. -/
inductive SaysRule : Value → RuleSpec → Prop
  | table {kind : Toml.TableKind} {entries : List (String × Value)} {pattern replacement : String}
      (h : entries.Perm [("pattern", .string pattern), ("replacement", .string replacement)]) :
      SaysRule (.table kind entries) ⟨pattern, replacement⟩
  | array {isOpen : Bool} {more : List Value} {pattern replacement : String} :
      SaysRule (.array isOpen (.string pattern :: .string replacement :: more))
        ⟨pattern, replacement⟩

/-- The table of a rule file, with what it says. -/
structure Conforms (t : Table) (f : RuleFile) : Prop where
  keys : ∀ entry ∈ t, entry.1 = "root" ∨ entry.1 = "extension" ∨ entry.1 = "rules"
  root : ∃ root : Option String, t.lookup "root" = root.map .string ∧
    f.root = root.map Path.ofString
  extension : t.lookup "extension" = f.extension.map .string
  rules : t.lookup "rules" = none ∧ f.rules = [] ∨
    ∃ isOpen items, t.lookup "rules" = some (.array isOpen items) ∧
      List.Forall₂ SaysRule items f.rules

theorem stringOf?_eq_some : stringOf? v = some s ↔ v = .string s := by
  cases v <;> simp [stringOf?]

theorem perm_parts_iff (hkeys : (entries.map (·.1)).Nodup) :
    entries.Perm [("pattern", .string r.pattern), ("replacement", .string r.replacement)] ↔
      (∀ entry ∈ entries, entry.1 = "pattern" ∨ entry.1 = "replacement") ∧
      entries.lookup "pattern" = some (.string r.pattern) ∧
      entries.lookup "replacement" = some (.string r.replacement) := by
  rw [lookup_eq_some_iff hkeys, lookup_eq_some_iff hkeys]
  constructor
  · intro h
    refine ⟨fun entry hentry => ?_, h.mem_iff.2 (by simp), h.mem_iff.2 (by simp)⟩
    have hmem := h.mem_iff.1 hentry
    rw [List.mem_pair] at hmem
    exact hmem.imp (congrArg Prod.fst) (congrArg Prod.fst)
  · rintro ⟨hall, hpattern, hreplacement⟩
    have hnodup : entries.Nodup :=
      List.Pairwise.of_map (·.1) (fun _ _ hne => ne_of_apply_ne (·.1) hne) hkeys
    refine (List.perm_ext_iff_of_nodup hnodup (by simp)).2 fun entry => ?_
    rw [List.mem_pair]
    constructor
    · intro hentry
      -- A key that is there has one value only.
      have hvalue {v : Value} (hmem : (entry.1, v) ∈ entries) : entry = (entry.1, v) :=
        congrArg (Prod.mk entry.1) (Option.some.inj
          (((lookup_eq_some_iff hkeys).2 hentry).symm.trans
            ((lookup_eq_some_iff hkeys).2 hmem)))
      obtain hkey | hkey := hall entry hentry
      · exact .inl (hkey ▸ hvalue (hkey ▸ hpattern))
      · exact .inr (hkey ▸ hvalue (hkey ▸ hreplacement))
    · rintro (rfl | rfl)
      · exact hpattern
      · exact hreplacement

theorem ruleOf?_table {kind : Toml.TableKind} :
    ruleOf? (.table kind entries) = some r ↔
      (∀ entry ∈ entries, entry.1 = "pattern" ∨ entry.1 = "replacement") ∧
      entries.lookup "pattern" = some (.string r.pattern) ∧
      entries.lookup "replacement" = some (.string r.replacement) := by
  obtain ⟨pattern, replacement⟩ := r
  simp [ruleOf?, Option.bind_eq_some_iff, stringOf?_eq_some, Classical.or_iff_not_imp_left]

theorem ruleOf?_array {isOpen : Bool} {items : List Value} :
    ruleOf? (.array isOpen items) = some r ↔
      ∃ more, items = .string r.pattern :: .string r.replacement :: more := by
  obtain ⟨pattern, replacement⟩ := r
  cases items with
  | nil => simp [ruleOf?]
  | cons a items =>
    cases items with
    | nil => simp [ruleOf?]
    | cons b items => simp [ruleOf?, Option.bind_eq_some_iff, stringOf?_eq_some]

theorem ruleOf?_eq_some (hv : v.Distinct) : ruleOf? v = some r ↔ SaysRule v r := by
  constructor
  · intro h
    cases hv with
    | string | scalar => cases h
    | array =>
      obtain ⟨more, rfl⟩ := ruleOf?_array.1 h
      exact .array
    | table hkeys => exact .table ((perm_parts_iff hkeys).2 (ruleOf?_table.1 h))
  · intro h
    cases h with
    | array => exact ruleOf?_array.2 ⟨_, rfl⟩
    | table h =>
      cases hv with
      | table hkeys => exact ruleOf?_table.2 ((perm_parts_iff hkeys).1 h)

theorem mapM_ruleOf?_eq_some (h : ∀ v ∈ items, v.Distinct) :
    items.mapM ruleOf? = some rules ↔ List.Forall₂ SaysRule items rules := by
  induction items generalizing rules with
  | nil => cases rules <;> simp
  | cons v items ih =>
    obtain ⟨hv, hitems⟩ := List.forall_mem_cons.1 h
    cases rules with
    | nil => simp [Option.bind_eq_some_iff]
    | cons r rules =>
      simp [Option.bind_eq_some_iff, ruleOf?_eq_some hv, ih hitems]

theorem optional_eq_some {α : Type} {read : Value → Option α} {key : String} {x : Option α} :
    optional t key read = some x ↔
      t.lookup key = none ∧ x = none ∨
        ∃ v y, t.lookup key = some v ∧ read v = some y ∧ x = some y := by
  rw [optional]
  cases t.lookup key with
  | none => simp [eq_comm]
  | some v => simp [eq_comm]

theorem optional_string {key : String} {x : Option String} :
    optional t key stringOf? = some x ↔ t.lookup key = x.map .string := by
  rw [optional_eq_some]
  cases x <;> simp [stringOf?_eq_some]

theorem rulesOf?_eq_some (hv : v.Distinct) :
    rulesOf? v = some rules ↔
      ∃ isOpen items, v = .array isOpen items ∧ List.Forall₂ SaysRule items rules := by
  cases hv with
  | array h => simp [rulesOf?, mapM_ruleOf?_eq_some h]
  | string | scalar | table => simp [rulesOf?]

theorem optional_rules (ht : t.Distinct) :
    (∃ x, optional t "rules" rulesOf? = some x ∧ x.getD [] = rules) ↔
      t.lookup "rules" = none ∧ rules = [] ∨
      ∃ isOpen items, t.lookup "rules" = some (.array isOpen items) ∧
        List.Forall₂ SaysRule items rules := by
  rw [optional]
  cases hlookup : t.lookup "rules" with
  | none => simp [eq_comm]
  | some v => simp [rulesOf?_eq_some (ht.of_lookup hlookup)]

/-- The table of a document is taken for a rule file just when it conforms, and for what it says. -/
theorem ofToml?_eq_some (ht : t.Distinct) : ofToml? t = some f ↔ Conforms t f := by
  have hkeys : (!t.all fun entry =>
      entry.1 = "root" || entry.1 = "extension" || entry.1 = "rules") = false ↔
      ∀ entry ∈ t, entry.1 = "root" ∨ entry.1 = "extension" ∨ entry.1 = "rules" := by
    simp [or_assoc]
  constructor
  · intro h
    obtain ⟨hall, h⟩ := Option.ite_none_left_eq_some.1 h
    obtain ⟨root, hroot, h⟩ := Option.bind_eq_some_iff.1 h
    obtain ⟨extension, hextension, h⟩ := Option.bind_eq_some_iff.1 h
    obtain ⟨x, hx, h⟩ := Option.bind_eq_some_iff.1 h
    cases h
    exact ⟨hkeys.1 (Bool.of_not_eq_true hall), ⟨root, optional_string.1 hroot, rfl⟩,
      optional_string.1 hextension, (optional_rules ht).1 ⟨x, hx, rfl⟩⟩
  · intro h
    obtain ⟨root, hroot, heq⟩ := h.root
    obtain ⟨x, hx, hrules⟩ := (optional_rules ht).2 h.rules
    refine (if_neg (Bool.eq_false_iff.1 (hkeys.2 h.keys))).trans ?_
    rw [optional_string.2 hroot, optional_string.2 h.extension, hx]
    obtain ⟨_, extension, _⟩ := f
    cases heq
    cases hrules
    rfl

theorem firstEmptyPattern?_append {n : Nat} {before after : List RuleSpec}
    (h : ∀ r ∈ before, r.pattern ≠ "") (hr : r.pattern = "") :
    firstEmptyPattern? n (before ++ r :: after) = some (n + before.length) := by
  induction before generalizing n with
  | nil => simp [firstEmptyPattern?, hr]
  | cons b before ih =>
    obtain ⟨hb, hbefore⟩ := List.forall_mem_cons.1 h
    rw [List.cons_append, firstEmptyPattern?, if_neg (by simpa using hb), ih hbefore,
      List.length_cons, Nat.add_assoc, Nat.add_comm 1]

theorem flaw?_of_rules (h : f.extension ≠ some "") :
    f.flaw? = (firstEmptyPattern? 1 f.rules).map .emptyPattern := if_neg h

def brackets (n : Nat) : List Char := List.replicate n '[' ++ List.replicate n ']'

def nested : (n : Nat) → Value
  | 0 => .array false []
  | n + 1 => .array false [nested n]

theorem brackets_succ (n : Nat) : brackets (n + 1) = '[' :: (brackets n ++ [']']) := by
  rw [brackets, brackets, List.replicate_succ, List.replicate_succ', List.cons_append,
    List.append_assoc]

theorem valueText_brackets (n : Nat) : ValueText (n + 1) (brackets (n + 1)) (nested n) := by
  induction n with
  | zero => exact .inr (.array (.nil .nil))
  | succ n ih =>
    rw [brackets_succ]
    refine .inr (.array ?_)
    have hlast := Toml.Listing.last .nil ih .nil
    rwa [List.nil_append, List.append_nil] at hlast

def deepText (n : Nat) : String :=
  String.ofList ("rules = [['a', 'b', ".toList ++ (brackets n ++ [']', ']']))

theorem toList_deepText (n : Nat) :
    (deepText n).toList = "rules = [['a', 'b', ".toList ++ (brackets n ++ [']', ']']) :=
  String.toList_ofList

theorem flat_letter {c : Char} (h : c = 'a' ∨ c = 'b') :
    Toml.Flat ['\'', c, '\''] (.string (String.ofList [c])) := by
  refine .string (Toml.stringText_of_string ?_)
  obtain rfl | rfl := h <;> rfl

theorem document_deepText (n : Nat) :
    Document (n + 3) (deepText (n + 1)).toList
      [("rules", .array false [.array false [.string "a", .string "b", nested n]])] := by
  have hblank : Toml.Gap true [' '] := .blank rfl .nil
  have hdeep : Toml.Listing (ValueText (n + 1)) (' ' :: brackets (n + 1)) [nested n] := by
    have hlast := Toml.Listing.last hblank (valueText_brackets n) .nil
    rwa [List.append_nil] at hlast
  have ha : ValueText (n + 1) ['\'', 'a', '\''] (.string "a") := .inl (flat_letter (.inl rfl))
  have hb : ValueText (n + 1) ['\'', 'b', '\''] (.string "b") := .inl (flat_letter (.inr rfl))
  have hrule : ValueText (n + 2) _ _ :=
    .inr (.array (.cons .nil ha .nil (.cons hblank hb .nil hdeep)))
  have hrules : ValueText (n + 3) _ _ := .inr (.array (.last .nil hrule .nil))
  have hkey : Toml.KeyText "rules".toList ["rules"] := .last (.bare ⟨by decide, by decide⟩)
  have hone : Toml.Blanks [' '] := List.forall_mem_singleton.2 rfl
  have hline := Toml.Lines.last (.full Toml.blanks_nil
    (StatementText.assign (.intro hkey hone hone hrules)) (.blanks Toml.blanks_nil))
  have hdoc := Document.intro .absent hline rfl
  have hfront : "rules = [['a', 'b', ".toList = "rules".toList ++
      [' ', '=', ' ', '[', '[', '\'', 'a', '\'', ',', ' ', '\'', 'b', '\'', ',', ' '] := by
    decide +kernel
  rw [toList_deepText, hfront]
  simpa using hdoc

theorem read_deepText : Toml.read (deepText 200).toList = none := by
  have hread : (Toml.read ("rules = [['a', 'b', ".toList ++ (brackets 200 ++ [']', ']']))).isNone =
      true := by decide +kernel
  rw [toList_deepText]
  exact Option.isNone_iff_eq_none.1 hread

theorem parseFor_of_none (p : Path) {content : String}
    (h : (Toml.read content.toList).bind ofToml? = none) :
    parseFor p content = .error (.ruleFileParse p) := by
  rw [parseFor, parse, h]

theorem parseFor_of_flaw (p : Path) {content : String} {flaw : Flaw}
    (h : (Toml.read content.toList).bind ofToml? = some f) (hf : f.flaw? = some flaw) :
    parseFor p content = .error (.invalidRuleFile p flaw) := by
  rw [parseFor, parse, h]
  dsimp only
  rw [hf]

theorem parseFor_of_some (p : Path) {content : String}
    (h : (Toml.read content.toList).bind ofToml? = some f) (hf : f.flaw? = none) :
    parseFor p content = .ok f := by
  rw [parseFor, parse, h]
  dsimp only
  rw [hf]

theorem read_bind_eq_some {content : String} :
    (Toml.read content.toList).bind ofToml? = some f ↔
      ∃ t, Document Toml.maxDepth content.toList t ∧ Conforms t f := by
  rw [Option.bind_eq_some_iff]
  refine exists_congr fun t => ?_
  rw [Toml.read_eq_some_iff]
  exact and_congr_right fun ht => ofToml?_eq_some ht.distinct

theorem parseFor_eq_malformed (p : Path) {content : String} :
    parseFor p content = .error (.ruleFileParse p) ↔
      ∀ t, Document Toml.maxDepth content.toList t → ∀ f, ¬Conforms t f := by
  constructor
  · intro h t ht f hf
    have hread := read_bind_eq_some.2 ⟨t, ht, hf⟩
    cases hflaw : f.flaw? with
    | none =>
      rw [parseFor_of_some p hread hflaw] at h
      cases h
    | some flaw =>
      rw [parseFor_of_flaw p hread hflaw] at h
      cases h
  · intro h
    refine parseFor_of_none p (Option.eq_none_iff_forall_ne_some.2 fun f hf => ?_)
    obtain ⟨t, ht, hconforms⟩ := read_bind_eq_some.1 hf
    exact h t ht f hconforms

/-- A text is taken for a rule file just when it is a well-formed document in the form of one; it is
refused as flawed only then, for an empty extension before an empty pattern and for the first empty
pattern before any other, and without a flaw it is taken for exactly what it says. Arrays and tables
in braces are read up to a depth of eighty. -/
theorem parseFor_exact (p : Path) (content : String) :
    (parseFor p content = .error (.ruleFileParse p) ↔
      ∀ t, Document Toml.maxDepth content.toList t → ∀ f, ¬Conforms t f) ∧
    (∀ m w front rest (es : List (List String × Value)), content.toList = m ++ w → Mark m →
      Lines (StatementText (ValueText Toml.maxDepth)) w
        (front ++ ((es.map fun e => .assign e.1 e.2) ++ rest)) →
      ¬(es.map (·.1)).Nodup → parseFor p content = .error (.ruleFileParse p)) ∧
    ∀ t f, Document Toml.maxDepth content.toList t → Conforms t f →
      (f.extension = some "" →
        parseFor p content = .error (.invalidRuleFile p .emptyExtension)) ∧
      (f.extension ≠ some "" → ∀ before r after, f.rules = before ++ r :: after →
        (∀ r ∈ before, r.pattern ≠ "") → r.pattern = "" →
          parseFor p content = .error (.invalidRuleFile p (.emptyPattern (before.length + 1)))) ∧
      (f.extension ≠ some "" → (∀ r ∈ f.rules, r.pattern ≠ "") → parseFor p content = .ok f) := by
  refine ⟨parseFor_eq_malformed p, fun m w front rest es heq hm hw hes => ?_, fun t f ht hf => ?_⟩
  · refine (parseFor_eq_malformed p).2 fun t ht => absurd (heq ▸ ht) ?_
    exact Toml.not_document_of_repeated hm hw hes t
  have hread := read_bind_eq_some.2 ⟨t, ht, hf⟩
  refine ⟨fun he => ?_, fun he before r after hrules hbefore hr => ?_, fun he hrules => ?_⟩
  · exact parseFor_of_flaw p hread (if_pos he)
  · refine parseFor_of_flaw p hread ?_
    rw [flaw?_of_rules he, hrules, firstEmptyPattern?_append hbefore hr, Nat.add_comm]
    rfl
  · refine parseFor_of_some p hread ?_
    rw [flaw?_of_rules he, firstEmptyPattern?_eq_none.2 hrules, Option.map_none]

theorem parseFor_exact_sample :
    parseFor (.ofString "r.toml") "extension = 'md'\nrules = [['', 'b'], ['a', 'b', 1]]" =
      .error (.invalidRuleFile (.ofString "r.toml") (.emptyPattern 1)) ∧
    parseFor (.ofString "r.toml") "rules = [\x7breplacement = 'b', pattern = 'a'\x7d]" =
      .ok ⟨none, none, [⟨"a", "b"⟩]⟩ := by
  constructor
  · obtain ⟨t, ht, hf⟩ := read_bind_eq_some.1 (show
      (Toml.read "extension = 'md'\nrules = [['', 'b'], ['a', 'b', 1]]".toList).bind ofToml? =
        some ⟨none, some "md", [⟨"", "b"⟩, ⟨"a", "b"⟩]⟩ by decide +kernel)
    exact ((parseFor_exact _ _).2.2 t _ ht hf).2.1 (by decide) [] ⟨"", "b"⟩ [⟨"a", "b"⟩] rfl
      (by decide) rfl
  · obtain ⟨t, ht, hf⟩ := read_bind_eq_some.1 (show
      (Toml.read "rules = [\x7breplacement = 'b', pattern = 'a'\x7d]".toList).bind ofToml? =
        some ⟨none, none, [⟨"a", "b"⟩]⟩ by decide +kernel)
    exact ((parseFor_exact _ _).2.2 t _ ht hf).2.2 (by decide) (by decide)

/-- A text with arrays nested deeper than eighty is refused, even where they stand in an element that
says nothing and the text is well-formed and in the form of a rule file. -/
theorem parseFor_deepText :
    (∃ depth t, Document depth (deepText 200).toList t ∧
      Conforms t ⟨none, none, [⟨"a", "b"⟩]⟩) ∧
    parseFor (.ofString ".relink.toml") (deepText 200) =
      .error (.ruleFileParse (.ofString ".relink.toml")) := by
  constructor
  · refine ⟨202, _, document_deepText 199, ?_⟩
    exact ⟨by simp, ⟨none, rfl, rfl⟩, rfl, .inr ⟨_, _, rfl, .cons .array .nil⟩⟩
  · refine parseFor_of_none _ ?_
    rw [read_deepText, Option.bind_none]

end Repath.RuleFile
