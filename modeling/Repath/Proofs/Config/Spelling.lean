import Mathlib.Data.List.Permutation
import Repath.Proofs.Config.Schema

namespace Repath.RuleFile

open Toml (Blanks Building KeyText Keyval Line Lines Listing Mark Statement StatementText StringText
  Table Value ValueText)

variable {f : RuleFile} {root extension : Option String} {rules : List RuleSpec} {r : RuleSpec}
  {w : List Char} {t : Table}

/-- A rule as an element of an array: its two parts with their keys in either order, or alone. -/
inductive RuleText : List Char → RuleSpec → Prop
  | table {w : List Char} {es : List (List String × List Char)} {r : RuleSpec}
      (hw : Listing (Keyval StringText) w es)
      (hes : es.Perm [(["pattern"], r.pattern.toList), (["replacement"], r.replacement.toList)]) :
      RuleText ('\x7b' :: (w ++ ['\x7d'])) r
  | pair {w : List Char} {r : RuleSpec}
      (hw : Listing StringText w [r.pattern.toList, r.replacement.toList]) :
      RuleText ('[' :: (w ++ [']'])) r

inductive RulesText : List Char → List RuleSpec → Prop
  | intro {w : List Char} {rules : List RuleSpec} (hw : Listing RuleText w rules) :
      RulesText ('[' :: (w ++ [']'])) rules

inductive Part
  | setting (key text : String)
  | array (rules : List RuleSpec)
  | header

inductive PartText : List Char → Part → Prop
  | setting {w : List Char} {key text : String} (h : Keyval StringText w ([key], text.toList)) :
      PartText w (.setting key text)
  | array {w : List Char} {rules : List RuleSpec} (h : Keyval RulesText w (["rules"], rules)) :
      PartText w (.array rules)
  | header {b k b' : List Char} (hb : Blanks b) (hk : KeyText k ["rules"]) (hb' : Blanks b') :
      PartText ('[' :: '[' :: (b ++ (k ++ (b' ++ [']', ']'])))) .header

/-- Sections that give one rule each, its parts in either order. -/
inductive Sections : List RuleSpec → List Part → Prop
  | nil : Sections [] []
  | cons {r : RuleSpec} {rules : List RuleSpec} {own parts : List Part}
      (hown : own.Perm [.setting "pattern" r.pattern, .setting "replacement" r.replacement])
      (h : Sections rules parts) : Sections (r :: rules) (.header :: (own ++ parts))

def settings (root extension : Option String) : List Part :=
  (root.map (.setting "root")).toList ++ (extension.map (.setting "extension")).toList

/-- The parts of a rule file in an order that they may have. The rules stand in an array among the
settings, or in sections behind them. -/
inductive Arranged (root extension : Option String) (rules : List RuleSpec) : List Part → Prop
  | array {parts : List Part} (h : parts.Perm (.array rules :: settings root extension)) :
      Arranged root extension rules parts
  | sections {top parts : List Part} (htop : top.Perm (settings root extension))
      (h : Sections rules parts) : Arranged root extension rules (top ++ parts)

/-- A text that spells a rule file. -/
inductive Spelling (root extension : Option String) (rules : List RuleSpec) : List Char → Prop
  | intro {m w : List Char} {parts : List Part} (hm : Mark m) (hw : Lines PartText w parts)
      (h : Arranged root extension rules parts) : Spelling root extension rules (m ++ w)

inductive Gives : Part → String × Value → Prop
  | setting {key text : String} : Gives (.setting key text) (key, .string text)
  | array {rules : List RuleSpec} {items : List Value} (h : List.Forall₂ SaysRule items rules) :
      Gives (.array rules) ("rules", .array false items)

inductive Stands : Part → Statement → Prop
  | entry {part : Part} {entry : String × Value} (h : Gives part entry) :
      Stands part (.assign [entry.1] entry.2)
  | header : Stands .header (.element ["rules"])

theorem valueText_of_stringText (depth : Nat) {s : List Char} (h : StringText w s) :
    ValueText depth w (.string (String.ofList s)) :=
  (Toml.Flat.string h).valueText depth

theorem exists_value_of_rule {n : Nat} (h : RuleText w r) :
    ∃ v, ValueText (n + 1) w v ∧ SaysRule v r := by
  cases h with
  | @table w es r hw hes =>
    have hlisting : Listing (Keyval (ValueText n)) w
        (es.map fun e => (e.1, .string (String.ofList e.2))) :=
      hw.map fun hkeyval => hkeyval.map (valueText_of_stringText n)
    obtain ⟨pattern, replacement⟩ := r
    obtain rfl | rfl := List.perm_pair.1 hes
    · simp only [List.map_cons, List.map_nil, String.ofList_toList] at hlisting
      exact ⟨_, .inr (.table hlisting rfl), .table (.refl _)⟩
    · simp only [List.map_cons, List.map_nil, String.ofList_toList] at hlisting
      exact ⟨_, .inr (.table hlisting rfl), .table (.swap _ _ _)⟩
  | @pair w r hw =>
    have hlisting := hw.map (valueText_of_stringText n)
    simp only [List.map_cons, List.map_nil, String.ofList_toList] at hlisting
    exact ⟨_, .inr (.array hlisting), .array⟩

theorem exists_value_of_rules {n : Nat} (h : RulesText w rules) :
    ∃ items, ValueText (n + 2) w (.array false items) ∧ List.Forall₂ SaysRule items rules := by
  cases h with
  | intro hw =>
    obtain ⟨items, hitems, hsays⟩ := hw.exists_forall₂ (exists_value_of_rule (n := n))
    exact ⟨items, .inr (.array hitems), hsays.flip⟩

theorem exists_statement {part : Part} (h : PartText w part) :
    ∃ st, StatementText (ValueText Toml.maxDepth) w st ∧ Stands part st := by
  cases h with
  | @setting w key text h =>
    have hkeyval := h.map (valueText_of_stringText Toml.maxDepth)
    rw [String.ofList_toList] at hkeyval
    exact ⟨_, .assign hkeyval, .entry .setting⟩
  | array h =>
    cases h with
    | intro hk hb hb' hw =>
      obtain ⟨items, hitems, hsays⟩ := exists_value_of_rules (n := 78) hw
      exact ⟨_, .assign (.intro hk hb hb' hitems), .entry (.array hsays)⟩
  | header hb hk hb' => exact ⟨_, .element hb hk hb', .header⟩

def tableOfSettings (root extension : Option String) : Table :=
  (root.map fun s => ("root", Value.string s)).toList ++
    (extension.map fun s => ("extension", Value.string s)).toList

variable {parts : List Part} {ss : List Statement} {new : Table}

theorem exists_entries (h : List.Forall₂ Stands parts ss) (hparts : .header ∉ parts) :
    ∃ new : Table, List.Forall₂ Gives parts new ∧
      ss = new.map fun entry => .assign [entry.1] entry.2 := by
  induction h with
  | nil => exact ⟨[], .nil, rfl⟩
  | cons hst _ ih =>
    obtain ⟨hne, hrest⟩ := List.ne_and_not_mem_of_not_mem_cons hparts
    obtain ⟨new, hnew, rfl⟩ := ih hrest
    cases hst with
    | @entry _ entry hgives => exact ⟨entry :: new, .cons hgives hnew, rfl⟩
    | header => exact absurd rfl hne

theorem eq_tableOfSettings (h : List.Forall₂ Gives (settings root extension) new) :
    new = tableOfSettings root extension := by
  have hpart : ∀ {key text : String} {new}, List.Forall₂ Gives [.setting key text] new →
      new = [(key, .string text)] := by
    rintro key text _ (_ | ⟨⟨⟩, _ | _⟩)
    rfl
  cases root with
  | none =>
    cases extension with
    | none => cases h; rfl
    | some extension => exact hpart h
  | some root =>
    obtain ⟨entry, rest, hentry, hrest, rfl⟩ := List.forall₂_cons_left_iff.1 h
    cases hentry
    cases extension with
    | none => cases hrest; rfl
    | some extension => rw [hpart hrest]; rfl

theorem Conforms.of_perm {t' : Table} (h : Conforms t' f) (hperm : t.Perm t')
    (hkeys : (t'.map (·.1)).Nodup) : Conforms t f := by
  have hlookup := lookup_perm hperm hkeys
  refine ⟨fun entry hentry => h.keys entry (hperm.mem_iff.1 hentry), ?_, ?_, ?_⟩
  · rw [hlookup]
    exact h.root
  · rw [hlookup]
    exact h.extension
  · rw [hlookup]
    exact h.rules

theorem nodup_tableOfSettings (root extension : Option String) :
    ((tableOfSettings root extension).map (·.1)).Nodup := by
  cases root <;> cases extension <;> simp [tableOfSettings]

theorem lookup_tableOfSettings (root extension : Option String) :
    (tableOfSettings root extension).lookup "rules" = none := by
  cases root <;> cases extension <;> rfl

theorem conforms_tableOfSettings (root extension : Option String) :
    Conforms (tableOfSettings root extension) ⟨root.map Path.ofString, extension, []⟩ := by
  refine ⟨?_, ⟨root, ?_, rfl⟩, ?_, .inl ⟨lookup_tableOfSettings root extension, rfl⟩⟩
  · cases root <;> cases extension <;> simp [tableOfSettings]
  · cases root <;> cases extension <;> rfl
  · cases root <;> cases extension <;> rfl

theorem Conforms.concat {path : Option Path} (h : Conforms t ⟨path, extension, []⟩)
    (ht : t.lookup "rules" = none) {isOpen : Bool} {items : List Value}
    (hitems : List.Forall₂ SaysRule items rules) :
    Conforms (t ++ [("rules", .array isOpen items)]) ⟨path, extension, rules⟩ := by
  have hother {key : String} (hkey : key ≠ "rules") :
      List.lookup key (t ++ [("rules", .array isOpen items)]) = t.lookup key := by
    rw [List.lookup_append, List.lookup_cons, beq_eq_false_iff_ne.2 hkey]
    exact Option.or_none
  refine ⟨?_, ?_, ?_, .inr ⟨isOpen, items, Table.lookup_concat_self ht _, hitems⟩⟩
  · rw [List.forall_mem_append]
    exact ⟨h.keys, List.forall_mem_singleton.2 (.inr (.inr rfl))⟩
  · rw [hother (by decide)]
    exact h.root
  · rw [hother (by decide)]
    exact h.extension

theorem Stands.of_header {st : Statement} (h : Stands .header st) : st = .element ["rules"] := by
  cases h with
  | entry h => cases h
  | header => rfl

theorem Stands.of_setting {key text : String} {st : Statement} (h : Stands (.setting key text) st) :
    st = .assign [key] (.string text) := by
  cases h with
  | entry h =>
    cases h
    rfl

theorem statements_of_section {own : List Part}
    (hown : own.Perm [.setting "pattern" r.pattern, .setting "replacement" r.replacement])
    (hss : List.Forall₂ Stands (.header :: (own ++ parts)) ss) :
    ∃ new rest,
      ss = (.element ["rules"] :: new.map fun entry => .assign [entry.1] entry.2) ++ rest ∧
      SaysRule (.table .header new) r ∧ (new.map (·.1)).Nodup ∧ List.Forall₂ Stands parts rest := by
  have hsection {key key' text text' : String} {ss : List Statement} (hss : List.Forall₂ Stands
      (.header :: .setting key text :: .setting key' text' :: parts) ss) :
      ∃ rest, ss = .element ["rules"] :: .assign [key] (.string text) ::
        .assign [key'] (.string text') :: rest ∧ List.Forall₂ Stands parts rest := by
    obtain ⟨_, _, hheader, hassigns, rfl⟩ := List.forall₂_cons_left_iff.1 hss
    obtain ⟨_, _, hfirst, hassign, rfl⟩ := List.forall₂_cons_left_iff.1 hassigns
    obtain ⟨_, rest, hsecond, hrest, rfl⟩ := List.forall₂_cons_left_iff.1 hassign
    exact ⟨rest, by rw [hheader.of_header, hfirst.of_setting, hsecond.of_setting], hrest⟩
  obtain rfl | rfl := List.perm_pair.1 hown
  · obtain ⟨rest, rfl, hrest⟩ := hsection hss
    exact ⟨[("pattern", .string r.pattern), ("replacement", .string r.replacement)], rest, rfl,
      .table (.refl _), by simp, hrest⟩
  · obtain ⟨rest, rfl, hrest⟩ := hsection hss
    exact ⟨[("replacement", .string r.replacement), ("pattern", .string r.pattern)], rest, rfl,
      .table (.swap _ _ _), by simp, hrest⟩

theorem foldlM_sections (h : Sections rules parts) (hss : List.Forall₂ Stands parts ss)
    (ht : t.lookup "rules" = none) (before : List Value) (path : List String) :
    ∃ items, List.Forall₂ SaysRule items rules ∧
      (ss.foldlM Building.step ⟨t.withArray "rules" before, path⟩).map (·.root) =
        some (t.withArray "rules" (before ++ items)) := by
  induction h generalizing ss before path with
  | nil =>
    cases hss
    exact ⟨[], .nil, by rw [List.append_nil]; rfl⟩
  | cons hown _ ih =>
    obtain ⟨new, rest, rfl, hsays, hnew, hrest⟩ := statements_of_section hown hss
    obtain ⟨items, hitems, hfold⟩ := ih hrest (before ++ [.table .header new]) ["rules"]
    refine ⟨.table .header new :: items, .cons hsays hitems, ?_⟩
    rw [List.foldlM_append, Building.foldlM_section ht before path hnew]
    rw [List.append_assoc] at hfold
    exact hfold

theorem header_not_mem_settings (root extension : Option String) :
    .header ∉ settings root extension := by
  cases root <;> cases extension <;> simp [settings]

theorem exists_table_of_array (h : parts.Perm (.array rules :: settings root extension))
    (hss : List.Forall₂ Stands parts ss) : ∃ t, Table.ofStatements ss = some t ∧
      Conforms t ⟨root.map Path.ofString, extension, rules⟩ := by
  have hparts : .header ∉ parts := by
    simpa [h.mem_iff] using header_not_mem_settings root extension
  obtain ⟨new, hgives, rfl⟩ := exists_entries hss hparts
  obtain ⟨_, hgives', hnew⟩ := List.perm_comp_forall₂ h.symm hgives
  obtain ⟨entry, rest, hentry, hrest, rfl⟩ := List.forall₂_cons_left_iff.1 hgives'
  obtain rfl := eq_tableOfSettings hrest
  cases hentry with
  | @array _ items hsays =>
    have hlookup := lookup_tableOfSettings root extension
    have hperm := hnew.symm.trans (List.perm_append_singleton _ _).symm
    have hkeys := nodup_concat (nodup_tableOfSettings root extension) hlookup (.array false items)
    have hconforms := conforms_tableOfSettings root extension
    refine ⟨new, ?_, (hconforms.concat hlookup hsays).of_perm hperm hkeys⟩
    rw [Table.ofStatements, Building.foldlM_top ((hperm.map _).nodup_iff.2 hkeys)]
    rfl

theorem exists_table_of_sections {top : List Part} (htop : top.Perm (settings root extension))
    (h : Sections rules parts) (hss : List.Forall₂ Stands (top ++ parts) ss) :
    ∃ t, Table.ofStatements ss = some t ∧
      Conforms t ⟨root.map Path.ofString, extension, rules⟩ := by
  have htake := List.forall₂_take top.length hss
  have hdrop := List.forall₂_drop top.length hss
  rw [List.take_left] at htake
  rw [List.drop_left] at hdrop
  have hheader : .header ∉ top := by
    rw [htop.mem_iff]
    exact header_not_mem_settings root extension
  obtain ⟨new, hgives, hstatements⟩ := exists_entries htake hheader
  obtain ⟨_, hgives', hnew⟩ := List.perm_comp_forall₂ htop.symm hgives
  obtain rfl := eq_tableOfSettings hgives'
  have hkeys := nodup_tableOfSettings root extension
  have hlookup : new.lookup "rules" = none := by
    rw [lookup_perm hnew.symm hkeys, lookup_tableOfSettings]
  have hconforms := (conforms_tableOfSettings root extension).of_perm hnew.symm hkeys
  obtain ⟨items, hitems, hfold⟩ := foldlM_sections h hdrop hlookup [] []
  refine ⟨new.withArray "rules" items, ?_, ?_⟩
  · rw [Table.ofStatements, ← List.take_append_drop top.length ss, hstatements,
      List.foldlM_append, Building.foldlM_top ((hnew.map _).nodup_iff.1 hkeys)]
    exact hfold
  · cases hitems with
    | nil => exact hconforms
    | cons hsays hitems => exact hconforms.concat hlookup (.cons hsays hitems)

theorem exists_table (h : Arranged root extension rules parts)
    (hss : List.Forall₂ Stands parts ss) : ∃ t, Table.ofStatements ss = some t ∧
      Conforms t ⟨root.map Path.ofString, extension, rules⟩ := by
  cases h with
  | array h => exact exists_table_of_array h hss
  | sections htop h => exact exists_table_of_sections htop h hss

/-- However a rule file is spelled, it is taken for what it says. -/
theorem parseFor_spelling (p : Path) {content : String}
    (h : Spelling root extension rules content.toList) (hextension : extension ≠ some "")
    (hrules : ∀ r ∈ rules, r.pattern ≠ "") :
    parseFor p content = .ok ⟨root.map Path.ofString, extension, rules⟩ := by
  generalize hcontent : content.toList = text at h
  obtain @⟨m, w, parts, hm, hw, harranged⟩ := h
  obtain ⟨ss, hlines, hss⟩ := hw.exists_forall₂ exists_statement
  obtain ⟨t, ht, hconforms⟩ := exists_table harranged hss
  have hdocument := hcontent ▸ Toml.Document.intro hm hlines ht
  refine parseFor_of_some p (read_bind_eq_some.2 ⟨t, hdocument, hconforms⟩) ?_
  rw [flaw?_of_rules hextension, firstEmptyPattern?_eq_none.2 hrules, Option.map_none]

theorem parseFor_spelling_sample :
    parseFor (.ofString "r.toml")
        "'root' = \"\\x61\"\n[[rules]] # one\nreplacement = '''\nb'''\npattern = 'a'" =
      .ok ⟨some (.ofString "a"), none, [⟨"a", "b"⟩]⟩ := by
  have hblank : Blanks [' '] := List.forall_mem_singleton.2 rfl
  have hline (k v : List Char) (key text : String) (hk : Toml.keyPart k = some (key, []))
      (hv : Toml.string v = some (text.toList, [])) : Line PartText
        ([] ++ ((k ++ ([' '] ++ '=' :: ([' '] ++ v))) ++ [])) [.setting key text] :=
    .full Toml.blanks_nil (.setting (.intro (Toml.keyText_of_keyPart hk) hblank hblank
      (Toml.stringText_of_string hv))) (.blanks Toml.blanks_nil)
  have hroot := hline "'root'".toList "\"\\x61\"".toList "root" "a" (by decide +kernel)
    (by decide +kernel)
  have hheader : Line PartText
      ([] ++ ('[' :: '[' :: ([] ++ ("rules".toList ++ ([] ++ [']', ']']))) ++
        ([' '] ++ ['#', ' ', 'o', 'n', 'e']))) [.header] :=
    .full Toml.blanks_nil (.header Toml.blanks_nil
      (Toml.keyText_of_keyPart (by decide +kernel)) Toml.blanks_nil)
      (.comment hblank (.intro (w := [' ', 'o', 'n', 'e']) (List.all_eq_true.1 rfl)))
  have hreplacement := hline "replacement".toList "'''\nb'''".toList "replacement" "b"
    (by decide +kernel) (by decide +kernel)
  have hpattern := hline "pattern".toList "'a'".toList "pattern" "a" (by decide +kernel)
    (by decide +kernel)
  have hlines := Lines.cons hroot .feed (.cons hheader .feed (.cons hreplacement .feed
    (.last hpattern)))
  have hsections : Sections [⟨"a", "b"⟩]
      (.header :: ([.setting "replacement" "b", .setting "pattern" "a"] ++ [])) :=
    .cons (.swap _ _ _) .nil
  have harranged : Arranged (some "a") none [⟨"a", "b"⟩] ([.setting "root" "a"] ++ _) :=
    .sections (.refl _) hsections
  have hspelling : Spelling _ _ _ _ := .intro .absent hlines harranged
  refine parseFor_spelling _ (Eq.mp (congrArg (Spelling _ _ _) ?_) hspelling) (by decide)
    (by decide)
  decide +kernel

end Repath.RuleFile
