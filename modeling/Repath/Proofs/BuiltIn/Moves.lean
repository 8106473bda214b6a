import Repath.Proofs.BuiltIn.Sites
import Repath.Proofs.Pattern.Sequence
import Repath.Rules.Table

namespace Repath.BuiltIn

open Unicode (CharSet)
open Pattern (word)

variable {fits : String → Bool}

structure Move where
  path : String
  names : List String
  missing : String
  deriving DecidableEq

namespace Move

def ofModules (group : String) (modules : List String) : Move :=
  ⟨"../", modules, "../../" ++ group ++ "/"⟩

def ofGroups (groups : List String) : Move := ⟨"../../", groups, "../"⟩

def stale (m : Move) : List Stale :=
  m.names.map fun name => ⟨m.path.toList, name.toList, m.missing.toList⟩

def rule (m : Move) : RuleSpec where
  pattern := importStart ++ escapeText m.path ++ "(" ++ alternation m.names ++ ")([/'\"])"
  replacement := "$\x7b1\x7d" ++ m.path ++ m.missing ++ "$\x7b2\x7d$\x7b3\x7d"

def words (m : Move) : List (List Char) := m.names.map String.toList

end Move

def moves : List Move :=
  movedModules.map (fun (group, modules) => .ofModules group modules)
    ++ [.ofGroups (movedModules.map (·.1))]

theorem escapeText_up : escapeText "../" = "\\.\\./" := by decide +kernel

theorem escapeText_upTwice : escapeText "../../" = "\\.\\./\\.\\./" := by decide +kernel

theorem rule_ofModules (group : String) (modules : List String) :
    (Move.ofModules group modules).rule = moduleRule group modules := by
  have hopen : "\\.\\./(" = "\\.\\./" ++ "(" := rfl
  have hfront : "$\x7b1\x7d../../../" = "$\x7b1\x7d" ++ ("../" ++ "../../") := rfl
  have hback : "/$\x7b2\x7d$\x7b3\x7d" = "/" ++ "$\x7b2\x7d$\x7b3\x7d" := rfl
  simp only [Move.ofModules, Move.rule, moduleRule, escapeText_up, String.append_assoc, hopen,
    hfront, hback]

theorem rule_ofGroups (groups : List String) :
    (Move.ofGroups groups).rule = groupRule groups := by
  simp [Move.ofGroups, Move.rule, groupRule, escapeText_upTwice, String.append_assoc]

theorem rules_eq : rules = moves.map Move.rule := by
  simp [rules, moves, rule_ofModules, rule_ofGroups, Function.comp_def]

theorem stale_eq : stale = moves.flatMap Move.stale := by
  decide +kernel

theorem toList_alternation (names : List String) :
    (alternation names).toList = Reader.alternatives (names.map String.toList) := by
  simp [alternation, Reader.alternatives, String.toList_intercalate, Reader.toList_escapeText,
    Function.comp_def]

namespace Move

def called : List (List Char) := ["require", "import", "jest.mock"].map String.toList

def quoteSyntax : Syntax := .bracket false (.both (.char '\'') (.char '"'))

def closerSyntax : Syntax := .bracket false (.both (.char '/') (.both (.char '\'') (.char '"')))

def startSyntax : Syntax :=
  .alt
    (.cat
      (.group (.plain [])
        (.alt (.cat (.assertion .boundary) (Reader.nameSyntax "from".toList))
          (.cat (.assertion .boundary) (Reader.nameSyntax "import".toList))))
      (.cat (.rep (.perl .space false) 1 none true) quoteSyntax))
    (.cat (.assertion .boundary)
      (.cat
        (.group (.plain []) (.choice (called.map Reader.nameSyntax)))
        (.cat (.char '(') (.cat (.rep (.perl .space false) 0 none true) quoteSyntax))))

def items (m : Move) : List Syntax :=
  .group (.capture 1) startSyntax :: m.path.toList.map Syntax.char ++
    [.group (.capture 2) (.choice (m.words.map Reader.nameSyntax)),
      .group (.capture 3) closerSyntax]

theorem choices_start (fuel : Nat) (rest : List Char) :
    Reader.choices (fuel + 60) (Reader.counting 0 []) [] [] (importStart.toList ++ rest) =
      Reader.choices (fuel + 59) (Reader.counting 1 []) [] [.group (.capture 1) startSyntax]
        rest := by
  rfl

theorem choices_closer (fuel : Nat) (items : List Syntax) :
    Reader.choices (fuel + 3) (Reader.counting 2 []) [] items "([/'\"])".toList =
      .ok ((.sequence (.group (.capture 3) closerSyntax :: items).reverse, Reader.counting 3 []),
        []) := by
  rfl

theorem toList_pattern (m : Move) :
    m.rule.pattern.toList = importStart.toList ++ (Reader.escaped m.path.toList ++
      '(' :: (Reader.alternatives m.words ++ ')' :: "([/'\"])".toList)) := by
  have halt : (alternation m.names).toList = Reader.alternatives m.words :=
    toList_alternation m.names
  have hopen : "(".toList = ['('] := rfl
  have hclose : ")([/'\"])".toList = ')' :: "([/'\"])".toList := rfl
  simp only [rule, String.toList_append, Reader.toList_escapeText, halt, hopen, hclose,
    List.append_assoc, List.cons_append, List.nil_append]

theorem choices_pattern (m : Move) {fuel : Nat} (hne : m.words ≠ [])
    (hfuel : m.rule.pattern.toList.length < fuel) :
    Reader.choices fuel (Reader.counting 0 []) [] [] m.rule.pattern.toList =
      .ok ((.sequence m.items, Reader.counting 3 []), []) := by
  have hstart : 60 ≤ importStart.toList.length := by decide
  have hpath := Reader.length_le_escaped m.path.toList
  rw [toList_pattern] at hfuel ⊢
  simp only [List.length_append, List.length_cons] at hfuel
  obtain ⟨f, rfl⟩ : ∃ f, fuel = f + 60 := ⟨fuel - 60, by omega⟩
  obtain ⟨k, hk⟩ : ∃ k, f + 59 = k + 3 + 1 + m.path.toList.length :=
    ⟨f + 55 - m.path.toList.length, by omega⟩
  rw [choices_start, hk, Reader.choices_escapedText,
    Reader.choices_capture (Reader.opening_alternatives m.words)
      (Reader.choices_alternatives hne (by simp [Reader.Closes]) (by omega)), choices_closer]
  simp [items]

theorem read_pattern (m : Move) (hne : m.words ≠ [])
    (hdepth : (Syntax.sequence m.items).depth ≤ Syntax.maxDepth) :
    Syntax.read m.rule.pattern.toList = .ok (.sequence m.items, []) := by
  rw [Syntax.read, choices_pattern m hne (Nat.lt_succ_self _)]
  change (if Syntax.maxDepth < (Syntax.sequence m.items).depth then _ else _) = _
  rw [if_neg (Nat.not_lt.2 hdepth)]
  rfl

def quotes : CharSet := .union (.single '\'') (.single '"')

def closers : CharSet := .union (.single '/') quotes

def spacing (spaced : Bool) : Pattern :=
  .cat (.rep (.char .space) (if spaced then 1 else 0) none true) (.char quotes)

def startPattern : Pattern :=
  .alt
    (.cat
      (.alt (.cat (.look (.boundary true)) (word "from".toList))
        (.cat (.look (.boundary true)) (word "import".toList)))
      (spacing true))
    (.cat (.look (.boundary true))
      (.cat (.oneOf (called.map word))
        (.cat (.char (.single '(')) (spacing false))))

def pattern (m : Move) : Pattern :=
  .sequence (.group 1 startPattern :: m.path.toList.map (fun c => .char (.single c)) ++
    [.group 2 (.oneOf (m.words.map word)), .group 3 (.char closers)])

theorem resolve_start :
    (Syntax.group (.capture 1) startSyntax).resolve .initial =
      .ok (.group 1 startPattern, .initial) := by
  rfl

theorem resolve_items (m : Move) :
    (Syntax.sequence m.items).resolve .initial = .ok (m.pattern, .initial) := by
  apply Pattern.resolve_sequence
  rw [items, List.cons_append]
  refine .cons resolve_start
    (List.rel_append (Pattern.resolve_chars rfl _) (.cons ?_ (.cons rfl .nil)))
  rw [Syntax.resolve, Pattern.resolve_names rfl]
  rfl

def regex (m : Move) : Regex where
  pattern := m.pattern
  names := []

def compiled (m : Move) : Rule := ⟨m.rule, m.regex⟩

theorem compile_rule (m : Move) (hne : m.words ≠ [])
    (hdepth : (Syntax.sequence m.items).depth ≤ Syntax.maxDepth)
    (hfits : fits m.rule.pattern = true) : Rule.compile fits m.rule = .ok m.compiled := by
  have hregex : Regex.compile fits m.rule.pattern = .ok m.regex := by
    rw [Regex.compile, read_pattern m hne hdepth]
    change (Syntax.sequence m.items).resolve .initial >>= _ = _
    rw [resolve_items]
    change (if !fits m.rule.pattern then _ else _) = _
    rw [hfits]
    rfl
  rw [Rule.compile, hregex]
  rfl

end Move

theorem moves_readable : ∀ m ∈ moves, m.words ≠ [] ∧
    (Syntax.sequence m.items).depth ≤ Syntax.maxDepth := by
  decide +kernel

theorem compile_moves {ms : List Move} (h : ms ⊆ moves)
    (hfits : ∀ rule ∈ rules, fits rule.pattern = true) :
    RuleTable.compile fits (ms.map Move.rule) = .ok ⟨ms.map Move.compiled⟩ := by
  induction ms with
  | nil => rfl
  | cons m ms ih =>
    obtain ⟨hm, hms⟩ := List.cons_subset.1 h
    obtain ⟨hne, hdepth⟩ := moves_readable m hm
    have hrule : m.rule ∈ rules := rules_eq ▸ List.mem_map_of_mem hm
    rw [List.map_cons, RuleTable.compile, m.compile_rule hne hdepth (hfits _ hrule), ih hms]
    rfl

end Repath.BuiltIn
