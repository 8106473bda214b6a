import Repath.Proofs.Lookup
import Repath.Proofs.Pattern.Numbering
import Repath.Proofs.Rules.Replacing
import Repath.Proofs.Rules.Template

namespace Repath

inductive Reference
  | index (n : Nat)
  | name (w : List Char)
  deriving DecidableEq, Repr

inductive Part
  | literal (w : List Char)
  | group (r : Reference)
  deriving DecidableEq, Repr

namespace Reference

def text : Reference → List Char
  | index n => Nat.toDigits 10 n
  | name w => w

/-- A name begins with a letter or an underscore and holds no closing brace. -/
def Proper : Reference → Prop
  | index _ => True
  | name w => w.head?.any Reader.isNameStart = true ∧ '}' ∉ w

def index? (names : List (String × Nat)) : Reference → Option Nat
  | index n => some n
  | name w => names.lookup (String.ofList w)

end Reference

def Part.Proper : Part → Prop
  | literal _ => True
  | group r => r.Proper

/-- What a part stands for in a match: nothing, if its group is unknown or took no part. -/
def Part.value (names : List (String × Nat)) (m : Match) : Part → List Char
  | literal w => w
  | group r => ((r.index? names).bind m.group?).getD []

namespace Template

def doubled (w : List Char) : List Char := w.flatMap fun c => if c = '$' then ['$', '$'] else [c]

def braced (r : Reference) : List Char := '$' :: '{' :: r.text ++ ['}']

def bare (r : Reference) : List Char := '$' :: r.text

/-- The ways of writing a row of parts. -/
inductive Spells : List Part → List Char → Prop
  | nil : Spells [] []
  | literal {parts : List Part} {cs : List Char} (w : List Char) (h : Spells parts cs) :
      Spells (.literal w :: parts) (doubled w ++ cs)
  | braced {parts : List Part} {cs : List Char} {r : Reference} (hr : r.Proper)
      (h : Spells parts cs) : Spells (.group r :: parts) (braced r ++ cs)
  | bare {parts : List Part} {cs : List Char} {r : Reference} (hr : r.Proper)
      (hrun : r.text.all isNameChar = true) (hend : cs.head?.any isNameChar = false)
      (h : Spells parts cs) : Spells (.group r :: parts) (bare r ++ cs)

theorem Spells.proper {parts : List Part} {cs : List Char} (h : Spells parts cs) :
    ∀ part ∈ parts, part.Proper := by
  induction h with
  | nil => exact List.forall_mem_nil _
  | literal w h ih => exact List.forall_mem_cons.2 ⟨trivial, ih⟩
  | braced hr h ih => exact List.forall_mem_cons.2 ⟨hr, ih⟩
  | bare hr hrun hend h ih => exact List.forall_mem_cons.2 ⟨hr, ih⟩

/-- The plainest of them: every reference is in braces. -/
def spelling (parts : List Part) : List Char :=
  parts.flatMap fun
    | .literal w => doubled w
    | .group r => braced r

theorem spells_spelling {parts : List Part} (h : ∀ part ∈ parts, part.Proper) :
    Spells parts (spelling parts) := by
  induction parts with
  | nil => exact .nil
  | cons part parts ih =>
    obtain ⟨hpart, hparts⟩ := List.forall_mem_cons.1 h
    cases part with
    | literal w => exact .literal w (ih hparts)
    | group r => exact .braced hpart (ih hparts)

end Template

namespace Unicode

theorem alphabetic_eq : ∃ bounds, binary? "alphabetic" = some (.spans ('A'.toNat :: bounds)) := by
  obtain ⟨hex, line, lines, rest, htable, cs, hline⟩ : ∃ hex line lines rest,
      binaryProperties = (["ahex", "asciihexdigit"], hex) ::
        (["alpha", "alphabetic"], ofGaps (line :: lines)) :: rest ∧
      ∃ cs, line.toList = '4' :: '1' :: ' ' :: cs := ⟨_, _, _, _, rfl, _, rfl⟩
  have hgaps : ∃ bounds, ofGaps (line :: lines) = 'A'.toNat :: bounds := by
    rw [ofGaps, String.toList_intercalate, List.map_cons, hline]
    cases lines with
    | nil => exact ⟨_, rfl⟩
    | cons line' lines =>
      rw [List.map_cons, List.intercalate_cons_cons]
      exact ⟨_, rfl⟩
  obtain ⟨bounds, hbounds⟩ := hgaps
  refine ⟨bounds, ?_⟩
  rw [binary?, lookUp, htable, ← hbounds]
  rfl

end Unicode

theorem Reader.isNameStart_of_lt {c : Char} (h : c.toNat < 'A'.toNat) : isNameStart c = false := by
  obtain ⟨bounds, hbounds⟩ := Unicode.alphabetic_eq
  have hletter : (Unicode.CharSet.spans ('A'.toNat :: bounds)).contains c = false := by
    rw [Unicode.CharSet.contains, Unicode.CharSet.mem, Unicode.inside,
      decide_eq_false (Nat.not_le.2 h), Bool.false_and]
  have hunderscore : c ≠ '_' := by
    rintro rfl
    exact absurd h (by decide)
  rw [isNameStart, hbounds, Option.any_some, hletter, beq_eq_false_iff_ne.2 hunderscore]
  rfl

theorem Reader.not_isDigit_of_isNameStart {c : Char} (h : isNameStart c = true) :
    c.isDigit = false := by
  by_contra hdigit
  rw [Bool.not_eq_false, Char.isDigit_iff_toNat] at hdigit
  rw [isNameStart_of_lt (Nat.lt_of_le_of_lt hdigit.2 (by decide))] at h
  cases h

namespace Template

variable {w cs done : List Char} {n : Nat}

theorem number?_digits (hne : w ≠ []) (hw : ∀ c ∈ w, c.isDigit = true) :
    number? w = if Nat.ofDigitChars 10 w 0 < UInt64.size then some (Nat.ofDigitChars 10 w 0)
      else none := by
  have hall : w.all Char.isDigit = true := List.all_eq_true.2 hw
  rw [number?.eq_def]
  dsimp only
  split
  · next rest =>
    exact absurd (hw '+' List.mem_cons_self) (by decide)
  · rw [hall, List.isEmpty_eq_false_iff.2 hne]
    exact if_congr decide_eq_true_iff rfl rfl

theorem isDigit_toDigits : ∀ c ∈ Nat.toDigits 10 n, c.isDigit = true :=
  fun _ hc => Nat.isDigit_of_mem_toDigits (by decide) (Nat.le_refl _) hc

theorem number?_toDigits (n : Nat) :
    number? (Nat.toDigits 10 n) = if n < UInt64.size then some n else none := by
  rw [number?_digits Nat.toDigits_ne_nil isDigit_toDigits, Nat.ofDigitChars_ten_toDigits]

theorem number?_name (h : w.head?.any Reader.isNameStart = true) : number? w = none := by
  cases w with
  | nil => cases h
  | cons c w =>
    have hplus : c ≠ '+' := by
      rintro rfl
      rw [List.head?_cons, Option.any_some, Reader.isNameStart_of_lt (by decide)] at h
      cases h
    have hdigit := Reader.not_isDigit_of_isNameStart h
    rw [number?.eq_def]
    dsimp only
    split
    · next heq => exact absurd (List.cons.inj heq).1 hplus
    · simp [hdigit]

theorem read_doubled (w cs : List Char) :
    read .text (doubled w ++ cs) = w.map Piece.char ++ read .text cs := by
  induction w with
  | nil => rfl
  | cons c w ih =>
    rw [doubled, List.flatMap_cons, ← doubled, List.append_assoc]
    by_cases hc : c = '$'
    · rw [if_pos hc, List.cons_append, List.cons_append, List.nil_append, read, if_pos rfl, read,
        if_pos rfl, ih, hc]
      rfl
    · rw [if_neg hc, List.cons_append, List.nil_append, read, if_neg hc, ih]
      rfl

theorem read_bare_rest (hrun : w.all isNameChar = true)
    (hend : cs.head?.any isNameChar = false) :
    read (.bare done) (w ++ cs) = reference (done.reverse ++ w) :: read .text cs := by
  induction w generalizing done with
  | nil =>
    rw [List.append_nil]
    cases cs with
    | nil => rfl
    | cons c cs =>
      have hc : isNameChar c = false := hend
      simp only [List.nil_append, read, hc, Bool.false_eq_true, if_false]
  | cons c w ih =>
    obtain ⟨hc, hw⟩ := Bool.and_eq_true_iff.1 hrun
    rw [List.cons_append, read, if_pos hc, ih hw]
    simp

theorem read_bare (hne : w ≠ []) (hrun : w.all isNameChar = true)
    (hend : cs.head?.any isNameChar = false) :
    read .text ('$' :: (w ++ cs)) = reference w :: read .text cs := by
  obtain ⟨c, w, rfl⟩ := List.exists_cons_of_ne_nil hne
  obtain ⟨hc, hw⟩ := Bool.and_eq_true_iff.1 hrun
  have hdollar : c ≠ '$' := by
    rintro rfl
    cases hc
  have hbrace : c ≠ '{' := by
    rintro rfl
    cases hc
  rw [read, if_pos rfl, List.cons_append, read, if_neg hdollar, if_neg (fun h => hbrace h.1),
    if_pos hc, read_bare_rest hw hend]
  rfl

end Template

theorem Reference.Proper.closing_notMem {r : Reference} (h : r.Proper) : '}' ∉ r.text := by
  cases r with
  | index n =>
    intro hmem
    exact absurd (Template.isDigit_toDigits _ hmem) (by decide)
  | name w => exact h.2

theorem Reference.Proper.text_ne_nil {r : Reference} (h : r.Proper) : r.text ≠ [] := by
  cases r with
  | index n => exact Nat.toDigits_ne_nil
  | name w =>
    rintro rfl
    cases h.1

def Part.pieces : Part → List Piece
  | literal w => w.map Piece.char
  | group r => [Template.reference r.text]

theorem Template.read_of_spells {parts : List Part} {cs : List Char} (h : Spells parts cs) :
    read .text cs = parts.flatMap Part.pieces := by
  induction h with
  | nil => rfl
  | literal w h ih => rw [read_doubled, ih, List.flatMap_cons, Part.pieces]
  | @braced parts cs r hr h ih =>
    have hshape : Template.braced r ++ cs = '$' :: '{' :: (r.text ++ '}' :: cs) := by
      simp [Template.braced]
    rw [hshape, read_reference hr.closing_notMem, ih]
    rfl
  | bare hr hrun hend h ih =>
    rw [Template.bare, List.cons_append, read_bare hr.text_ne_nil hrun hend, ih]
    rfl

section Expanding

variable {regex : Regex} {m : Match} {k : Nat}

theorem lookup_toDigits {names : List (String × Nat)}
    (h : ∀ entry ∈ names, Reader.IsGroupName entry.1) (n : Nat) :
    names.lookup (String.ofList (Nat.toDigits 10 n)) = none := by
  refine lookup_eq_none_iff.2 fun hmem => ?_
  obtain ⟨entry, hentry, heq⟩ := List.mem_map.1 hmem
  have hname := h entry hentry
  obtain ⟨c, ds, hds⟩ := List.exists_cons_of_ne_nil (Nat.toDigits_ne_nil (n := n) (b := 10))
  have hdigit := Template.isDigit_toDigits c (hds ▸ List.mem_cons_self)
  rw [Reader.IsGroupName, heq, String.toList_ofList, hds] at hname
  rw [Reader.not_isDigit_of_isNameStart hname] at hdigit
  cases hdigit

/-- A number that no group can have is read as a name, but no group has that name either. -/
theorem Template.value_reference (hm : regex.pattern.Takes (m.start, []) (m.stop, m.saves))
    (hgroups : regex.pattern.GroupsLe k) (hk : k < UInt64.size)
    (hnames : ∀ entry ∈ regex.names, Reader.IsGroupName entry.1) {r : Reference} (hr : r.Proper) :
    (reference r.text).value regex m = ((r.index? regex.names).bind m.group?).getD [] := by
  cases r with
  | name w =>
    rw [Reference.text, reference, number?_name hr.1]
    rfl
  | index n =>
    rw [Reference.text, reference, number?_toDigits, Reference.index?, Option.bind_some]
    by_cases hn : n < UInt64.size
    · rw [if_pos hn]
      rfl
    · rw [if_neg hn, Match.group?_eq_none hm hgroups (by omega)]
      exact congrArg (fun i : Option Nat => (i.bind m.group?).getD []) (lookup_toDigits hnames n)

theorem Part.value_pieces (hm : regex.pattern.Takes (m.start, []) (m.stop, m.saves))
    (hgroups : regex.pattern.GroupsLe k) (hk : k < UInt64.size)
    (hnames : ∀ entry ∈ regex.names, Reader.IsGroupName entry.1) {part : Part}
    (hpart : part.Proper) :
    part.pieces.flatMap (·.value regex m) = part.value regex.names m := by
  cases part with
  | literal w =>
    rw [pieces, List.flatMap_map]
    exact List.flatMap_singleton' w
  | group r =>
    rw [pieces, List.flatMap_singleton, Template.value_reference hm hgroups hk hnames hpart]
    rfl

end Expanding

namespace Rule

theorem splice_congr {expand expand' : Match → List Char} {ms : List Match} (c : Cursor)
    (h : ∀ m ∈ ms, expand m = expand' m) : splice expand c ms = splice expand' c ms := by
  induction ms generalizing c with
  | nil => rfl
  | cons m ms ih =>
    obtain ⟨hm, hms⟩ := List.forall_mem_cons.1 h
    rw [splice, splice, hm, ih _ hms]

/-- A template can be written for every row of texts and references, and however it is written, each
match gives way to the texts and to what the groups took in it. No text in memory has as many as
`2 ^ 64` characters. -/
theorem apply_spelled (fits : String → Bool) (parts : List Part)
    (hparts : ∀ part ∈ parts, part.Proper) :
    Template.Spells parts (Template.spelling parts) ∧
    ∀ pattern template rule, Template.Spells parts template → pattern.length < UInt64.size →
      compile fits ⟨pattern, .ofList template⟩ = .ok rule → ∀ text,
        ∃ body names fs out, Syntax.read pattern.toList = .ok (body, names) ∧
          body.resolve .initial = .ok (rule.regex.pattern, fs) ∧
          Decomposes body rule.regex.pattern (fun m => parts.flatMap (·.value names m)) text.toList
            (rule.regex.matchesIn text.toList) out ∧
          rule.apply text = .ofList out := by
  refine ⟨Template.spells_spelling hparts, fun pattern template rule h hsize hcompile text => ?_⟩
  obtain ⟨hspec, body, fs, hread, hresolve⟩ := regex_of_compile hcompile
  have hfound := foundIn_matchesIn hresolve text.toList
  obtain ⟨hbody, hnames⟩ := Syntax.groupsLe_of_read hread
  have hexpand : ∀ m ∈ rule.regex.matchesIn text.toList,
      (Template.ofString (.ofList template)).expand rule.regex m =
        parts.flatMap (·.value rule.regex.names m) := by
    intro m hm
    obtain ⟨d, hd⟩ := hfound.exists_from hm
    rw [Template.expand, Template.ofString, String.toList_ofList, Template.read_of_spells h,
      List.flatMap_assoc]
    refine List.flatMap_congr fun part hpart => ?_
    exact Part.value_pieces hd.takes (Syntax.groupsLe_of_resolve hresolve hbody) hsize hnames
      (hparts part hpart)
  refine ⟨body, _, fs, _, hread, hresolve, hfound.decomposes, ?_⟩
  rw [apply_eq_splice, hspec, splice_congr _ hexpand]

def spelledSample : RuleSpec := ⟨"(?P<_>a+)=(b)?", "$$$\x7b1\x7d/$_-$2$9"⟩

def compiledSpelledSample : Rule where
  spec := spelledSample
  regex := {
    pattern := .cat (.group 1 (.rep (.char (.single 'a')) 1 none true))
      (.cat (.char (.single '=')) (.rep (.group 2 (.char (.single 'b'))) 0 (some 1) true))
    names := [("_", 1)] }

def spelledParts : List Part := [.literal ['$'], .group (.index 1), .literal ['/'],
  .group (.name ['_']), .literal ['-'], .group (.index 2), .group (.index 9)]

theorem spells_spelledSample :
    Template.Spells spelledParts spelledSample.replacement.toList := by
  have hname : Reference.Proper (.name ['_']) := ⟨rfl, by simp⟩
  exact .literal ['$'] (.braced trivial (.literal ['/'] (.bare hname rfl rfl
    (.literal ['-'] (.bare trivial rfl rfl (.bare trivial rfl rfl .nil))))))

/-- The name and the number are one group, the other group takes no part in the second match, and
there is no ninth one. -/
theorem apply_spelled_spelledSample :
    compile (fun _ => true) spelledSample = .ok compiledSpelledSample ∧
    compiledSpelledSample.apply "aa=b a=" = "$aa/aa-b $a/a-" ∧
    ∃ body, Decomposes body compiledSpelledSample.regex.pattern
      (fun m => spelledParts.flatMap (·.value [("_", 1)] m)) "aa=b a=".toList
      (compiledSpelledSample.regex.matchesIn "aa=b a=".toList) "$aa/aa-b $a/a-".toList := by
  have hcompile : compile (fun _ => true) spelledSample = .ok compiledSpelledSample := rfl
  have happly : compiledSpelledSample.apply "aa=b a=" = "$aa/aa-b $a/a-" := by decide +kernel
  obtain ⟨body, names, fs, out, hread, -, hdecomposes, hout⟩ :=
    (apply_spelled (fun _ => true) spelledParts spells_spelledSample.proper).2 _ _ _
      spells_spelledSample (by decide) hcompile "aa=b a="
  have hnames : (Syntax.read "(?P<_>a+)=(b)?".toList).map (·.2) = .ok [("_", 1)] := rfl
  rw [hread] at hnames
  obtain rfl : names = [("_", 1)] := Except.ok.inj hnames
  obtain rfl : out = "$aa/aa-b $a/a-".toList := by rw [← happly, hout, String.toList_ofList]
  exact ⟨hcompile, happly, body, hdecomposes⟩

end Rule

end Repath
