import Repath.Proofs.Pattern.Groups
import Repath.Proofs.Rules.Matching
import Repath.Proofs.Rules.Table

namespace Repath

variable {body : Syntax} {p : Pattern} {fs : Flags} {c d : Cursor} {m m' m'' : Match}
  {ms : List Match}

theorem LeftmostFirstFrom.takes (h : LeftmostFirstFrom body p c m) :
    p.Takes (m.start, []) (m.stop, m.saves) := by
  obtain ⟨ds, hds, -⟩ := h.first
  exact Pattern.joins_makes.1 ⟨ds, hds.makes⟩

theorem LeftmostFirstFrom.eq_of_start (h : LeftmostFirstFrom body p c m)
    (h' : LeftmostFirstFrom body p d m') (hstart : m'.start = m.start) : m' = m := by
  obtain ⟨ds, hds, -⟩ := h.first
  obtain ⟨es, hes, -⟩ := h'.first
  rw [hstart] at hes
  obtain ⟨hstop, hsaves⟩ := Prod.mk.inj (hds.unique hes)
  cases m
  cases m'
  simp_all

def Match.EmptyAt (m : Match) (c : Cursor) : Prop := m.start = c ∧ m.stop = c

theorem LeftmostFirstFrom.emptyAt_iff (h : LeftmostFirstFrom body p c m) :
    m.EmptyAt c ↔ (m.isEmpty && m.stop.pos == c.pos) = true := by
  obtain ⟨gap, hgap⟩ := h.reads
  obtain ⟨w, hw⟩ := (h.takes.keeps 0).reads
  have htext := hgap.text_eq
  have htext' := hw.text_eq.trans htext
  rw [Match.EmptyAt, Match.isEmpty, Bool.and_eq_true, beq_iff_eq, beq_iff_eq]
  constructor
  · rintro ⟨hstart, hstop⟩
    rw [hstart, hstop]
    exact ⟨rfl, rfl⟩
  · rintro ⟨hsame, hpos⟩
    exact ⟨Cursor.eq_of_pos_eq htext (hsame.trans hpos), Cursor.eq_of_pos_eq htext' hpos⟩

/-- `m` is the match that counts behind one that ended at `c`. An empty match at `c` itself is
passed over by searching on from the next character. -/
inductive FoundAfter (body : Syntax) (p : Pattern) (c : Cursor) (m : Match) : Prop
  | here (h : LeftmostFirstFrom body p c m) (hne : ¬ m.EmptyAt c)
  | passed {e : Match} {x : Char} {d : Cursor} (he : LeftmostFirstFrom body p c e)
      (hempty : e.EmptyAt c) (hnext : c.next? = some (x, d)) (h : LeftmostFirstFrom body p d m)

/-- No match counts behind one that ended at `c`. -/
inductive NothingAfter (body : Syntax) (p : Pattern) (c : Cursor) : Prop
  | absent (h : body.AbsentFrom c)
  | passed {e : Match} (he : LeftmostFirstFrom body p c e) (hempty : e.EmptyAt c)
      (h : ∀ x d, c.next? = some (x, d) → body.AbsentFrom d)

/-- Behind a match that ended at `c`, the matches `ms` are found one after the other, and then none
is left. -/
inductive FoundInTurn (body : Syntax) (p : Pattern) : Cursor → List Match → Prop
  | nil {c : Cursor} (h : NothingAfter body p c) : FoundInTurn body p c []
  | cons {c : Cursor} {m : Match} {ms : List Match} (h : FoundAfter body p c m)
      (hs : FoundInTurn body p m.stop ms) : FoundInTurn body p c (m :: ms)

/-- All the matches that are found in a text, from left to right. -/
inductive FoundIn (body : Syntax) (p : Pattern) (text : List Char) : List Match → Prop
  | nil (h : body.AbsentFrom (.start text)) : FoundIn body p text []
  | cons {m : Match} {ms : List Match} (h : LeftmostFirstFrom body p (.start text) m)
      (hs : FoundInTurn body p m.stop ms) : FoundIn body p text (m :: ms)

theorem FoundAfter.exists_from (h : FoundAfter body p c m) :
    ∃ d, LeftmostFirstFrom body p d m ∧ ∃ gap, c.Reads gap m.start := by
  cases h with
  | here h hne => exact ⟨c, h, h.reads⟩
  | @passed e x d he hempty hnext h =>
    obtain ⟨gap, hgap⟩ := h.reads
    exact ⟨d, h, x :: gap, (Cursor.reads_singleton.2 hnext).trans hgap⟩

section Searching

variable (hresolve : body.resolve .initial = .ok (p, fs))

include hresolve

theorem foundAfter_of_findAfter? (h : p.program.findAfter? c = some m) :
    FoundAfter body p c m := by
  rw [Program.findAfter?] at h
  cases hf : p.program.find? c with
  | none => simp [hf] at h
  | some e =>
    have he := leftmostFirstFrom_of_find? hresolve hf
    simp only [hf] at h
    split at h
    · rename_i hempty
      obtain ⟨⟨x, d⟩, hnext, hd⟩ := Option.bind_eq_some_iff.1 h
      exact .passed he (he.emptyAt_iff.2 hempty) hnext
        (leftmostFirstFrom_of_find? hresolve hd)
    · rename_i hempty
      obtain rfl := Option.some.inj h
      exact .here he (mt he.emptyAt_iff.1 hempty)

theorem nothingAfter_of_findAfter? (h : p.program.findAfter? c = none) :
    NothingAfter body p c := by
  rw [Program.findAfter?] at h
  cases hf : p.program.find? c with
  | none => exact .absent (absentFrom_of_find? hresolve hf)
  | some e =>
    have he := leftmostFirstFrom_of_find? hresolve hf
    simp only [hf] at h
    split at h
    · rename_i hempty
      refine .passed he (he.emptyAt_iff.2 hempty) fun x d hnext => ?_
      exact absentFrom_of_find? hresolve (Option.bind_eq_none_iff.1 h (x, d) hnext)
    · cases h

theorem foundInTurn_of_successive (h : p.program.Successive c ms) : FoundInTurn body p c ms := by
  induction h with
  | nil h => exact .nil (nothingAfter_of_findAfter? hresolve h)
  | cons h _ ih => exact .cons (foundAfter_of_findAfter? hresolve h) ih

theorem foundIn_allMatches (text : List Char) :
    FoundIn body p text (p.program.allMatches text) := by
  cases hf : p.program.find? (.start text) with
  | none =>
    rw [Program.allMatches, hf]
    exact .nil (absentFrom_of_find? hresolve hf)
  | some m =>
    obtain ⟨ms, hall, hms⟩ :=
      Program.exists_successive (Pattern.targetsLe_program p) hf
    rw [hall]
    exact .cons (leftmostFirstFrom_of_find? hresolve hf) (foundInTurn_of_successive hresolve hms)

end Searching

theorem foundIn_matchesIn {regex : Regex}
    (hresolve : body.resolve .initial = .ok (regex.pattern, fs)) (text : List Char) :
    FoundIn body regex.pattern text (regex.matchesIn text) := by
  rw [Regex.matchesIn, regex.program_eq]
  exact foundIn_allMatches hresolve text

/-- A match stands wholly before another one and begins before it. The other one ends behind it, so
that it is not an empty one at its end. -/
structure Match.Precedes (m m' : Match) : Prop where
  starts : m.start.pos < m'.start.pos
  apart : m.stop.pos ≤ m'.start.pos
  stops : m.stop.pos < m'.stop.pos

theorem Match.Precedes.trans (h : m.Precedes m') (h' : m'.Precedes m'') : m.Precedes m'' :=
  ⟨h.starts.trans h'.starts, h.apart.trans h'.starts.le, h.stops.trans h'.stops⟩

theorem LeftmostFirstFrom.pos_le (h : LeftmostFirstFrom body p c m) :
    c.pos ≤ m.start.pos ∧ m.start.pos ≤ m.stop.pos := by
  obtain ⟨gap, hgap⟩ := h.reads
  obtain ⟨w, hw⟩ := (h.takes.keeps 0).reads
  have hstart := hgap.pos
  have hstop : m.stop.pos = m.start.pos + w.length := hw.pos
  omega

theorem FoundAfter.precedes (hm : LeftmostFirstFrom body p c m)
    (h : FoundAfter body p m.stop m') : m.Precedes m' := by
  have hpos := hm.pos_le
  cases h with
  | here h hne =>
    have hpos' := h.pos_le
    obtain ⟨gap, hgap⟩ := h.reads
    obtain ⟨w, hw⟩ := (h.takes.keeps 0).reads
    have hstops : m.stop.pos ≠ m'.stop.pos := fun hstop => hne
      ⟨Cursor.eq_of_pos_eq hgap.text_eq (by omega),
        Cursor.eq_of_pos_eq (hw.text_eq.trans hgap.text_eq) hstop.symm⟩
    have hstarts : m.start.pos ≠ m'.start.pos := by
      intro hstart
      have hsame : m'.start = m.start := by
        obtain ⟨v, hv⟩ := (hm.takes.keeps 0).reads
        exact Cursor.eq_of_pos_eq (hgap.text_eq.trans hv.text_eq) hstart.symm
      exact hstops (by rw [hm.eq_of_start h hsame])
    exact ⟨by omega, by omega, by omega⟩
  | passed he hempty hnext h =>
    have hpos' := h.pos_le
    have hd := (Cursor.reads_singleton.2 hnext).pos
    rw [List.length_singleton] at hd
    exact ⟨by omega, by omega, by omega⟩

theorem FoundInTurn.pairwise (hm : LeftmostFirstFrom body p c m)
    (h : FoundInTurn body p m.stop ms) : (m :: ms).Pairwise Match.Precedes := by
  induction ms generalizing c m with
  | nil => exact List.pairwise_singleton _ _
  | cons m' ms ih =>
    cases h with
    | cons h hs =>
      obtain ⟨d, hm', -⟩ := h.exists_from
      have hrest := ih hm' hs
      have hfirst := h.precedes hm
      refine List.pairwise_cons.2 ⟨fun m'' hmem => ?_, hrest⟩
      obtain rfl | hmem := List.mem_cons.1 hmem
      · exact hfirst
      · exact hfirst.trans ((List.pairwise_cons.1 hrest).1 m'' hmem)

/-- From `c` on, the text reads up to each of the matches in turn, through it, and on to its end;
`out` is what it comes to when each match gives way to what `expand` makes of it. -/
inductive Replaced (expand : Match → List Char) : Cursor → List Match → List Char → Prop
  | rest (c : Cursor) : Replaced expand c [] c.after
  | replace {c : Cursor} {m : Match} {ms : List Match} {gap w out : List Char}
      (hgap : c.Reads gap m.start) (hm : m.start.Reads w m.stop)
      (hs : Replaced expand m.stop ms out) : Replaced expand c (m :: ms) (gap ++ expand m ++ out)

variable {expand : Match → List Char}

theorem replaced_cons {gap out : List Char} (hgap : c.Reads gap m.start)
    (hm : LeftmostFirstFrom body p d m) (hs : Replaced expand m.stop ms out) :
    Replaced expand c (m :: ms) (c.upTo m.start ++ expand m ++ out) := by
  obtain ⟨w, hw⟩ := (hm.takes.keeps 0).reads
  rw [hgap.upTo]
  exact .replace hgap hw hs

theorem FoundInTurn.replaced (h : FoundInTurn body p c ms) :
    Replaced expand c ms (Rule.splice expand c ms) := by
  induction h with
  | nil => exact .rest _
  | cons h _ ih =>
    obtain ⟨d, hm, gap, hgap⟩ := h.exists_from
    exact replaced_cons hgap hm ih

/-- The matches `ms` take a text apart, and `out` is what it comes to when all of them are
replaced. -/
structure Decomposes (body : Syntax) (p : Pattern) (expand : Match → List Char) (text : List Char)
    (ms : List Match) (out : List Char) : Prop where
  found : FoundIn body p text ms
  ordered : ms.Pairwise Match.Precedes
  replaced : Replaced expand (.start text) ms out
  /-- Whatever group took part in a match lies inside it. -/
  groups : ∀ m ∈ ms, ∀ i part, m.group? i = some part →
    ∃ c d front back, m.place? i = some (c, d) ∧ m.start.Reads front c ∧ c.Reads part d ∧
      d.Reads back m.stop

theorem FoundInTurn.exists_from (h : FoundInTurn body p c ms) (hm : m ∈ ms) :
    ∃ d, LeftmostFirstFrom body p d m := by
  induction h with
  | nil => cases hm
  | cons h _ ih =>
    obtain rfl | hm := List.mem_cons.1 hm
    · obtain ⟨d, hd, -⟩ := h.exists_from
      exact ⟨d, hd⟩
    · exact ih hm

theorem FoundIn.exists_from {text : List Char} (h : FoundIn body p text ms) (hm : m ∈ ms) :
    ∃ d, LeftmostFirstFrom body p d m := by
  cases h with
  | nil habsent => cases hm
  | cons hfirst hs =>
    obtain rfl | hm := List.mem_cons.1 hm
    · exact ⟨_, hfirst⟩
    · exact hs.exists_from hm

theorem FoundIn.decomposes {text : List Char} (h : FoundIn body p text ms) :
    Decomposes body p expand text ms (Rule.splice expand (.start text) ms) := by
  have hgroups : ∀ m ∈ ms, ∀ i part, m.group? i = some part →
      ∃ c d front back, m.place? i = some (c, d) ∧ m.start.Reads front c ∧ c.Reads part d ∧
        d.Reads back m.stop := by
    intro m hm i part hgroup
    obtain ⟨d, hd⟩ := h.exists_from hm
    exact Match.group?_within hd.takes hgroup
  cases h with
  | nil habsent => exact ⟨.nil habsent, .nil, .rest _, hgroups⟩
  | cons hm hs =>
    obtain ⟨gap, hgap⟩ := hm.reads
    exact ⟨.cons hm hs, hs.pairwise hm, replaced_cons hgap hm hs.replaced, hgroups⟩

namespace Rule

variable {fits : String → Bool} {spec : RuleSpec} {rule : Rule}

theorem apply_eq_splice (rule : Rule) (text : String) :
    rule.apply text = .ofList (splice ((Template.ofString rule.spec.replacement).expand rule.regex)
      (.start text.toList) (rule.regex.matchesIn text.toList)) := by
  rw [apply, revise?]
  cases rule.regex.matchesIn text.toList with
  | nil => simp [splice, Cursor.start]
  | cons m ms => rfl

/-- A rule takes a text apart into its matches and what stands between them, and replaces the
matches. The text is left alone just when there is none. -/
theorem apply_decomposes (h : compile fits spec = .ok rule) (text : String) :
    ∃ body names fs out, Syntax.read spec.pattern.toList = .ok (body, names) ∧
      body.resolve .initial = .ok (rule.regex.pattern, fs) ∧
      Decomposes body rule.regex.pattern ((Template.ofString spec.replacement).expand rule.regex)
        text.toList (rule.regex.matchesIn text.toList) out ∧
      rule.apply text = .ofList out ∧
      (rule.regex.matchesIn text.toList = [] ↔ rule.revise? text = none) := by
  obtain ⟨rfl, body, names, fs, hread, hresolve⟩ := exists_of_compile h
  refine ⟨body, names, fs, _, hread, hresolve, (foundIn_matchesIn hresolve text.toList).decomposes,
    apply_eq_splice rule text, ?_⟩
  rw [revise?]
  cases rule.regex.matchesIn text.toList <;> simp

def idleSample : RuleSpec := ⟨"(x)*", "<$1>"⟩

def compiledIdleSample : Rule where
  spec := idleSample
  regex := { pattern := .rep (.group 1 (.char (.single 'x'))) 0 none true, names := [] }

/-- Behind the match in the middle an empty one is passed over; at the front and at the end the
empty matches count, and the group takes no part in them. -/
theorem apply_decomposes_idleSample : compile (fun _ => true) idleSample = .ok compiledIdleSample ∧
    compiledIdleSample.apply "axb" = "<>a<x>b<>" ∧
    ((compiledIdleSample.regex.matchesIn "axb".toList).map fun m => (m.start.pos, m.stop.pos)) =
      [(0, 0), (1, 2), (3, 3)] ∧
    Decomposes (.rep (.group (.capture 1) (.char 'x')) 0 none true)
      compiledIdleSample.regex.pattern
      ((Template.ofString idleSample.replacement).expand compiledIdleSample.regex) "axb".toList
      (compiledIdleSample.regex.matchesIn "axb".toList) "<>a<x>b<>".toList := by
  have hcompile : compile (fun _ => true) idleSample = .ok compiledIdleSample := rfl
  have happly : compiledIdleSample.apply "axb" = "<>a<x>b<>" := by decide +kernel
  have hmatches : ((compiledIdleSample.regex.matchesIn "axb".toList).map
      fun m => (m.start.pos, m.stop.pos)) = [(0, 0), (1, 2), (3, 3)] := by decide +kernel
  have hread : Syntax.read idleSample.pattern.toList =
      .ok (.rep (.group (.capture 1) (.char 'x')) 0 none true, []) := rfl
  obtain ⟨body, names, fs, out, hbody, -, hdecomposes, hout, -⟩ :=
    apply_decomposes hcompile "axb"
  obtain ⟨rfl, rfl⟩ := Prod.mk.inj (Except.ok.inj (hread.symm.trans hbody))
  obtain rfl : out = "<>a<x>b<>".toList := by rw [← happly, hout, String.toList_ofList]
  exact ⟨hcompile, happly, hmatches, hdecomposes⟩

end Rule

end Repath
