import Repath.Proofs.BuiltIn.Moves
import Repath.Proofs.BuiltIn.Spans
import Repath.Proofs.Pattern.Leftmost

namespace Repath.BuiltIn

open Unicode (CharSet isSpace isWord)
open Pattern (word takes_word takes_words takes_many takes_char_single takes_sequence_cons
  takes_sequence_append)

variable {m : Move} {c d : Cursor} {s u : Stage} {x : Site} {w rest : List Char} {q : Char}

namespace Move

theorem contains_quotes : quotes.contains q = isQuote q := by
  rw [Bool.eq_iff_iff]
  have hmem : quotes.contains q = true ↔
      (CharSet.single '\'').contains q = true ∨ (CharSet.single '"').contains q = true :=
    Bool.or_eq_true_iff
  rw [hmem, Unicode.contains_single, Unicode.contains_single]
  simp [isQuote]

theorem contains_closers : closers.contains q = isCloser q := by
  rw [Bool.eq_iff_iff]
  have hmem : closers.contains q = true ↔
      (CharSet.single '/').contains q = true ∨ quotes.contains q = true := Bool.or_eq_true_iff
  rw [hmem, Unicode.contains_single, contains_quotes]
  simp [isCloser]

theorem takes_spacing {l : Lead} :
    (∃ d, s.1.Reads l.keyword d ∧ (spacing l.spaced).Takes (d, s.2) u) ↔
      ∃ w, l.Spells w ∧ s.1.Reads w u.1 ∧ u.2 = s.2 := by
  constructor
  · rintro ⟨d, hd, e, hblanks, q, hq, hread, hu⟩
    obtain ⟨bs, hlen, hbs, hbread, he⟩ := takes_many.1 hblanks
    rw [contains_quotes] at hq
    refine ⟨_, ⟨bs, q, rfl, hbs, fun hs hnil => ?_, hq⟩, hd.trans (hbread.trans hread), hu.trans he⟩
    simp [hs, hnil] at hlen
  · rintro ⟨w, ⟨bs, q, rfl, hbs, hsp, hq⟩, hread, hu⟩
    obtain ⟨d, hd, hread⟩ := Cursor.reads_append.1 hread
    obtain ⟨e, he, hread⟩ := Cursor.reads_append.1 hread
    rw [← contains_quotes] at hq
    refine ⟨d, hd, (e, s.2), takes_many.2 ⟨bs, ?_, hbs, he, rfl⟩, q, hq, hread, hu⟩
    cases hs : l.spaced with
    | false => exact Nat.zero_le _
    | true => exact List.length_pos_of_ne_nil (hsp hs)

theorem lead_cases : ∀ l ∈ leads,
    l = ⟨"from".toList, true⟩ ∨ l = ⟨"import".toList, true⟩ ∨
      ∃ k ∈ called, l = ⟨k ++ ['('], false⟩ := by
  decide +kernel

theorem called_leads : ∀ k ∈ called, ⟨k ++ ['('], false⟩ ∈ leads := by
  decide +kernel

theorem takes_keyword : startPattern.Takes s u ↔ (Look.boundary true).holdsAt s.1 = true ∧
    ∃ l ∈ leads, ∃ d, s.1.Reads l.keyword d ∧ (spacing l.spaced).Takes (d, s.2) u := by
  constructor
  · rintro (⟨m, (⟨_, ⟨hb, rfl⟩, hm⟩ | ⟨_, ⟨hb, rfl⟩, hm⟩), hu⟩ | ⟨_, ⟨hb, rfl⟩, m, hm, n, hn, hu⟩)
    · obtain ⟨hread, hnotes⟩ := takes_word.1 hm
      exact ⟨hb, ⟨"from".toList, true⟩, by decide, m.1, hread, by rwa [← hnotes]⟩
    · obtain ⟨hread, hnotes⟩ := takes_word.1 hm
      exact ⟨hb, ⟨"import".toList, true⟩, by decide, m.1, hread, by rwa [← hnotes]⟩
    · obtain ⟨k, hk, hread, hnotes⟩ := (takes_words (by decide)).1 hm
      obtain ⟨hparen, hnotes'⟩ := takes_char_single.1 hn
      exact ⟨hb, _, called_leads k hk, n.1, hread.trans hparen, by rwa [← hnotes, ← hnotes']⟩
  · rintro ⟨hb, l, hl, d, hd, hu⟩
    obtain rfl | rfl | ⟨k, hk, rfl⟩ := lead_cases l hl
    · exact .inl ⟨(d, s.2), .inl ⟨s, ⟨hb, rfl⟩, takes_word.2 ⟨hd, rfl⟩⟩, hu⟩
    · exact .inl ⟨(d, s.2), .inr ⟨s, ⟨hb, rfl⟩, takes_word.2 ⟨hd, rfl⟩⟩, hu⟩
    · obtain ⟨e, he, hparen⟩ := Cursor.reads_append.1 hd
      exact .inr ⟨s, ⟨hb, rfl⟩, (e, s.2), (takes_words (by decide)).2 ⟨k, hk, he, rfl⟩, (d, s.2),
        takes_char_single.2 ⟨hparen, rfl⟩, hu⟩

theorem holdsAt_boundary {a : Char} {r : List Char} (ha : isWord a = true) (hc : c.after = a :: r) :
    (Look.boundary true).holdsAt c = true ↔ c.before.head?.any isWord = false := by
  have hnext : Look.isWord true c.after.head? = true := by rw [hc]; exact ha
  have hprev : Look.isWord true c.before.head? = c.before.head?.any isWord := by
    cases c.before.head? <;> rfl
  rw [Look.holdsAt, Look.holds, hnext, hprev]
  cases c.before.head?.any isWord <;> decide

theorem keyword_word : ∀ l ∈ leads, l.keyword.head?.any isWord = true := by
  decide +kernel

theorem takes_startPattern : startPattern.Takes s u ↔ s.1.before.head?.any isWord = false ∧
    ∃ w, IsLead w ∧ s.1.Reads w u.1 ∧ u.2 = s.2 := by
  have hword : ∀ {l d}, l ∈ leads → s.1.Reads l.keyword d →
      ((Look.boundary true).holdsAt s.1 = true ↔ s.1.before.head?.any isWord = false) := by
    intro l d hl hd
    obtain ⟨a, ha, hw⟩ := (Option.any_eq_true _ _).1 (keyword_word l hl)
    obtain ⟨k, hk⟩ := List.head?_eq_some_iff.1 ha
    exact holdsAt_boundary hw (by rw [hd.1, hk]; rfl)
  rw [takes_keyword]
  constructor
  · rintro ⟨hb, l, hl, d, hd, hu⟩
    obtain ⟨w, hw, hread⟩ := takes_spacing.1 ⟨d, hd, hu⟩
    exact ⟨(hword hl hd).1 hb, w, ⟨l, hl, hw⟩, hread⟩
  · rintro ⟨hp, w, ⟨l, hl, hw⟩, hread⟩
    obtain ⟨d, hd, hu⟩ := takes_spacing.2 ⟨w, hw, hread⟩
    exact ⟨(hword hl hd).2 hp, l, hl, d, hd, hu⟩

/-- A site at `c`, with the stage that the pattern of `m` leaves behind it: every part but the path
is in a group. -/
structure Found (m : Move) (c : Cursor) (x : Site) (u : Stage) : Prop where
  start : c.before.head?.any isWord = false
  lead : IsLead x.lead
  known : x.stale ∈ m.stale
  closer : isCloser x.closer = true
  notes : ∃ d e f, c.Reads x.lead d ∧ d.Reads x.stale.path e ∧ e.Reads x.stale.name f ∧
    f.Reads [x.closer] u.1 ∧ u.2 = [(7, u.1), (6, f), (5, f), (4, e), (3, d), (2, c)]

theorem mem_stale {t : Stale} :
    t ∈ m.stale ↔ ∃ w ∈ m.words, t = ⟨m.path.toList, w, m.missing.toList⟩ := by
  simp [stale, words, eq_comm]

theorem takes_pattern (hne : m.words ≠ []) :
    m.pattern.Takes (c, []) u ↔ ∃ x, m.Found c x u := by
  rw [pattern, List.cons_append, takes_sequence_cons]
  simp only [takes_sequence_append]
  constructor
  · rintro ⟨_, ⟨a, ha, rfl⟩, b, hb, _, ⟨g, hg, rfl⟩, k, ⟨y, hy, hky, hnotes⟩, rfl⟩
    obtain ⟨hstart, w, hw, hread, hanotes⟩ := takes_startPattern.1 ha
    obtain ⟨hpath, hbnotes⟩ := takes_word.1 hb
    obtain ⟨n, hn, hname, hgnotes⟩ := (takes_words hne).1 hg
    rw [contains_closers] at hy
    exact ⟨⟨w, ⟨m.path.toList, n, m.missing.toList⟩, y⟩, hstart, hw, mem_stale.2 ⟨n, hn, rfl⟩, hy,
      a.1, b.1, g.1, hread, hpath, hname, hky, by simp [*]⟩
  · rintro ⟨⟨w, t, y⟩, hstart, hw, ht, hy, d, e, f, hd, he, hf, hu, hnotes⟩
    obtain ⟨n, hn, rfl⟩ := mem_stale.1 ht
    obtain ⟨g, notes⟩ := u
    obtain rfl : notes = [(7, g), (6, f), (5, f), (4, e), (3, d), (2, c)] := hnotes
    rw [← contains_closers] at hy
    exact ⟨_, ⟨(d, _), takes_startPattern.2 ⟨hstart, w, hw, hd, rfl⟩, rfl⟩, (e, _),
      takes_word.2 ⟨he, rfl⟩, _, ⟨(f, _), (takes_words hne).2 ⟨n, hn, hf, rfl⟩, rfl⟩,
      (g, [(6, f), (5, f), (4, e), (3, d), (2, c)]), ⟨y, hy, hu, rfl⟩, rfl⟩

theorem Found.begins (h : m.Found c x u) :
    Begins m.stale c.before.head? c.after x u.1.after := by
  obtain ⟨d, e, f, hd, he, hf, hu, -⟩ := h.notes
  refine ⟨h.start, h.lead, h.known, h.closer, ?_⟩
  rw [hd.1, he.1, hf.1, hu.1]
  simp [Site.old, Site.span]

theorem exists_found (h : Begins m.stale c.before.head? c.after x rest) :
    ∃ u, m.Found c x u := by
  have hspan := h.span
  rw [Site.old, Site.span, List.append_assoc, List.append_assoc, List.append_assoc] at hspan
  obtain ⟨d, hd, hspan⟩ := Cursor.exists_reads hspan
  obtain ⟨e, he, hspan⟩ := Cursor.exists_reads hspan
  obtain ⟨f, hf, hspan⟩ := Cursor.exists_reads hspan
  obtain ⟨g, hg, -⟩ := Cursor.exists_reads hspan
  exact ⟨(g, [(7, g), (6, f), (5, f), (4, e), (3, d), (2, c)]), h.start, h.lead, h.known, h.closer,
    d, e, f, hd, he, hf, hg, rfl⟩

theorem matchesAt_iff (hne : m.words ≠ []) :
    m.pattern.MatchesAt c ↔ ∃ x rest, Begins m.stale c.before.head? c.after x rest := by
  constructor
  · rintro ⟨u, hu⟩
    obtain ⟨x, hx⟩ := (takes_pattern hne).1 hu
    exact ⟨x, _, hx.begins⟩
  · rintro ⟨x, rest, h⟩
    obtain ⟨u, hu⟩ := exists_found h
    exact ⟨u, (takes_pattern hne).2 ⟨x, hu⟩⟩

end Move

end Repath.BuiltIn
