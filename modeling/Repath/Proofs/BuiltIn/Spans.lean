import Mathlib.Data.List.TakeWhile
import Repath.Proofs.BuiltIn.Sites

namespace Repath.BuiltIn

open Unicode (isSpace isWord)

variable {ss ts : List Stale} {prev : Option Char} {c : Char} {cs v w r : List Char}

/-- A keyword, blanks and a quote. -/
def Lead.Spells (l : Lead) (w : List Char) : Prop :=
  ∃ blanks q, w = l.keyword ++ (blanks ++ [q]) ∧ (∀ b ∈ blanks, isSpace b = true) ∧
    (l.spaced = true → blanks ≠ []) ∧ isQuote q = true

def IsLead (w : List Char) : Prop := ∃ l ∈ leads, l.Spells w

theorem not_isSpace_of_isQuote (h : isQuote c = true) : isSpace c = false := by
  have hc : c = '\'' ∨ c = '"' := by simpa [isQuote] using h
  obtain rfl | rfl := hc
  · rfl
  · rfl

theorem takeWhile_blanks {blanks : List Char} (hb : ∀ b ∈ blanks, isSpace b = true)
    (hc : isSpace c = false) : (blanks ++ c :: r).takeWhile isSpace = blanks := by
  rw [List.takeWhile_append_of_pos hb, List.takeWhile_cons_of_neg (by simp [hc]), List.append_nil]

theorem keyword_cases : ∀ l ∈ leads, ∀ k ∈ leads, l.keyword <+: k.keyword →
    l = k ∨ (l.spaced = true ∧ k.keyword = l.keyword ++ ['(']) := by
  decide +kernel

theorem Lead.Spells.keyword_prefix {l : Lead} (h : l.Spells w) : l.keyword <+: w := by
  obtain ⟨bs, q, rfl, -⟩ := h
  exact List.prefix_append _ _

theorem Lead.Spells.unique {l k : Lead} (hl : l ∈ leads) (hk : k ∈ leads) (hv : l.Spells v)
    (hw : k.Spells w) (hvc : v <+: cs) (hwc : w <+: cs) (hlk : l.keyword <+: k.keyword) :
    v = w := by
  obtain ⟨bs, q, rfl, hbs, hsp, hq⟩ := hv
  obtain ⟨ds, p, rfl, hds, -, hp⟩ := hw
  obtain ⟨r, rfl⟩ := hvc
  obtain ⟨r', h⟩ := hwc
  obtain rfl | ⟨hspaced, hkw⟩ := keyword_cases l hl k hk hlk
  · simp only [List.append_assoc, List.append_cancel_left_eq, List.singleton_append] at h
    have ht := congrArg (List.takeWhile isSpace) h
    rw [takeWhile_blanks hds (not_isSpace_of_isQuote hp),
      takeWhile_blanks hbs (not_isSpace_of_isQuote hq)] at ht
    subst ht
    simp only [List.append_cancel_left_eq, List.cons.injEq] at h
    rw [h.1]
  · -- a blank would have to stand where the other keyword has its parenthesis
    rw [hkw] at h
    simp only [List.append_assoc, List.append_cancel_left_eq, List.singleton_append] at h
    cases bs with
    | nil => exact absurd rfl (hsp hspaced)
    | cons b bs =>
      obtain rfl := (List.cons.inj h).1
      exact absurd (hbs _ List.mem_cons_self) (by decide)

theorem IsLead.unique (hv : IsLead v) (hw : IsLead w) (hvc : v <+: cs) (hwc : w <+: cs) :
    v = w := by
  obtain ⟨l, hl, hv⟩ := hv
  obtain ⟨k, hk, hw⟩ := hw
  obtain hlk | hkl := List.prefix_or_prefix_of_prefix (hv.keyword_prefix.trans hvc)
      (hw.keyword_prefix.trans hwc)
  · exact hv.unique hl hk hw hvc hwc hlk
  · exact (hw.unique hk hl hv hwc hvc hkl).symm

theorem Lead.length?_eq_some {l : Lead} {n : Nat} :
    l.length? cs = some n ↔ ∃ w, l.Spells w ∧ w <+: cs ∧ w.length = n := by
  constructor
  · intro h
    rw [Lead.length?] at h
    split at h
    · rename_i hc
      simp only [Bool.and_eq_true, Bool.or_eq_true, Bool.not_eq_true', List.isPrefixOf_iff_prefix,
        Option.any_eq_true] at hc
      obtain ⟨⟨⟨rest, rfl⟩, hsp⟩, q, hq, hquote⟩ := hc
      rw [List.drop_left] at h hsp hq
      obtain ⟨r, hr⟩ := List.head?_eq_some_iff.1 hq
      have hrest := List.takeWhile_append_dropWhile (p := isSpace) (l := rest)
      rw [hr] at hrest
      refine ⟨l.keyword ++ (rest.takeWhile isSpace ++ [q]),
        ⟨_, q, rfl, fun b hb => List.mem_takeWhile_imp hb, fun hs hnil => ?_, hquote⟩, ⟨r, ?_⟩, ?_⟩
      · simp [hs, hnil] at hsp
      · conv_rhs => rw [← hrest]
        simp
      · simpa [Nat.add_assoc] using Option.some.inj h
    · simp at h
  · rintro ⟨w, ⟨bs, q, rfl, hbs, hsp, hq⟩, ⟨r, rfl⟩, rfl⟩
    have hq' := not_isSpace_of_isQuote hq
    have hrest : (l.keyword ++ (bs ++ [q]) ++ r).drop l.keyword.length = bs ++ q :: r := by simp
    have htake : (bs ++ q :: r).takeWhile isSpace = bs := takeWhile_blanks hbs hq'
    have hdrop : (bs ++ q :: r).dropWhile isSpace = q :: r := by
      rw [List.dropWhile_append_of_pos hbs, List.dropWhile_cons_of_neg (by simp [hq'])]
    have hcond : bs = [] → l.spaced = false := by
      intro hb
      cases hs : l.spaced with
      | false => rfl
      | true => exact absurd hb (hsp hs)
    simp only [Lead.length?, hrest, htake, hdrop]
    cases bs <;> simp_all [Nat.add_assoc]

theorem IsLead.findSome? (h : IsLead w) (hw : w <+: cs) :
    leads.findSome? (·.length? cs) = some w.length := by
  cases hf : leads.findSome? (·.length? cs) with
  | none =>
    obtain ⟨l, hl, hs⟩ := h
    have hn := List.findSome?_eq_none_iff.1 hf l hl
    rw [Lead.length?_eq_some.2 ⟨w, hs, hw, rfl⟩] at hn
    cases hn
  | some n =>
    obtain ⟨l, hl, hn⟩ := List.exists_of_findSome?_eq_some hf
    obtain ⟨v, hv, hvc, rfl⟩ := Lead.length?_eq_some.1 hn
    rw [IsLead.unique ⟨l, hl, hv⟩ h hvc hw]

structure Site where
  lead : List Char
  stale : Stale
  closer : Char
  deriving DecidableEq

namespace Site

def span (x : Site) (path : List Char) : List Char :=
  x.lead ++ (path ++ (x.stale.name ++ [x.closer]))

def old (x : Site) : List Char := x.span x.stale.path

def new (x : Site) : List Char := x.span (x.stale.path ++ x.stale.missing)

end Site

/-- A site begins at the front of a text that goes on with `rest`. -/
structure Begins (ss : List Stale) (prev : Option Char) (cs : List Char) (x : Site)
    (rest : List Char) : Prop where
  start : prev.any isWord = false
  lead : IsLead x.lead
  known : x.stale ∈ ss
  closer : isCloser x.closer = true
  span : cs = x.old ++ rest

variable {x y : Site} {rest rest' : List Char}

theorem stale_cases : ∀ s ∈ stale, ∀ t ∈ stale, s.path ++ s.name <+: t.path ++ t.name → s = t := by
  decide +kernel

theorem missing_cases : ∀ s ∈ stale, ∀ t ∈ stale,
    ¬ t.path ++ t.name <+: s.path ++ s.missing ++ s.name ∧
      ¬ s.path ++ s.missing ++ s.name <+: t.path ++ t.name := by
  decide +kernel

theorem Begins.mono (h : Begins ss prev cs x rest) (hs : x.stale ∈ ts) :
    Begins ts prev cs x rest := ⟨h.start, h.lead, hs, h.closer, h.span⟩

theorem Begins.lead_prefix (h : Begins ss prev cs x rest) : x.lead <+: cs := by
  rw [h.span, Site.old, Site.span, List.append_assoc]
  exact List.prefix_append _ _

theorem Begins.unique (hs : ss ⊆ stale) (ht : ts ⊆ stale) (h : Begins ss prev cs x rest)
    (h' : Begins ts prev cs y rest') : x = y ∧ rest = rest' := by
  have hlead : x.lead = y.lead := h.lead.unique h'.lead h.lead_prefix h'.lead_prefix
  have hspan := h.span.symm.trans h'.span
  obtain ⟨lead, s, k⟩ := x
  obtain ⟨lead', t, k'⟩ := y
  obtain rfl : lead = lead' := hlead
  simp only [Site.old, Site.span, List.append_assoc, List.append_cancel_left_eq,
    List.singleton_append] at hspan
  rw [← List.append_assoc, ← List.append_assoc] at hspan
  have hst : s = t := by
    obtain hp | hp := List.prefix_or_prefix_of_prefix
        (List.prefix_append (s.path ++ s.name) (k :: rest))
        (hspan ▸ List.prefix_append (t.path ++ t.name) (k' :: rest'))
    · exact stale_cases s (hs h.known) t (ht h'.known) hp
    · exact (stale_cases t (ht h'.known) s (hs h.known) hp).symm
  subst hst
  obtain ⟨rfl, rfl⟩ := List.cons.inj (List.append_cancel_left hspan)
  exact ⟨rfl, rfl⟩

theorem not_begins_new (hlead : IsLead x.lead) (hx : x.stale ∈ stale) (ht : ts ⊆ stale) :
    ¬ Begins ts prev (x.new ++ r) y rest := by
  intro h
  have hnew : x.new ++ r = x.lead ++ ((x.stale.path ++ x.stale.missing ++ x.stale.name) ++
      x.closer :: r) := by
    simp [Site.new, Site.span]
  have hspan := h.span
  have hl : x.lead = y.lead :=
    hlead.unique h.lead (hnew ▸ List.prefix_append _ _) h.lead_prefix
  rw [hnew, Site.old, Site.span, ← hl, List.append_assoc x.lead, List.append_cancel_left_eq]
    at hspan
  have hy : y.stale.path ++ y.stale.name <+:
      x.stale.path ++ x.stale.missing ++ x.stale.name ++ x.closer :: r := by
    rw [hspan]
    exact ⟨y.closer :: rest, by simp⟩
  obtain ⟨hn, hn'⟩ := missing_cases x.stale hx y.stale (ht h.known)
  obtain hp | hp := List.prefix_or_prefix_of_prefix hy (List.prefix_append _ _)
  · exact hn hp
  · exact hn' hp

theorem Stale.fits_iff {s : Stale} :
    s.fits cs = true ↔ ∃ k rest, isCloser k = true ∧ cs = s.path ++ (s.name ++ [k]) ++ rest := by
  rw [Stale.fits, Bool.and_eq_true, List.isPrefixOf_iff_prefix, Option.any_eq_true]
  constructor
  · rintro ⟨⟨t, rfl⟩, k, hk, hclose⟩
    rw [List.getElem?_append_right (Nat.le_refl _), Nat.sub_self, ← List.head?_eq_getElem?] at hk
    obtain ⟨rest, rfl⟩ := List.head?_eq_some_iff.1 hk
    exact ⟨k, rest, hclose, by simp⟩
  · rintro ⟨k, rest, hk, rfl⟩
    refine ⟨⟨k :: rest, by simp⟩, k, ?_, hk⟩
    have he : s.path ++ (s.name ++ [k]) ++ rest = s.path ++ s.name ++ k :: rest := by simp
    rw [he, List.getElem?_append_right (Nat.le_refl _), Nat.sub_self]
    rfl

theorem exists_begins_of_site? {point : Nat × List Char} (h : site? ss prev cs = some point) :
    ∃ x rest, Begins ss prev cs x rest ∧
      point = (x.lead.length + x.stale.path.length, x.stale.missing) := by
  rw [site?] at h
  split at h
  · cases h
  · rename_i hstart
    obtain ⟨n, hn, hbind⟩ := Option.bind_eq_some_iff.1 h
    obtain ⟨s, hfind, hpoint⟩ := Option.bind_eq_some_iff.1 hbind
    obtain ⟨l, hl, hlen⟩ := List.exists_of_findSome?_eq_some hn
    obtain ⟨w, hw, ⟨t, rfl⟩, rfl⟩ := Lead.length?_eq_some.1 hlen
    have hfit := List.find?_some hfind
    rw [List.drop_left] at hfit
    obtain ⟨k, rest, hk, rfl⟩ := Stale.fits_iff.1 hfit
    refine ⟨⟨w, s, k⟩, rest, ⟨by simpa using hstart, ⟨l, hl, hw⟩,
      List.mem_of_find?_eq_some hfind, hk, ?_⟩, (Option.some.inj hpoint).symm⟩
    simp [Site.old, Site.span]

theorem site?_eq_none : site? ss prev cs = none ↔ ∀ x rest, ¬ Begins ss prev cs x rest := by
  constructor
  · intro h x rest hb
    have hfit : x.stale.fits (cs.drop x.lead.length) = true := by
      refine Stale.fits_iff.2 ⟨x.closer, rest, hb.closer, ?_⟩
      rw [hb.span, Site.old, Site.span, List.append_assoc, List.drop_left, List.append_assoc]
    simp only [site?, hb.start, hb.lead.findSome? hb.lead_prefix] at h
    cases hf : ss.find? (·.fits (cs.drop x.lead.length)) with
    | none => exact absurd hfit (List.find?_eq_none.1 hf x.stale hb.known)
    | some s => simp [hf] at h
  · intro h
    cases hs : site? ss prev cs with
    | none => rfl
    | some point =>
      obtain ⟨x, rest, hb, -⟩ := exists_begins_of_site? hs
      exact absurd hb (h x rest)

theorem Begins.site? (hs : ss ⊆ stale) (h : Begins ss prev cs x rest) :
    site? ss prev cs = some (x.lead.length + x.stale.path.length, x.stale.missing) := by
  cases hc : BuiltIn.site? ss prev cs with
  | none => exact absurd h (site?_eq_none.1 hc x rest)
  | some point =>
    obtain ⟨y, rest', hb, rfl⟩ := exists_begins_of_site? hc
    obtain ⟨rfl, -⟩ := h.unique hs hs hb
    rfl

/-- The beginning of a keyword, or of more than one. -/
def Stirs (w : List Char) : Prop := ∃ l ∈ leads, l.keyword <+: w ∨ w <+: l.keyword

instance : DecidablePred Stirs := fun _ => inferInstanceAs (Decidable (∃ _ ∈ leads, _))

/-- No lead begins in `w`, whatever goes on behind it. -/
def Quiet : Option Char → List Char → Prop
  | _, [] => True
  | prev, c :: w => (prev.any isWord = false → ¬ Stirs (c :: w)) ∧ Quiet (some c) w

instance Quiet.decide : (prev : Option Char) → (w : List Char) → Decidable (Quiet prev w)
  | _, [] => inferInstanceAs (Decidable True)
  | _, c :: w =>
    have := Quiet.decide (some c) w
    inferInstanceAs (Decidable (_ ∧ _))

/-- The character in front of what follows `w`. -/
def last : Option Char → List Char → Option Char
  | prev, [] => prev
  | _, c :: w => last (some c) w

@[simp] theorem last_append : last prev (v ++ w) = last (last prev v) w := by
  induction v generalizing prev with
  | nil => rfl
  | cons c v ih => exact ih

theorem Stirs.of_append (h : Stirs (v ++ w)) : Stirs v := by
  obtain ⟨l, hl, h | h⟩ := h
  · exact ⟨l, hl, List.prefix_or_prefix_of_prefix h (List.prefix_append v w)⟩
  · exact ⟨l, hl, .inr ((List.prefix_append v w).trans h)⟩

theorem IsLead.stirs (hv : IsLead v) (hvc : v <+: cs) (hw : w <+: cs) : Stirs w := by
  obtain ⟨l, hl, hspell⟩ := hv
  exact ⟨l, hl, List.prefix_or_prefix_of_prefix (hspell.keyword_prefix.trans hvc) hw⟩

theorem Quiet.append (hv : Quiet prev v) (hw : Quiet (last prev v) w) : Quiet prev (v ++ w) := by
  induction v generalizing prev with
  | nil => exact hw
  | cons c v ih => exact ⟨fun hp hs => hv.1 hp hs.of_append, ih hv.2 hw⟩

theorem Quiet.of_none (h : Quiet none w) : Quiet prev w := by
  cases w with
  | nil => trivial
  | cons c w => exact ⟨fun _ => h.1 rfl, h.2⟩

theorem Quiet.not_begins (h : Quiet prev (c :: w)) : ¬ Begins ss prev (c :: w ++ r) x rest :=
  fun hb => h.1 hb.start (hb.lead.stirs hb.lead_prefix (List.prefix_append _ _))

def initials : List Char := ['f', 'i', 'r', 'j']

theorem keyword_quiet : ∀ l ∈ leads, l.keyword.head? ∈ initials.map some ∧
    Quiet l.keyword.head? l.keyword.tail := by
  decide +kernel

theorem keyword_cons {l : Lead} (hl : l ∈ leads) :
    ∃ a k, a ∈ initials ∧ l.keyword = a :: k ∧ Quiet (some a) k := by
  obtain ⟨hhead, hquiet⟩ := keyword_quiet l hl
  obtain ⟨a, ha, hhead⟩ := List.mem_map.1 hhead
  obtain ⟨k, hk⟩ := List.head?_eq_some_iff.1 hhead.symm
  rw [hk] at hquiet
  exact ⟨a, k, ha, hk, hquiet⟩

theorem initial_of_stirs (h : Stirs (c :: w)) : c ∈ initials := by
  obtain ⟨l, hl, h⟩ := h
  obtain ⟨a, k, ha, hk, -⟩ := keyword_cons hl
  rw [hk, List.cons_prefix_cons, List.cons_prefix_cons] at h
  obtain ⟨rfl, -⟩ | ⟨rfl, -⟩ := h
  · exact ha
  · exact ha

theorem quiet_of_initials (h : ∀ c ∈ w, c ∉ initials) : Quiet prev w := by
  induction w generalizing prev with
  | nil => trivial
  | cons c w ih =>
    exact ⟨fun _ hs => h c List.mem_cons_self (initial_of_stirs hs),
      ih fun d hd => h d (List.mem_cons_of_mem _ hd)⟩

theorem path_quiet : ∀ s ∈ stale,
    Quiet none (s.path ++ s.name) ∧ Quiet none (s.path ++ s.missing ++ s.name) := by
  decide +kernel

theorem not_initial {p : Char → Bool} (hp : initials.all (fun a => !p a) = true) (h : p c = true) :
    c ∉ initials := by
  intro hc
  have hno := List.all_eq_true.1 hp c hc
  rw [h] at hno
  cases hno

theorem not_initial_of_isSpace (h : isSpace c = true) : c ∉ initials := not_initial (by decide) h

theorem not_initial_of_isCloser (h : isCloser c = true) : c ∉ initials := not_initial (by decide) h

theorem IsLead.quiet (h : IsLead w) : ∃ a v, w = a :: v ∧ Quiet (some a) v := by
  obtain ⟨l, hl, bs, q, rfl, hbs, -, hq⟩ := h
  obtain ⟨a, k, -, hk, hquiet⟩ := keyword_cons hl
  refine ⟨a, k ++ (bs ++ [q]), ?_, hquiet.append ?_⟩
  · rw [hk, List.cons_append]
  · apply quiet_of_initials
    intro c hc
    obtain hc | hc := List.mem_append.1 hc
    · exact not_initial_of_isSpace (hbs c hc)
    · obtain rfl := List.mem_singleton.1 hc
      exact not_initial_of_isCloser (by simp [isCloser, hq])

theorem Site.quiet_span {path : List Char} (hlead : IsLead x.lead)
    (hpath : Quiet none (path ++ x.stale.name)) (hcloser : isCloser x.closer = true) :
    ∃ a v, x.span path = a :: v ∧ Quiet (some a) v ∧ last (some a) v = some x.closer := by
  obtain ⟨a, v, hv, hquiet⟩ := hlead.quiet
  refine ⟨a, v ++ (path ++ x.stale.name ++ [x.closer]), ?_, ?_, ?_⟩
  · simp [span, hv]
  · refine hquiet.append (hpath.of_none.append (quiet_of_initials fun c hc => ?_))
    obtain rfl := List.mem_singleton.1 hc
    exact not_initial_of_isCloser hcloser
  · simp [last]

theorem Begins.quiet_old (hs : ss ⊆ stale) (h : Begins ss prev cs x rest) :
    ∃ a v, x.old = a :: v ∧ Quiet (some a) v ∧ last (some a) v = some x.closer :=
  x.quiet_span h.lead (path_quiet x.stale (hs h.known)).1 h.closer

theorem Begins.quiet_new (hs : ss ⊆ stale) (h : Begins ss prev cs x rest) :
    ∃ a v, x.new = a :: v ∧ Quiet (some a) v ∧ last (some a) v = some x.closer :=
  x.quiet_span h.lead (path_quiet x.stale (hs h.known)).2 h.closer

end Repath.BuiltIn
