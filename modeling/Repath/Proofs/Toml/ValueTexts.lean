import Repath.Proofs.Toml.KeyTexts
import Repath.Proofs.Toml.ScalarTexts

namespace Repath.Toml

variable {α : Type} {c close : Char} {cs e g rest t u w : List Char} {path : List String}
  {R : List Char → α → Prop} {x : α} {xs : List α} {v : Value} {vs : List Value} {fuel n : Nat}

/-- Characters that no value, no key and no spelling of a scalar begins with or goes on with. -/
def isStop (c : Char) : Bool := isBlank c || ['\n', '\r', '#', ',', ']', '\x7d'].contains c

theorem isStop_iff : isStop c = true ↔
    isBlank c = true ∨ c = '\n' ∨ c = '\r' ∨ c = '#' ∨ c = ',' ∨ c = ']' ∨ c = '\x7d' := by
  simp [isStop]

/-- What may stand behind a value: blanks, and the end of the text, of the line, or of the item. -/
inductive Ends : List Char → Prop
  | nil : Ends []
  | blank {c : Char} {cs : List Char} (hc : isBlank c = true) (h : Ends cs) : Ends (c :: cs)
  | stop {c : Char} {cs : List Char} (hb : isBlank c = false) (hc : isStop c = true) :
      Ends (c :: cs)

theorem Ends.head (h : Ends cs) : ∀ c ∈ cs.head?, isStop c = true := by
  rintro c hc
  cases h with
  | nil => cases hc
  | blank hb =>
    obtain rfl := Option.some.inj hc
    exact isStop_iff.2 (.inl hb)
  | stop hb hs =>
    obtain rfl := Option.some.inj hc
    exact hs

theorem Ends.ne {c : Char} (h : Ends cs) (hc : isStop c = false) : cs.head? ≠ some c := by
  intro hcs
  rw [h.head c hcs] at hc
  cases hc

theorem Ends.of_gap (h : Gap true g) (hc : close = ',' ∨ close = ']' ∨ close = '\x7d') :
    Ends (g ++ close :: rest) := by
  induction h with
  | nil => obtain rfl | rfl | rfl := hc <;> exact .stop rfl rfl
  | blank hb h ih => exact .blank hb ih
  | line he h ih => cases he <;> exact .stop rfl rfl
  | comment _ ht => cases ht; exact .stop rfl rfl

theorem not_isPart_of_isStop (h : isStop c = true) : Scalar.isPart c = false := by
  obtain hb | rfl | rfl | rfl | rfl | rfl | rfl := isStop_iff.1 h
  · obtain rfl | rfl := isBlank_iff.1 hb <;> rfl
  all_goals rfl

theorem not_isStop_of_isPart (h : Scalar.isPart c = true) : isStop c = false := by
  cases hc : isStop c with
  | false => rfl
  | true =>
    rw [not_isPart_of_isStop hc] at h
    cases h

/-- A text that begins with a part of its own. -/
def Firm (w : List Char) : Prop := ∃ c v, w = c :: v ∧ isStop c = false

theorem Firm.append (h : Firm w) (cs : List Char) : Firm (w ++ cs) := by
  obtain ⟨c, v, rfl, hc⟩ := h
  exact ⟨c, v ++ cs, rfl, hc⟩

theorem Firm.pos (h : Firm w) : 0 < w.length := by
  obtain ⟨c, v, rfl, hc⟩ := h
  exact Nat.succ_pos _

theorem Firm.skip (h : Firm w) : skipLines false w = some w := by
  obtain ⟨c, v, rfl, hc⟩ := h
  have hne : ¬isStop c = true := by simp [hc]
  simp only [isStop_iff, not_or, Bool.not_eq_true] at hne
  exact skipLines_stop hne.1 hne.2.1 hne.2.2.1 hne.2.2.2.1 v

theorem Firm.head_ne (h : Firm w) (hc : isStop c = true) : w.head? ≠ some c := by
  obtain ⟨d, v, rfl, hd⟩ := h
  rintro hw
  obtain rfl := Option.some.inj hw
  rw [hc] at hd
  cases hd

theorem Firm.not_blank (h : Firm w) : ∀ c ∈ w.head?, isBlank c = false := by
  obtain ⟨d, v, rfl, hd⟩ := h
  rintro c hc
  obtain rfl := Option.some.inj hc
  rw [isStop, Bool.or_eq_false_iff] at hd
  exact hd.1

theorem KeyText.firm {k : List Char} (h : KeyText k path) : Firm k := by
  obtain ⟨c, v, rfl, hc⟩ := h.exists_cons
  refine ⟨c, v, rfl, ?_⟩
  obtain hc | rfl | rfl := hc
  · refine not_isStop_of_isPart ?_
    simp only [isBareKeyChar, Bool.or_eq_true, beq_iff_eq] at hc
    obtain (hc | rfl) | rfl := hc
    · exact Scalar.isPart_of_isAlphanum hc
    · rfl
    · rfl
  · rfl
  · rfl

def listStep (close : Char) (item : List Char → Option (α × List Char))
    (more : List Char → Option (List α × List Char)) (cs : List Char) :
    Option (List α × List Char) :=
  (skipLines false cs).bind fun cs =>
    if cs.head? = some close then some ([], cs.tail)
    else (item cs).bind fun (x, rest) => (skipLines false rest).bind fun rest =>
      if rest.head? = some close then some ([x], rest.tail)
      else if rest.head? = some ',' then
        (more rest.tail).bind fun (xs, rest) => some (x :: xs, rest)
      else none

theorem head?_ne_of_forall (h : ∀ rest, cs = c :: rest → False) : cs.head? ≠ some c := by
  cases cs with
  | nil => simp
  | cons d cs =>
    intro hd
    exact h cs (by rw [Option.some.inj hd])

theorem items_eq (fuel room : Nat) (cs : List Char) :
    items (fuel + 1) room cs = listStep ']' (value fuel room) (items fuel room) cs := by
  rw [items, listStep]
  refine congrArg (Option.bind _) (funext fun cs => ?_)
  split
  · rfl
  · next hclose =>
    rw [if_neg (head?_ne_of_forall hclose)]
    refine congrArg (Option.bind _) (funext fun found => ?_)
    obtain ⟨v, rest⟩ := found
    refine congrArg (Option.bind _) (funext fun rest => ?_)
    split
    · rfl
    · rw [List.head?_cons, if_neg (by simp), if_pos rfl]
      rfl
    · next hclose hcomma =>
      rw [if_neg (head?_ne_of_forall hclose), if_neg (head?_ne_of_forall hcomma)]

theorem entries_eq (fuel room : Nat) (cs : List Char) :
    entries (fuel + 1) room cs = listStep '\x7d' (assignment fuel room) (entries fuel room) cs := by
  rw [entries, listStep]
  refine congrArg (Option.bind _) (funext fun cs => ?_)
  split
  · rfl
  · next hclose =>
    rw [if_neg (head?_ne_of_forall hclose)]
    refine congrArg (Option.bind _) (funext fun found => ?_)
    obtain ⟨v, rest⟩ := found
    refine congrArg (Option.bind _) (funext fun rest => ?_)
    split
    · rfl
    · rw [List.head?_cons, if_neg (by simp), if_pos rfl]
      rfl
    · next hclose hcomma =>
      rw [if_neg (head?_ne_of_forall hclose), if_neg (head?_ne_of_forall hcomma)]

/-- A reader of items takes a text of the grammar, whatever may stand behind an item. -/
def ReadsAll (R : List Char → α → Prop) (read : Nat → List Char → Option (α × List Char)) : Prop :=
  ∀ w x, R w x → ∀ fuel rest, 2 * w.length ≤ fuel → Ends rest →
    read fuel (w ++ rest) = some (x, rest)

def ReadsOnly (R : List Char → α → Prop) (read : List Char → Option (α × List Char)) : Prop :=
  ∀ {cs x rest}, read cs = some (x, rest) → ∃ w, R w x ∧ cs = w ++ rest

def ListsOnly (R : List Char → α → Prop) (close : Char)
    (read : List Char → Option (List α × List Char)) : Prop :=
  ∀ {cs xs rest}, read cs = some (xs, rest) → ∃ u, Listing R u xs ∧ cs = u ++ close :: rest

variable {item : List Char → Option (α × List Char)}
  {more : List Char → Option (List α × List Char)}

theorem eq_cons_of_head? {d : Char} (h : cs.head? = some d) : cs = d :: cs.tail := by
  cases cs with
  | nil => cases h
  | cons c cs => rw [Option.some.inj h, List.tail_cons]

theorem Firm.of_skip (h : Firm w) (hskip : skipLines false cs = some (w ++ rest)) :
    ∃ g, Gap true g ∧ cs = g ++ (w ++ rest) := by
  obtain ⟨c, v, rfl, -⟩ := h
  exact exists_gap hskip

theorem ListsOnly.step (hitem : ReadsOnly R item) (hfirm : ∀ {w x}, R w x → Firm w)
    (hmore : ListsOnly R close more) : ListsOnly R close (listStep close item more) := by
  intro cs xs rest h
  obtain ⟨v, hskip, hv⟩ := Option.bind_eq_some_iff.1 h
  split at hv
  · next hclose =>
    cases hv
    rw [eq_cons_of_head? hclose] at hskip
    obtain ⟨g, hg, rfl⟩ := exists_gap hskip
    exact ⟨g, .nil hg, rfl⟩
  obtain ⟨⟨x, v'⟩, hx, hv'⟩ := Option.bind_eq_some_iff.1 hv
  obtain ⟨w, hw, rfl⟩ := hitem hx
  obtain ⟨g, hg, rfl⟩ := (hfirm hw).of_skip hskip
  obtain ⟨u, hskip', hu⟩ := Option.bind_eq_some_iff.1 hv'
  split at hu
  · next hclose =>
    cases hu
    rw [eq_cons_of_head? hclose] at hskip'
    obtain ⟨g', hg', rfl⟩ := exists_gap hskip'
    exact ⟨_, .last hg hw hg', by simp⟩
  split at hu
  · next hcomma =>
    obtain ⟨⟨ys, rest'⟩, hys, heq⟩ := Option.bind_eq_some_iff.1 hu
    cases heq
    rw [eq_cons_of_head? hcomma] at hskip'
    obtain ⟨g', hg', rfl⟩ := exists_gap hskip'
    obtain ⟨t, ht, htail⟩ := hmore hys
    exact ⟨_, .cons hg hw hg' ht, by simp [htail]⟩
  · cases hu

/-- A listing is read to its end, by a reader that goes through it step by step. -/
theorem listing_append {item : Nat → List Char → Option (α × List Char)}
    (read : Nat → List Char → Option (List α × List Char))
    (hread : ∀ fuel cs, read (fuel + 1) cs = listStep close (item fuel) (read fuel) cs)
    (hclose : close = ']' ∨ close = '\x7d') (hitem : ReadsAll R item)
    (hfirm : ∀ {w x}, R w x → Firm w) (h : Listing R u xs) (hfuel : 2 * u.length < fuel) :
    read fuel (u ++ close :: rest) = some (xs, rest) := by
  have hstop : isStop close = true ∧ close ≠ ',' ∧ isBlank close = false ∧ close ≠ '\n' ∧
      close ≠ '\r' ∧ close ≠ '#' := by
    obtain rfl | rfl := hclose <;> decide
  have hskip : ∀ cs, skipLines false (close :: cs) = some (close :: cs) :=
    skipLines_stop hstop.2.2.1 hstop.2.2.2.1 hstop.2.2.2.2.1 hstop.2.2.2.2.2
  induction h generalizing fuel with
  | @nil g hg =>
    obtain ⟨fuel, rfl⟩ := Nat.exists_eq_add_of_le' (Nat.zero_lt_of_lt hfuel)
    rw [hread, listStep, skipLines_gap hg, hskip, Option.bind_some, List.head?_cons, if_pos rfl]
    rfl
  | @last g w g' x hg hw hg' =>
    obtain ⟨fuel, rfl⟩ := Nat.exists_eq_add_of_le' (Nat.zero_lt_of_lt hfuel)
    have hlen : 2 * w.length ≤ fuel := by
      simp only [List.length_append] at hfuel
      omega
    have hx := hitem w x hw fuel (g' ++ close :: rest) hlen (.of_gap hg' (.inr hclose))
    have hfirst := (hfirm hw).append (g' ++ close :: rest)
    rw [List.append_assoc, List.append_assoc, hread, listStep, skipLines_gap hg, hfirst.skip,
      Option.bind_some, if_neg (hfirst.head_ne hstop.1), hx, Option.bind_some]
    dsimp only
    rw [skipLines_gap hg', hskip, Option.bind_some, List.head?_cons, if_pos rfl]
    rfl
  | @cons g w g' u x xs hg hw hg' hu ih =>
    obtain ⟨fuel, rfl⟩ := Nat.exists_eq_add_of_le' (Nat.zero_lt_of_lt hfuel)
    have hlen : 2 * w.length ≤ fuel ∧ 2 * u.length < fuel := by
      simp only [List.length_append, List.length_cons] at hfuel
      omega
    have hx := hitem w x hw fuel (g' ++ ',' :: (u ++ close :: rest)) hlen.1 (.of_gap hg' (.inl rfl))
    have hfirst := (hfirm hw).append (g' ++ ',' :: (u ++ close :: rest))
    have hcomma : skipLines false (',' :: (u ++ close :: rest)) =
        some (',' :: (u ++ close :: rest)) := rfl
    have hne : (some ',' : Option Char) ≠ some close := fun h => hstop.2.1 (Option.some.inj h).symm
    rw [List.append_assoc, List.append_assoc, List.append_assoc, List.cons_append, hread, listStep,
      skipLines_gap hg, hfirst.skip, Option.bind_some, if_neg (hfirst.head_ne hstop.1), hx,
      Option.bind_some]
    dsimp only
    rw [skipLines_gap hg', hcomma, Option.bind_some, List.head?_cons, if_neg hne, if_pos rfl,
      List.tail_cons, ih hlen.2]
    rfl

theorem Keyval.firm {y : List String × α} (h : Keyval R w y) : Firm w := by
  cases h with
  | intro hk => exact hk.firm.append _

theorem readsAll_assignment {room : Nat} {R : List Char → Value → Prop}
    (hvalue : ReadsAll R fun fuel => value fuel room) (hfirm : ∀ {w v}, R w v → Firm w) :
    ReadsAll (Keyval R) fun fuel => assignment fuel room := by
  rintro _ _ ⟨hk, hb, hb', hw⟩ fuel rest hfuel hrest
  rename_i k b b' w path v
  simp only [List.length_append, List.length_cons] at hfuel
  obtain ⟨fuel, rfl⟩ := Nat.exists_eq_add_of_le' (show 1 ≤ fuel by omega)
  have hlen : k.length ≤ fuel + 1 ∧ 2 * w.length ≤ fuel := by omega
  have hkey : key (fuel + 1) (k ++ (b ++ '=' :: (b' ++ (w ++ rest)))) =
      some (path, '=' :: (b' ++ (w ++ rest))) := key_append hk hb (.inl rfl) hlen.1
  have hskip : skipBlanks (b' ++ (w ++ rest)) = w ++ rest :=
    skipBlanks_append hb' ((hfirm hw).append rest).not_blank
  have hv := hvalue w v hw fuel rest hlen.2 hrest
  simp only [List.append_assoc, List.cons_append] at hv ⊢
  rw [assignment, hkey]
  simp only [Option.bind_eq_bind, Option.bind_some, hskip, hv]

theorem readsOnly_assignment {room : Nat} {R : List Char → Value → Prop}
    (hvalue : ReadsOnly R (value fuel room)) :
    ReadsOnly (Keyval R) (assignment (fuel + 1) room) := by
  intro cs y rest h
  rw [assignment] at h
  obtain ⟨⟨path, v⟩, hkey, hrest⟩ := Option.bind_eq_some_iff.1 h
  obtain ⟨k, b, hk, hb, rfl⟩ := exists_key hkey
  dsimp only at hrest
  split at hrest
  · next u =>
    obtain ⟨⟨x, rest'⟩, hv, heq⟩ := Option.bind_eq_some_iff.1 hrest
    cases heq
    obtain ⟨b', hb', hu⟩ := exists_skipBlanks u
    obtain ⟨w, hw, hskip⟩ := hvalue hv
    exact ⟨_, .intro hk hb hb' hw, by rw [hu, hskip]; simp⟩
  · cases hrest

theorem StringText.exists_cons {s : List Char} (h : StringText w s) :
    ∃ q v, w = q :: v ∧ (q = '"' ∨ q = '\'') := by
  obtain @⟨style, t, w, s, -, -⟩ := h
  have hquote : style.quote = '"' ∨ style.quote = '\'' := by
    rw [StringStyle.quote]
    split
    · exact .inr rfl
    · exact .inl rfl
  obtain ⟨v, hv⟩ : ∃ v, style.quotes = style.quote :: v := by
    rw [StringStyle.quotes]
    split
    · exact ⟨_, rfl⟩
    · exact ⟨_, rfl⟩
  refine ⟨style.quote, v ++ (t ++ w ++ style.quotes), ?_, hquote⟩
  rw [← List.cons_append, ← hv]

theorem value_string {s : List Char} (h : StringText w s) (hrest : Ends rest) (fuel room : Nat) :
    value (fuel + 1) room (w ++ rest) = some (.string (String.ofList s), rest) := by
  have hread := string_of_text h (hrest.ne rfl) (hrest.ne rfl)
  obtain ⟨q, v, rfl, hq⟩ := h.exists_cons
  rw [List.cons_append] at hread ⊢
  obtain rfl | rfl := hq
  · rw [value, hread]
    rfl
  · rw [value, hread]
    rfl

theorem value_scalar {kind : ScalarKind} (h : Scalar.kind? w = some kind) (hrest : Ends rest)
    (fuel room : Nat) :
    value (fuel + 1) room (w ++ rest) = some (.scalar kind (String.ofList w), rest) := by
  have hsplit : Scalar.split (w ++ rest) = (w, rest) := by
    refine Scalar.split_of_kind h (fun c hc => not_isPart_of_isStop (hrest.head c hc)) ?_
    rintro c v rfl
    cases hrest with
    | blank _ hrest =>
      have hc := not_isPart_of_isStop (hrest.head c rfl)
      cases hdigit : c.isDigit with
      | false => rfl
      | true =>
        rw [Scalar.isPart_of_isDigit hdigit] at hc
        cases hc
    | stop hb => cases hb
  obtain ⟨c, v, rfl, hc⟩ := Scalar.head_of_kind h
  have hne : ∀ d u, c :: v ++ rest = d :: u → Scalar.isPart d = false → False := by
    rintro d u hd hpart
    rw [← (List.cons.inj hd).1, hc] at hpart
    cases hpart
  rw [value]
  · simp only [hsplit, h, Option.bind_eq_bind, Option.bind_some]
  · exact fun u hu => hne _ u hu rfl
  · exact fun u hu => hne _ u hu rfl
  · exact fun u hu => hne _ u hu rfl
  · exact fun u hu => hne _ u hu rfl

theorem Flat.value_append (h : Flat w v) (hrest : Ends rest) (fuel room : Nat) :
    value (fuel + 1) room (w ++ rest) = some (v, rest) := by
  cases h with
  | string h => exact value_string h hrest fuel room
  | scalar h => exact value_scalar h hrest fuel room

theorem Flat.firm (h : Flat w v) : Firm w := by
  cases h with
  | string h =>
    obtain ⟨q, v, rfl, rfl | rfl⟩ := h.exists_cons
    · exact ⟨_, _, rfl, rfl⟩
    · exact ⟨_, _, rfl, rfl⟩
  | scalar h =>
    obtain ⟨c, v, rfl, hc⟩ := Scalar.head_of_kind h
    exact ⟨c, v, rfl, not_isStop_of_isPart hc⟩

theorem Flat.valueText (h : Flat w v) (n : Nat) : ValueText n w v := by
  cases n with
  | zero => exact h
  | succ n => exact .inl h

theorem ValueText.firm (h : ValueText n w v) : Firm w := by
  cases n with
  | zero => exact Flat.firm h
  | succ n =>
    obtain h | h := h
    · exact h.firm
    · cases h with
      | array => exact ⟨_, _, rfl, rfl⟩
      | table => exact ⟨_, _, rfl, rfl⟩

theorem readsAll_value (n : Nat) : ReadsAll (ValueText n) fun fuel => value fuel n := by
  induction n with
  | zero =>
    intro w v h fuel rest hfuel hrest
    obtain ⟨fuel, rfl⟩ := Nat.exists_eq_add_of_le' (show 1 ≤ fuel from by have := h.firm.pos; omega)
    exact Flat.value_append h hrest fuel 0
  | succ n ih =>
    intro w v h fuel rest hfuel hrest
    obtain ⟨fuel, rfl⟩ := Nat.exists_eq_add_of_le' (show 1 ≤ fuel from by have := h.firm.pos; omega)
    obtain h | h := h
    · exact h.value_append hrest fuel (n + 1)
    cases h with
    | @array w vs h =>
      have hlen : 2 * w.length < fuel := by
        simp only [List.length_append, List.length_cons] at hfuel
        omega
      have hitems : items fuel n (w ++ ']' :: rest) = some (vs, rest) :=
        listing_append (items · n) (items_eq · n) (.inl rfl) ih ValueText.firm h hlen
      change value (fuel + 1) (n + 1) ('[' :: (w ++ [']'] ++ rest)) = _
      rw [List.append_assoc, List.singleton_append, value, hitems]
      rfl
    | @table w es t h ht =>
      have hlen : 2 * w.length < fuel := by
        simp only [List.length_append, List.length_cons] at hfuel
        omega
      have hentries : entries fuel n (w ++ '\x7d' :: rest) = some (es, rest) :=
        listing_append (entries · n) (entries_eq · n) (.inr rfl)
          (readsAll_assignment ih ValueText.firm) Keyval.firm h hlen
      change value (fuel + 1) (n + 1) ('\x7b' :: (w ++ ['\x7d'] ++ rest)) = _
      rw [List.append_assoc, List.singleton_append, value, hentries]
      simp only [Option.bind_eq_bind, Option.bind_some, ht]

/-- What the readers of one fuel take is what the grammar says. -/
structure ReadsTexts (fuel : Nat) : Prop where
  value : ∀ n, ReadsOnly (ValueText n) (value fuel n)
  items : ∀ n, ListsOnly (ValueText n) ']' (items fuel n)
  assignment : ∀ n, ReadsOnly (Keyval (ValueText n)) (assignment fuel n)
  entries : ∀ n, ListsOnly (Keyval (ValueText n)) '\x7d' (entries fuel n)

theorem ReadsTexts.value_succ (h : ReadsTexts fuel) (n : Nat) :
    ReadsOnly (ValueText n) (Toml.value (fuel + 1) n) := by
  intro cs v rest hv
  unfold Toml.value at hv
  split at hv
  · obtain ⟨⟨s, u⟩, hread, heq⟩ := Option.map_eq_some_iff.1 hv
    cases heq
    obtain ⟨w, hw, hcs⟩ := text_of_string hread
    exact ⟨w, (Flat.string hw).valueText n, hcs⟩
  · obtain ⟨⟨s, u⟩, hread, heq⟩ := Option.map_eq_some_iff.1 hv
    cases heq
    obtain ⟨w, hw, hcs⟩ := text_of_string hread
    exact ⟨w, (Flat.string hw).valueText n, hcs⟩
  · cases n with
    | zero => cases hv
    | succ n =>
      obtain ⟨⟨vs, u⟩, hread, heq⟩ := Option.map_eq_some_iff.1 hv
      cases heq
      obtain ⟨w, hw, rfl⟩ := h.items n hread
      exact ⟨_, .inr (.array hw), by simp⟩
  · cases n with
    | zero => cases hv
    | succ n =>
      obtain ⟨⟨es, u⟩, hread, hmore⟩ := Option.bind_eq_some_iff.1 hv
      obtain ⟨t, ht, heq⟩ := Option.bind_eq_some_iff.1 hmore
      cases heq
      obtain ⟨w, hw, rfl⟩ := h.entries n hread
      exact ⟨_, .inr (.table hw ht), by simp⟩
  · obtain ⟨kind, hkind, heq⟩ := Option.bind_eq_some_iff.1 hv
    cases heq
    exact ⟨_, (Flat.scalar hkind).valueText n, Scalar.append_of_split rfl⟩

theorem readsTexts (fuel : Nat) : ReadsTexts fuel := by
  induction fuel with
  | zero =>
    refine ⟨fun n => ?_, fun n => ?_, fun n => ?_, fun n => ?_⟩
    · intro cs v rest h
      rw [value] at h
      cases h
    · intro cs vs rest h
      rw [items] at h
      cases h
    · intro cs y rest h
      rw [assignment] at h
      cases h
    · intro cs es rest h
      rw [entries] at h
      cases h
  | succ fuel ih =>
    refine ⟨ih.value_succ, fun n => ?_, fun n => readsOnly_assignment (ih.value n), fun n => ?_⟩
    · rw [funext (items_eq fuel n)]
      exact ListsOnly.step (ih.value n) ValueText.firm (ih.items n)
    · rw [funext (entries_eq fuel n)]
      exact ListsOnly.step (ih.assignment n) Keyval.firm (ih.entries n)

end Repath.Toml
