import Mathlib.Data.List.Forall2
import Repath.Proofs.Toml.Documents

namespace Repath.Toml

def Blanks (w : List Char) : Prop := ∀ c ∈ w, isBlank c = true

inductive LineEnd : List Char → Prop
  | feed : LineEnd ['\n']
  | carriage : LineEnd ['\r', '\n']

/-- A comment, without the end of its line. -/
inductive Comment : List Char → Prop
  | intro {w : List Char} (hw : ∀ c ∈ w, isPlain c = true) : Comment ('#' :: w)

/-- What may stand between the parts of what goes over several lines: blanks, line ends and, unless
they would be text, comments. -/
inductive Gap (comments : Bool) : List Char → Prop
  | nil : Gap comments []
  | blank {c : Char} {w : List Char} (hc : isBlank c = true) (h : Gap comments w) :
      Gap comments (c :: w)
  | line {e w : List Char} (he : LineEnd e) (h : Gap comments w) : Gap comments (e ++ w)
  | comment {t e w : List Char} (hc : comments = true) (ht : Comment t) (he : LineEnd e)
      (h : Gap comments w) : Gap comments (t ++ e ++ w)

/-- A text that does not begin with a blank or a line end. -/
def Solid (w : List Char) : Prop := ∀ c ∈ w.head?, isBlank c = false ∧ c ≠ '\n' ∧ c ≠ '\r'

def StringStyle.quote (style : StringStyle) : Char := if style.literal then '\'' else '"'

def StringStyle.quotes (style : StringStyle) : List Char :=
  List.replicate (if style.lines then 3 else 1) style.quote

/-- The spellings of a character that begin with a backslash. -/
inductive Escape : List Char → Char → Prop
  | letter {c x : Char} (h : escaped? c = some x) : Escape ['\\', c] x
  | byte {a b x : Char} (h : charOfHex? [a, b] = some x) : Escape ['\\', 'x', a, b] x
  | short {a b c d x : Char} (h : charOfHex? [a, b, c, d] = some x) :
      Escape ['\\', 'u', a, b, c, d] x
  | long {a b c d e f g i x : Char} (h : charOfHex? [a, b, c, d, e, f, g, i] = some x) :
      Escape ['\\', 'U', a, b, c, d, e, f, g, i] x

/-- What may stand between the quotes of a string, with the text that it stands for, behind `run`
quotes that are part of the text. Three in a row would end it. -/
inductive Body (style : StringStyle) : (run : Nat) → List Char → List Char → Prop
  | nil {run : Nat} : Body style run [] []
  | quote {run : Nat} {w s : List Char} (hl : style.lines = true) (hrun : run < 2)
      (h : Body style (run + 1) w s) : Body style run (style.quote :: w) (style.quote :: s)
  | plain {run : Nat} {c : Char} {w s : List Char} (hc : isPlain c = true) (hq : c ≠ style.quote)
      (hb : c = '\\' → style.literal = true) (h : Body style 0 w s) :
      Body style run (c :: w) (c :: s)
  | line {run : Nat} {e w s : List Char} (hl : style.lines = true) (he : LineEnd e)
      (h : Body style 0 w s) : Body style run (e ++ w) (e ++ s)
  | escape {run : Nat} {e w s : List Char} {x : Char} (hl : style.literal = false)
      (he : Escape e x) (h : Body style 0 w s) : Body style run (e ++ w) (x :: s)
  /-- A backslash at the end of a line takes away all blanks and line ends up to the next text. -/
  | fold {run : Nat} {f w s : List Char} (hl : style = ⟨false, true⟩) (hf : Gap false f)
      (hn : '\n' ∈ f) (hw : Solid w) (h : Body style 0 w s) : Body style run ('\\' :: (f ++ w)) s

/-- What may stand between the opening quotes and what counts: a line end, if lines may. -/
inductive Opening (style : StringStyle) : List Char → List Char → Prop
  | none {w : List Char} (h : style.lines = true → ∀ e, LineEnd e → ¬e <+: w) : Opening style [] w
  | line {e w : List Char} (hl : style.lines = true) (he : LineEnd e) : Opening style e w

/-- A string, with the text that it stands for. -/
inductive StringText : List Char → List Char → Prop
  | intro {style : StringStyle} {t w s : List Char} (ht : Opening style t w)
      (h : Body style 0 w s) : StringText (style.quotes ++ (t ++ w ++ style.quotes)) s

inductive KeyPart : List Char → String → Prop
  | bare {w : List Char} (h : IsBare w) : KeyPart w (String.ofList w)
  | quoted {style : StringStyle} {w s : List Char} (hl : style.lines = false)
      (h : Body style 0 w s) : KeyPart (style.quote :: (w ++ [style.quote])) (String.ofList s)

inductive KeyText : List Char → List String → Prop
  | last {w : List Char} {part : String} (h : KeyPart w part) : KeyText w [part]
  | dotted {w b b' u : List Char} {part : String} {parts : List String} (hw : KeyPart w part)
      (hb : Blanks b) (hb' : Blanks b') (hu : KeyText u parts) :
      KeyText (w ++ (b ++ '.' :: (b' ++ u))) (part :: parts)

variable {α : Type}

inductive Keyval (R : List Char → α → Prop) : List Char → List String × α → Prop
  | intro {k b b' w : List Char} {path : List String} {x : α} (hk : KeyText k path)
      (hb : Blanks b) (hb' : Blanks b') (hw : R w x) :
      Keyval R (k ++ (b ++ '=' :: (b' ++ w))) (path, x)

/-- Any number of items with commas between them; one may stand behind the last. -/
inductive Listing (R : List Char → α → Prop) : List Char → List α → Prop
  | nil {g : List Char} (hg : Gap true g) : Listing R g []
  | last {g w g' : List Char} {x : α} (hg : Gap true g) (hw : R w x) (hg' : Gap true g') :
      Listing R (g ++ (w ++ g')) [x]
  | cons {g w g' u : List Char} {x : α} {xs : List α} (hg : Gap true g) (hw : R w x)
      (hg' : Gap true g') (hu : Listing R u xs) : Listing R (g ++ (w ++ (g' ++ ',' :: u))) (x :: xs)

inductive Flat : List Char → Value → Prop
  | string {w s : List Char} (h : StringText w s) : Flat w (.string (String.ofList s))
  | scalar {w : List Char} {kind : ScalarKind} (h : Scalar.kind? w = some kind) :
      Flat w (.scalar kind (String.ofList w))

inductive Nested (R : List Char → Value → Prop) : List Char → Value → Prop
  | array {w : List Char} {vs : List Value} (h : Listing R w vs) :
      Nested R ('[' :: (w ++ [']'])) (.array false vs)
  | table {w : List Char} {es : List (List String × Value)} {t : Table}
      (h : Listing (Keyval R) w es) (ht : Table.ofBraces es = some t) :
      Nested R ('\x7b' :: (w ++ ['\x7d'])) (.table .braces t)

/-- Values in which no more than `depth` arrays and tables are nested. -/
def ValueText : (depth : Nat) → List Char → Value → Prop
  | 0 => Flat
  | depth + 1 => fun w v => Flat w v ∨ Nested (ValueText depth) w v

inductive StatementText (R : List Char → Value → Prop) : List Char → Statement → Prop
  | assign {w : List Char} {path : List String} {v : Value} (h : Keyval R w (path, v)) :
      StatementText R w (.assign path v)
  | table {b k b' : List Char} {path : List String} (hb : Blanks b) (hk : KeyText k path)
      (hb' : Blanks b') : StatementText R ('[' :: (b ++ (k ++ (b' ++ [']'])))) (.table path)
  | element {b k b' : List Char} {path : List String} (hb : Blanks b) (hk : KeyText k path)
      (hb' : Blanks b') :
      StatementText R ('[' :: '[' :: (b ++ (k ++ (b' ++ [']', ']'])))) (.element path)

inductive Trail : List Char → Prop
  | blanks {b : List Char} (hb : Blanks b) : Trail b
  | comment {b t : List Char} (hb : Blanks b) (ht : Comment t) : Trail (b ++ t)

inductive Line (R : List Char → α → Prop) : List Char → List α → Prop
  | empty {t : List Char} (ht : Trail t) : Line R t []
  | full {b w t : List Char} {x : α} (hb : Blanks b) (hw : R w x) (ht : Trail t) :
      Line R (b ++ (w ++ t)) [x]

inductive Lines (R : List Char → α → Prop) : List Char → List α → Prop
  | last {w : List Char} {xs : List α} (h : Line R w xs) : Lines R w xs
  | cons {w e u : List Char} {xs ys : List α} (h : Line R w xs) (he : LineEnd e)
      (hu : Lines R u ys) : Lines R (w ++ (e ++ u)) (xs ++ ys)

inductive Mark : List Char → Prop
  | absent : Mark []
  | present : Mark ['\uFEFF']

/-- A well-formed document in which no more than `depth` arrays and tables in braces are nested,
with the table that it stands for. -/
inductive Document (depth : Nat) : List Char → Table → Prop
  | intro {m w : List Char} {ss : List Statement} {t : Table} (hm : Mark m)
      (hw : Lines (StatementText (ValueText depth)) w ss) (ht : Table.ofStatements ss = some t) :
      Document depth (m ++ w) t

variable {R : List Char → α → Prop} {xs : List α} {w : List Char}

theorem Listing.forall_mem (h : Listing R w xs) :
    ∀ x ∈ xs, ∃ w, R w x := by
  induction h with
  | nil => exact fun _ h => absurd h List.not_mem_nil
  | last _ hw => exact List.forall_mem_singleton.2 ⟨_, hw⟩
  | cons _ hw _ _ ih => exact List.forall_mem_cons.2 ⟨⟨_, hw⟩, ih⟩

theorem Lines.forall_mem (h : Lines R w xs) :
    ∀ x ∈ xs, ∃ w, R w x := by
  have hline : ∀ {w xs}, Line R w xs → ∀ x ∈ xs, ∃ w, R w x := by
    rintro w xs (_ | ⟨_, hw, _⟩)
    · exact fun _ h => absurd h List.not_mem_nil
    · exact List.forall_mem_singleton.2 ⟨_, hw⟩
  induction h with
  | last h => exact hline h
  | cons h _ _ ih => exact List.forall_mem_append.2 ⟨hline h, ih⟩

variable {β : Type} {S : List Char → β → Prop} {T : α → β → Prop}

theorem Listing.exists_forall₂ (h : Listing R w xs) (hR : ∀ {w x}, R w x → ∃ y, S w y ∧ T x y) :
    ∃ ys, Listing S w ys ∧ List.Forall₂ T xs ys := by
  induction h with
  | nil hg => exact ⟨[], .nil hg, .nil⟩
  | last hg hw hg' =>
    obtain ⟨y, hy, hxy⟩ := hR hw
    exact ⟨[y], .last hg hy hg', .cons hxy .nil⟩
  | cons hg hw hg' _ ih =>
    obtain ⟨y, hy, hxy⟩ := hR hw
    obtain ⟨ys, hys, hxys⟩ := ih
    exact ⟨y :: ys, .cons hg hy hg' hys, .cons hxy hxys⟩

theorem Listing.map (h : Listing R w xs) {f : α → β} (hR : ∀ {w x}, R w x → S w (f x)) :
    Listing S w (xs.map f) := by
  induction h with
  | nil hg => exact .nil hg
  | last hg hw hg' => exact .last hg (hR hw) hg'
  | cons hg hw hg' _ ih => exact .cons hg (hR hw) hg' ih

theorem Lines.exists_forall₂ (h : Lines R w xs) (hR : ∀ {w x}, R w x → ∃ y, S w y ∧ T x y) :
    ∃ ys, Lines S w ys ∧ List.Forall₂ T xs ys := by
  have hline : ∀ {w xs}, Line R w xs → ∃ ys, Line S w ys ∧ List.Forall₂ T xs ys := by
    intro w xs h
    cases h with
    | empty ht => exact ⟨[], .empty ht, .nil⟩
    | full hb hw ht =>
      obtain ⟨y, hy, hxy⟩ := hR hw
      exact ⟨[y], .full hb hy ht, .cons hxy .nil⟩
  induction h with
  | last h =>
    obtain ⟨ys, hys, hxys⟩ := hline h
    exact ⟨ys, .last hys, hxys⟩
  | cons h he _ ih =>
    obtain ⟨ys, hys, hxys⟩ := hline h
    obtain ⟨zs, hzs, hxzs⟩ := ih
    exact ⟨ys ++ zs, .cons hys he hzs, List.rel_append hxys hxzs⟩

theorem Keyval.map {e : List String × α} (h : Keyval R w e) {f : α → β}
    (hR : ∀ {w x}, R w x → S w (f x)) : Keyval S w (e.1, f e.2) := by
  cases h with
  | intro hk hb hb' hw => exact .intro hk hb hb' (hR hw)

end Repath.Toml
