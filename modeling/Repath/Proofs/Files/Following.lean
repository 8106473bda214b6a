import Repath.Proofs.Files.Tree

namespace Repath

namespace Path

open FileSystem (IsName)

variable {p : Path} {name : Bytes} {names names' : List Bytes}

theorem splitSlashes_slash (piece a b : Bytes) :
    splitSlashes piece (a ++ slash :: b) = splitSlashes piece a ++ splitSlashes [] b := by
  induction a generalizing piece with
  | nil => simp [splitSlashes]
  | cons c a ih =>
    rw [List.cons_append, splitSlashes, splitSlashes]
    split
    · rw [ih, List.cons_append]
    · exact ih _

theorem splitSlashes_ne_nil (piece bs : Bytes) : splitSlashes piece bs ≠ [] := by
  induction bs generalizing piece with
  | nil => simp [splitSlashes]
  | cons b bs ih =>
    rw [splitSlashes]
    split
    · simp
    · exact ih _

theorem filter_names_self (p : Path) :
    p.names.filter (!·.isEmpty) = (splitSlashes [] p.bytes).filter (!·.isEmpty) := by
  obtain ⟨pieces, last, hp⟩ :=
    (List.eq_nil_or_concat' (splitSlashes [] p.bytes)).resolve_left (splitSlashes_ne_nil _ _)
  simp [names, hp]

theorem join_eq (hp : p.isEmpty = false) (hn : IsName name) (w : Bytes) :
    ∃ a, (p.join ⟨name ++ w⟩).bytes = a ++ slash :: (name ++ w) ∧
      p.names.filter (!·.isEmpty) = (splitSlashes [] a).filter (!·.isEmpty) := by
  rw [filter_names_self, join, Location.isAbsolute_cons hn, hp]
  by_cases hlast : p.bytes.getLast? = some slash
  · obtain ⟨a, ha⟩ : ∃ a, p.bytes = a ++ [slash] := by
      obtain ⟨a, b, hb⟩ := (List.eq_nil_or_concat' p.bytes).resolve_left (by simpa [isEmpty] using hp)
      rw [hb, List.getLast?_concat] at hlast
      obtain rfl := Option.some.inj hlast
      exact ⟨a, hb⟩
    refine ⟨a, by simp [ha], ?_⟩
    rw [ha, splitSlashes_slash]
    simp [splitSlashes]
  · exact ⟨p.bytes, by simp [hlast], rfl⟩

theorem names_join (hp : p.isEmpty = false) (hn : IsName name) :
    (p.join ⟨name⟩).names = p.names.filter (!·.isEmpty) ++ [name] := by
  obtain ⟨a, ha, hnames⟩ := join_eq hp hn []
  rw [List.append_nil] at ha
  have hs : splitSlashes [] (p.join ⟨name⟩).bytes = splitSlashes [] a ++ [name] := by
    have hname := splitSlashes_append hn.2.1 [] []
    rw [List.append_nil] at hname
    rw [ha, splitSlashes_slash, hname]
    simp [splitSlashes]
  have hproper : [name].filter (!·.isEmpty) = [name] := filter_names (by simpa using hn)
  rw [names_eq_filter hs hn.1, List.filter_append, hnames, hproper]

theorem exists_extend (hp : p.isEmpty = false) (h : ∀ name ∈ names, IsName name) :
    ∃ w, (p.extend names).bytes = p.bytes ++ w ∧ 0 ∉ w := by
  induction names generalizing p with
  | nil => exact ⟨[], (List.append_nil _).symm, List.not_mem_nil⟩
  | cons name names ih =>
    obtain ⟨hn, hnames⟩ := List.forall_mem_cons.1 h
    obtain ⟨v, hv, hzero⟩ : ∃ v, (p.join ⟨name⟩).bytes = p.bytes ++ v ∧ 0 ∉ v := by
      have habs : (⟨name⟩ : Path).isAbsolute = false := by
        simpa using Location.isAbsolute_cons hn []
      rw [join, habs, hp]
      by_cases hlast : p.bytes.getLast? = some slash
      · exact ⟨name, by simp [hlast], hn.2.2.1⟩
      · refine ⟨slash :: name, by simp [hlast], ?_⟩
        rw [List.mem_cons, not_or]
        exact ⟨by decide, hn.2.2.1⟩
    have hjoin : (p.join ⟨name⟩).isEmpty = false := by
      have hne : p.bytes ≠ [] := by simpa [isEmpty] using hp
      simp [isEmpty, hv, hne]
    obtain ⟨w, hw, hzero'⟩ := ih hjoin hnames
    refine ⟨v ++ w, ?_, by simp [hzero, hzero']⟩
    rw [← List.append_assoc, ← hv, ← hw]
    rfl

theorem names_extend_path (hp : p.isEmpty = false) (h : ∀ name ∈ names, IsName name)
    (hne : names ≠ []) : (p.extend names).names = p.names.filter (!·.isEmpty) ++ names := by
  induction names generalizing p with
  | nil => exact absurd rfl hne
  | cons name names ih =>
    obtain ⟨hn, hnames⟩ := List.forall_mem_cons.1 h
    by_cases hrest : names = []
    · subst hrest
      exact names_join hp hn
    · have hjoin : (p.join ⟨name⟩).isEmpty = false := by
        obtain ⟨a, ha, -⟩ := join_eq hp hn []
        rw [List.append_nil] at ha
        simp [isEmpty, ha]
      have hstep : (p.extend (name :: names)).names = ((p.join ⟨name⟩).extend names).names := rfl
      rw [hstep, ih hjoin hnames hrest, names_join hp hn]
      simp [hn.1]

theorem extend_inj (hp : p.isEmpty = false) (h : ∀ name ∈ names, IsName name)
    (h' : ∀ name ∈ names', IsName name) (hne : names ≠ []) (hne' : names' ≠ [])
    (heq : p.extend names = p.extend names') : names = names' := by
  have hnames := congrArg Path.names heq
  rw [names_extend_path hp h hne, names_extend_path hp h' hne'] at hnames
  exact List.append_cancel_left hnames

end Path

namespace FileSystem

variable {fs : FileSystem} {cwd top l k : Location} {root : Path} {suffix : String}
  {purpose : Purpose} {names rest ws : List Bytes} {target : Path} {e : Entry} {links : Nat}

/-- A path names an entry: a link at its end is not followed. -/
def Names (fs : FileSystem) (cwd : Location) (p : Path) (l : Location) (e : Entry) : Prop :=
  fs.locate cwd .keep p = .ok (.present l) ∧ fs.get? l = some e

theorem descend_follow (fs : FileSystem) (l : Location) (names : List Bytes) :
    fs.descend .follow l names = fs.descend .keep l names ∨
      ∃ above name target, fs.descend .keep l names = .place (.present (above ++ [name])) ∧
        fs.get? (above ++ [name]) = some (.link target) ∧
        fs.descend .follow l names = .link above target [] := by
  induction names generalizing l with
  | nil => exact .inl rfl
  | cons name rest ih =>
    simp only [descend, reduceCtorEq, false_and, and_false, and_true, if_false]
    split
    · exact ih l
    split
    · exact ih _
    cases h : fs.get? (l ++ [name]) with
    | none => exact .inl rfl
    | some e =>
      cases e with
      | dir => exact ih _
      | file => exact .inl rfl
      | link target =>
        by_cases hrest : rest = []
        · subst hrest
          exact .inr ⟨l, name, target, by simp, h, by simp⟩
        · exact .inl (by simp [hrest])

theorem follow_place {p : Place} (h : fs.descend purpose l names = .place p) :
    fs.follow purpose links l names = .ok p := by
  rw [follow.eq_def]
  dsimp only
  rw [h]

theorem follow_fault {fault : Fault} (h : fs.descend purpose l names = .fault fault) :
    fs.follow purpose links l names = .error fault := by
  rw [follow.eq_def]
  dsimp only
  rw [h]

theorem follow_link_zero (h : fs.descend purpose l names = .link k target rest) :
    fs.follow purpose 0 l names = .error .tooManyLinks := by
  rw [follow.eq_def]
  dsimp only
  rw [h]

theorem follow_link_succ (h : fs.descend purpose l names = .link k target rest) :
    fs.follow purpose (links + 1) l names = if target.isEmpty then .error .notFound
      else fs.follow purpose links (if target.isAbsolute then [] else k) (target.names ++ rest) := by
  rw [follow.eq_def]
  dsimp only
  rw [h]

theorem follow_eq_ok {p : Place} (h : fs.follow purpose links l names = .ok p) :
    fs.descend purpose l names = .place p ∨ ∃ n above target rest, links = n + 1 ∧
      fs.descend purpose l names = .link above target rest ∧ target.isEmpty = false ∧
      fs.follow purpose n (if target.isAbsolute then [] else above) (target.names ++ rest) =
        .ok p := by
  cases hdescend : fs.descend purpose l names with
  | place q =>
    rw [follow_place hdescend] at h
    cases h
    exact .inl rfl
  | fault f =>
    rw [follow_fault hdescend] at h
    cases h
  | link above target rest =>
    cases links with
    | zero =>
      rw [follow_link_zero hdescend] at h
      cases h
    | succ n =>
      rw [follow_link_succ hdescend] at h
      split at h
      · cases h
      · next htarget => exact .inr ⟨n, above, target, rest, rfl, rfl, by simpa using htarget, h⟩

theorem follow_of_step {fs' : FileSystem}
    (h : fs'.descend purpose k ws = fs.descend purpose l names)
    (hlink : ∀ n above target rest, links = n + 1 →
      fs.descend purpose l names = .link above target rest → target.isEmpty = false →
      fs'.follow purpose n (if target.isAbsolute then [] else above) (target.names ++ rest) =
        fs.follow purpose n (if target.isAbsolute then [] else above) (target.names ++ rest)) :
    fs'.follow purpose links k ws = fs.follow purpose links l names := by
  cases hstep : fs.descend purpose l names with
  | place => rw [follow_place hstep, follow_place (h.trans hstep)]
  | fault => rw [follow_fault hstep, follow_fault (h.trans hstep)]
  | link above target rest =>
    cases links with
    | zero => rw [follow_link_zero hstep, follow_link_zero (h.trans hstep)]
    | succ n =>
      rw [follow_link_succ hstep, follow_link_succ (h.trans hstep)]
      cases htarget : target.isEmpty with
      | true => rfl
      | false => exact hlink n above target rest rfl hstep htarget

theorem follow_unique {n : Nat} {a b : Place} (ha : fs.follow purpose links l names = .ok a)
    (hb : fs.follow purpose n l names = .ok b) : a = b := by
  induction links generalizing n l names with
  | zero =>
    obtain hplace | ⟨_, _, _, _, hn, -⟩ := follow_eq_ok ha
    · rw [follow_place hplace] at hb
      exact Except.ok.inj hb
    · cases hn
  | succ links ih =>
    obtain hplace | ⟨_, above, target, rest, hn, hlink, -, hrest⟩ := follow_eq_ok ha
    · rw [follow_place hplace] at hb
      exact Except.ok.inj hb
    · cases hn
      obtain hplace | ⟨_, above', target', rest', rfl, hlink', -, hrest'⟩ := follow_eq_ok hb
      · rw [hlink] at hplace
        cases hplace
      · rw [hlink] at hlink'
        cases hlink'
        exact ih hrest hrest'

theorem follow_of_descend {fs' : FileSystem} {a b : Place}
    (hplace : ∀ l names, fs.descend purpose l names = .place a →
      fs'.descend purpose l names = .place b)
    (hlink : ∀ l names above target rest n, fs.descend purpose l names = .link above target rest →
      fs.follow purpose n (if target.isAbsolute then [] else above) (target.names ++ rest) =
        .ok a → fs'.descend purpose l names = .link above target rest)
    (h : fs.follow purpose links l names = .ok a) :
    fs'.follow purpose links l names = .ok b := by
  induction links generalizing l names with
  | zero =>
    obtain hhere | ⟨n, _, _, _, hn, -⟩ := follow_eq_ok h
    · exact follow_place (hplace l names hhere)
    · cases hn
  | succ links ih =>
    obtain hhere | ⟨n, above, target, rest, hn, hstep, htarget, hrest⟩ := follow_eq_ok h
    · exact follow_place (hplace l names hhere)
    · cases hn
      rw [follow_link_succ (hlink l names above target rest links hstep hrest), htarget]
      exact ih hrest

theorem follow_end {above : Location} {name : Bytes} {place : Place}
    (hlink : fs.descend .follow l names = .link above target [])
    (h : fs.follow .follow links l names = .ok place) : ∃ n, fs.follow .follow n
      (if target.isAbsolute then [] else (above ++ [name]).dropLast) target.names = .ok place := by
  obtain hplace | ⟨n, _, _, _, -, hlink', -, hrest⟩ := follow_eq_ok h
  · rw [hlink] at hplace
    cases hplace
  · rw [hlink] at hlink'
    cases hlink'
    rw [List.append_nil] at hrest
    rw [List.dropLast_concat]
    exact ⟨n, hrest⟩

/-- Names lead to what they name, or on from there if that is a link. -/
theorem follow_follow (fs : FileSystem) (links : Nat) (l : Location) (names : List Bytes) :
    fs.follow .follow links l names = fs.follow .keep links l names ∨
      ∃ k target, fs.follow .keep links l names = .ok (.present k) ∧
        fs.get? k = some (.link target) ∧
        ∀ place, fs.follow .follow links l names = .ok place → ∃ n,
          fs.follow .follow n (if target.isAbsolute then [] else k.dropLast) target.names =
            .ok place := by
  induction links generalizing l names with
  | zero =>
    obtain h | ⟨above, name, target, hkeep, hk, hlink⟩ := fs.descend_follow l names
    · left
      cases hkeep : fs.descend .keep l names with
      | place p => rw [follow_place hkeep, follow_place (h.trans hkeep)]
      | fault f => rw [follow_fault hkeep, follow_fault (h.trans hkeep)]
      | link above target rest => rw [follow_link_zero hkeep, follow_link_zero (h.trans hkeep)]
    · exact .inr ⟨_, target, follow_place hkeep, hk, fun _ => follow_end hlink⟩
  | succ links ih =>
    obtain h | ⟨above, name, target, hkeep, hk, hlink⟩ := fs.descend_follow l names
    · cases hkeep : fs.descend .keep l names with
      | place p => exact .inl (by rw [follow_place hkeep, follow_place (h.trans hkeep)])
      | fault f => exact .inl (by rw [follow_fault hkeep, follow_fault (h.trans hkeep)])
      | link above target rest =>
        rw [follow_link_succ hkeep, follow_link_succ (h.trans hkeep)]
        split
        · exact .inl rfl
        · exact ih _ _
    · exact .inr ⟨_, target, follow_place hkeep, hk, fun _ => follow_end hlink⟩

/-- Following the link at the end is all that distinguishes where a path leads from what it names. -/
theorem locate_follow (fs : FileSystem) (cwd : Location) (p : Path) :
    fs.locate cwd .follow p = fs.locate cwd .keep p ∨
      ∃ l target, fs.Names cwd p l (.link target) := by
  simp only [Names, locate]
  by_cases hnul : 0 ∈ p.bytes
  · simp [hnul]
  by_cases hp : p.isEmpty = true
  · simp [hnul, hp]
  simp only [hnul, hp, if_false, Bool.false_eq_true]
  obtain h | ⟨k, target, hkeep, hk, -⟩ :=
    fs.follow_follow maxLinks (if p.isAbsolute then [] else cwd) p.names
  · exact .inl h
  · exact .inr ⟨k, target, hkeep, hk⟩

variable {name content : Bytes} {mode : Nat}

theorem descend_dot (h : isDot name = true) :
    fs.descend purpose l (name :: rest) = fs.descend purpose l rest := by
  rw [descend, if_pos h]

theorem descend_skip (fs : FileSystem) (purpose : Purpose) (h : ∀ name ∈ ws, isDot name = true)
    (l : Location) (names : List Bytes) :
    fs.descend purpose l (ws ++ names) = fs.descend purpose l names := by
  induction ws with
  | nil => rfl
  | cons w ws ih =>
    obtain ⟨hw, hws⟩ := List.forall_mem_cons.1 h
    rw [List.cons_append, descend_dot hw, ih hws]

theorem descend_dotDot (hdot : ¬isDot name = true) (h : name = Path.dotDot) :
    fs.descend purpose l (name :: rest) = fs.descend purpose l.dropLast rest := by
  rw [descend, if_neg hdot, if_pos h]

section

variable (hpurpose : purpose ≠ .create) (hdot : ¬isDot name = true) (hdotDot : name ≠ Path.dotDot)

include hpurpose hdot hdotDot

theorem descend_none (h : fs.get? (l ++ [name]) = none) : fs.descend purpose l (name :: rest) =
    if rest = [] then .place (.absent (l ++ [name])) else .fault .notFound := by
  rw [descend, if_neg hdot, if_neg hdotDot, if_neg (fun hcreate => hpurpose hcreate.1)]
  dsimp only
  rw [h]

theorem descend_dir (h : fs.get? (l ++ [name]) = some .dir) :
    fs.descend purpose l (name :: rest) = fs.descend purpose (l ++ [name]) rest := by
  rw [descend, if_neg hdot, if_neg hdotDot, if_neg (fun hcreate => hpurpose hcreate.1)]
  dsimp only
  rw [h]

theorem descend_file (h : fs.get? (l ++ [name]) = some (.file content mode)) :
    fs.descend purpose l (name :: rest) =
      if rest = [] then .place (.present (l ++ [name])) else .fault .notDirectory := by
  rw [descend, if_neg hdot, if_neg hdotDot, if_neg (fun hcreate => hpurpose hcreate.1)]
  dsimp only
  rw [h]

theorem descend_link (h : fs.get? (l ++ [name]) = some (.link target)) :
    fs.descend purpose l (name :: rest) = if rest = [] ∧ purpose = .keep then
      .place (.present (l ++ [name])) else .link l target rest := by
  rw [descend, if_neg hdot, if_neg hdotDot, if_neg (fun hcreate => hpurpose hcreate.1)]
  dsimp only
  rw [h]

end

theorem dir_above_last (hfs : fs.WellFormed) (hl : fs.get? l = some .dir) :
    fs.get? l.dropLast = some .dir := by
  obtain rfl | ⟨above, name, rfl⟩ := List.eq_nil_or_concat' l
  · exact hl
  · rw [List.dropLast_concat]
    exact hfs.dir_above hl (by simp)

/-- How far names lead that stand behind others, by how far the others lead: on from a directory, no
further from a file, and behind a link from where the link leads. It does not matter how many names
that lead nowhere stand between the others. -/
inductive Continues (fs : FileSystem) (purpose : Purpose) (names : List Bytes) (l : Location) :
    Progress → Progress → Prop
  | there {top : Location} (htop : fs.get? l = some .dir → fs.get? top = some .dir) :
      Continues fs purpose names l (.place (.present top)) (fs.descend purpose top names)
  | file {k : Location} {content : Bytes} {mode : Nat}
      (hk : fs.get? k = some (.file content mode)) :
      Continues fs purpose names l (.place (.present k)) (.fault .notDirectory)
  | absent (k : Location) :
      Continues fs purpose names l (.place (.absent k)) (.fault .notFound)
  | fault (f : Fault) : Continues fs purpose names l (.fault f) (.fault f)
  | link {above : Location} {target : Path} {rest rest' : List Bytes}
      (habove : fs.get? l = some .dir → fs.get? above = some .dir)
      (hrest : rest'.filter (!isDot ·) = rest.filter (!isDot ·)) :
      Continues fs purpose names l (.link above target rest) (.link above target (rest' ++ names))

theorem Continues.of_start {a b : Progress} (h : fs.Continues purpose names k a b)
    (hl : fs.get? l = some .dir → fs.get? k = some .dir) : fs.Continues purpose names l a b := by
  cases h with
  | there htop => exact .there (htop ∘ hl)
  | file hk => exact .file hk
  | absent k => exact .absent k
  | fault f => exact .fault f
  | link habove hrest => exact .link (habove ∘ hl) hrest

theorem continues (hfs : fs.WellFormed) (hpurpose : purpose ≠ .create) (hne : names ≠ [])
    (zs xs : List Bytes) (l : Location) (h : zs.filter (!isDot ·) = xs.filter (!isDot ·)) :
    fs.Continues purpose names l (fs.descend .follow l xs)
      (fs.descend purpose l (zs ++ names)) := by
  have hfollow : Purpose.follow ≠ .create := by simp
  induction zs generalizing l xs with
  | nil =>
    have hxs : ∀ name ∈ xs, isDot name = true := by
      simpa using List.filter_eq_nil_iff.1 h.symm
    have hplace := descend_skip fs .follow hxs l []
    rw [List.append_nil] at hplace
    rw [hplace]
    exact .there id
  | cons z zs ih =>
    by_cases hdot : isDot z = true
    · rw [List.cons_append, descend_dot hdot]
      exact ih xs l (by simpa [hdot] using h)
    rw [List.filter_cons_of_pos (by simpa using hdot)] at h
    obtain ⟨ws, xs, rfl, hws, -, hrest⟩ := List.filter_eq_cons_iff.1 h.symm
    have hmore : zs ++ names ≠ [] := List.append_ne_nil_of_right_ne_nil zs hne
    rw [descend_skip fs .follow (by simpa using hws), List.cons_append]
    by_cases hdotDot : z = Path.dotDot
    · rw [descend_dotDot hdot hdotDot, descend_dotDot hdot hdotDot]
      exact (ih xs _ hrest.symm).of_start (dir_above_last hfs)
    cases hget : fs.get? (l ++ [z]) with
    | none =>
      rw [descend_none hfollow hdot hdotDot hget, descend_none hpurpose hdot hdotDot hget,
        if_neg hmore]
      split
      · exact .absent _
      · exact .fault _
    | some e =>
      cases e with
      | dir =>
        rw [descend_dir hfollow hdot hdotDot hget, descend_dir hpurpose hdot hdotDot hget]
        exact (ih xs _ hrest.symm).of_start fun _ => hget
      | file =>
        rw [descend_file hfollow hdot hdotDot hget, descend_file hpurpose hdot hdotDot hget,
          if_neg hmore]
        split
        · exact .file hget
        · exact .fault _
      | link target =>
        rw [descend_link hfollow hdot hdotDot hget, descend_link hpurpose hdot hdotDot hget,
          if_neg (by simp), if_neg fun hkeep => hmore hkeep.1]
        exact .link id hrest.symm

theorem descend_append (hfs : fs.WellFormed) (hpurpose : purpose ≠ .create) (hne : names ≠ [])
    {xs : List Bytes} (h : fs.descend .follow l xs = .place (.present top))
    (htop : fs.get? top = some .dir) :
    fs.descend purpose l (xs ++ names) = fs.descend purpose top names := by
  have hon := continues hfs hpurpose hne xs xs l rfl
  rw [h] at hon
  generalize fs.descend purpose l (xs ++ names) = b at hon
  cases hon with
  | there => rfl
  | file hk =>
    rw [htop] at hk
    cases hk

/-- Where names lead that stand behind others, by where the others lead. -/
inductive Extends (fs : FileSystem) (purpose : Purpose) (names : List Bytes) (l : Location) :
    Except Fault Place → Except Fault Place → Prop
  | there {top : Location} (links : Nat)
      (htop : fs.get? l = some .dir → fs.get? top = some .dir) :
      Extends fs purpose names l (.ok (.present top)) (fs.follow purpose links top names)
  | file {k : Location} {content : Bytes} {mode : Nat}
      (hk : fs.get? k = some (.file content mode)) :
      Extends fs purpose names l (.ok (.present k)) (.error .notDirectory)
  | absent (k : Location) : Extends fs purpose names l (.ok (.absent k)) (.error .notFound)
  | fault (f : Fault) : Extends fs purpose names l (.error f) (.error f)

theorem Extends.of_start {a b : Except Fault Place} (h : fs.Extends purpose names k a b)
    (hl : fs.get? l = some .dir → fs.get? k = some .dir) : fs.Extends purpose names l a b := by
  cases h with
  | there links htop => exact .there links (htop ∘ hl)
  | file hk => exact .file hk
  | absent k => exact .absent k
  | fault f => exact .fault f

theorem follow_congr (h : fs.descend purpose l names = fs.descend purpose k ws) :
    fs.follow purpose links l names = fs.follow purpose links k ws :=
  follow_of_step h fun _ _ _ _ _ _ _ => rfl

theorem dir_from (target : Path) (h : fs.get? l = some .dir → fs.get? k = some .dir) :
    fs.get? l = some .dir → fs.get? (if target.isAbsolute then [] else k) = some .dir := by
  intro hl
  split
  · rfl
  · exact h hl

theorem dir_start (hcwd : fs.get? cwd = some .dir) (p : Path) :
    fs.get? (if p.isAbsolute then [] else cwd) = some .dir :=
  dir_from p (fun _ => hcwd) hcwd

theorem filter_isDot_filter (names : List Bytes) :
    (names.filter (!·.isEmpty)).filter (!isDot ·) = names.filter (!isDot ·) := by
  rw [List.filter_filter]
  congr 1
  funext name
  cases name <;> simp [isDot]

theorem follow_append (hfs : fs.WellFormed) (hpurpose : purpose ≠ .create) (hne : names ≠ [])
    {zs xs : List Bytes} (h : zs.filter (!isDot ·) = xs.filter (!isDot ·)) (links : Nat)
    (l : Location) : fs.Extends purpose names l (fs.follow .follow links l xs)
      (fs.follow purpose links l (zs ++ names)) := by
  induction links using Nat.strongRecOn generalizing zs xs l with | ind links ih => ?_
  have hon := continues hfs hpurpose hne zs xs l h
  generalize hxs : fs.descend .follow l xs = a at hon
  generalize hzs : fs.descend purpose l (zs ++ names) = b at hon
  cases hon with
  | there htop =>
    rw [follow_place hxs, follow_congr hzs]
    exact .there links htop
  | file hk =>
    rw [follow_place hxs, follow_fault hzs]
    exact .file hk
  | absent k =>
    rw [follow_place hxs, follow_fault hzs]
    exact .absent k
  | fault f =>
    rw [follow_fault hxs, follow_fault hzs]
    exact .fault f
  | link habove hrest =>
    cases links with
    | zero =>
      rw [follow_link_zero hxs, follow_link_zero hzs]
      exact .fault _
    | succ links =>
      rw [follow_link_succ hxs, follow_link_succ hzs]
      split
      · exact .fault _
      · rw [← List.append_assoc]
        refine (ih links (Nat.lt_succ_self links) ?_ _).of_start (dir_from _ habove)
        rw [List.filter_append, List.filter_append, hrest]

theorem locate_eq_ok {p : Path} {place : Place} : fs.locate cwd purpose p = .ok place ↔
    0 ∉ p.bytes ∧ p.isEmpty = false ∧
      fs.follow purpose maxLinks (if p.isAbsolute then [] else cwd) p.names = .ok place := by
  rw [locate]
  by_cases hnul : 0 ∈ p.bytes
  · simp [hnul]
  by_cases hp : p.isEmpty = true
  · simp [hnul, hp]
  · simp [hnul, hp]

theorem stat_eq_ok {p : Path} : fs.stat cwd p = .ok (l, e) ↔
    fs.locate cwd .follow p = .ok (.present l) ∧ fs.get? l = some e := by
  rw [stat]
  rcases fs.locate cwd .follow p with fault | k | k
  · simp [bind, Except.bind]
  · rcases hk : fs.get? k with _ | d
    · simp only [bind, Except.bind, hk]
      constructor
      · rintro ⟨⟩
      · rintro ⟨⟨⟩, h⟩
        rw [hk] at h
        cases h
    · simp only [bind, Except.bind, hk]
      constructor
      · rintro ⟨⟩
        exact ⟨rfl, hk⟩
      · rintro ⟨⟨⟩, h⟩
        rw [hk] at h
        cases h
        rfl
  · simp [bind, Except.bind, throw, throwThe, MonadExceptOf.throw]

theorem Names.stat {p : Path} (h : fs.Names cwd p l e) (he : ∀ target, e ≠ .link target) :
    fs.stat cwd p = .ok (l, e) := by
  obtain ⟨hlocate, hl⟩ := h
  obtain hkeep | ⟨k, target, hk, hlink⟩ := fs.locate_follow cwd p
  · exact stat_eq_ok.2 ⟨hkeep.trans hlocate, hl⟩
  · rw [hlocate] at hk
    cases hk
    rw [hl] at hlink
    exact absurd (Option.some.inj hlink) (he target)

theorem names_extend (hfs : fs.WellFormed) {p : Path} (hp : fs.stat cwd p = .ok (top, .dir))
    (he : fs.get? (top ++ names) = some e) (hne : names ≠ []) :
    fs.Names cwd (p.extend names) (top ++ names) e := by
  obtain ⟨hlocate, htop⟩ := stat_eq_ok.1 hp
  obtain ⟨hnul, hempty, hfollow⟩ := locate_eq_ok.1 hlocate
  have hproper : ∀ name ∈ names, IsName name := fun n hn => hfs.isName he n (by simp [hn])
  obtain ⟨w, hw, hzero⟩ := Path.exists_extend hempty hproper
  have hbytes : p.bytes ≠ [] := by simpa [Path.isEmpty] using hempty
  have habsolute : (p.extend names).isAbsolute = p.isAbsolute := by
    rw [Path.isAbsolute, Path.isAbsolute, hw, List.head?_append_of_ne_nil _ hbytes]
  refine ⟨locate_eq_ok.2 ⟨by simp [hw, hnul, hzero], by simp [Path.isEmpty, hw, hbytes], ?_⟩, he⟩
  rw [habsolute, Path.names_extend_path hempty hproper hne]
  have hkeep : Purpose.keep ≠ .create := by simp
  have hon := follow_append hfs hkeep hne (filter_isDot_filter p.names) maxLinks
    (if p.isAbsolute then [] else cwd)
  rw [hfollow] at hon
  generalize fs.follow .keep maxLinks (if p.isAbsolute then [] else cwd)
    (p.names.filter (!·.isEmpty) ++ names) = b at hon
  cases hon with
  | there links => exact follow_place (descend_present hfs he (.inl rfl))
  | file hk =>
    rw [htop] at hk
    cases hk

theorem follow_keep_last (hdot : ¬isDot name = true) (hdotDot : name ≠ Path.dotDot)
    (h : fs.follow .keep links l [name] = .ok (.present k)) : k = l ++ [name] := by
  have hkeep : Purpose.keep ≠ .create := by simp
  have hplace : ∃ place, fs.descend .keep l [name] = .place place ∧
      (place = .present (l ++ [name]) ∨ place = .absent (l ++ [name])) := by
    cases hget : fs.get? (l ++ [name]) with
    | none => exact ⟨_, by rw [descend_none hkeep hdot hdotDot hget, if_pos rfl], .inr rfl⟩
    | some e =>
      cases e with
      | dir => exact ⟨_, descend_dir hkeep hdot hdotDot hget, .inl rfl⟩
      | file => exact ⟨_, by rw [descend_file hkeep hdot hdotDot hget, if_pos rfl], .inl rfl⟩
      | link target =>
        exact ⟨_, by rw [descend_link hkeep hdot hdotDot hget, if_pos ⟨rfl, rfl⟩], .inl rfl⟩
  obtain ⟨place, hdescend, rfl | rfl⟩ := hplace
  · rw [follow_place hdescend] at h
    cases h
    rfl
  · rw [follow_place hdescend] at h
    cases h

theorem follow_keep (hfs : fs.WellFormed) (hl : fs.get? l = some .dir)
    (h : fs.follow .keep links l names = .ok (.present k)) (hk : fs.get? k = some e)
    (hne : e ≠ .dir) : ∃ front last above, names = front ++ [last] ∧ k = above ++ [last] ∧
      isDot last = false ∧ last ≠ Path.dotDot ∧
      ∀ xs : List Bytes, xs.filter (!isDot ·) = front.filter (!isDot ·) →
        fs.follow .follow links l xs = .ok (.present above) := by
  have hkeep : Purpose.keep ≠ .create := by simp
  have hplace : ∀ {names : List Bytes} {n : Nat} {m : Location},
      fs.descend .keep m names = .place (.present m) → fs.get? m = some .dir →
      fs.follow .keep n m names ≠ .ok (.present k) := by
    intro names n m hdescend hm hfollow
    rw [follow_place hdescend] at hfollow
    cases hfollow
    rw [hm] at hk
    exact hne (Option.some.inj hk).symm
  obtain rfl | ⟨front, last, rfl⟩ := List.eq_nil_or_concat' names
  · exact absurd h (hplace rfl hl)
  have hfront : ∀ xs : List Bytes, xs.filter (!isDot ·) = front.filter (!isDot ·) →
      ∃ top n, fs.follow .follow links l xs = .ok (.present top) ∧ fs.get? top = some .dir ∧
        fs.follow .keep n top [last] = .ok (.present k) := by
    intro xs hxs
    have hon := follow_append hfs hkeep (List.cons_ne_nil last []) hxs.symm links l
    generalize fs.follow .follow links l xs = a at hon
    generalize fs.follow .keep links l (front ++ [last]) = b at h hon
    cases hon with
    | there n htop => exact ⟨_, n, rfl, htop hl, h⟩
    | file => cases h
    | absent => cases h
    | fault => cases h
  obtain ⟨above, n, -, habove, hlast⟩ := hfront front rfl
  by_cases hdot : isDot last = true
  · exact absurd hlast (hplace (descend_dot hdot) habove)
  by_cases hdotDot : last = Path.dotDot
  · rw [follow_congr (descend_dotDot hdot hdotDot)] at hlast
    exact absurd hlast (hplace rfl (dir_above_last hfs habove))
  have hend : ∀ {top : Location} {n : Nat}, fs.follow .keep n top [last] = .ok (.present k) →
      k = top ++ [last] := follow_keep_last hdot hdotDot
  obtain rfl := hend hlast
  refine ⟨front, last, above, rfl, rfl, by simpa using hdot, hdotDot, fun xs hxs => ?_⟩
  obtain ⟨top, n, hfollow, -, hend'⟩ := hfront xs hxs
  obtain ⟨rfl, -⟩ := List.append_inj' (hend hend') rfl
  exact hfollow

theorem Names.fileName (hfs : fs.WellFormed) (hcwd : fs.get? cwd = some .dir) {content : Bytes}
    {mode : Nat} (h : fs.Names cwd root l (.file content mode)) :
    ∃ name, l.getLast? = some name ∧ root.fileName = some name := by
  obtain ⟨-, -, hfollow⟩ := locate_eq_ok.1 h.1
  obtain ⟨before, last, above, hbefore, rfl, hdot, hdotDot, -⟩ :=
    follow_keep hfs (dir_start hcwd root) hfollow h.2 (by simp)
  refine ⟨last, List.getLast?_concat, ?_⟩
  have hkeep : (!last.isEmpty && last != Path.dot) = true := by
    simpa [isDot] using hdot
  have hend : [last].filter (fun name => !name.isEmpty && name != Path.dot) = [last] :=
    List.filter_eq_self.2 (by simpa using hkeep)
  rw [Path.fileName, hbefore, List.filter_append, hend, List.getLast?_concat, Option.bind_some,
    if_neg hdotDot]

end FileSystem
end Repath
