import Repath.Proofs.Pattern.Groups
import Repath.Proofs.Pattern.Remainders

namespace Repath

/-- No group of a written pattern has a number beyond `n`. -/
def Syntax.GroupsLe (n : Nat) : Syntax → Prop
  | group (.capture i) body => i ≤ n ∧ body.GroupsLe n
  | group (.plain _) body | rep body .. => body.GroupsLe n
  | cat a b | alt a b => a.GroupsLe n ∧ b.GroupsLe n
  | _ => True

def Pattern.GroupsLe (n : Nat) : Pattern → Prop
  | group i p => i ≤ n ∧ p.GroupsLe n
  | cat p q | alt p q => p.GroupsLe n ∧ q.GroupsLe n
  | rep p .. => p.GroupsLe n
  | _ => True

namespace Syntax

variable {a b : Syntax} {as : List Syntax} {m n : Nat}

theorem GroupsLe.mono (h : a.GroupsLe m) (hmn : m ≤ n) : a.GroupsLe n := by
  induction a with
  | group kind body ih =>
    cases kind with
    | capture i => exact ⟨h.1.trans hmn, ih h.2⟩
    | plain changes => exact ih h
  | rep body min max greedy ih => exact ih h
  | cat a b iha ihb | alt a b iha ihb => exact ⟨iha h.1, ihb h.2⟩
  | _ => trivial

theorem groupsLe_sequence (h : ∀ a ∈ as, a.GroupsLe n) : (sequence as).GroupsLe n := by
  induction as with
  | nil => trivial
  | cons a as ih =>
    obtain ⟨ha, has⟩ := List.forall_mem_cons.1 h
    cases as with
    | nil => exact ha
    | cons b as => exact ⟨ha, ih has⟩

theorem groupsLe_choice (h : ∀ a ∈ as, a.GroupsLe n) : (choice as).GroupsLe n := by
  induction as with
  | nil => trivial
  | cons a as ih =>
    obtain ⟨ha, has⟩ := List.forall_mem_cons.1 h
    cases as with
    | nil => exact ha
    | cons b as => exact ⟨ha, ih has⟩

end Syntax

namespace Reader

variable {st st' st₁ : State} {cs ds rest : List Char} {body : Syntax} {done items : List Syntax}
  {name : String} {name? : Option String} {o : Opening} {fuel : Nat}

def IsGroupName (name : String) : Prop := name.toList.head?.any isNameStart = true

def State.Proper (st : State) : Prop := ∀ entry ∈ st.names, IsGroupName entry.1

theorem isGroupName_of_groupName (h : groupName cs = .ok (name, rest)) : IsGroupName name := by
  rw [groupName.eq_def] at h
  dsimp only at h
  split at h
  · split at h
    · next hname =>
      cases h
      rw [IsGroupName, String.toList_ofList]
      exact (Bool.and_eq_true_iff.1 hname).1
    · cases h
  · cases h

theorem capture_eq_ok (h : capture st name? = .ok (o, st')) (hst : st.Proper)
    (hname : ∀ name ∈ name?, IsGroupName name) :
    o = .group (.capture (st.groups + 1)) ∧ st'.groups = st.groups + 1 ∧ st'.Proper := by
  cases name? with
  | none =>
    cases h
    exact ⟨rfl, rfl, hst⟩
  | some name =>
    rw [capture] at h
    dsimp only at h
    split at h
    · cases h
    · cases h
      refine ⟨rfl, rfl, fun entry hentry => ?_⟩
      obtain hentry | hentry := List.mem_append.1 hentry
      · exact hst entry hentry
      · rw [List.mem_singleton.1 hentry]
        exact hname name rfl

/-- How an opening parenthesis counts. -/
inductive Opened (st : State) : Opening → State → Prop
  | capture {st' : State} (hgroups : st'.groups = st.groups + 1) :
      Opened st (.group (.capture st'.groups)) st'
  | plain {st' : State} (changes : List FlagChange) (hgroups : st'.groups = st.groups) :
      Opened st (.group (.plain changes)) st'
  | flags {st' : State} (changes : List FlagChange) (hgroups : st'.groups = st.groups) :
      Opened st (.flags changes) st'

theorem opened_of_capture (h : (do return (← capture st name?, ds) : Read _) = .ok ((o, st'), rest))
    (hst : st.Proper) (hname : ∀ name ∈ name?, IsGroupName name) :
    Opened st o st' ∧ st'.Proper := by
  obtain ⟨⟨o, st'⟩, hcapture, ⟨⟩⟩ := exists_of_bind_ok h
  obtain ⟨rfl, hgroups, hproper⟩ := capture_eq_ok hcapture hst hname
  rw [← hgroups]
  exact ⟨.capture hgroups, hproper⟩

theorem opened_of_opening (h : opening st cs = .ok ((o, st'), rest)) (hst : st.Proper) :
    Opened st o st' ∧ st'.Proper := by
  have hnamed : ∀ {cs ds : List Char} {name : String}, groupName cs = .ok (name, ds) →
      (do return (← capture st (some name), ds) : Read _) = .ok ((o, st'), rest) →
      Opened st o st' ∧ st'.Proper := by
    intro cs ds name hname h
    refine opened_of_capture h hst fun name' hname' => ?_
    obtain rfl := Option.some.inj hname'
    exact isGroupName_of_groupName hname
  rw [opening.eq_def] at h
  split at h
  · cases h
  · cases h
  · cases h
  · cases h
  · obtain ⟨⟨name, ds⟩, hname, h⟩ := exists_of_bind_ok h
    exact hnamed hname h
  · obtain ⟨⟨name, ds⟩, hname, h⟩ := exists_of_bind_ok h
    exact hnamed hname h
  · obtain ⟨⟨changes, ds⟩, -, h⟩ := exists_of_bind_ok h
    dsimp only at h
    split at h
    · split at h
      · cases h
      · cases h
        exact ⟨.flags _ rfl, hst⟩
    · cases h
      exact ⟨.plain _ rfl, hst⟩
  · exact opened_of_capture h hst (by simp)

theorem items_of_repeatLast {min n : Nat} {max : Option Nat} {items' : List Syntax}
    (h : repeatLast items min max cs = .ok (items', rest)) (hitems : ∀ a ∈ items, a.GroupsLe n) :
    (∀ a ∈ items', a.GroupsLe n) ∧ rest <:+ cs := by
  cases items with
  | nil => cases h
  | cons a items =>
    rw [repeatLast] at h
    split at h
    · cases h
      refine ⟨?_, greed_suffix cs⟩
      simpa [Syntax.GroupsLe] using hitems
    · cases h

theorem groupsLe_of_bracketed {verbose : Bool} {a : Syntax} {n : Nat}
    (h : bracketed verbose cs = .ok (a, rest)) : a.GroupsLe n := by
  obtain ⟨start, -, h⟩ := exists_of_bind_ok h
  obtain ⟨body, -, ⟨⟩⟩ := exists_of_bind_ok h
  trivial

/-- The groups of a choice of sequences are counted on, and each has taken a character. -/
structure Numbered (st : State) (cs : List Char) (body : Syntax) (st' : State)
    (rest : List Char) : Prop where
  proper : st'.Proper
  groups : body.GroupsLe st'.groups
  le : st.groups ≤ st'.groups
  count : st'.groups + rest.length ≤ st.groups + cs.length

theorem Numbered.of_step (h : Numbered st₁ ds body st' rest) (hle : st.groups ≤ st₁.groups)
    (hcount : st₁.groups + ds.length ≤ st.groups + cs.length) : Numbered st cs body st' rest :=
  ⟨h.proper, h.groups, hle.trans h.le, h.count.trans hcount⟩

theorem Numbered.of_suffix (h : Numbered st ds body st' rest) (hds : ds <:+ cs) :
    Numbered st cs body st' rest :=
  h.of_step (Nat.le_refl _) (Nat.add_le_add_left hds.length_le _)

/-- How reading goes on after the items so far. -/
inductive Step (fuel : Nat) (st : State) (done items : List Syntax) (cs : List Char)
    (result : (Syntax × State) × List Char) : Prop
  | finish {rest : List Char} (hrest : rest <:+ cs)
      (h : result = ((.choice (.sequence items.reverse :: done).reverse, st), rest))
  | bar {rest : List Char} (hrest : rest <:+ cs)
      (h : choices fuel st (.sequence items.reverse :: done) [] rest = .ok result)
  | item {a : Syntax} {rest : List Char} (hrest : rest <:+ cs)
      (h : choices fuel st done (a :: items) rest = .ok result) (ha : ∀ n, a.GroupsLe n)
  | repetition {min : Nat} {max : Option Nat} {items' : List Syntax} {behind rest : List Char}
      (hbehind : behind <:+ cs) (hrepeat : repeatLast items min max behind = .ok (items', rest))
      (h : choices fuel st done items' rest = .ok result)
  | flags {changes : List FlagChange} {st₁ : State} {behind rest : List Char}
      (hbehind : '(' :: behind <:+ cs)
      (hopening : opening st behind = .ok ((.flags changes, st₁), rest))
      (h : choices fuel st₁ done (.setFlags changes :: items) rest = .ok result)
  | group {kind : GroupKind} {st₁ after : State} {body : Syntax} {behind inside rest : List Char}
      (hbehind : '(' :: behind <:+ cs)
      (hopening : opening st behind = .ok ((.group kind, st₁), inside))
      (hinside : choices fuel { st₁ with verbose := GroupKind.verbose kind st₁.verbose } [] []
        inside = .ok ((body, after), ')' :: rest))
      (h : choices fuel { after with verbose := st₁.verbose } done (.group kind body :: items) rest
        = .ok result)

theorem step_of_choices {result : (Syntax × State) × List Char}
    (h : choices (fuel + 1) st done items cs = .ok result) :
    Step fuel st done items cs result := by
  have hskip := skip_suffix st.verbose cs
  rw [choices.eq_def] at h
  dsimp only at h
  generalize skip st.verbose cs = ds at hskip h
  have hbehind : ∀ {c : Char} {behind rest : List Char}, c :: behind <:+ cs → rest <:+ behind →
      rest <:+ cs :=
    fun hc hrest => (hrest.trans (List.suffix_cons _ _)).trans hc
  split at h
  · cases h
    exact .finish hskip rfl
  · cases h
    exact .finish hskip rfl
  · exact .bar (hbehind hskip (List.suffix_refl _)) h
  · obtain ⟨⟨⟨o, st₁⟩, inside⟩, hopening, h⟩ := exists_of_bind_ok h
    cases o with
    | flags changes => exact .flags hskip hopening h
    | group kind =>
      obtain ⟨⟨⟨body, after⟩, rest⟩, hinside, h⟩ := exists_of_bind_ok h
      split at h
      · next heq =>
        cases heq
        exact .group hskip hopening hinside h
      · cases h
  · obtain ⟨⟨a, rest⟩, hbracket, h⟩ := exists_of_bind_ok h
    exact .item (hbehind hskip (leaves_bracketed st.verbose _ _ _ hbracket)) h
      fun n => groupsLe_of_bracketed hbracket
  · obtain ⟨⟨items', rest⟩, hrepeat, h⟩ := exists_of_bind_ok h
    exact .repetition (hbehind hskip (List.suffix_refl _)) hrepeat h
  · obtain ⟨⟨items', rest⟩, hrepeat, h⟩ := exists_of_bind_ok h
    exact .repetition (hbehind hskip (List.suffix_refl _)) hrepeat h
  · obtain ⟨⟨items', rest⟩, hrepeat, h⟩ := exists_of_bind_ok h
    exact .repetition (hbehind hskip (List.suffix_refl _)) hrepeat h
  · split at h
    · cases h
    · obtain ⟨⟨⟨min, max⟩, rest⟩, hbounds, h⟩ := exists_of_bind_ok h
      obtain ⟨⟨items', rest'⟩, hrepeat, h⟩ := exists_of_bind_ok h
      exact .repetition (hbehind hskip (leaves_bounds st.verbose _ _ _ hbounds)) hrepeat h
  · exact .item (hbehind hskip (List.suffix_refl _)) h fun n => trivial
  · exact .item (hbehind hskip (List.suffix_refl _)) h fun n => trivial
  · exact .item (hbehind hskip (List.suffix_refl _)) h fun n => trivial
  · obtain ⟨⟨item, rest⟩, hescape, h⟩ := exists_of_bind_ok h
    refine .item (hbehind hskip (leaves_escape st.verbose _ _ _ hescape)) h fun n => ?_
    cases item <;> trivial
  · exact .item (hbehind hskip (List.suffix_refl _)) h fun n => trivial

theorem numbered_of_choices (hst : st.Proper) (hdone : ∀ a ∈ done, a.GroupsLe st.groups)
    (hitems : ∀ a ∈ items, a.GroupsLe st.groups)
    (h : choices fuel st done items cs = .ok ((body, st'), rest)) :
    Numbered st cs body st' rest := by
  induction fuel generalizing st done items cs body st' rest with
  | zero => cases h
  | succ fuel ih =>
    have hfinished : (Syntax.sequence items.reverse).GroupsLe st.groups :=
      Syntax.groupsLe_sequence (by simpa using hitems)
    have hdone' : ∀ a ∈ .sequence items.reverse :: done, a.GroupsLe st.groups :=
      List.forall_mem_cons.2 ⟨hfinished, hdone⟩
    cases step_of_choices h with
    | finish hrest h =>
      cases h
      have hchoice : (Syntax.choice (.sequence items.reverse :: done).reverse).GroupsLe st.groups :=
        Syntax.groupsLe_choice fun a ha => hdone' a (List.mem_reverse.1 ha)
      exact ⟨hst, hchoice, Nat.le_refl _, Nat.add_le_add_left hrest.length_le _⟩
    | bar hrest h => exact (ih hst hdone' (List.forall_mem_nil _) h).of_suffix hrest
    | item hrest h ha =>
      exact (ih hst hdone (List.forall_mem_cons.2 ⟨ha _, hitems⟩) h).of_suffix hrest
    | repetition hbehind hrepeat h =>
      obtain ⟨hitems', hrest⟩ := items_of_repeatLast hrepeat hitems
      exact (ih hst hdone hitems' h).of_suffix (hrest.trans hbehind)
    | @flags changes st₁ behind rest₁ hbehind hopening h =>
      have hlen := hbehind.length_le
      have hlen₁ := (leaves_opening st _ _ _ hopening).length_le
      obtain ⟨hopened, hst₁⟩ := opened_of_opening hopening hst
      cases hopened with
      | flags _ hgroups =>
        refine (ih hst₁ ?_ ?_ h).of_step hgroups.ge ?_
        · rwa [hgroups]
        · rw [hgroups]
          exact List.forall_mem_cons.2 ⟨trivial, hitems⟩
        · rw [List.length_cons] at hlen
          omega
    | @group kind st₁ after body₁ behind inside more hbehind hopening hinside h =>
      have hlen := hbehind.length_le
      have hlen₁ := (leaves_opening st _ _ _ hopening).length_le
      obtain ⟨hopened, hst₁⟩ := opened_of_opening hopening hst
      have hbody : Numbered { st₁ with verbose := GroupKind.verbose kind st₁.verbose } inside body₁
          after (')' :: more) := ih hst₁ (List.forall_mem_nil _) (List.forall_mem_nil _) hinside
      have hle₁ : st₁.groups ≤ after.groups := hbody.le
      have hcount₁ : after.groups + (more.length + 1) ≤ st₁.groups + inside.length := hbody.count
      rw [List.length_cons] at hlen
      -- a group that captures takes a number, and the opening parenthesis makes up for it
      obtain ⟨hle, hcount, hgroup⟩ : st.groups ≤ st₁.groups ∧
          st₁.groups + inside.length ≤ st.groups + cs.length ∧
          (Syntax.group kind body₁).GroupsLe after.groups := by
        cases hopened with
        | capture hgroups => exact ⟨by omega, by omega, hle₁, hbody.groups⟩
        | plain _ hgroups => exact ⟨hgroups.ge, by omega, hbody.groups⟩
      have hmono : ∀ {as : List Syntax}, (∀ a ∈ as, a.GroupsLe st.groups) →
          ∀ a ∈ as, a.GroupsLe after.groups :=
        fun has a ha => (has a ha).mono (hle.trans hle₁)
      have hrest : Numbered { after with verbose := st₁.verbose } more body st' rest :=
        ih hbody.proper (hmono hdone) (List.forall_mem_cons.2 ⟨hgroup, hmono hitems⟩) h
      refine hrest.of_step (hle.trans hle₁) ?_
      change after.groups + more.length ≤ st.groups + cs.length
      omega

end Reader

namespace Syntax

variable {cs : List Char} {body : Syntax} {names : List (String × Nat)} {p : Pattern}
  {fs fs' : Flags} {n : Nat}

theorem groupsLe_of_read (h : read cs = .ok (body, names)) :
    body.GroupsLe cs.length ∧ ∀ entry ∈ names, Reader.IsGroupName entry.1 := by
  obtain ⟨⟨⟨body', st⟩, rest⟩, hchoices, h⟩ := exists_of_bind_ok h
  have hnumbered := Reader.numbered_of_choices (by simp [Reader.State.Proper])
    (List.forall_mem_nil _) (List.forall_mem_nil _) hchoices
  have hcount := hnumbered.count
  split at h
  · next heq =>
    cases heq
    split at h
    · cases h
    · cases h
      exact ⟨hnumbered.groups.mono (by simpa using hcount), hnumbered.proper⟩
  · cases h

theorem groupsLe_repeated {min : Nat} {max : Option Nat} {greedy : Bool} (h : p.GroupsLe n) :
    (p.repeated min max greedy).GroupsLe n := by
  rw [Pattern.repeated]
  generalize (if p.isIdle then (Nat.min min 1, some (Nat.min (max.getD 1) 1)) else (min, max)) = b
  dsimp only
  split
  · trivial
  split
  · exact h
  · exact h

theorem groupsLe_of_resolve (h : body.resolve fs = .ok (p, fs')) (hbody : body.GroupsLe n) :
    p.GroupsLe n := by
  induction body generalizing fs fs' p with
  | empty | setFlags | char | assertion =>
    cases h
    trivial
  | byte c =>
    obtain ⟨d, -, ⟨⟩⟩ := exists_of_bind_ok h
    trivial
  | dot =>
    rw [resolve] at h
    split at h
    · cases h
      trivial
    · cases h
  | perl c negated | property query negated =>
    obtain ⟨s, -, ⟨⟩⟩ := exists_of_bind_ok h
    trivial
  | bracket negated body =>
    obtain ⟨s, -, h⟩ := exists_of_bind_ok h
    obtain ⟨t, -, ⟨⟩⟩ := exists_of_bind_ok h
    trivial
  | group kind body ih =>
    cases kind with
    | capture i =>
      obtain ⟨⟨q, fs₁⟩, hq, ⟨⟩⟩ := exists_of_bind_ok h
      exact ⟨hbody.1, ih hq hbody.2⟩
    | plain changes =>
      obtain ⟨⟨q, fs₁⟩, hq, ⟨⟩⟩ := exists_of_bind_ok h
      exact ih hq hbody
  | rep body min max greedy ih =>
    obtain ⟨⟨q, fs₁⟩, hq, ⟨⟩⟩ := exists_of_bind_ok h
    exact groupsLe_repeated (ih hq hbody)
  | cat a b iha ihb | alt a b iha ihb =>
    obtain ⟨⟨q, fs₁⟩, hq, h⟩ := exists_of_bind_ok h
    obtain ⟨⟨r, fs₂⟩, hr, ⟨⟩⟩ := exists_of_bind_ok h
    exact ⟨iha hq hbody.1, ihb hr hbody.2⟩

end Syntax

variable {p : Pattern} {s u : Stage} {i n : Nat}

theorem notesOn_passes {R : Stage → Stage → Prop} (hR : ∀ s u, R s u → notesOn i u = notesOn i s)
    {k : Nat} (h : Passes R k s u) : notesOn i u = notesOn i s := by
  induction k generalizing s with
  | zero =>
    obtain rfl : u = s := h
    rfl
  | succ k ih =>
    obtain ⟨m, hm, h⟩ := h
    exact (ih h).trans (hR s m hm)

theorem Pattern.Takes.notesOn_eq (h : p.Takes s u) (hp : p.GroupsLe n) (hi : n < i) :
    notesOn i u = notesOn i s := by
  induction p generalizing s u with
  | empty =>
    obtain rfl : u = s := h
    rfl
  | char set =>
    obtain ⟨x, -, -, hnotes⟩ := h
    rw [notesOn, notesOn, hnotes]
  | look l =>
    obtain ⟨-, rfl⟩ := h
    rfl
  | group j p ih =>
    obtain ⟨m, hm, rfl⟩ := h
    have hij : i ≠ j := fun hij => absurd (hij ▸ hp.1) (Nat.not_le.2 hi)
    have hinner := ih hm hp.2
    rw [notesOn_open, if_neg hij] at hinner
    rw [notesOn_close, if_neg hij]
    exact hinner
  | cat p q ihp ihq =>
    obtain ⟨m, hm, hu⟩ := h
    exact (ihq hu hp.2).trans (ihp hm hp.1)
  | alt p q ihp ihq =>
    obtain h | h := h
    · exact ihp h hp.1
    · exact ihq h hp.2
  | rep p min max greedy ih =>
    obtain ⟨k, -, -, hk⟩ := h
    exact notesOn_passes (fun s u hs => ih hs hp) hk

theorem Match.group?_eq_none {m : Match} (h : p.Takes (m.start, []) (m.stop, m.saves))
    (hp : p.GroupsLe n) (hi : n < i) : m.group? i = none := by
  have hnotes := h.notesOn_eq hp hi
  have hopened : m.saves.lookup (2 * i) = none := congrArg Prod.fst hnotes
  rw [group?, if_neg (by omega), hopened]
  rfl

end Repath
