import Repath.Files.Path

namespace Repath

/-- The names on the way from the root directory, outermost first. -/
abbrev Location := List Bytes

inductive Entry
  | file (content : Bytes) (mode : Nat)
  | dir
  | link (target : Path)
  deriving DecidableEq, Repr

structure FileSystem where
  entries : List (Location × Entry)
  deriving Repr, DecidableEq

namespace Location

def path (l : Location) : Path :=
  match l with
  | [] => ⟨[Path.slash]⟩
  | _ => ⟨l.flatMap fun name => Path.slash :: name⟩

end Location

namespace FileSystem

def empty : FileSystem := ⟨[]⟩

/-- What is at a location. The root directory is always there. -/
def get? (fs : FileSystem) (l : Location) : Option Entry :=
  if l = [] then some .dir else fs.entries.lookup l

def children (fs : FileSystem) (l : Location) : List (Bytes × Entry) :=
  fs.entries.filterMap fun (at', e) =>
    if at'.dropLast = l then at'.getLast?.map fun name => (name, e) else none

def put (fs : FileSystem) (l : Location) (e : Entry) : FileSystem :=
  if (fs.entries.lookup l).isSome then
    ⟨fs.entries.map fun entry => if entry.1 = l then (l, e) else entry⟩
  else ⟨fs.entries ++ [(l, e)]⟩

/-- Takes a location away, with everything below it. -/
def remove (fs : FileSystem) (l : Location) : FileSystem :=
  ⟨fs.entries.filter fun entry => !l.isPrefixOf entry.1⟩

def depth (fs : FileSystem) : Nat := fs.entries.foldl (fun n entry => Nat.max n entry.1.length) 0

def IsName (name : Bytes) : Prop :=
  name ≠ [] ∧ Path.slash ∉ name ∧ 0 ∉ name ∧ name ≠ Path.dot ∧ name ≠ Path.dotDot

/-- Every location is held once and made of proper names, and the one above it is a directory. -/
structure WellFormed (fs : FileSystem) : Prop where
  nodup : (fs.entries.map (·.1)).Nodup
  nonempty : ∀ entry ∈ fs.entries, entry.1 ≠ []
  names : ∀ entry ∈ fs.entries, ∀ name ∈ entry.1, IsName name
  parents : ∀ entry ∈ fs.entries, fs.get? entry.1.dropLast = some .dir

theorem lookup_replaced_of_ne {l k : Location} (e : Entry) (h : k ≠ l)
    (es : List (Location × Entry)) :
    (es.map fun entry => if entry.1 = l then (l, e) else entry).lookup k = es.lookup k := by
  induction es with
  | nil => rfl
  | cons x es ih =>
    obtain ⟨m, d⟩ := x
    by_cases hm : m = l
    · subst hm
      have hk : (k == m) = false := by simp [h]
      simp [List.lookup_cons, hk, ih]
    · simp [List.lookup_cons, hm, ih]

theorem lookup_replaced_self {l : Location} (e : Entry) {es : List (Location × Entry)}
    (h : (es.lookup l).isSome) :
    (es.map fun entry => if entry.1 = l then (l, e) else entry).lookup l = some e := by
  induction es with
  | nil => simp at h
  | cons x es ih =>
    obtain ⟨m, d⟩ := x
    by_cases hm : m = l
    · simp [hm]
    · have hl : (l == m) = false := by simp [Ne.symm hm]
      rw [List.lookup_cons, hl] at h
      simp only [List.map_cons, hm, if_false, List.lookup_cons, hl]
      exact ih h

theorem lookup_filter (keep : Location → Bool) (k : Location) (es : List (Location × Entry)) :
    (es.filter fun entry => keep entry.1).lookup k = if keep k then es.lookup k else none := by
  induction es with
  | nil => simp
  | cons x es ih =>
    obtain ⟨m, d⟩ := x
    by_cases hm : k = m
    · subst hm
      by_cases hk : keep k
      · simp [hk]
      · simpa only [List.filter_cons, hk, Bool.false_eq_true, if_false] using ih
    · have hl : (k == m) = false := by simp [hm]
      rw [List.filter_cons, List.lookup_cons, hl]
      split
      · rw [List.lookup_cons, hl]; exact ih
      · exact ih

theorem get?_put (fs : FileSystem) {l : Location} (e : Entry) (h : l ≠ []) (k : Location) :
    (fs.put l e).get? k = if k = l then some e else fs.get? k := by
  by_cases hk : k = []
  · subst hk; simp [get?, Ne.symm h]
  · cases hs : fs.entries.lookup l with
    | some d =>
      have hs' : (fs.entries.lookup l).isSome := by simp [hs]
      by_cases hkl : k = l
      · subst hkl; simp [get?, put, hs', hk, lookup_replaced_self e hs']
      · simp [get?, put, hs', hk, hkl, lookup_replaced_of_ne e hkl]
    | none =>
      by_cases hkl : k = l
      · subst hkl; simp [get?, put, hk, hs, List.lookup_append]
      · have : (k == l) = false := by simp [hkl]
        simp [get?, put, hs, hk, hkl, this, List.lookup_append, List.lookup_cons]

theorem get?_remove (fs : FileSystem) (l : Location) {k : Location} (h : k ≠ []) :
    (fs.remove l).get? k = if l.isPrefixOf k then none else fs.get? k := by
  have := lookup_filter (fun m => !l.isPrefixOf m) k fs.entries
  simp only [get?, remove, h, if_false, this]
  cases l.isPrefixOf k <;> rfl

end FileSystem

end Repath
