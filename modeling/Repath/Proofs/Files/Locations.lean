import Repath.Files.Resolve
import Mathlib.Data.List.Basic

namespace Repath

namespace Path

open FileSystem (IsName)

variable {name w : Bytes} {names pieces : List Bytes} {p : Path} {l top : Location}

/-- The path of what names lead to from a directory's path on. -/
def extend (p : Path) (names : List Bytes) : Path := names.foldl (fun p name => p.join ⟨name⟩) p

theorem splitSlashes_append (hw : slash ∉ w) (piece bs : Bytes) :
    splitSlashes piece (w ++ bs) = splitSlashes (w.reverse ++ piece) bs := by
  induction w generalizing piece with
  | nil => rfl
  | cons b w ih =>
    rw [List.mem_cons, not_or] at hw
    rw [List.cons_append, splitSlashes, if_neg (Ne.symm hw.1), ih hw.2]
    simp

theorem splitSlashes_flatMap (h : ∀ name ∈ names, slash ∉ name) (piece : Bytes) :
    splitSlashes piece (names.flatMap (slash :: ·)) = piece.reverse :: names := by
  induction names generalizing piece with
  | nil => rfl
  | cons name names ih =>
    obtain ⟨hname, hnames⟩ := List.forall_mem_cons.1 h
    rw [List.flatMap_cons, List.cons_append, splitSlashes, if_pos rfl, splitSlashes_append hname,
      ih hnames]
    simp

theorem names_eq_filter (hp : splitSlashes [] p.bytes = pieces ++ [name]) (hname : name ≠ []) :
    p.names = (pieces ++ [name]).filter (!·.isEmpty) := by
  simp [Path.names, hp, hname]

theorem filter_names (h : ∀ name ∈ names, IsName name) : names.filter (!·.isEmpty) = names := by
  apply List.filter_eq_self.2
  intro name hname
  simpa using (h name hname).1

theorem names_extend (hn : IsName name) (h : ∀ n ∈ names, IsName n) :
    (⟨name ++ names.flatMap (slash :: ·)⟩ : Path).names = name :: names := by
  have hall : ∀ n ∈ name :: names, IsName n := List.forall_mem_cons.2 ⟨hn, h⟩
  have hs : splitSlashes [] (name ++ names.flatMap (slash :: ·)) = name :: names := by
    rw [splitSlashes_append hn.2.1, splitSlashes_flatMap fun n hn => (h n hn).2.1]
    simp
  obtain ⟨pieces, last, hp⟩ : ∃ pieces last, name :: names = pieces ++ [last] :=
    (List.eq_nil_or_concat' _).resolve_left (by simp)
  have hlast : last ≠ [] := (hall last (by simp [hp])).1
  rw [names_eq_filter (hs.trans hp) hlast, ← hp, filter_names hall]

end Path

namespace Location

open FileSystem (IsName)
open Repath.Path (slash)

variable {name : Bytes} {names : List Bytes} {l top k : Location}

theorem path_of_ne_nil (h : l ≠ []) : l.path = ⟨l.flatMap (slash :: ·)⟩ := by
  cases l with
  | nil => exact absurd rfl h
  | cons n l => rfl

theorem names_path (hl : l ≠ []) (h : ∀ n ∈ l, IsName n) : l.path.names = l := by
  have hs : Path.splitSlashes [] (l.flatMap (slash :: ·)) = [] :: l :=
    Path.splitSlashes_flatMap (fun n hn => (h n hn).2.1) []
  obtain ⟨pieces, last, rfl⟩ := (List.eq_nil_or_concat' l).resolve_left hl
  have hlast : last ≠ [] := (h last (by simp)).1
  rw [path_of_ne_nil hl]
  rw [← List.cons_append] at hs
  refine (Path.names_eq_filter (p := ⟨_⟩) hs hlast).trans ?_
  rw [List.cons_append, List.filter_cons_of_neg (by simp), Path.filter_names h]

theorem names_path_nil : (path []).names = [[]] := by decide

theorem path_inj (hl : ∀ n ∈ l, IsName n) (hk : ∀ n ∈ k, IsName n) (h : l.path = k.path) :
    l = k := by
  have hroot : ∀ {k : Location}, (∀ n ∈ k, IsName n) → (path []).names = k.path.names → k = [] := by
    intro k hk h
    by_contra hne
    rw [names_path hne hk, names_path_nil] at h
    exact (hk [] (by simp [← h])).1 rfl
  by_cases h₁ : l = []
  · subst h₁
    exact (hroot hk (congrArg Path.names h)).symm
  · by_cases h₂ : k = []
    · subst h₂
      exact hroot hl (congrArg Path.names h.symm)
    · rw [← names_path h₁ hl, ← names_path h₂ hk, h]

theorem getLast?_path (hl : l ≠ []) (h : ∀ n ∈ l, IsName n) :
    l.path.bytes.getLast? ≠ some slash := by
  obtain ⟨pieces, last, rfl⟩ := (List.eq_nil_or_concat' l).resolve_left hl
  obtain ⟨hne, hslash, -⟩ := h last (by simp)
  obtain ⟨w, b, rfl⟩ := (List.eq_nil_or_concat' last).resolve_left hne
  have hb : b ≠ slash := fun hb => hslash (by simp [hb])
  have hpath : (path (pieces ++ [w ++ [b]])).bytes =
      pieces.flatMap (slash :: ·) ++ slash :: w ++ [b] := by
    simp [path_of_ne_nil, List.flatMap_append]
  rw [hpath, List.getLast?_concat]
  simpa using hb

theorem isEmpty_path (l : Location) : l.path.isEmpty = false := by
  cases l <;> rfl

theorem isAbsolute_path (l : Location) : l.path.isAbsolute = true := by
  cases l <;> simp [path, Path.isAbsolute]

theorem zero_notMem_path (h : ∀ n ∈ l, IsName n) : 0 ∉ l.path.bytes := by
  cases l with
  | nil => decide
  | cons n l =>
    rw [path_of_ne_nil (by simp), List.mem_flatMap]
    rintro ⟨m, hm, hz⟩
    obtain hz | hz := List.mem_cons.1 hz
    · exact absurd hz (by decide)
    · exact (h m hm).2.2.1 hz

theorem isAbsolute_cons (hn : IsName name) (w : Bytes) :
    (⟨name ++ w⟩ : Path).isAbsolute = false := by
  obtain ⟨hne, hslash, -⟩ := hn
  cases name with
  | nil => exact absurd rfl hne
  | cons b name =>
    have hb : b ≠ slash := fun hb => hslash (by simp [hb])
    simp [Path.isAbsolute, hb]

theorem join_path (hl : ∀ n ∈ l, IsName n) (hn : IsName name) (w : Bytes) :
    l.path.join ⟨name ++ w⟩ = ⟨(path (l ++ [name])).bytes ++ w⟩ := by
  rw [Path.join, isAbsolute_cons hn, isEmpty_path, path_of_ne_nil (l := l ++ [name]) (by simp)]
  by_cases h : l = []
  · subst h
    simp [path]
  · have hlast := getLast?_path h hl
    rw [path_of_ne_nil h] at hlast ⊢
    simp [hlast, List.flatMap_append]

theorem extend_path (hl : ∀ n ∈ l, IsName n) (h : ∀ n ∈ names, IsName n) :
    l.path.extend names = path (l ++ names) := by
  induction names generalizing l with
  | nil => simp [Path.extend]
  | cons n names ih =>
    obtain ⟨hn, hnames⟩ := List.forall_mem_cons.1 h
    have hall : ∀ m ∈ l ++ [n], IsName m := by
      simpa [or_imp, forall_and] using ⟨hl, hn⟩
    have hjoin := join_path hl hn []
    rw [List.append_nil, List.append_nil] at hjoin
    have hrest := ih hall hnames
    rw [List.append_assoc] at hrest
    rw [Path.extend, List.foldl_cons, hjoin]
    exact hrest

theorem relativeTo_path (hl : ∀ n ∈ top, IsName n) (hn : IsName name) (names : List Bytes) :
    top.path.relativeTo (path (top ++ name :: names)) =
      ⟨name ++ names.flatMap (slash :: ·)⟩ := by
  have hne : top ++ name :: names ≠ [] := by simp
  by_cases h : top = []
  · subst h
    obtain ⟨hname, hslash, -⟩ := hn
    cases name with
    | nil => exact absurd rfl hname
    | cons b name =>
      have hb : b ≠ slash := fun hb => hslash (by simp [hb])
      simp [path, Path.relativeTo, hb]
  · rw [path_of_ne_nil hne, path_of_ne_nil h]
    simp [Path.relativeTo, List.flatMap_append, List.isPrefixOf_iff_prefix]

end Location
end Repath
