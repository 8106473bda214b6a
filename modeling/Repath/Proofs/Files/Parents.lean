import Repath.Proofs.Files.Following
import Mathlib.Data.List.DropRight

namespace Repath

namespace Path

open FileSystem (isDot)

variable {p : Path} {pieces more : List Bytes} {piece last bs : Bytes}

theorem intercalate_cons (piece : Bytes) (h : pieces ≠ []) :
    [slash].intercalate (piece :: pieces) = piece ++ slash :: [slash].intercalate pieces := by
  obtain ⟨next, pieces, rfl⟩ := List.exists_cons_of_ne_nil h
  simp [List.intercalate]

theorem intercalate_append (h : pieces ≠ []) (hmore : more ≠ []) :
    [slash].intercalate (pieces ++ more) =
      [slash].intercalate pieces ++ slash :: [slash].intercalate more := by
  induction pieces with
  | nil => exact absurd rfl h
  | cons piece pieces ih =>
    by_cases hpieces : pieces = []
    · subst hpieces
      rw [List.singleton_append, intercalate_cons piece hmore]
      simp [List.intercalate]
    · rw [List.cons_append, intercalate_cons piece (List.append_ne_nil_of_left_ne_nil hpieces more),
        ih hpieces, intercalate_cons piece hpieces, List.append_assoc, List.cons_append]

theorem intercalate_splitSlashes (piece bs : Bytes) :
    [slash].intercalate (splitSlashes piece bs) = piece.reverse ++ bs := by
  induction bs generalizing piece with
  | nil => simp [splitSlashes, List.intercalate]
  | cons b bs ih =>
    rw [splitSlashes]
    split
    · next hb => rw [intercalate_cons _ (splitSlashes_ne_nil [] bs), ih, hb, List.reverse_nil,
        List.nil_append]
    · rw [ih, List.reverse_cons, List.append_assoc, List.singleton_append]

theorem slash_notMem_of_mem (hpiece : slash ∉ piece) :
    ∀ w ∈ splitSlashes piece bs, slash ∉ w := by
  induction bs generalizing piece with
  | nil => simpa [splitSlashes] using hpiece
  | cons b bs ih =>
    rw [splitSlashes]
    split
    · exact List.forall_mem_cons.2 ⟨by simpa using hpiece, ih List.not_mem_nil⟩
    · next hb => exact ih (by simpa [hpiece] using Ne.symm hb)

theorem splitSlashes_intercalate (h : ∀ piece ∈ pieces, slash ∉ piece) (hne : pieces ≠ []) :
    splitSlashes [] ([slash].intercalate pieces) = pieces := by
  induction pieces with
  | nil => exact absurd rfl hne
  | cons piece pieces ih =>
    obtain ⟨hpiece, hpieces⟩ := List.forall_mem_cons.1 h
    have hfirst : splitSlashes [] piece = [piece] := by
      simpa [splitSlashes] using splitSlashes_append hpiece [] []
    by_cases hnil : pieces = []
    · subst hnil
      simpa [List.intercalate] using hfirst
    · rw [intercalate_cons piece hnil, splitSlashes_slash, hfirst, ih hpieces hnil,
        List.singleton_append]

theorem filter_names_isDot (p : Path) :
    p.names.filter (!isDot ·) = (splitSlashes [] p.bytes).filter (!isDot ·) := by
  obtain ⟨pieces, last, hp⟩ :=
    (List.eq_nil_or_concat' (splitSlashes [] p.bytes)).resolve_left (splitSlashes_ne_nil _ _)
  have hfilter : ∀ piece : Bytes, (!isDot piece && !piece.isEmpty) = !isDot piece := by
    intro piece
    cases piece <;> simp [isDot]
  simp [names, hp, List.filter_filter, hfilter]

theorem isDot_eq : (fun piece : Bytes => piece.isEmpty || piece == dot) = isDot := by
  funext piece
  cases piece <;> simp [isDot]

theorem parent_eq (hp : splitSlashes [] p.bytes = pieces ++ [last]) (hlast : ¬isDot last = true) :
    p.parent = if pieces.rdropWhile isDot = [] then if p.isAbsolute then ⟨[slash]⟩ else ⟨dot⟩
      else ⟨[slash].intercalate (pieces.rdropWhile isDot)⟩ := by
  rw [parent, hp, isDot_eq, List.reverse_concat, List.dropWhile_cons_of_neg hlast, List.rdropWhile]
  dsimp only
  split
  · next h => rw [if_pos (List.reverse_eq_nil_iff.2 h)]
  · next h => rw [if_neg (mt List.reverse_eq_nil_iff.1 h)]

theorem filter_rdropWhile (pieces : List Bytes) :
    (pieces.rdropWhile isDot).filter (!isDot ·) = pieces.filter (!isDot ·) := by
  induction pieces using List.reverseRecOn with
  | nil => rfl
  | append_singleton pieces piece ih =>
    by_cases h : isDot piece = true
    · rw [List.rdropWhile_concat_pos _ _ _ h, ih]
      simp [h]
    · rw [List.rdropWhile_concat_neg _ _ _ h]

/-- What a path and the path of the directory of its last name have in common: they start from the
same directory, and the names in front of the last one are the names of the directory. -/
structure InParent (p : Path) (front : List Bytes) : Prop where
  isEmpty : p.parent.isEmpty = false
  isAbsolute : p.parent.isAbsolute = p.isAbsolute
  zero : 0 ∉ p.bytes → 0 ∉ p.parent.bytes
  names : p.parent.names.filter (!isDot ·) = front.filter (!isDot ·)

theorem inParent (hp : splitSlashes [] p.bytes = pieces ++ [last]) (hlast : ¬isDot last = true) :
    p.InParent pieces := by
  have hparent := parent_eq hp hlast
  by_cases hfront : pieces.rdropWhile isDot = []
  · have hidle : pieces.filter (!isDot ·) = [] := by rw [← filter_rdropWhile, hfront, List.filter_nil]
    rw [if_pos hfront] at hparent
    cases habs : p.isAbsolute with
    | true =>
      rw [if_pos habs] at hparent
      exact ⟨by rw [hparent]; rfl, by rw [hparent, habs]; rfl, fun _ => by rw [hparent]; decide,
        by rw [hparent, hidle]; decide⟩
    | false =>
      rw [if_neg (by simp [habs])] at hparent
      exact ⟨by rw [hparent]; rfl, by rw [hparent, habs]; rfl, fun _ => by rw [hparent]; decide,
        by rw [hparent, hidle]; decide⟩
  · rw [if_neg hfront] at hparent
    obtain ⟨idle, hidle⟩ := pieces.rdropWhile_prefix isDot
    -- The path of the directory is the front of the path, up to a slash.
    have hbytes : p.bytes = p.parent.bytes ++ slash :: [slash].intercalate (idle ++ [last]) := by
      have hjoin := intercalate_splitSlashes [] p.bytes
      rw [hp, ← hidle, List.append_assoc, intercalate_append hfront (by simp)] at hjoin
      rw [hparent]
      exact hjoin.symm
    have hsplit : splitSlashes [] p.parent.bytes = pieces.rdropWhile isDot := by
      rw [hparent]
      refine splitSlashes_intercalate (fun piece hpiece => ?_) hfront
      have hmem : piece ∈ splitSlashes [] p.bytes := by
        rw [hp, ← hidle]
        simp [hpiece]
      exact slash_notMem_of_mem List.not_mem_nil piece hmem
    have hne : p.parent.bytes ≠ [] := by
      intro hnil
      rw [hnil] at hsplit
      have hend := List.rdropWhile_last_not isDot pieces hfront
      simp only [← hsplit] at hend
      exact hend rfl
    constructor
    case isEmpty => simpa [isEmpty] using hne
    case isAbsolute => rw [isAbsolute, isAbsolute, hbytes, List.head?_append_of_ne_nil _ hne]
    case zero =>
      intro hzero hmem
      rw [hbytes] at hzero
      exact hzero (List.mem_append_left _ hmem)
    case names => rw [filter_names_isDot, hsplit, filter_rdropWhile]

/-- What is idle in front of the last name is no part of the path of the directory. -/
example : (Path.ofString "a/..//./b").parent = .ofString "a/.." := by decide

end Path

namespace FileSystem

variable {fs : FileSystem} {cwd target l : Location} {p : Path} {e : Entry}

/-- What is written in front of the last name of a path leads to the directory that holds what the
path names. -/
theorem Names.stat_parent (hfs : fs.WellFormed)
    (hstart : fs.get? (if p.isAbsolute then [] else cwd) = some .dir)
    (h : fs.Names cwd p target e) (hne : e ≠ .dir) :
    fs.stat cwd p.parent = .ok (target.dropLast, .dir) := by
  obtain ⟨hlocate, htarget⟩ := h
  obtain ⟨hnul, -, hfollow⟩ := locate_eq_ok.1 hlocate
  obtain ⟨front, last, above, hnames, rfl, hlast, -, habove⟩ :=
    follow_keep hfs hstart hfollow htarget hne
  obtain ⟨pieces, end', hpieces⟩ :=
    (List.eq_nil_or_concat' (Path.splitSlashes [] p.bytes)).resolve_left
      (Path.splitSlashes_ne_nil _ _)
  obtain ⟨rfl, hend⟩ : pieces.filter (!·.isEmpty) = front ∧ [end'] = [last] := by
    refine List.append_inj' (Eq.trans ?_ hnames) rfl
    simp [Path.names, hpieces]
  obtain rfl : end' = last := List.singleton_inj.1 hend
  have hin := Path.inParent hpieces (by simp [hlast])
  have hdir : fs.get? above = some .dir := hfs.dir_above htarget (by simp)
  rw [List.dropLast_concat]
  refine stat_eq_ok.2 ⟨locate_eq_ok.2 ⟨hin.zero hnul, hin.isEmpty, ?_⟩, hdir⟩
  rw [hin.isAbsolute]
  exact habove _ (hin.names.trans (filter_isDot_filter pieces).symm)

end FileSystem

end Repath
