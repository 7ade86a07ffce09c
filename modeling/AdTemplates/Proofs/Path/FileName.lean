import AdTemplates.Proofs.Path.Pieces

/-! The file name of a path as its last move. A path with a file name is a directory and one
move more; a new file name replaces that move, or adds one where there was no file name. -/
namespace AdTemplates.Path

variable {p directory : Path} {name piece : List UInt8} {before : List (List UInt8)}

namespace Component

theorem ofPiece?_false_of_eq_none {leading : Bool} (h : ofPiece? leading piece = none) :
    ofPiece? false piece = none := by
  cases leading with
  | false => exact h
  | true =>
    unfold ofPiece? at h
    split at h
    · rename_i hempty
      rw [hempty]
      rfl
    · split at h
      · cases h
      · split at h <;> cases h

theorem ofPiece?_false_eq_none_iff : ofPiece? false piece = none ↔ isMove piece = false := by
  unfold ofPiece? isMove
  split
  · simp [*]
  · split
    · simp [*]
    · split <;> simp [*]

theorem ofPiece?_eq_normal_iff {leading : Bool} :
    ofPiece? leading piece = some (.normal name) ↔
      piece = name ∧ name ≠ [] ∧ name ≠ [dot] ∧ name ≠ [dot, dot] := by
  unfold ofPiece?
  split
  · rename_i hempty
    exact iff_of_false (by simp) fun ⟨heq, hne, _⟩ => hne (heq ▸ hempty)
  · rename_i hempty
    split
    · rename_i hdot
      refine iff_of_false ?_ fun ⟨heq, _, hne, _⟩ => hne (heq ▸ hdot)
      cases leading <;> simp
    · rename_i hdot
      split
      · rename_i hparent
        exact iff_of_false (by simp) fun ⟨heq, _, _, hne⟩ => hne (heq ▸ hparent)
      · rename_i hparent
        rw [Option.some.injEq, Component.normal.injEq]
        refine ⟨?_, And.left⟩
        rintro rfl
        exact ⟨rfl, hempty, hdot, hparent⟩

end Component

open Component

/-! ### The end of a path -/

theorem trimBack_suffix (absolute : Bool) (back : List (List UInt8)) :
    trimBack absolute back <:+ back := by
  induction back with
  | nil => exact List.suffix_refl []
  | cons piece before ih =>
    rw [trimBack]
    split
    · exact List.suffix_refl _
    · exact ih.trans (List.suffix_cons piece before)

/-- What is taken off the end makes no move. -/
theorem filter_trimBack (absolute : Bool) (back : List (List UInt8)) :
    (trimBack absolute back).filter isMove = back.filter isMove := by
  induction back with
  | nil => rfl
  | cons piece before ih =>
    rw [trimBack]
    split
    · rfl
    · rename_i hnone
      rw [Bool.not_eq_true, Option.isSome_eq_false_iff, Option.isNone_iff_eq_none] at hnone
      have hmove := ofPiece?_false_eq_none_iff.mp (ofPiece?_false_of_eq_none hnone)
      rw [ih, List.filter_cons_of_neg (by rw [hmove]; exact Bool.false_ne_true)]

theorem ne_nil_of_trimBack {absolute : Bool} {back : List (List UInt8)}
    (h : trimBack absolute back = piece :: before) : piece ≠ [] := by
  induction back with
  | nil => cases h
  | cons first back ih =>
    rw [trimBack] at h
    split at h
    · rename_i hsome
      cases h
      rintro rfl
      cases hsome
    · exact ih h

theorem trimBack_name (absolute : Bool) (h : IsName name) (before : List (List UInt8)) :
    trimBack absolute (name :: before) = name :: before := by
  rw [trimBack, ofPiece?_eq_normal_iff.mpr ⟨rfl, h.ne_nil, h.ne_dot, h.ne_parent⟩]
  rfl

/-- The last component of the pieces `first :: more`, where `more` is given backwards. A path
begins with what its first piece stands for, or with the root. -/
theorem getLast?_append_filterMap {absolute : Bool} {first : List UInt8}
    (hfirst : absolute = true → first = []) (back : List (List UInt8)) :
    ((if absolute then [root] else (ofPiece? true first).toList) ++
        back.reverse.filterMap (ofPiece? false)).getLast? =
      match trimBack absolute (back ++ [first]) with
      | [] => if absolute then some root else none
      | piece :: before => ofPiece? (!absolute && before.isEmpty) piece := by
  induction back with
  | nil =>
    rw [List.reverse_nil, List.filterMap_nil, List.append_nil, List.nil_append, trimBack]
    cases absolute with
    | true =>
      rw [hfirst rfl]
      rfl
    | false =>
      cases hpiece : ofPiece? true first with
      | none => simp [hpiece, trimBack]
      | some c => simp [hpiece]
  | cons piece back ih =>
    have hlater : (back ++ [first]).isEmpty = false := by simp
    rw [List.cons_append, trimBack, hlater, Bool.and_false, List.reverse_cons,
      List.filterMap_append, ← List.append_assoc]
    cases hpiece : ofPiece? false piece with
    | none =>
      rw [List.filterMap_cons_none hpiece, List.filterMap_nil, List.append_nil, ih]
      rfl
    | some c =>
      rw [List.filterMap_cons_some hpiece, List.filterMap_nil, List.getLast?_concat]
      simp only [Option.isSome_some, if_true, hlater, Bool.and_false, hpiece]

theorem getLast?_components (p : Path) :
    p.components.getLast? =
      match trimBack p.isAbsolute p.pieces.reverse with
      | [] => if p.isAbsolute then some root else none
      | piece :: before => ofPiece? (!p.isAbsolute && before.isEmpty) piece := by
  obtain ⟨first, more, hpieces⟩ := List.exists_cons_of_ne_nil (splitSlashes_ne_nil p.bytes)
  have hfirst : p.isAbsolute = true → first = [] := by
    intro habsolute
    obtain ⟨_, _, h⟩ := isAbsolute_iff.mp habsolute
    exact (List.cons.inj (hpieces.symm.trans h)).1
  have hend := getLast?_append_filterMap hfirst more.reverse
  rw [List.reverse_reverse, ← List.reverse_cons] at hend
  rw [components, pieces, hpieces, ← hend]
  cases p.isAbsolute <;> rfl

/-- A file name is the last piece that stands for something, if it is a plain name. -/
theorem fileName?_eq_some_iff :
    p.fileName? = some name ↔
      ∃ before, trimBack p.isAbsolute p.pieces.reverse = name :: before ∧ IsName name := by
  have hlast : p.fileName? = some name ↔ p.components.getLast? = some (.normal name) := by
    unfold fileName?
    split
    · rename_i other h
      rw [h, Option.some.injEq, Option.some.injEq, Component.normal.injEq]
    · rename_i h
      exact iff_of_false (by simp) (h name)
  rw [hlast, getLast?_components]
  constructor
  · intro h
    cases htrim : trimBack p.isAbsolute p.pieces.reverse with
    | nil =>
      rw [htrim] at h
      cases hroot : p.isAbsolute <;> simp [hroot] at h
    | cons piece before =>
      rw [htrim] at h
      obtain ⟨rfl, hnil, hdot, hparent⟩ := ofPiece?_eq_normal_iff.mp h
      have hmem : piece ∈ p.pieces.reverse :=
        (trimBack_suffix _ _).mem (htrim ▸ List.mem_cons_self)
      exact ⟨before, rfl, hnil, hdot, hparent,
        slash_notMem_of_mem_splitSlashes (List.mem_reverse.mp hmem)⟩
  · rintro ⟨before, htrim, hname⟩
    rw [htrim]
    exact ofPiece?_eq_normal_iff.mpr ⟨rfl, hname.ne_nil, hname.ne_dot, hname.ne_parent⟩

theorem isName_of_fileName? (h : p.fileName? = some name) : IsName name := by
  obtain ⟨_, _, hname⟩ := fileName?_eq_some_iff.mp h
  exact hname

/-! ### The directory of a file -/

theorem moves_eq_reverse (p : Path) :
    p.moves = ((trimBack p.isAbsolute p.pieces.reverse).filter isMove).reverse := by
  rw [filter_trimBack, List.filter_reverse, List.reverse_reverse, moves]

/-- The first pieces of a path begin at the root if the path does and the last of them stands
for something. -/
theorem isAbsolute_joinSlashes {kept : List (List UInt8)} (hkept : kept <:+ p.pieces.reverse)
    (hne : kept ≠ []) (hlast : ∀ piece before, kept = piece :: before → piece ≠ []) :
    (Path.mk (joinSlashes kept.reverse)).pieces = kept.reverse ∧
      (Path.mk (joinSlashes kept.reverse)).isAbsolute = p.isAbsolute := by
  have hpieces : (Path.mk (joinSlashes kept.reverse)).pieces = kept.reverse := by
    refine pieces_joinSlashes (by simpa using hne) fun piece hpiece => ?_
    exact slash_notMem_of_mem_splitSlashes (List.mem_reverse.mp (hkept.mem (List.mem_reverse.mp hpiece)))
  refine ⟨hpieces, Bool.eq_iff_iff.mpr ?_⟩
  obtain ⟨ending, hending⟩ := hkept
  have hwhole : p.pieces = kept.reverse ++ ending.reverse := by
    rw [← List.reverse_reverse p.pieces, ← hending, List.reverse_append]
  rw [isAbsolute_iff, isAbsolute_iff, hpieces, hwhole]
  constructor
  · rintro ⟨piece, more, h⟩
    exact ⟨piece, more ++ ending.reverse, by rw [h]; rfl⟩
  · rintro ⟨piece, more, h⟩
    cases hfirst : kept.reverse with
    | nil => exact absurd (List.reverse_eq_nil_iff.mp hfirst) hne
    | cons first others =>
      rw [hfirst] at h
      obtain ⟨rfl, _⟩ := List.cons.inj h
      cases others with
      | cons next others => exact ⟨next, others, rfl⟩
      | nil =>
        -- A single piece would be the empty one in front of the root.
        rw [List.reverse_eq_iff] at hfirst
        exact absurd rfl (hlast _ _ hfirst)

/-- The directory of a file has the pieces in front of the file name, without those at their end
that stand for nothing. Where none is left it is the root or the empty path. -/
theorem exists_parent_pieces (h : p.fileName? = some name) :
    ∃ before directory, trimBack p.isAbsolute p.pieces.reverse = name :: before ∧
      p.parent? = some directory ∧ directory.isAbsolute = p.isAbsolute ∧
      (directory.pieces.reverse = trimBack p.isAbsolute before ∨
        trimBack p.isAbsolute before = [] ∧ ∀ piece ∈ directory.pieces, piece = []) := by
  obtain ⟨before, htrim, _⟩ := fileName?_eq_some_iff.mp h
  rw [parent?, htrim]
  simp only
  cases hkept : trimBack p.isAbsolute before with
  | nil =>
    refine ⟨before, _, rfl, rfl, ?_, .inr ⟨hkept, ?_⟩⟩
    · cases p.isAbsolute <;> rfl
    · cases p.isAbsolute <;> simp [pieces, splitSlashes]
  | cons piece more =>
    have hsuffix : piece :: more <:+ p.pieces.reverse := by
      rw [← hkept]
      have hbefore : before <:+ p.pieces.reverse :=
        (List.suffix_cons name before).trans (htrim ▸ trimBack_suffix _ _)
      exact (trimBack_suffix _ _).trans hbefore
    obtain ⟨hpieces, habsolute⟩ := isAbsolute_joinSlashes hsuffix (List.cons_ne_nil piece more)
      fun first others heq => ne_nil_of_trimBack (hkept.trans heq)
    refine ⟨before, _, rfl, rfl, habsolute, .inl ?_⟩
    rw [hpieces, List.reverse_reverse, hkept]

theorem exists_parent (h : p.fileName? = some name) :
    ∃ directory, p.parent? = some directory ∧ directory.isAbsolute = p.isAbsolute ∧
      p.moves = directory.moves ++ [name] := by
  obtain ⟨before, directory, htrim, hparent, habsolute, hpieces⟩ := exists_parent_pieces h
  refine ⟨directory, hparent, habsolute, ?_⟩
  have hmoves : p.moves = ((trimBack p.isAbsolute before).filter isMove).reverse ++ [name] := by
    rw [moves_eq_reverse, htrim, List.filter_cons_of_pos (isName_of_fileName? h).isMove,
      List.reverse_cons, filter_trimBack]
  rw [hmoves, List.append_cancel_right_eq, moves, ← List.reverse_reverse directory.pieces,
    List.filter_reverse]
  rcases hpieces with hkept | ⟨hkept, hempty⟩
  · rw [hkept]
  · have hnone : directory.pieces.reverse.filter isMove = [] :=
      List.filter_eq_nil_iff.mpr fun piece hpiece => by
        rw [hempty piece (List.mem_reverse.mp hpiece)]
        decide
    rw [hkept, hnone]
    rfl

/-! ### Another file name -/

theorem isAbsolute_withFileName (p : Path) (h : IsName name) :
    (p.withFileName name).isAbsolute = p.isAbsolute := by
  unfold withFileName
  split
  · rename_i old hold
    obtain ⟨directory, hdirectory, habsolute, _⟩ := exists_parent hold
    rw [hdirectory, Option.getD_some, isAbsolute_join_name _ h.slash_notMem, habsolute]
  · exact isAbsolute_join_name p h.slash_notMem

/-- A new file name leads elsewhere from the same directory. -/
theorem moves_withFileName_of_fileName {old : List UInt8} (hold : p.fileName? = some old)
    (h : IsName name) :
    ∃ before, p.moves = before ++ [old] ∧ (p.withFileName name).moves = before ++ [name] := by
  obtain ⟨directory, hdirectory, _, hmoves⟩ := exists_parent hold
  refine ⟨directory.moves, hmoves, ?_⟩
  rw [withFileName, hold, hdirectory]
  exact moves_join_name directory h

theorem trimBack_join_name (directory : Path) (h : IsName name) :
    trimBack (directory.join ⟨name⟩).isAbsolute (directory.join ⟨name⟩).pieces.reverse =
      name :: (splitSlashes directory.front).dropLast.reverse := by
  rw [join_name h.slash_notMem, pieces_front_append directory h.slash_notMem, List.reverse_concat,
    trimBack_name _ h]

theorem fileName?_join_name (directory : Path) (h : IsName name) :
    (directory.join ⟨name⟩).fileName? = some name :=
  fileName?_eq_some_iff.mpr ⟨_, trimBack_join_name directory h, h⟩

theorem splitExtension_append {extension : List UInt8} (hne : name ≠ []) (hdot : dot ∉ extension) :
    splitExtension (name ++ dot :: extension) = (name, some extension) := by
  have hbare : ∀ b ∈ extension.reverse, (b != dot) = true := fun b hb =>
    bne_iff_ne.mpr fun hb' => hdot (hb' ▸ List.mem_reverse.mp hb)
  obtain ⟨last, others, hname⟩ := List.exists_cons_of_ne_nil (List.reverse_ne_nil_iff.mpr hne)
  have hback : others.reverse ++ [last] = name := by
    rw [← List.reverse_cons, ← hname, List.reverse_reverse]
  rw [splitExtension, List.reverse_append, List.reverse_cons, List.append_assoc,
    List.singleton_append, hname, List.dropWhile_append_of_pos hbare,
    List.takeWhile_append_of_pos hbare]
  simp [hback]

end AdTemplates.Path
