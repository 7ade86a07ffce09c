import AdTemplates.Proofs.Path.FileName

/-! The components of a path as its beginning and its moves. A path begins at the root, at a dot
or nowhere, and after that each move is a component. The directory of a file begins where the
file does, and so does a name that is put into a directory; each has one component less or
more. -/
namespace AdTemplates.Path

variable {p directory : Path} {name : List UInt8}

open Component

/-- The component of a move. -/
def Component.ofMove (piece : List UInt8) : Component :=
  if piece = [dot, dot] then .parent else .normal piece

/-- What stands before the moves of a path. -/
def beginning (p : Path) : List Component :=
  if p.isAbsolute then [root] else if p.pieces.head? = some [dot] then [current] else []

theorem ofMove_name (h : IsName name) : ofMove name = .normal name := if_neg h.ne_parent

theorem filterMap_ofPiece? (pieces : List (List UInt8)) :
    pieces.filterMap (ofPiece? false) = (pieces.filter isMove).map ofMove := by
  induction pieces with
  | nil => rfl
  | cons piece more ih =>
    cases hmove : isMove piece with
    | false =>
      rw [List.filterMap_cons_none (ofPiece?_false_eq_none_iff.mpr hmove),
        List.filter_cons_of_neg (by rw [hmove]; exact Bool.false_ne_true), ih]
    | true =>
      have hpiece : ofPiece? false piece = some (ofMove piece) := by
        have hne : piece ≠ [] ∧ piece ≠ [dot] := by simpa [isMove] using hmove
        rw [ofPiece?, if_neg hne.1, if_neg hne.2, ofMove]
        split <;> rfl
      rw [List.filterMap_cons_some hpiece, List.filter_cons_of_pos hmove, List.map_cons, ih]

theorem toList_ofPiece?_true (piece : List UInt8) :
    (ofPiece? true piece).toList =
      (if piece = [dot] then [current] else []) ++ ([piece].filter isMove).map ofMove := by
  rw [← filterMap_ofPiece?]
  by_cases hdot : piece = [dot]
  · rw [hdot]
    rfl
  · have hsame : ofPiece? true piece = ofPiece? false piece := by
      rw [ofPiece?, ofPiece?, if_neg hdot, if_neg hdot]
    rw [hsame, if_neg hdot, List.nil_append, List.filterMap_cons, List.filterMap_nil]
    cases ofPiece? false piece <;> rfl

theorem components_eq (p : Path) : p.components = p.beginning ++ p.moves.map ofMove := by
  obtain ⟨first, more, hpieces⟩ : ∃ first more, p.pieces = first :: more :=
    List.exists_cons_of_ne_nil (splitSlashes_ne_nil p.bytes)
  have hmoves : p.moves = [first].filter isMove ++ more.filter isMove := by
    rw [moves, hpieces, ← List.filter_append, List.singleton_append]
  rw [components, beginning, hmoves, hpieces]
  simp only [filterMap_ofPiece?]
  cases habsolute : p.isAbsolute with
  | true =>
    obtain ⟨_, _, hroot⟩ := isAbsolute_iff.mp habsolute
    obtain rfl : first = [] := (List.cons.inj (hpieces.symm.trans hroot)).1
    rfl
  | false =>
    simp only [toList_ofPiece?_true, Bool.false_eq_true, if_false, List.head?_cons,
      Option.some.injEq, List.map_append, List.append_assoc]

/-! ### The directory of a file -/

/-- A dot at the beginning is never taken off the end. -/
theorem getLast?_trimBack_eq_dot_iff (back : List (List UInt8)) :
    (trimBack false back).getLast? = some [dot] ↔ back.getLast? = some [dot] := by
  induction back with
  | nil => exact Iff.rfl
  | cons piece before ih =>
    rw [trimBack]
    split
    · exact Iff.rfl
    · rename_i hnone
      cases before with
      | nil =>
        refine iff_of_false (by simp [trimBack]) ?_
        rw [List.getLast?_singleton, Option.some.injEq]
        rintro rfl
        exact hnone rfl
      | cons next others => rw [ih, List.getLast?_cons_cons]

theorem beginning_of_parent (h : p.fileName? = some name) (hparent : p.parent? = some directory) :
    p.beginning = directory.beginning := by
  obtain ⟨before, _, htrim, hsome, habsolute, hpieces⟩ := exists_parent_pieces h
  obtain rfl := Option.some.inj (hparent.symm.trans hsome)
  rw [beginning, beginning, habsolute]
  cases hrelative : p.isAbsolute with
  | true => rfl
  | false =>
    rw [hrelative] at htrim hpieces
    have hfile : p.pieces.head? = some [dot] ↔ (trimBack false before).getLast? = some [dot] := by
      rw [← List.getLast?_reverse, ← getLast?_trimBack_eq_dot_iff, htrim,
        getLast?_trimBack_eq_dot_iff]
      cases before with
      | nil =>
        refine iff_of_false (fun hdot => ?_) (by simp)
        exact (isName_of_fileName? h).ne_dot (Option.some.inj hdot)
      | cons next others => rw [List.getLast?_cons_cons]
    have hdirectory :
        directory.pieces.head? = some [dot] ↔ (trimBack false before).getLast? = some [dot] := by
      rcases hpieces with hkept | ⟨hkept, hempty⟩
      · rw [← hkept, List.getLast?_reverse]
      · refine iff_of_false (fun hdot => ?_) (by simp [hkept])
        exact absurd (hempty _ (List.mem_of_mem_head? hdot)) (by decide)
    simp only [hfile, hdirectory]

/-- A path with a file name is a directory and a component more. -/
theorem exists_directory (h : p.fileName? = some name) :
    ∃ directory, p.parent? = some directory ∧
      p.components = directory.components ++ [.normal name] := by
  obtain ⟨directory, hparent, _, hmoves⟩ := exists_parent h
  refine ⟨directory, hparent, ?_⟩
  rw [components_eq, components_eq, beginning_of_parent h hparent, hmoves, List.map_append,
    List.map_singleton, ofMove_name (isName_of_fileName? h), List.append_assoc]

theorem map_components_parent? (h : p.fileName? = some name) :
    p.parent?.map components = some p.components.dropLast := by
  obtain ⟨directory, hparent, hcomponents⟩ := exists_directory h
  rw [hparent, hcomponents, List.dropLast_concat, Option.map_some]

/-! ### A name in a directory -/

theorem beginning_join_name (directory : Path) (h : IsName name) :
    (directory.join ⟨name⟩).beginning = directory.beginning := by
  have hhead : (directory.join ⟨name⟩).pieces.head? = some [dot] ↔
      directory.pieces.head? = some [dot] := by
    rw [join_name h.slash_notMem, pieces_front_append directory h.slash_notMem]
    have hname : ¬ some name = some [dot] := fun heq => h.ne_dot (Option.some.inj heq)
    rcases pieces_eq_dropLast_front directory with hpieces | hpieces
    · obtain ⟨first, more, hfirst⟩ : ∃ first more, directory.pieces = first :: more :=
        List.exists_cons_of_ne_nil (splitSlashes_ne_nil directory.bytes)
      rw [← hpieces, hfirst]
      rfl
    · rw [hpieces]
      cases (splitSlashes directory.front).dropLast with
      | nil => exact iff_of_false hname (by decide)
      | cons first more => exact Iff.rfl
  rw [beginning, beginning, isAbsolute_join_name directory h.slash_notMem]
  simp only [hhead]

theorem components_join_name (directory : Path) (h : IsName name) :
    (directory.join ⟨name⟩).components = directory.components ++ [.normal name] := by
  rw [components_eq, components_eq, beginning_join_name directory h, moves_join_name directory h,
    List.map_append, List.map_singleton, ofMove_name h, List.append_assoc]

end AdTemplates.Path
