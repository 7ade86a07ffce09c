import AdTemplates.Path
import AdTemplates.Proofs.Text.Lines

/-! A path as the moves that it makes. Pieces that stand for nothing make none, so two paths
that are spelled differently may go the same way; whether a path begins at the root and which
moves it makes is all that its end depends on. Joining a name to a directory adds one move. -/
namespace AdTemplates.Path

variable {p directory : Path} {bytes name : List UInt8} {pieces : List (List UInt8)}

/-! ### Splitting at slashes -/

theorem splitSlashes_eq_splitOn (bytes : List UInt8) :
    splitSlashes bytes = bytes.splitOn slash := by
  induction bytes with
  | nil => rfl
  | cons b rest ih =>
    rw [List.splitOn_cons_eq_if_modifyHead, splitSlashes, ih]
    simp only [beq_iff_eq]
    cases hsplit : rest.splitOn slash with
    | nil => exact absurd hsplit (ih ▸ splitSlashes_ne_nil rest)
    | cons piece more => rfl

theorem joinSlashes_eq_intercalate (pieces : List (List UInt8)) :
    joinSlashes pieces = [slash].intercalate pieces := by
  induction pieces with
  | nil => rfl
  | cons piece more ih =>
    cases more with
    | nil => exact List.intercalate_singleton.symm
    | cons next others =>
      rw [joinSlashes, ih, List.intercalate_cons_cons, List.append_assoc, List.singleton_append]
      exact List.cons_ne_nil next others

theorem splitSlashes_append_slash (before after : List UInt8) :
    splitSlashes (before ++ slash :: after) = splitSlashes before ++ splitSlashes after := by
  simp only [splitSlashes_eq_splitOn, List.splitOn_append_cons_self]

theorem splitSlashes_of_notMem (h : slash ∉ bytes) : splitSlashes bytes = [bytes] := by
  rw [splitSlashes_eq_splitOn, List.splitOn_eq_singleton h]

theorem slash_notMem_of_mem_splitSlashes {piece : List UInt8} (h : piece ∈ splitSlashes bytes) :
    slash ∉ piece := by
  induction bytes using Text.lineInduction slash with
  | last w hw =>
    rw [splitSlashes_of_notMem hw, List.mem_singleton] at h
    exact h ▸ hw
  | line w rest hw ih =>
    rw [splitSlashes_append_slash, splitSlashes_of_notMem hw, List.singleton_append] at h
    rcases List.mem_cons.mp h with rfl | h
    · exact hw
    · exact ih h

theorem pieces_joinSlashes (hne : pieces ≠ []) (h : ∀ piece ∈ pieces, slash ∉ piece) :
    (Path.mk (joinSlashes pieces)).pieces = pieces := by
  rw [Path.pieces, splitSlashes_eq_splitOn, joinSlashes_eq_intercalate,
    List.splitOn_intercalate slash h hne]

theorem isAbsolute_iff : p.isAbsolute = true ↔ ∃ piece more, p.pieces = [] :: piece :: more := by
  obtain ⟨bytes⟩ := p
  cases bytes with
  | nil =>
    refine iff_of_false (by decide) ?_
    rintro ⟨piece, more, h⟩
    cases h
  | cons b rest =>
    have habsolute : Path.isAbsolute ⟨b :: rest⟩ = true ↔ b = slash := by
      simp [Path.isAbsolute]
    obtain ⟨piece, more, hrest⟩ := List.exists_cons_of_ne_nil (splitSlashes_ne_nil rest)
    rw [habsolute, Path.pieces, splitSlashes]
    split
    · rename_i hb
      exact iff_of_true hb ⟨piece, more, by rw [hrest]⟩
    · rename_i hb
      refine iff_of_false hb ?_
      rintro ⟨next, others, h⟩
      rw [hrest, Text.consFirst] at h
      cases h

/-! ### Moves -/

/-- A piece that leads from a directory to another place. -/
def isMove (piece : List UInt8) : Bool := piece ≠ [] && piece ≠ [dot]

theorem isMove_eq_false_iff {piece : List UInt8} :
    isMove piece = false ↔ piece = [] ∨ piece = [dot] := by
  simp [isMove, Decidable.or_iff_not_imp_left]

/-- The pieces of a path that lead somewhere. -/
def moves (p : Path) : List (List UInt8) := p.pieces.filter isMove

/-- A name that stands for itself in a path. -/
structure IsName (name : List UInt8) : Prop where
  ne_nil : name ≠ []
  ne_dot : name ≠ [dot]
  ne_parent : name ≠ [dot, dot]
  slash_notMem : slash ∉ name

instance (name : List UInt8) : Decidable (IsName name) :=
  decidable_of_iff (name ≠ [] ∧ name ≠ [dot] ∧ name ≠ [dot, dot] ∧ slash ∉ name)
    ⟨fun ⟨hnil, hdot, hparent, hslash⟩ => ⟨hnil, hdot, hparent, hslash⟩,
      fun ⟨hnil, hdot, hparent, hslash⟩ => ⟨hnil, hdot, hparent, hslash⟩⟩

theorem IsName.isMove (h : IsName name) : isMove name = true := by
  simp [Path.isMove, h.ne_nil, h.ne_dot]

theorem IsName.append {suffix : List UInt8} (h : IsName name) (hslash : slash ∉ suffix)
    (hlength : 2 < suffix.length) : IsName (name ++ suffix) := by
  have hlong : 2 < (name ++ suffix).length := by
    rw [List.length_append]
    omega
  refine ⟨?_, ?_, ?_, fun hmem => (List.mem_append.mp hmem).elim h.slash_notMem hslash⟩ <;>
  · intro heq
    rw [heq] at hlong
    exact absurd hlong (by decide)

/-- What a name is put behind in a directory. -/
def front (directory : Path) : List UInt8 :=
  if directory.bytes = [] ∨ directory.bytes.getLast? = some slash then directory.bytes
  else directory.bytes ++ [slash]

theorem join_eq (directory p : Path) :
    directory.join p = if p.isAbsolute then p else ⟨directory.front ++ p.bytes⟩ := by
  unfold join front
  by_cases habsolute : p.isAbsolute = true
  · simp [habsolute]
  · by_cases hempty : directory.bytes = []
    · simp [habsolute, hempty]
    · by_cases hslash : directory.bytes.getLast? = some slash
      · simp [habsolute, hempty, hslash]
      · simp [habsolute, hempty, hslash]

theorem isAbsolute_of_notMem (h : slash ∉ name) : (Path.mk name).isAbsolute = false := by
  rw [← Bool.not_eq_true, isAbsolute_iff, Path.pieces, splitSlashes_of_notMem h]
  rintro ⟨piece, more, heq⟩
  cases heq

theorem join_name (h : slash ∉ name) : directory.join ⟨name⟩ = ⟨directory.front ++ name⟩ := by
  rw [join_eq, isAbsolute_of_notMem h]
  rfl

/-- A front is empty where the directory is, and otherwise ends in the slash that the
directory ends in or that is added to it. -/
theorem front_cases (directory : Path) :
    directory.front = [] ∧ directory.bytes = [] ∨
      ∃ before, directory.front = before ++ [slash] ∧
        (directory.bytes = before ++ [slash] ∨ directory.bytes = before ∧ before ≠ []) := by
  unfold front
  by_cases hempty : directory.bytes = []
  · exact .inl ⟨by rw [if_pos (.inl hempty), hempty], hempty⟩
  · refine .inr ?_
    by_cases hslash : directory.bytes.getLast? = some slash
    · obtain ⟨before, hbefore⟩ := List.getLast?_eq_some_iff.mp hslash
      exact ⟨before, by rw [if_pos (.inr hslash), hbefore], .inl hbefore⟩
    · exact ⟨directory.bytes, if_neg (not_or.mpr ⟨hempty, hslash⟩), .inr ⟨rfl, hempty⟩⟩

theorem splitSlashes_append_slash_nil (before : List UInt8) :
    splitSlashes (before ++ [slash]) = splitSlashes before ++ [[]] :=
  splitSlashes_append_slash before []

/-- What stands before a name that a directory is joined with does not depend on the name. -/
theorem pieces_front_append (directory : Path) (h : slash ∉ name) :
    (Path.mk (directory.front ++ name)).pieces =
      (splitSlashes directory.front).dropLast ++ [name] := by
  rw [Path.pieces]
  rcases front_cases directory with ⟨hfront, _⟩ | ⟨before, hfront, _⟩
  · rw [hfront, List.nil_append, splitSlashes_of_notMem h]
    rfl
  · rw [hfront, List.append_assoc, List.singleton_append, splitSlashes_append_slash,
      splitSlashes_of_notMem h, splitSlashes_append_slash_nil, List.dropLast_concat]

/-- The pieces that a name is put behind are those of the directory, without an empty one at
their end. -/
theorem pieces_eq_dropLast_front (directory : Path) :
    directory.pieces = (splitSlashes directory.front).dropLast ∨
      directory.pieces = (splitSlashes directory.front).dropLast ++ [[]] := by
  rw [Path.pieces]
  rcases front_cases directory with ⟨hfront, hbytes⟩ | ⟨before, hfront, hbytes | ⟨hbytes, _⟩⟩
  · exact .inr (by rw [hfront, hbytes]; rfl)
  · exact .inr (by rw [hfront, hbytes, splitSlashes_append_slash_nil, List.dropLast_concat])
  · exact .inl (by rw [hfront, hbytes, splitSlashes_append_slash_nil, List.dropLast_concat])

theorem moves_join_name (directory : Path) (h : IsName name) :
    (directory.join ⟨name⟩).moves = directory.moves ++ [name] := by
  have hfront : (splitSlashes directory.front).dropLast.filter isMove = directory.moves := by
    rw [moves]
    rcases pieces_eq_dropLast_front directory with hpieces | hpieces
    · rw [hpieces]
    · rw [hpieces, List.filter_append]
      exact (List.append_nil _).symm
  rw [join_name h.slash_notMem, moves, pieces_front_append directory h.slash_notMem,
    List.filter_append, hfront, List.filter_cons_of_pos h.isMove, List.filter_nil]

theorem isAbsolute_join_name (directory : Path) (h : slash ∉ name) :
    (directory.join ⟨name⟩).isAbsolute = directory.isAbsolute := by
  rw [join_name h]
  rcases front_cases directory with ⟨hfront, hbytes⟩ | ⟨before, hfront, hbytes | ⟨hbytes, hne⟩⟩
  · rw [hfront, List.nil_append, isAbsolute_of_notMem h, Path.isAbsolute, hbytes]
    rfl
  · rw [hfront, ← hbytes, Path.isAbsolute, Path.isAbsolute, hbytes]
    simp [List.head?_append]
  · obtain ⟨b, rest, rfl⟩ := List.exists_cons_of_ne_nil hne
    rw [hfront, Path.isAbsolute, Path.isAbsolute, hbytes]
    rfl

end AdTemplates.Path
