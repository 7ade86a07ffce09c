import AdTemplates.Proofs.Path.Components

/-! The last component of a path, read off its bytes. Slashes at the end, each alone or with a
dot behind it, stand for nothing. What is in front of them, back to the slash before it, is the
last move of the path, and the file name unless it leads to a parent. -/
namespace AdTemplates.Path

variable {p : Path} {bytes ending piece name extension : List UInt8}

/-- What stands for nothing at the end of a path. -/
inductive Ending : List UInt8 → Prop where
  | nil : Ending []
  | slash {rest : List UInt8} (h : Ending rest) : Ending (slash :: rest)
  | slashDot {rest : List UInt8} (h : Ending rest) : Ending (slash :: dot :: rest)

/-- Between the last slash and what stands for nothing there is this piece. -/
def EndsIn (p : Path) (piece : List UInt8) : Prop :=
  ∃ before ending, p.bytes = before ++ piece ++ ending ∧
    (before = [] ∨ before.getLast? = some slash) ∧ slash ∉ piece ∧ Ending ending

/-- A path that is empty or only the root, only a dot, or ends in two dots. -/
def IsUnnamed (p : Path) : Prop :=
  Ending p.bytes ∨ (∃ ending, p.bytes = dot :: ending ∧ Ending ending) ∨ p.EndsIn [dot, dot]

/-! ### Moves -/

theorem moves_append_slash (before after : List UInt8) :
    moves ⟨before ++ slash :: after⟩ = moves ⟨before⟩ ++ moves ⟨after⟩ := by
  rw [moves, pieces, splitSlashes_append_slash, List.filter_append]
  rfl

theorem moves_append_ending (h : Ending ending) (bytes : List UInt8) :
    moves ⟨bytes ++ ending⟩ = moves ⟨bytes⟩ := by
  induction h generalizing bytes with
  | nil => rw [List.append_nil]
  | @slash rest h ih =>
    rw [moves_append_slash, show moves ⟨rest⟩ = [] from ih [], List.append_nil]
  | @slashDot rest h ih =>
    have hdot : moves ⟨dot :: rest⟩ = [] := ih [dot]
    rw [moves_append_slash, hdot, List.append_nil]

theorem moves_of_notMem (h : slash ∉ piece) : moves ⟨piece⟩ = [piece].filter isMove := by
  rw [moves, pieces, splitSlashes_of_notMem h]

theorem getLast?_moves_of_endsIn (h : p.EndsIn piece) (hmove : isMove piece = true) :
    p.moves.getLast? = some piece := by
  obtain ⟨before, ending, hbytes, hbefore, hslash, hending⟩ := h
  have hp : p.moves = moves ⟨before ++ piece⟩ := by
    rw [← moves_append_ending hending (before ++ piece), ← hbytes]
  have hpiece : moves ⟨piece⟩ = [piece] := by
    rw [moves_of_notMem hslash, List.filter_cons_of_pos hmove, List.filter_nil]
  rw [hp]
  rcases hbefore with rfl | hbefore
  · rw [List.nil_append, hpiece, List.getLast?_singleton]
  · obtain ⟨directory, rfl⟩ := List.getLast?_eq_some_iff.mp hbefore
    rw [List.append_assoc, List.singleton_append, moves_append_slash, hpiece, List.getLast?_concat]

theorem moves_cases_of_notMem (h : slash ∉ piece) (hending : Ending ending) :
    moves ⟨piece ++ ending⟩ = [] ∧ (Ending (piece ++ ending) ∨
        ∃ rest, piece ++ ending = dot :: rest ∧ Ending rest) ∨
      ∃ last, (moves ⟨piece ++ ending⟩).getLast? = some last ∧ EndsIn ⟨piece ++ ending⟩ last := by
  rw [moves_append_ending hending, moves_of_notMem h]
  cases hmove : isMove piece with
  | true => exact .inr ⟨piece, by simp [hmove], [], ending, rfl, .inl rfl, h, hending⟩
  | false =>
    refine .inl ⟨by simp [hmove], ?_⟩
    rcases isMove_eq_false_iff.mp hmove with rfl | rfl
    · exact .inl hending
    · exact .inr ⟨ending, rfl, hending⟩

/-- A path makes no move, or ends in its last one. -/
theorem moves_cases (p : Path) :
    p.moves = [] ∧ (Ending p.bytes ∨ ∃ ending, p.bytes = dot :: ending ∧ Ending ending) ∨
      ∃ piece, p.moves.getLast? = some piece ∧ p.EndsIn piece := by
  obtain ⟨bytes⟩ := p
  -- From the front, piece by piece: the rest ends in a move, or is all an ending.
  induction bytes using Text.lineInduction slash with
  | last w hw =>
    rw [← List.append_nil w]
    exact moves_cases_of_notMem hw .nil
  | line w rest hw ih =>
    rcases ih with ⟨_, hrest⟩ | ⟨piece, hlast, before, ending, hbytes, hbefore, hslash, hending⟩
    · refine moves_cases_of_notMem hw ?_
      rcases hrest with hrest | ⟨ending, rfl, hending⟩
      · exact .slash hrest
      · exact .slashDot hending
    · refine .inr ⟨piece, ?_, w ++ slash :: before, ending, ?_, .inr ?_, hslash, hending⟩
      · rw [moves_append_slash, List.getLast?_append, hlast, Option.some_or]
      · rw [show rest = before ++ piece ++ ending from hbytes]
        simp only [List.append_assoc, List.cons_append]
      · rcases hbefore with rfl | hbefore
        · exact List.getLast?_concat
        · rw [List.getLast?_append, List.getLast?_cons, hbefore]
          rfl

/-! ### The file name -/

/-- The last component is the last move, if there is one. -/
theorem fileName?_of_moves (h : p.moves.getLast? = some piece) :
    p.fileName? = if piece = [dot, dot] then none else some piece := by
  obtain ⟨before, hmoves⟩ := List.getLast?_eq_some_iff.mp h
  have hlast : p.components.getLast? = some (Component.ofMove piece) := by
    rw [components_eq, hmoves, List.map_append, List.map_singleton, ← List.append_assoc,
      List.getLast?_concat]
  rw [fileName?, hlast, Component.ofMove]
  by_cases hparent : piece = [dot, dot]
  · simp only [if_pos hparent]
  · simp only [if_neg hparent]

theorem fileName?_of_moves_eq_nil (h : p.moves = []) : p.fileName? = none := by
  rw [fileName?, components_eq, h, List.map_nil, List.append_nil, beginning]
  split
  · rename_i name hname
    split at hname
    · cases hname
    · split at hname <;> cases hname
  · rfl

theorem fileName?_of_endsIn (h : p.EndsIn name) (hname : IsName name) :
    p.fileName? = some name := by
  rw [fileName?_of_moves (getLast?_moves_of_endsIn h hname.isMove), if_neg hname.ne_parent]

theorem fileName?_eq_some_iff_endsIn : p.fileName? = some name ↔ IsName name ∧ p.EndsIn name := by
  refine ⟨fun h => ?_, fun ⟨hname, h⟩ => fileName?_of_endsIn h hname⟩
  refine ⟨isName_of_fileName? h, ?_⟩
  rcases moves_cases p with ⟨hmoves, _⟩ | ⟨piece, hlast, hends⟩
  · rw [fileName?_of_moves_eq_nil hmoves] at h
    cases h
  · rw [fileName?_of_moves hlast] at h
    split at h
    · cases h
    · exact Option.some.inj h ▸ hends

theorem fileName?_eq_none_iff : p.fileName? = none ↔ p.IsUnnamed := by
  constructor
  · intro h
    rcases moves_cases p with ⟨_, hbytes⟩ | ⟨piece, hlast, hends⟩
    · exact hbytes.elim .inl fun hdot => .inr (.inl hdot)
    · rw [fileName?_of_moves hlast] at h
      split at h
      · rename_i hparent
        exact .inr (.inr (hparent ▸ hends))
      · cases h
  · rintro (hending | ⟨ending, hbytes, hending⟩ | hends)
    · exact fileName?_of_moves_eq_nil (moves_append_ending hending [])
    · refine fileName?_of_moves_eq_nil ?_
      rw [show p = ⟨[dot] ++ ending⟩ from congrArg Path.mk hbytes, moves_append_ending hending]
      decide
    · rw [fileName?_of_moves (getLast?_moves_of_endsIn hends (by decide)), if_pos rfl]

/-! ### Other paths with the same file name -/

theorem fileName?_congr_moves {q : Path} (h : p.moves.getLast? = q.moves.getLast?) :
    p.fileName? = q.fileName? := by
  cases hlast : q.moves.getLast? with
  | none =>
    rw [fileName?_of_moves_eq_nil (List.getLast?_eq_none_iff.mp hlast),
      fileName?_of_moves_eq_nil (List.getLast?_eq_none_iff.mp (h.trans hlast))]
  | some piece => rw [fileName?_of_moves hlast, fileName?_of_moves (h.trans hlast)]

theorem fileName?_append_ending (h : Ending ending) (p : Path) :
    fileName? ⟨p.bytes ++ ending⟩ = p.fileName? :=
  fileName?_congr_moves (congrArg List.getLast? (moves_append_ending h p.bytes))

theorem fileName?_append_slash (before : List UInt8) (h : p.fileName? = some name) :
    fileName? ⟨before ++ slash :: p.bytes⟩ = some name := by
  obtain ⟨hname, hends⟩ := fileName?_eq_some_iff_endsIn.mp h
  rw [← h]
  refine fileName?_congr_moves ?_
  rw [moves_append_slash, List.getLast?_append, getLast?_moves_of_endsIn hends hname.isMove,
    Option.some_or]

theorem fileName?_join (directory : Path) (h : p.fileName? = some name) :
    (directory.join p).fileName? = some name := by
  rw [join_eq]
  split
  · exact h
  · rcases front_cases directory with ⟨hfront, _⟩ | ⟨before, hfront, _⟩
    · rw [hfront]
      exact h
    · rw [hfront, List.append_assoc, List.singleton_append]
      exact fileName?_append_slash before h

/-! ### The extension -/

theorem splitExtension_eq_some_iff :
    (splitExtension name).2 = some extension ↔
      ∃ stem, stem ≠ [] ∧ dot ∉ extension ∧ name = stem ++ dot :: extension := by
  constructor
  · intro h
    rw [splitExtension] at h
    split at h
    · rename_i b c before hrest
      have hb : b = dot := by
        have hhead := List.head?_dropWhile_not (· != dot) name.reverse
        rw [hrest] at hhead
        simpa using hhead
      have hplain : dot ∉ name.reverse.takeWhile (· != dot) := fun hmem => by
        simpa using List.all_eq_true.mp List.all_takeWhile _ hmem
      have hname : name =
          (b :: c :: before).reverse ++ (name.reverse.takeWhile (· != dot)).reverse := by
        rw [← hrest, ← List.reverse_append, List.takeWhile_append_dropWhile, List.reverse_reverse]
      refine ⟨(c :: before).reverse, by simp, ?_, ?_⟩
      · rw [← Option.some.inj h, List.mem_reverse]
        exact hplain
      · rw [hb, List.reverse_cons, List.append_assoc, List.singleton_append] at hname
        rw [← Option.some.inj h]
        exact hname
    · cases h
  · rintro ⟨stem, hstem, hdot, rfl⟩
    rw [splitExtension_append hstem hdot]

end AdTemplates.Path
