import AdTemplates.Proofs.FileTree.Create
import AdTemplates.Proofs.Path.Pieces

/-! Where a path leads, judged by its pieces alone. There are no links, so a path that is
looked up or written to ends there or nowhere, and a file put at the destination of one path
does not show to paths with another. -/
namespace AdTemplates.FileTree

open AdTemplates.Path (isMove IsName)

variable {t : FileTree} {p : Path} {place found origin : Place} {content : List UInt8}
  {name : List UInt8} {pieces before : List (List UInt8)}

/-- Where a piece leads from a place. -/
def follow (place : Place) (piece : List UInt8) : Place :=
  if piece = [] ∨ piece = [Path.dot] then place
  else if piece = [Path.dot, Path.dot] then place.dropLast
  else place ++ [piece]

/-- Where a path leads if it leads anywhere. -/
def destination (t : FileTree) (p : Path) : Place := p.pieces.foldl follow (t.origin p)

theorem follow_of_stay {piece : List UInt8} (h : piece = [] ∨ piece = [Path.dot]) :
    follow place piece = place := if_pos h

theorem follow_name (hnil : name ≠ []) (hdot : name ≠ [Path.dot])
    (hparent : name ≠ [Path.dot, Path.dot]) : follow place name = place ++ [name] := by
  rw [follow, if_neg (not_or.mpr ⟨hnil, hdot⟩), if_neg hparent]

theorem foldl_follow_filter (pieces : List (List UInt8)) (place : Place) :
    (pieces.filter isMove).foldl follow place = pieces.foldl follow place := by
  induction pieces generalizing place with
  | nil => rfl
  | cons piece more ih =>
    by_cases hmove : isMove piece = true
    · rw [List.filter_cons_of_pos hmove, List.foldl_cons, List.foldl_cons, ih]
    · have hstay := Path.isMove_eq_false_iff.mp (Bool.not_eq_true _ ▸ hmove)
      rw [List.filter_cons_of_neg hmove, List.foldl_cons, follow_of_stay hstay, ih]

theorem destination_eq_foldl_moves (t : FileTree) (p : Path) :
    t.destination p = p.moves.foldl follow (t.origin p) := (foldl_follow_filter _ _).symm

theorem destination_of_moves (hmoves : p.moves = before ++ [name]) (hname : IsName name) :
    t.destination p = before.foldl follow (t.origin p) ++ [name] := by
  rw [destination_eq_foldl_moves, hmoves, List.foldl_append, List.foldl_cons, List.foldl_nil,
    follow_name hname.ne_nil hname.ne_dot hname.ne_parent]

section Frame

variable (hne : place ≠ []) (hfree : t.find? place ≠ some .directory)

include hne hfree

end Frame

theorem read_eq_ok_iff :
    t.read p = .ok content ↔
      (∃ found, t.locate p = .ok found ∧ t.find? found = some (.file content)) ∨
        content = [] ∧ ∃ found, t.locate p = .ok found ∧ t.find? found = some .full := by
  unfold read
  cases hlocate : t.locate p with
  | error e => exact iff_of_false (fun h => by cases h) (by simp)
  | ok place =>
    simp only [bind, Except.bind, Except.ok.injEq, exists_eq_left']
    cases hfind : t.find? place with
    | none => simp
    | some e =>
      cases e with
      | directory => simp
      | file found => simp
      | full => simp [eq_comm]

end AdTemplates.FileTree
