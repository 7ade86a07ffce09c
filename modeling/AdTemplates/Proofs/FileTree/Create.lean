import AdTemplates.FileTree

/-! Where a created file is. Opening a file for writing and finding it again by the same
path lead to one place, whatever is written there. -/
namespace AdTemplates

namespace Path

theorem getLast?_joinSlashes_append_nil {pieces : List (List UInt8)} (h : pieces ≠ []) :
    (joinSlashes (pieces ++ [[]])).getLast? = some slash := by
  induction pieces with
  | nil => exact absurd rfl h
  | cons piece more ih =>
    cases more with
    | nil => simp [joinSlashes]
    | cons next others =>
      have hlast := ih (by simp)
      simp only [List.cons_append, joinSlashes] at hlast ⊢
      rw [List.getLast?_append, List.getLast?_cons, hlast]
      rfl

/-- A path that does not end in a slash ends in a piece that is not empty. -/
theorem pieces_of_dropWhile {p : Path} {name : List UInt8} {before : List (List UInt8)}
    (hne : p.bytes ≠ []) (hslash : p.bytes.getLast? ≠ some slash)
    (h : p.pieces.reverse.dropWhile (· == []) = name :: before) :
    p.pieces = before.reverse ++ [name] ∧ name ≠ [] := by
  cases hreverse : p.pieces.reverse with
  | nil => rw [hreverse] at h; cases h
  | cons last others =>
    have hpieces : p.pieces = others.reverse ++ [last] := by
      rw [← List.reverse_reverse p.pieces, hreverse, List.reverse_cons]
    have hbytes : p.bytes = joinSlashes (others.reverse ++ [last]) := by
      rw [← hpieces, pieces, joinSlashes_splitSlashes]
    have hlast : last ≠ [] := by
      rintro rfl
      by_cases hothers : others.reverse = []
      · rw [hothers] at hbytes
        exact hne hbytes
      · rw [hbytes] at hslash
        exact hslash (getLast?_joinSlashes_append_nil hothers)
    rw [hreverse, List.dropWhile_cons_of_neg (by simpa using hlast)] at h
    cases h
    exact ⟨hpieces, hlast⟩

end Path

namespace FileTree

variable {t : FileTree} {p : Path} {place directory : Place}

/-- A name that stands for itself in a path. -/
def IsPlain (name : List UInt8) : Prop :=
  name ≠ [] ∧ name ≠ [Path.dot] ∧ name ≠ [Path.dot, Path.dot] ∧ name.length ≤ maxName

/-- What a place to write to consists of: a directory to which the path leads, and a plain
name in it that is no directory. -/
structure IsTarget (t : FileTree) (p : Path) (before : List (List UInt8)) (name : List UInt8)
    (directory : Place) : Prop where
  path : checkPath p = .ok ()
  pieces : p.pieces = before ++ [name]
  slash : p.bytes.getLast? ≠ some Path.slash
  plain : IsPlain name
  leads : t.walk (t.origin p) (before ++ [[]]) = .ok directory
  free : t.find? (directory ++ [name]) ≠ some .directory

theorem checkPath_ne_nil (h : checkPath p = .ok ()) : p.bytes ≠ [] := by
  unfold checkPath at h
  split at h
  · cases h
  · split at h
    · cases h
    · assumption

theorem target_eq_ok (h : t.target p = .ok place) :
    ∃ before name directory, IsTarget t p before name directory ∧
      place = directory ++ [name] := by
  unfold target at h
  cases hpath : checkPath p with
  | error e => rw [hpath] at h; cases h
  | ok u =>
    rw [hpath] at h
    simp only [bind, Except.bind] at h
    split at h
    · cases h
    · rename_i name before hpieces
      split at h
      · split at h <;> cases h
      · rename_i hdots
        split at h
        · cases h
        · rename_i directory hleads
          split at h
          · cases h
          · rename_i hslash
            split at h
            · cases h
            · rename_i hlength
              obtain ⟨hlast, hname⟩ :=
                Path.pieces_of_dropWhile (checkPath_ne_nil hpath) hslash hpieces
              rw [not_or] at hdots
              split at h
              · cases h
              · rename_i hfree
                cases h
                exact ⟨before.reverse, name, directory, {
                  path := hpath
                  pieces := hlast
                  slash := hslash
                  plain := ⟨hname, hdots.1, hdots.2, Nat.le_of_not_lt hlength⟩
                  leads := hleads
                  free := hfree }, rfl⟩

/-- One piece of a walk: it stays, goes back, or goes on to an entry. -/
theorem walk_cons_eq_ok {origin : Place} {piece : List UInt8} {more : List (List UInt8)} :
    t.walk origin (piece :: more) = .ok place ↔ t.find? origin = some .directory ∧
      ((piece = [] ∨ piece = [Path.dot]) ∧ t.walk origin more = .ok place ∨
        piece = [Path.dot, Path.dot] ∧ t.walk origin.dropLast more = .ok place ∨
        IsPlain piece ∧ (t.find? (origin ++ [piece])).isSome = true ∧
          t.walk (origin ++ [piece]) more = .ok place) := by
  constructor
  · intro h
    rw [walk] at h
    split at h
    · rename_i hdirectory
      refine ⟨hdirectory, ?_⟩
      split at h
      · rename_i hstay
        exact .inl ⟨hstay, h⟩
      · rename_i hstay
        rw [not_or] at hstay
        split at h
        · rename_i hback
          exact .inr (.inl ⟨hback, h⟩)
        · rename_i hback
          split at h
          · cases h
          · rename_i hlength
            split at h
            · rename_i hentry
              exact .inr (.inr ⟨⟨hstay.1, hstay.2, hback, Nat.le_of_not_lt hlength⟩, hentry, h⟩)
            · cases h
    · cases h
    · cases h
  · rintro ⟨hdirectory, ⟨hstay, h⟩ | ⟨rfl, h⟩ | ⟨⟨hempty, hdot, hback, hlength⟩, hentry, h⟩⟩
    · rw [walk, hdirectory]
      exact (if_pos hstay).trans h
    · rw [walk, hdirectory]
      exact h
    · rw [walk, hdirectory]
      simp only [hempty, hdot, hback, or_self, if_false, hentry, if_true,
        Nat.not_lt.mpr hlength]
      exact h

theorem find?_set_of_directory {content : List UInt8} {other : Place} (hne : place ≠ [])
    (hfree : t.find? place ≠ some .directory) (h : t.find? other = some .directory) :
    (t.set place (.file content)).find? other = some .directory := by
  have hother : other ≠ place := by
    rintro rfl
    exact hfree h
  rw [find?_set _ _ _ _ hne, if_neg hother, h]

theorem isSome_find?_set {e : Entry} {other : Place} (hne : place ≠ [])
    (h : (t.find? other).isSome = true) : ((t.set place e).find? other).isSome = true := by
  rw [find?_set _ _ _ _ hne]
  split
  · rfl
  · exact h

/-- A file at a place that was no directory changes no way along directories. -/
theorem walk_set (content : List UInt8) (hne : place ≠ [])
    (hfree : t.find? place ≠ some .directory) {origin : Place} {pieces : List (List UInt8)}
    (h : t.walk origin (pieces ++ [[]]) = .ok directory) :
    (t.set place (.file content)).walk origin (pieces ++ [[]]) = .ok directory := by
  induction pieces generalizing origin with
  | nil =>
    obtain ⟨hdirectory, hcase⟩ := walk_cons_eq_ok.mp h
    exact walk_cons_eq_ok.mpr ⟨find?_set_of_directory hne hfree hdirectory, by
      rcases hcase with hstay | ⟨hback, _⟩ | ⟨hplain, _⟩
      · exact .inl hstay
      · cases hback
      · exact absurd rfl hplain.1⟩
  | cons piece pieces ih =>
    obtain ⟨hdirectory, hcase⟩ := walk_cons_eq_ok.mp h
    refine walk_cons_eq_ok.mpr ⟨find?_set_of_directory hne hfree hdirectory, ?_⟩
    rcases hcase with ⟨hstay, h⟩ | ⟨hback, h⟩ | ⟨hplain, hentry, h⟩
    · exact .inl ⟨hstay, ih h⟩
    · exact .inr (.inl ⟨hback, ih h⟩)
    · exact .inr (.inr ⟨hplain, isSome_find?_set hne hentry, ih h⟩)

/-- Behind a way along directories a plain name leads on if there is such an entry. -/
theorem walk_name {name : List UInt8} (hname : IsPlain name) {origin : Place}
    {pieces : List (List UInt8)} (h : t.walk origin (pieces ++ [[]]) = .ok directory)
    (hentry : (t.find? (directory ++ [name])).isSome = true) :
    t.walk origin (pieces ++ [name]) = .ok (directory ++ [name]) := by
  induction pieces generalizing origin with
  | nil =>
    obtain ⟨hdirectory, ⟨_, hend⟩ | ⟨hback, _⟩ | ⟨hplain, _⟩⟩ := walk_cons_eq_ok.mp h
    · cases hend
      exact walk_cons_eq_ok.mpr ⟨hdirectory, .inr (.inr ⟨hname, hentry, rfl⟩)⟩
    · cases hback
    · exact absurd rfl hplain.1
  | cons piece pieces ih =>
    obtain ⟨hdirectory, hcase⟩ := walk_cons_eq_ok.mp h
    refine walk_cons_eq_ok.mpr ⟨hdirectory, ?_⟩
    rcases hcase with ⟨hstay, h⟩ | ⟨hback, h⟩ | ⟨hplain, hexists, h⟩
    · exact .inl ⟨hstay, ih h⟩
    · exact .inr (.inl ⟨hback, ih h⟩)
    · exact .inr (.inr ⟨hplain, hexists, ih h⟩)

theorem set_set (t : FileTree) (place : Place) (first second : Entry) :
    (t.set place first).set place second = t.set place second := by
  simp only [set, Entries.set_set]

/-- The full device stays as it is; anything else becomes an empty file. -/
theorem create_eq_ok {opened : FileTree} (h : t.create p = .ok (place, opened)) :
    t.target p = .ok place ∧
      (t.find? place = some .full ∧ opened = t ∨
        t.find? place ≠ some .full ∧ opened = t.set place (.file [])) := by
  unfold create at h
  cases htarget : t.target p with
  | error e => rw [htarget] at h; cases h
  | ok found =>
    rw [htarget] at h
    simp only [bind, Except.bind] at h
    split at h
    · rename_i hfull
      cases h
      exact ⟨rfl, .inl ⟨hfull, rfl⟩⟩
    · rename_i hfull
      cases h
      exact ⟨rfl, .inr ⟨hfull, rfl⟩⟩

theorem find?_set_self {e : Entry} (h : t.target p = .ok place) :
    (t.set place e).find? place = some e := by
  obtain ⟨before, name, directory, _, rfl⟩ := target_eq_ok h
  rw [find?_set _ _ _ _ (by simp), if_pos rfl]

theorem find?_set_of_ne {e : Entry} {other : Place} (h : t.target p = .ok place)
    (hother : other ≠ place) : (t.set place e).find? other = t.find? other := by
  obtain ⟨before, name, directory, _, rfl⟩ := target_eq_ok h
  rw [find?_set _ _ _ _ (by simp), if_neg hother]

/-- A path that can be written to leads to its place as soon as there is an entry. -/
theorem locate_of_target (h : t.target p = .ok place) (hentry : (t.find? place).isSome = true) :
    t.locate p = .ok place := by
  obtain ⟨before, name, directory, htarget, rfl⟩ := target_eq_ok h
  have hwalk : t.walk (t.origin p) p.pieces = .ok (directory ++ [name]) := by
    rw [htarget.pieces]
    exact walk_name htarget.plain htarget.leads hentry
  rw [locate, htarget.path]
  exact hwalk

/-- Once a file has been put where a path can be written to, the path leads there. -/
theorem locate_set_of_target {content : List UInt8} (h : t.target p = .ok place) :
    (t.set place (.file content)).locate p = .ok place := by
  obtain ⟨before, name, directory, htarget, rfl⟩ := target_eq_ok h
  have hne : directory ++ [name] ≠ [] := by simp
  have hfind : (t.set (directory ++ [name]) (.file content)).find? (directory ++ [name]) =
      some (.file content) := find?_set_self h
  have hleads := walk_set content hne htarget.free htarget.leads
  have hwalk : (t.set (directory ++ [name]) (.file content)).walk (t.origin p) p.pieces =
      .ok (directory ++ [name]) := by
    rw [htarget.pieces]
    exact walk_name htarget.plain hleads (by rw [hfind]; rfl)
  rw [locate, htarget.path]
  exact hwalk

end FileTree
end AdTemplates
