import AdTemplates.Entries
import AdTemplates.IoError
import AdTemplates.Path

/-! A tree of files and directories, with the refusals of the file system. A path is
walked piece by piece from the working directory or the root; each piece but the last must
lead to a directory. -/
namespace AdTemplates

/-- What a tree holds at a place. `full` is a device that refuses every byte. -/
inductive Entry where
  | directory
  | file (content : List UInt8)
  | full
  deriving DecidableEq, Repr

/-- The names that lead from the root to an entry. -/
abbrev Place := List (List UInt8)

structure FileTree where
  entries : List (Place × Entry)
  workingDirectory : Place
  deriving DecidableEq, Repr

namespace FileTree

/-- The working directory as an absolute path. -/
def workingPath (t : FileTree) : Path := ⟨Path.slash :: Path.joinSlashes t.workingDirectory⟩

/-- The entry at a place. The root is always a directory. -/
def find? (t : FileTree) (place : Place) : Option Entry :=
  if place = [] then some .directory else t.entries.lookup place

/-- Replaces the entry at a place, or adds one. -/
def set (t : FileTree) (place : Place) (e : Entry) : FileTree :=
  { t with entries := Entries.set place e t.entries }

/-- A place that has been set holds what was put there, and every other place what it held. -/
theorem find?_set (t : FileTree) (place other : Place) (e : Entry) (h : place ≠ []) :
    (t.set place e).find? other = if other = place then some e else t.find? other := by
  unfold find? set
  by_cases ho : other = []
  · subst ho
    simp [Ne.symm h]
  · simp [ho, Entries.lookup_set]

def remove (t : FileTree) (place : Place) : FileTree :=
  { t with entries := t.entries.filter (·.1 != place) }

/-- The places on the way to a place, from the root on. -/
def ancestors : Place → List Place
  | [] => []
  | name :: more => [] :: (ancestors more).map (name :: ·)

/-- Makes the directories on the way to a place that are missing. -/
def makeParents (t : FileTree) (place : Place) : FileTree :=
  (ancestors place).foldl
    (fun t above => if (t.find? above).isSome then t else t.set above .directory) t

/-- The longest name of an entry, in bytes. -/
def maxName : Nat := 255

/-- The longest path, in bytes. -/
def maxPath : Nat := 4095

/-- Walks pieces of a path from a place. -/
def walk (t : FileTree) (place : Place) : List (List UInt8) → Except IoError Place
  | [] => .ok place
  | piece :: more =>
    match t.find? place with
    | some .directory =>
      if piece = [] ∨ piece = [Path.dot] then t.walk place more
      else if piece = [Path.dot, Path.dot] then t.walk place.dropLast more
      else if piece.length > maxName then .error .nameTooLong
      else if (t.find? (place ++ [piece])).isSome then t.walk (place ++ [piece]) more
      else .error .notFound
    | some _ => .error .notADirectory
    | none => .error .notFound

/-- Where a path starts from. -/
def origin (t : FileTree) (p : Path) : Place := if p.isAbsolute then [] else t.workingDirectory

/-- The places that a path passes, from where it starts to where it ends. -/
def trail (t : FileTree) (p : Path) : List Place :=
  p.pieces.scanl (fun place piece =>
    if piece = [] ∨ piece = [Path.dot] then place
    else if piece = [Path.dot, Path.dot] then place.dropLast
    else place ++ [piece]) (t.origin p)

/-- What no path may be, wherever it leads. -/
def checkPath (p : Path) : Except IoError Unit :=
  if p.bytes.contains 0 then .error .nulInName
  else if p.bytes = [] then .error .notFound
  else if p.bytes.length > maxPath then .error .nameTooLong
  else .ok ()

/-- The place of an existing entry. -/
def locate (t : FileTree) (p : Path) : Except IoError Place := do
  checkPath p
  t.walk (t.origin p) p.pieces

/-- The content of a file. -/
def read (t : FileTree) (p : Path) : Except IoError (List UInt8) := do
  match t.find? (← t.locate p) with
  | some (.file content) => .ok content
  | some .directory => .error .isADirectory
  | some .full => .ok []
  | none => .error .notFound

/-- Whether a path leads to a regular file. -/
def isFile (t : FileTree) (p : Path) : Bool :=
  match t.locate p with
  | .ok place =>
    match t.find? place with
    | some (.file _) => true
    | _ => false
  | .error _ => false

/-- The place of a file to be written: an existing file, the full device, or a new name in
an existing directory. -/
def target (t : FileTree) (p : Path) : Except IoError Place := do
  checkPath p
  match p.pieces.reverse.dropWhile (· == []) with
  | [] => .error .isADirectory
  | name :: before =>
    if name = [Path.dot] ∨ name = [Path.dot, Path.dot] then
      let _ ← t.walk (t.origin p) p.pieces
      .error .isADirectory
    else
      let directory ← t.walk (t.origin p) (before.reverse ++ [[]])
      if p.bytes.getLast? = some Path.slash then .error .isADirectory
      else if name.length > maxName then .error .nameTooLong
      else match t.find? (directory ++ [name]) with
        | some .directory => .error .isADirectory
        | _ => .ok (directory ++ [name])

/-- Opens a file for writing: it is empty afterwards, and new if there was none. -/
def create (t : FileTree) (p : Path) : Except IoError (Place × FileTree) := do
  let place ← t.target p
  match t.find? place with
  | some .full => .ok (place, t)
  | _ => .ok (place, t.set place (.file []))

/-- The files of the second tree that the first does not have with the same content. -/
def changes (before after : FileTree) : List (Place × List UInt8) :=
  after.entries.filterMap fun (place, e) =>
    match e with
    | .file content =>
      if before.find? place = some (.file content) then none else some (place, content)
    | _ => none

end FileTree
end AdTemplates
