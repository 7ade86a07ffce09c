import AdTemplates.Text.Lines
import AdTemplates.Text.Utf8

/-! Paths as bytes, split into pieces at slashes. Pieces that are empty or a single dot
stand for nothing, except a dot at the very beginning. The file name is the last component
if that is a plain name, and the extension is what follows the last dot inside it. -/
namespace AdTemplates

structure Path where
  bytes : List UInt8
  deriving DecidableEq, Repr

namespace Path

def slash : UInt8 := 0x2f

def dot : UInt8 := 0x2e

def ofString (s : String) : Path := ⟨Text.Utf8.encode s⟩

/-- A readable form of a path. -/
def display (p : Path) : String := Text.Utf8.display p.bytes

/-- What stands between the slashes of a path. -/
def splitSlashes : List UInt8 → List (List UInt8)
  | [] => [[]]
  | b :: rest => if b = slash then [] :: splitSlashes rest else Text.consFirst b (splitSlashes rest)

/-- Pieces with a slash between each two. -/
def joinSlashes : List (List UInt8) → List UInt8
  | [] => []
  | [piece] => piece
  | piece :: more => piece ++ slash :: joinSlashes more

theorem splitSlashes_ne_nil (bytes : List UInt8) : splitSlashes bytes ≠ [] := by
  cases bytes with
  | nil => simp [splitSlashes]
  | cons b rest =>
    unfold splitSlashes
    split
    · simp
    · cases splitSlashes rest <;> simp [Text.consFirst]

/-- Splitting loses nothing. -/
theorem joinSlashes_splitSlashes (bytes : List UInt8) : joinSlashes (splitSlashes bytes) = bytes := by
  induction bytes with
  | nil => rfl
  | cons b rest ih =>
    have hne := splitSlashes_ne_nil rest
    unfold splitSlashes
    split
    · rename_i hb
      cases hs : splitSlashes rest with
      | nil => exact absurd hs hne
      | cons piece more => simp [joinSlashes, hb, ← hs, ih]
    · cases hs : splitSlashes rest with
      | nil => exact absurd hs hne
      | cons piece more =>
        rw [hs] at ih
        cases more with
        | nil => simpa [Text.consFirst, joinSlashes] using ih
        | cons next others => simpa [Text.consFirst, joinSlashes] using ih

def pieces (p : Path) : List (List UInt8) := splitSlashes p.bytes

def isAbsolute (p : Path) : Bool := p.bytes.head? == some slash

inductive Component where
  | root
  | current
  | parent
  | normal (name : List UInt8)
  deriving DecidableEq, Repr

/-- The component that a piece stands for. `leading` tells that it begins a relative
path. -/
def Component.ofPiece? (leading : Bool) (piece : List UInt8) : Option Component :=
  if piece = [] then none
  else if piece = [dot] then if leading then some .current else none
  else if piece = [dot, dot] then some .parent
  else some (.normal piece)

/-- What a path consists of, after whatever stands for nothing has been left out. -/
def components (p : Path) : List Component :=
  match p.pieces with
  | [] => []
  | first :: more =>
    let rest := more.filterMap (Component.ofPiece? false)
    if p.isAbsolute then .root :: rest else (Component.ofPiece? true first).toList ++ rest

/-- The last component, if it is a plain name. -/
def fileName? (p : Path) : Option (List UInt8) :=
  match p.components.getLast? with
  | some (.normal name) => some name
  | _ => none

/-- Removes pieces that stand for nothing from the end of a reversed list of pieces. -/
def trimBack (absolute : Bool) : List (List UInt8) → List (List UInt8)
  | [] => []
  | piece :: before =>
    if (Component.ofPiece? (!absolute && before.isEmpty) piece).isSome then piece :: before
    else trimBack absolute before

/-- The path without its last component. -/
def parent? (p : Path) : Option Path :=
  match trimBack p.isAbsolute p.pieces.reverse with
  | [] => none
  | _ :: before =>
    match trimBack p.isAbsolute before with
    | [] => some ⟨if p.isAbsolute then [slash] else []⟩
    | kept => some ⟨joinSlashes kept.reverse⟩

/-- A path seen from a directory; an absolute one stays as it is. -/
def join (directory p : Path) : Path :=
  if p.isAbsolute || directory.bytes = [] then p
  else if directory.bytes.getLast? = some slash then ⟨directory.bytes ++ p.bytes⟩
  else ⟨directory.bytes ++ slash :: p.bytes⟩

/-- Replaces the file name; a path without one gets the name as a new component. -/
def withFileName (p : Path) (name : List UInt8) : Path :=
  match p.fileName? with
  | some _ => (p.parent?.getD ⟨[]⟩).join ⟨name⟩
  | none => p.join ⟨name⟩

/-- A file name before and after its last dot. A dot at the beginning does not count. -/
def splitExtension (name : List UInt8) : List UInt8 × Option (List UInt8) :=
  let after := name.reverse.takeWhile (· != dot)
  match name.reverse.dropWhile (· != dot) with
  | _ :: b :: before => ((b :: before).reverse, some after.reverse)
  | _ => (name, none)

/-- What follows the last dot of the file name. -/
def extension? (p : Path) : Option (List UInt8) := p.fileName?.bind fun name => (splitExtension name).2

/-- Replaces the extension of the file name, or adds one; what follows the name is
dropped. A path without a file name has no such form. -/
def withExtension? (p : Path) (extension : List UInt8) : Option Path :=
  match p.fileName?, trimBack p.isAbsolute p.pieces.reverse with
  | some name, _ :: before =>
    some ⟨joinSlashes (before.reverse ++ [(splitExtension name).1 ++ dot :: extension])⟩
  | _, _ => none

/-- The name of a component in a path. -/
def Component.bytes : Component → List UInt8
  | .root => []
  | .current => [dot]
  | .parent => [dot, dot]
  | .normal name => name

/-- Drops what two lists of components have in common at the beginning. -/
def dropCommon : List Component → List Component → List Component × List Component
  | a :: as, b :: bs => if a = b then dropCommon as bs else (a :: as, b :: bs)
  | as, bs => (as, bs)

/-- The way from a directory to a path, both absolute: up to where they part, then down. -/
def relativeTo (p directory : Path) : Path :=
  let (down, up) := dropCommon p.components directory.components
  ⟨joinSlashes ((List.replicate up.length Component.parent ++ down).map Component.bytes)⟩

end Path
end AdTemplates
