import AdTemplates.Config.Settings
import AdTemplates.Config.Source

/-! Layering of a configuration: built-in defaults, then files in the order in which they
were added, then single settings. -/
namespace AdTemplates.Config

/-- The settings that are built in, as they are read from a text of some origin. -/
def defaultEntries (o : Origin) : List (String × Value) :=
  [("limits", .table o [
      ("title", .scalar o (.integer 35)),
      ("text", .scalar o (.integer 75))]),
    ("generation", .table o [("skip_long", .scalar o (.boolean false))]),
    ("parser", .table o [("strict_markers", .scalar o (.boolean false))]),
    ("output", .table o [("default_format", .scalar o (.text "tsv"))])]

/-- The lowest layer. It comes from no file. -/
def defaultLayer : Value := .table none (defaultEntries none)

/-- Assigns an entry of a file. Its key is a path if it reads as one, and a name if not. -/
def Value.layEntry (target : Value) (entry : String × Value) : Except Error Value :=
  match KeyPath.parse entry.1 with
  | .error _ => .ok (target.assign entry.1 entry.2)
  | .ok path =>
    match target.putAt entry.2 path with
    | some v => .ok v
    | none => .error .noPlace

/-- Files to layer and the settings that win over them, each path at most once. -/
structure Loader where
  sources : List Source := []
  overrides : List (KeyPath × Scalar) := []
  deriving DecidableEq, Repr

namespace Loader

/-- Layers a file that must exist. -/
def withFile (l : Loader) (path : Path) : Loader := { l with sources := l.sources ++ [⟨path, true⟩] }

/-- Layers a file that may be missing. -/
def withOptionalFile (l : Loader) (path : Path) : Loader :=
  { l with sources := l.sources ++ [⟨path, false⟩] }

/-- Sets a single value above all files. -/
def override (l : Loader) (path : KeyPath) (s : Scalar) : Loader :=
  { l with overrides := Entries.set path s l.overrides }

/-- Sets a single value under a key that has to be read first. -/
def override? (l : Loader) (key : String) (s : Scalar) : Except Error Loader :=
  match KeyPath.parse key with
  | .error fault => .error (.path fault)
  | .ok path => .ok (l.override path s)

/-- Lays a file over the layers below it, its entries in the order that `arrange` gives them. -/
def laySource (t : FileTree) (arrange : List (String × Value) → List (String × Value))
    (below : Value) (s : Source) : Except Error Value := do
  let entries ← s.load t
  (arrange entries).foldlM Value.layEntry below

/-- Lays a single value over the layers below it. -/
def layOverride (below : Value) (o : KeyPath × Scalar) : Except Error Value :=
  match below.putAt (.scalar none o.2) o.1 with
  | some v => .ok v
  | none => .error .noPlace

/-- All layers, one above the other. -/
def layers (l : Loader) (t : FileTree) (o : Traversal := .asWritten) : Except Error Value := do
  let files ←
    l.sources.zipIdx.foldlM (fun below s => laySource t (o.file s.2) below s.1) defaultLayer
  (o.overrides l.overrides).foldlM layOverride files

/-- Reads the files and builds the settings. -/
def build (l : Loader) (t : FileTree) (o : Traversal := .asWritten) : Except Error Settings := do
  let settings ← Settings.read (← l.layers t o) o
  settings.validate

end Loader
end AdTemplates.Config
