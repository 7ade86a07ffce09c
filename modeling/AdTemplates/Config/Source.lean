import AdTemplates.Config.Error
import AdTemplates.FileTree
import AdTemplates.Yaml.Node.Reader

/-! Configuration files: where they are looked for, and the values that they hold. -/
namespace AdTemplates.Config

/-- A configuration file. One that is not required may be missing or unreadable. -/
structure Source where
  path : Path
  required : Bool
  deriving DecidableEq, Repr

mutual
/-- The value of a node. Keys of a table are texts; an integer stands for its digits. -/
def Value.ofNode (source : String) : Yaml.Node → Except Error Value
  | .null => .ok (.scalar (some source) .nil)
  | .invalid => .ok (.scalar (some source) .nil)
  | .boolean b => .ok (.scalar (some source) (.boolean b))
  | .integer n => .ok (.scalar (some source) (.integer n))
  | .string s => .ok (.scalar (some source) (.text s))
  | .real text =>
    match Number.Binary64.read? text.toList with
    | some x => .ok (.scalar (some source) (.float x))
    | none => .error (.unreadableReal text source)
  | .sequence items => do
    let values ← Value.ofNodes source items
    .ok (.array (some source) values)
  | .mapping entries => do
    let values ← Value.ofEntries source [] entries
    .ok (.table (some source) values)

def Value.ofNodes (source : String) : List Yaml.Node → Except Error (List Value)
  | [] => .ok []
  | node :: more => do
    let v ← Value.ofNode source node
    let values ← Value.ofNodes source more
    .ok (v :: values)

/-- Adds the entries of a mapping to those read before. -/
def Value.ofEntries (source : String) (before : List (String × Value)) :
    List (Yaml.Node × Yaml.Node) → Except Error (List (String × Value))
  | [] => .ok before
  | (key, node) :: more =>
    match key with
    | .string k => do
      let v ← Value.ofNode source node
      Value.ofEntries source (Entries.set k v before) more
    | .integer k => do
      let v ← Value.ofNode source node
      Value.ofEntries source (Entries.set (toString k) v before) more
    | _ => .error .unusableKey
end

/-- The topmost table of a YAML text. -/
def readTable (source text : String) : Except Error (List (String × Value)) :=
  match Yaml.Node.read? text with
  | none => .error (.malformedYaml source)
  | some [] => .ok []
  | some [node] => do
    match ← Value.ofNode source node with
    | .table _ entries => .ok entries
    | v => .error (.notATable v.found source)
  | some nodes => .error (.documentCount nodes.length source)

namespace Source

/-- Endings that a file may have besides its name. -/
def endings : List String := ["yaml", "yml"]

/-- What a name with an extension gets, so that an ending is added and replaces nothing. -/
def filler : List UInt8 := Text.Utf8.encode ".dummy"

/-- The paths at which a file is looked for: the path itself, then with each ending. -/
def candidates (p : Path) : List Path :=
  let base : Path := if p.extension?.isSome then ⟨p.bytes ++ filler⟩ else p
  p :: endings.filterMap fun ending => base.withExtension? (Text.Utf8.encode ending)

/-- The file of a source. -/
def locate? (t : FileTree) (s : Source) : Option Path :=
  (candidates (t.workingPath.join s.path)).find? t.isFile

/-- The entries of a configuration file. -/
def load (t : FileTree) (s : Source) : Except Error (List (String × Value)) :=
  match s.locate? t with
  | none => if s.required then .error (.fileNotFound s.path) else .ok []
  | some file =>
    match (t.read file).toOption.bind Text.Utf8.decode? with
    | none => if s.required then .error .notUtf8 else .ok []
    | some text => readTable (file.relativeTo t.workingPath).display text

end Source
end AdTemplates.Config
