import AdTemplates.Config.KeyPath
import AdTemplates.Number.Shortest
import AdTemplates.Path
import AdTemplates.Text.Quoted

/-! Why a configuration could not be built. -/
namespace AdTemplates.Config

/-- What stands where something else was expected. -/
inductive Found where
  | scalar (s : Scalar)
  | array
  | table
  deriving DecidableEq, Repr

def Value.found : Value → Found
  | .scalar _ s => .scalar s
  | .array .. => .array
  | .table .. => .table

def Found.wording : Found → String
  | .scalar .nil => "unit value"
  | .scalar (.boolean b) => s!"boolean `{b}`"
  | .scalar (.integer n) => s!"64-bit integer `{n}`"
  | .scalar (.float x) => s!"floating point `{x.text}`"
  | .scalar (.text s) => s!"string {Text.quoted s}"
  | .array => "sequence"
  | .table => "map"

/-- How a scalar is named that stands in place of a section. -/
def Scalar.wording : Scalar → String
  | .nil => "unit value"
  | .boolean b => s!"boolean `{b}`"
  | .integer n => s!"integer `{n}`"
  | .float x => s!"floating point `{x.textWithPoint}`"
  | .text s => s!"string {Text.quoted s}"

/-- What a setting can hold. -/
inductive Kind where
  | integer
  | unsigned
  | boolean
  | text
  deriving DecidableEq, Repr

def Kind.wording : Kind → String
  | .integer => "an integer"
  | .unsigned => "an unsigned 64 bit or less integer"
  | .boolean => "a boolean"
  | .text => "a string"

/-- The sections of a configuration. -/
inductive Section where
  | limits
  | generation
  | parser
  | output
  deriving DecidableEq, Repr

/-- The key that a section has in the topmost table. -/
def Section.key : Section → String
  | .limits => "limits"
  | .generation => "generation"
  | .parser => "parser"
  | .output => "output"

def Section.wording : Section → String
  | .limits => "struct LengthLimits"
  | .generation => "struct GenerationConfig"
  | .parser => "struct ParserConfig"
  | .output => "struct OutputConfig"

def Step.text : Step → String
  | .member key => s!".{key}"
  | .index i => s!"[{i}]"

def KeyPath.text (p : KeyPath) : String := p.more.foldl (fun t s => t ++ s.text) p.first

/-- The cause of a failure. `source` is the file that it was found in. -/
inductive Error where
  | path (fault : KeyPath.Fault)
  | malformedYaml (source : String)
  | documentCount (n : Nat) (source : String)
  | unreadableReal (text source : String)
  | notATable (found : Found) (source : String)
  | wrongType (found : Found) (expected : Kind) (key : KeyPath) (origin : Origin)
  | wrongSection (found : Scalar) (s : Section)
  | zeroLimit
  | fileNotFound (path : Path)
  | notUtf8
  /-- A key of a table is neither a text nor an integer. -/
  | unusableKey
  /-- An index reaches back beyond the beginning of an array, or too far ahead. -/
  | noPlace
  deriving DecidableEq, Repr

namespace Error

/-- Whether an error breaks the program off instead of being reported. -/
def isFatal : Error → Bool
  | .unusableKey | .noPlace => true
  | _ => false

def message : Error → String
  | .path fault => fault.message
  | .malformedYaml source => s!"malformed YAML in {source}"
  | .documentCount n source => s!"Got {n} YAML documents, expected 1 in {source}"
  | .unreadableReal text source => s!"Parsing {text} as floating point number failed in {source}"
  | .notATable found source =>
    s!"invalid type: {found.wording}, expected a map in {source} in {source}"
  | .wrongType found expected key origin =>
    s!"invalid type: {found.wording}, expected {expected.wording} for key `{key.text}`" ++
      match origin with
      | some source => s!" in {source}"
      | none => ""
  | .wrongSection found s => s!"invalid type: {found.wording}, expected {s.wording}"
  | .zeroLimit => "limits.title and limits.text must be greater than zero"
  | .fileNotFound p => s!"configuration file \"{p.display}\" not found"
  | .notUtf8 => "stream did not contain valid UTF-8"
  | .unusableKey => "a key is neither a text nor an integer"
  | .noPlace => "an index has no place in its array"

end Error
end AdTemplates.Config
