import AdTemplates.Combinations
import AdTemplates.Config.Loader
import AdTemplates.Format.Registry
import AdTemplates.Output

/-! A run: the settings are gathered, the template is read, and all its advertisements are
written to a file. Nothing is written before everything that can be checked has been. -/
namespace AdTemplates.Run

/-- What a run is asked for. -/
structure Request where
  input : Path
  output : Option Path := none
  format : Option String := none
  skipLong : Bool := false
  strict : Bool := false
  config : Option Path := none
  deriving DecidableEq, Repr

/-- What a run has done. -/
structure Summary where
  output : Path
  format : String
  written : Nat
  skipped : Nat
  deriving DecidableEq, Repr

inductive Error where
  | inputNotFound (path : Path)
  | inputUnreadable (path : Path) (cause : IoError)
  | malformed (e : Document.MalformedSection)
  | outputFailure (path : Path) (cause : IoError)
  | config (e : Config.Error)
  | format (e : Format.Error)
  deriving DecidableEq, Repr

def Error.message : Error → String
  | .inputNotFound path => s!"input file '{path.display}' not found"
  | .inputUnreadable path cause => s!"cannot read input file '{path.display}': {cause.message}"
  | .malformed e => s!"line {e.line}: unknown section marker '{e.marker}'"
  | .outputFailure path cause => s!"cannot write output file '{path.display}': {cause.message}"
  | .config e => s!"invalid configuration: {e.message}"
  | .format e => e.message

/-- Whether an error breaks the program off instead of being reported. -/
def Error.isFatal : Error → Bool
  | .config e => e.isFatal
  | _ => false

namespace Request

/-- The configuration file that is looked for beside the input. -/
def localConfigName : Path := .ofString "dg.yaml"

def localConfig (r : Request) : Path := (r.input.parent?.getD ⟨[]⟩).join localConfigName

/-- The setting that the flag for long advertisements switches on. -/
def skipLongKey : Config.KeyPath := ⟨"generation", [.member "skip_long"]⟩

/-- The setting that the flag for strict markers switches on. -/
def strictKey : Config.KeyPath := ⟨"parser", [.member "strict_markers"]⟩

/-- The layers of a run: the file beside the input, the file asked for, and the flags. -/
def loader (r : Request) : Config.Loader :=
  let beside := ({} : Config.Loader).withOptionalFile r.localConfig
  let named :=
    match r.config with
    | some path => beside.withFile path
    | none => beside
  let long := if r.skipLong then named.override skipLongKey (.boolean true) else named
  if r.strict then long.override strictKey (.boolean true) else long

/-- The settings that files and flags come to. Tables are gone through as `o` tells. -/
def settings (r : Request) (t : FileTree) (o : Config.Traversal := .asWritten) :
    Except Config.Error Config.Settings :=
  r.loader.build t o

def outputPath (r : Request) : Path := r.output.getD (Output.defaultPath r.input)

/-- The format asked for, or else that of the output. -/
def formatName (r : Request) (s : Config.Settings) : String :=
  r.format.getD (Output.formatName r.outputPath s.defaultFormat)

/-- All paths that a run looks at or writes to. -/
def consulted (r : Request) (t : FileTree) : List Path :=
  r.loader.sources.flatMap (fun s => Config.Source.candidates (t.workingPath.join s.path)) ++
    [r.input, r.outputPath]

end Request

/-- The document in a file. -/
def readDocument (t : FileTree) (path : Path) (strict : Bool) : Except Error Document :=
  match t.read path with
  | .error .notFound => .error (.inputNotFound path)
  | .error cause => .error (.inputUnreadable path cause)
  | .ok content =>
    match Document.read strict [content] with
    | .error (.malformed e) => .error (.malformed e)
    | .error .invalidUtf8 => .error (.inputUnreadable path .invalidUtf8)
    | .ok d => .ok d

/-- An error of reading, with the name that it is reported under. -/
def Error.ofRead (name : Path) : Document.ReadError → Error
  | .malformed e => .malformed e
  | .invalidUtf8 => .inputUnreadable name .invalidUtf8

/-- What a stream is called, which has no path. -/
def streamName : Path := .ofString "<reader>"

/-- The document in a stream whose bytes arrive in pieces. -/
def readStream (pieces : List (List UInt8)) (strict : Bool) : Except Error Document :=
  (Document.read strict pieces).mapError (.ofRead streamName)

/-- The formatter of a name. -/
def findFormatter (name : String) : Except Error Format.Formatter :=
  match Format.Registry.defaults.get? name with
  | none => .error (.format (.formatNotFound name))
  | some f => .ok f

/-- All that a run needs to know before it writes. -/
structure Plan where
  output : Path
  format : String
  formatter : Format.Formatter
  document : Document
  options : ExpandOptions

/-- Gathers settings, formatter and document, in this order. -/
def Request.plan (r : Request) (t : FileTree) (o : Config.Traversal := .asWritten) :
    Except Error Plan := do
  let s ← (r.settings t o).mapError Error.config
  let formatter ← findFormatter (r.formatName s)
  let document ← readDocument t r.input s.strictMarkers
  return ⟨r.outputPath, r.formatName s, formatter, document, s.expandOptions⟩

/-- The sink that an open file is. The full device takes no byte. On the way to the file bytes
may wait in a buffer, which a formatter empties at its end. Where nothing or everything is taken
it does not show how long they wait. -/
def sinkAt (t : FileTree) (place : Place) : Format.Sink :=
  match t.find? place with
  | some .full => { capacity := some 0, refusal := .noSpace }
  | _ => {}

/-- Puts what a sink holds into its file. -/
def store (t : FileTree) (place : Place) (content : List UInt8) : FileTree :=
  match t.find? place with
  | some .full => t
  | _ => t.set place (.file content)

/-- Writes the advertisements of a plan into an open file. -/
def Plan.write (p : Plan) (place : Place) (t : FileTree) : Except Error Summary × FileTree :=
  let (records, last) := (p.document.combinations p.options).drain
  match p.formatter.write records (sinkAt t place) with
  | .error (.io cause) => (.error (.outputFailure p.output cause), t)
  | .error e => (.error (.format e), t)
  | .ok (n, sink) => (.ok ⟨p.output, p.format, n, last.skipped⟩, store t place sink.written)

end Run

/-- Expands a template file; the tree is the one after the run, also when it fails. Tables of
the configuration are gone through as `o` tells. -/
def run (r : Run.Request) (t : FileTree) (o : Config.Traversal := .asWritten) :
    Except Run.Error Run.Summary × FileTree :=
  match r.plan t o with
  | .error e => (.error e, t)
  | .ok p =>
    match t.create p.output with
    | .error cause => (.error (.outputFailure p.output cause), t)
    | .ok (place, opened) => p.write place opened

end AdTemplates
