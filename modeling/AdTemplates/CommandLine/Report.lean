import AdTemplates.CommandLine.Arguments

/-! What the program answers: its output, its report and its exit code. -/
namespace AdTemplates.CommandLine

structure Report where
  code : Nat
  stdout : String := ""
  stderr : String := ""
  deriving DecidableEq, Repr

def helpText : String := "Generate advertisements from a .dg template file

Usage: dg [OPTIONS] [input] [output]

Arguments:
  [input]   Path to the .dg file
  [output]  Where to write the advertisements (default: <input>.csv)

Options:
  -s, --skip-long        Skip advertisements whose title or text is too long
  -f, --format <format>  Output format (default: from the output extension)
      --strict           Fail on bracketed lines that are not known section markers
  -c, --config <config>  YAML configuration file layered over the built-in defaults
  -v, --verbose          Log debug information to stderr
      --list-formats     List available output formats
  -h, --help             Print help
  -V, --version          Print version
"

def versionText : String := "dg 0.1.0\n"

/-- The formats of a registry, each with its description. -/
def formatList (r : Format.Registry) : String :=
  "Available output formats:\n\n" ++
    String.join (r.formatters.map fun f => s!"  {f.name}\n    {f.description}\n\n")

/-- Reports the outcome of a run. One that was broken off has a code of its own. -/
def Report.ofOutcome : Except Run.Error Run.Summary → Report
  | .ok s =>
    { code := 0
      stderr := s!"Wrote {s.written} advertisements to {s.output.display} ({s.skipped} skipped)\n" }
  | .error e =>
    if e.isFatal then { code := 101, stderr := s!"broken off: {e.message}\n" }
    else { code := 1, stderr := s!"Error: {e.message}\n" }

/-- Obeys a command. Tables of the configuration are gone through as `o` tells. -/
def Command.execute (c : Command) (t : FileTree) (o : Config.Traversal := .asWritten) :
    Report × FileTree :=
  match c with
  | .help => ({ code := 0, stdout := helpText }, t)
  | .version => ({ code := 0, stdout := versionText }, t)
  | .listFormats => ({ code := 0, stdout := formatList .defaults }, t)
  | .run r => ((Report.ofOutcome (AdTemplates.run r t o).1), (AdTemplates.run r t o).2)

/-- Reads arguments and obeys them. Misuse has a code of its own. -/
def executeWords (words : List Word) (t : FileTree) (o : Config.Traversal := .asWritten) :
    Report × FileTree :=
  match Command.read words with
  | .error m => ({ code := 2, stderr := s!"error: {m.message}\n\n{helpText}" }, t)
  | .ok c => c.execute t o

/-- Reads arguments that are texts and obeys them. -/
def execute (arguments : List String) (t : FileTree) : Report × FileTree :=
  executeWords (arguments.map Text.Utf8.encode) t

end AdTemplates.CommandLine
