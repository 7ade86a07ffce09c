import AdTemplates.Path

/-! Where advertisements go when no output is named, and the format that the name of an
output selects. -/
namespace AdTemplates.Output

/-- What every default output ends in. -/
def suffix : List UInt8 := Text.Utf8.encode ".csv"

/-- The name that stands in for a missing file name. -/
def unnamed : List UInt8 := Text.Utf8.encode "output"

/-- The output beside an input: its file name, extension included, and the suffix. -/
def defaultPath (input : Path) : Path := input.withFileName (input.fileName?.getD unnamed ++ suffix)

/-- The format of an extension. -/
def formatOfExtension? (extension : String) : Option String :=
  if extension = "csv" then some "csv"
  else if extension = "tsv" then some "tsv"
  else if extension = "json" ∨ extension = "jsonl" then some "jsonl"
  else none

/-- The format that a path selects by its extension, or else the fallback. -/
def formatName (output : Path) (fallback : String) : String :=
  ((output.extension?.bind Text.Utf8.decode?).bind formatOfExtension?).getD fallback

end AdTemplates.Output
