import AdTemplates.CommandLine.Logging

/-! The program. It takes in what a run looks at, runs on that, and puts back what has
changed. -/
namespace AdTemplates

def Place.name (place : Place) : String := (Path.mk (Path.slash :: Path.joinSlashes place)).display

/-- Adds what stands at a place. A directory is what cannot be read as a file. -/
def FileTree.takeIn (t : FileTree) (place : Place) : IO FileTree := do
  if (t.find? place).isSome then return t
  try
    let content ← IO.FS.readBinFile place.name
    return t.set place (.file content.toList)
  catch
    | .inappropriateType .. => return t.set place .directory
    | _ => return t

/-- The device that is always full. It is never read. -/
def devices : List (Place × Entry) :=
  let directory := Text.Utf8.encode "dev"
  [([directory], .directory), ([directory, Text.Utf8.encode "full"], .full)]

/-- The files that arguments refer to. -/
def surroundings (words : List CommandLine.Word) : IO FileTree := do
  let here := Path.ofString (← IO.currentDir).toString
  let start : FileTree := ⟨devices, here.pieces.filter (· != [])⟩
  match CommandLine.Command.read words with
  | .ok (.run r) =>
    let paths := start.workingPath :: r.consulted start
    paths.foldlM (fun t p => (t.trail p).foldlM FileTree.takeIn t) start
  | _ => return start

/-- Runs the program and yields its exit code. The log is left out. -/
def program (arguments : List String) : IO UInt32 := do
  let words := arguments.map Text.Utf8.encode
  let before ← surroundings words
  let value ← IO.getEnv "RUST_LOG"
  let (report, after) :=
    CommandLine.executeLogged .silent (value.map Text.Utf8.encode) words before
  for (place, content) in before.changes after do
    IO.FS.writeBinFile place.name ⟨content.toArray⟩
  (← IO.getStdout).putStr report.stdout
  (← IO.getStderr).putStr report.stderr
  return report.code.toUInt32

end AdTemplates

def main (arguments : List String) : IO UInt32 := AdTemplates.program arguments
