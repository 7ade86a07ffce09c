import AdTemplates.IoError
import AdTemplates.Record
import AdTemplates.Text.Utf8

/-! Formatters and the sinks that they write to. A formatter turns advertisements into
rows, and a sink accepts bytes up to its capacity. -/
namespace AdTemplates.Format

/-- Where bytes go. A write that would take the total above the capacity is refused as a
whole. -/
structure Sink where
  written : List UInt8 := []
  capacity : Option Nat := none
  refusal : IoError := .refused "sink full"

namespace Sink

/-- Whether the sink has room for so many bytes more. -/
def hasRoom (s : Sink) (n : Nat) : Bool :=
  match s.capacity with
  | none => true
  | some limit => s.written.length + n ≤ limit

/-- Writes bytes at the end. -/
def push (s : Sink) (bytes : List UInt8) : Except IoError Sink :=
  if s.hasRoom bytes.length then .ok { s with written := s.written ++ bytes } else .error s.refusal

end Sink

/-- Why advertisements were not written. -/
inductive Error where
  | formatNotFound (name : String)
  | io (cause : IoError)
  | serialization (reason : String)
  deriving DecidableEq, Repr

def Error.message : Error → String
  | .formatNotFound name => s!"Format '{name}' not found"
  | .io cause => s!"I/O error: {cause.message}"
  | .serialization reason => s!"Serialization error: {reason}"

/-- What ends a row. -/
def lineEnd : List UInt8 := Text.Utf8.encode "\n"

/-- A named way to write advertisements; writing tells how many there were. -/
structure Formatter where
  name : String
  description : String := ""
  write : List Record → Sink → Except Error (Nat × Sink)

end AdTemplates.Format
