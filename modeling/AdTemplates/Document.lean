import AdTemplates.Section
import AdTemplates.Text.Lines
import AdTemplates.Text.Utf8
import AdTemplates.Text.Whitespace

/-! Documents: keywords, titles and texts, each in the order of their lines. Lines are
read from a string, from bytes, or from bytes that arrive in pieces; the three agree on
every text, however it is cut. -/
namespace AdTemplates

/-- The content of a document by section. -/
structure Document where
  keywords : List String
  titles : List String
  texts : List String
  deriving DecidableEq, Repr

namespace Document

def empty : Document := ⟨[], [], []⟩

/-- The lines of one section. -/
def content (d : Document) : Section → List String
  | .keywords => d.keywords
  | .titles => d.titles
  | .texts => d.texts

/-- Adds a line at the end of a section. -/
def push (d : Document) : Section → String → Document
  | .keywords, line => { d with keywords := d.keywords ++ [line] }
  | .titles, line => { d with titles := d.titles ++ [line] }
  | .texts, line => { d with texts := d.texts ++ [line] }

/-- A line that looks like a marker and is none. -/
structure MalformedSection where
  line : Nat
  marker : String
  deriving DecidableEq, Repr

/-- Why bytes are no document. -/
inductive ReadError where
  | malformed (cause : MalformedSection)
  | invalidUtf8
  deriving DecidableEq, Repr

/-- A document of which some lines have been read: the section that the next line belongs
to, the number of lines so far, and what they held. -/
structure Reading where
  active : Option Section
  lineCount : Nat
  document : Document
  deriving DecidableEq, Repr

namespace Reading

def start : Reading := ⟨none, 0, .empty⟩

/-- Reads one more line. A marker opens its section; blank lines and lines before the
first marker are dropped. With `strict`, whatever only looks like a marker is refused. -/
def readLine (strict : Bool) (p : Reading) (raw : String) : Except MalformedSection Reading :=
  let line := Text.trim raw
  let number := p.lineCount + 1
  if line = "" then .ok { p with lineCount := number }
  else match Section.ofMarker? line with
    | some opened => .ok { p with active := some opened, lineCount := number }
    | none =>
      if strict && Section.looksLikeMarker line then .error ⟨number, line⟩
      else match p.active with
        | none => .ok { p with lineCount := number }
        | some active => .ok ⟨p.active, number, p.document.push active line⟩

/-- Reads lines up to the first that is refused. -/
def readLines (strict : Bool) (p : Reading) : List String → Except MalformedSection Reading
  | [] => .ok p
  | line :: more =>
    match p.readLine strict line with
    | .error e => .error e
    | .ok q => q.readLines strict more

/-- Reads lines given as bytes. A line that is not UTF-8 is an error when it is reached. -/
def readByteLines (strict : Bool) (p : Reading) : List (List UInt8) → Except ReadError Reading
  | [] => .ok p
  | bytes :: more =>
    match Text.Utf8.decode? bytes with
    | none => .error .invalidUtf8
    | some line =>
      match p.readLine strict line with
      | .error e => .error (.malformed e)
      | .ok q => q.readByteLines strict more

end Reading

/-- The document that a text spells. -/
def parse (strict : Bool) (source : String) : Except MalformedSection Document :=
  (Reading.start.readLines strict (Text.lines source)).map (·.document)

def newline : UInt8 := 0x0a

def carriageReturn : UInt8 := 0x0d

/-- Removes the carriage return before a line end. -/
def dropReturn (line : List UInt8) : List UInt8 :=
  if line.getLast? = some carriageReturn then line.dropLast else line

/-- Splits off the lines that end within a piece. `pending` is the beginning of a line
from earlier pieces, last byte first; what is left is the beginning of the next, likewise. -/
def takeLines (pending : List UInt8) : List UInt8 → List (List UInt8) × List UInt8
  | [] => ([], pending)
  | b :: rest =>
    if b = newline then
      let (more, left) := takeLines [] rest
      (dropReturn pending.reverse :: more, left)
    else takeLines (b :: pending) rest

/-- The lines of bytes that arrive in pieces. -/
def linesOfPieces (pending : List UInt8) : List (List UInt8) → List (List UInt8)
  | [] => if pending.isEmpty then [] else [pending.reverse]
  | piece :: more =>
    let (done, left) := takeLines pending piece
    done ++ linesOfPieces left more

/-- The document that bytes spell which arrive in pieces. -/
def read (strict : Bool) (pieces : List (List UInt8)) : Except ReadError Document :=
  (Reading.start.readByteLines strict (linesOfPieces [] pieces)).map (·.document)

end Document
end AdTemplates
