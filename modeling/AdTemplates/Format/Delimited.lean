import AdTemplates.Format.Basic

/-! Rows of fields between delimiters, one row per advertisement and no header. A field
stands in quotes when it holds the delimiter, a quote or a line break, and a quote inside
it is written twice. -/
namespace AdTemplates.Format.Delimited

/-- Whether a field cannot stand on its own. -/
def needsQuotes (delimiter : Char) (field : List Char) : Bool :=
  field.any fun c => c == delimiter || c == '"' || c == '\r' || c == '\n'

/-- A text with each quote written twice. -/
def doubleQuotes (field : List Char) : List Char :=
  field.flatMap fun c => if c = '"' then ['"', '"'] else [c]

/-- The written form of a field. -/
def field (delimiter : Char) (s : List Char) : List Char :=
  if needsQuotes delimiter s then '"' :: doubleQuotes s ++ ['"'] else s

/-- Written fields with a delimiter between them. -/
def joined (delimiter : Char) (fields : List (List Char)) : List Char :=
  [delimiter].intercalate (fields.map (field delimiter))

/-- The fields of an advertisement. -/
def fields (r : Record) : List (List Char) := [r.title.toList, r.text.toList]

/-- The row of an advertisement: title and text, ended by a line feed. -/
def row (delimiter : Char) (r : Record) : List Char := joined delimiter (fields r) ++ ['\n']

/-- The bytes of a row. -/
def rowBytes (delimiter : Char) (r : Record) : List UInt8 :=
  Text.Utf8.encode (String.ofList (row delimiter r))

/-- Why a row was not written. -/
inductive RowError where
  | io (cause : IoError)
  /-- The row has another number of fields than the first one. -/
  | unequalLengths (expected found : Nat)
  deriving DecidableEq, Repr

/-- A refusal of the sink is reported as it is, and anything else is a fault of the rows. -/
def RowError.report : RowError → Error
  | .io cause => .io cause
  | .unequalLengths expected found => .serialization
    s!"UnequalLengths \x7b pos: None, expected_len: {expected}, len: {found} \x7d"

/-- How many bytes of rows are collected before they are written out. -/
def bufferSize : Nat := 8192

/-- Rows on their way to a sink. -/
structure Writer where
  sink : Sink
  /-- What has been collected and not written out. -/
  buffer : List UInt8 := []
  /-- The number of fields of the first row. -/
  width : Option Nat := none

namespace Writer

/-- Collects bytes. As often as there are more than the buffer holds, a full buffer is
written out, wherever in a row it ends. -/
def collect (w : Writer) (bytes : List UInt8) : Except IoError Writer :=
  let held := w.buffer ++ bytes
  if _h : held.length ≤ bufferSize then .ok { w with buffer := held }
  else
    match w.sink.push (held.take bufferSize) with
    | .error cause => .error cause
    | .ok sink => collect { w with sink, buffer := [] } (held.drop bufferSize)
termination_by w.buffer.length + bytes.length
decreasing_by
  simp only [held, bufferSize, List.length_append] at _h
  simp only [bufferSize, List.length_drop, List.length_append, List.length_nil]
  omega

/-- Writes a row of fields. All rows have as many fields as the first one. -/
def writeRow (delimiter : Char) (w : Writer) (fields : List (List Char)) : Except RowError Writer :=
  match w.collect (Text.Utf8.encode (String.ofList (joined delimiter fields))) with
  | .error cause => .error (.io cause)
  | .ok w =>
    let width := w.width.getD fields.length
    if fields.length = width then
      ({ w with width := some width }.collect lineEnd).mapError .io
    else .error (.unequalLengths width fields.length)

/-- Writes out what has been collected. -/
def flush (w : Writer) : Except IoError Sink := w.sink.push w.buffer

end Writer

/-- Writes a row for each advertisement. -/
def writeRows (delimiter : Char) (w : Writer) : List Record → Except RowError Writer
  | [] => .ok w
  | r :: more =>
    match w.writeRow delimiter (fields r) with
    | .error e => .error e
    | .ok w => writeRows delimiter w more

/-- Writes the rows of all advertisements, and at the end what is still in the buffer. -/
def writeRecords (delimiter : Char) (records : List Record) (sink : Sink) :
    Except Error (Nat × Sink) :=
  match writeRows delimiter { sink } records with
  | .error e => .error e.report
  | .ok w =>
    match w.flush with
    | .error cause => .error (.io cause)
    | .ok sink => .ok (records.length, sink)

/-- Fields between commas. -/
def csv : Formatter where
  name := "csv"
  description := "Comma-separated title,text rows"
  write := writeRecords ','

/-- Fields between tabs. -/
def tsv : Formatter where
  name := "tsv"
  description := "Tab-separated title/text rows"
  write := writeRecords '\t'

end AdTemplates.Format.Delimited
