import AdTemplates.Format.Basic

/-! One JSON object per advertisement, each on a line of its own. Strings escape quotes,
backslashes and control characters, so no row holds a line break. -/
namespace AdTemplates.Format.JsonLines

/-- A hexadecimal digit in lower case. -/
def hexDigit (n : Nat) : Char := (Nat.digitChar (n % 16))

/-- The written form of a character inside a string. -/
def escapeChar (c : Char) : List Char :=
  if c = '"' then ['\\', '"']
  else if c = '\\' then ['\\', '\\']
  else if c = '\x08' then ['\\', 'b']
  else if c = '\x0c' then ['\\', 'f']
  else if c = '\n' then ['\\', 'n']
  else if c = '\r' then ['\\', 'r']
  else if c = '\t' then ['\\', 't']
  else if c.toNat < 0x20 then ['\\', 'u', '0', '0', hexDigit (c.toNat / 16), hexDigit c.toNat]
  else [c]

/-- A JSON string. -/
def string (s : List Char) : List Char := '"' :: s.flatMap escapeChar ++ ['"']

/-- A member of an object. -/
def member (name value : String) : List Char :=
  string name.toList ++ ':' :: string value.toList

/-- The object of an advertisement, without spaces. -/
def object (r : Record) : List Char :=
  '\x7b' :: member "keyword" r.keyword ++ ',' :: member "title" r.title ++
    ',' :: member "text" r.text ++ ['\x7d']

/-- The bytes of an advertisement's line. -/
def rowBytes (r : Record) : List UInt8 :=
  Text.Utf8.encode (String.ofList (object r ++ ['\n']))

/-- Why an object was not written. -/
inductive ObjectError where
  | io (cause : IoError)
  /-- A value has no JSON form. -/
  | data (reason : String)
  deriving DecidableEq, Repr

/-- A refusal of the sink is reported as it is, and anything else is a fault of the values. -/
def ObjectError.report : ObjectError → Error
  | .io cause => .io cause
  | .data reason => .serialization reason

/-- Writes the object of an advertisement. Every text has a JSON form. -/
def writeObject (s : Sink) (r : Record) : Except ObjectError Sink :=
  (s.push (Text.Utf8.encode (String.ofList (object r)))).mapError .io

/-- Writes a line for each advertisement. -/
def writeLines (s : Sink) : List Record → Except Error Sink
  | [] => .ok s
  | r :: more =>
    match writeObject s r with
    | .error e => .error e.report
    | .ok s =>
      match s.push lineEnd with
      | .error cause => .error (.io cause)
      | .ok s => writeLines s more

/-- Writes the lines of all advertisements. -/
def writeRecords (records : List Record) (sink : Sink) : Except Error (Nat × Sink) :=
  (writeLines sink records).map (records.length, ·)

def jsonl : Formatter where
  name := "jsonl"
  description := "One JSON object per advertisement, including its keyword"
  write := writeRecords

end AdTemplates.Format.JsonLines
