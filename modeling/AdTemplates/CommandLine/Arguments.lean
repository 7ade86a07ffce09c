import AdTemplates.Run

/-! Arguments of the command line. Options stand in any order among the paths, in a long
or a short spelling, each at most once; two hyphens end them. A word is made of bytes, as a path
is, and need not be UTF-8. -/
namespace AdTemplates.CommandLine

abbrev Word := List UInt8

def hyphen : UInt8 := 0x2d

def equals : UInt8 := 0x3d

/-- Options that are there or not. -/
inductive Flag where
  | skipLong
  | strict
  | verbose
  | listFormats
  deriving DecidableEq, Repr

/-- Options with a value. -/
inductive Setting where
  | format
  | config
  deriving DecidableEq, Repr

inductive Switch where
  | flag (f : Flag)
  | setting (s : Setting)
  | help
  | version
  deriving DecidableEq, Repr

/-- The option of a long spelling, without its hyphens. -/
def Switch.ofLong? (name : Word) : Option Switch :=
  match Text.Utf8.decode? name with
  | some "skip-long" => some (.flag .skipLong)
  | some "format" => some (.setting .format)
  | some "strict" => some (.flag .strict)
  | some "config" => some (.setting .config)
  | some "verbose" => some (.flag .verbose)
  | some "list-formats" => some (.flag .listFormats)
  | some "help" => some .help
  | some "version" => some .version
  | _ => none

/-- The option of a letter. No letter of an option takes more than one byte. -/
def Switch.ofShort? (letter : UInt8) : Option Switch :=
  match Char.ofUInt8 letter with
  | 's' => some (.flag .skipLong)
  | 'f' => some (.setting .format)
  | 'c' => some (.setting .config)
  | 'v' => some (.flag .verbose)
  | 'h' => some .help
  | 'V' => some .version
  | _ => none

/-- What is wrong with arguments. -/
inductive Misuse where
  | unknownOption (argument : Word)
  | missingValue (s : Setting)
  | unexpectedValue (argument : Word)
  | invalidValue (s : Setting) (value : Word)
  | repeatedFlag (f : Flag)
  | repeatedSetting (s : Setting)
  | emptyPath
  | tooManyPaths (argument : Word)
  | missingInput
  deriving DecidableEq, Repr

def Flag.name : Flag → String
  | .skipLong => "skip-long"
  | .strict => "strict"
  | .verbose => "verbose"
  | .listFormats => "list-formats"

def Setting.name : Setting → String
  | .format => "format"
  | .config => "config"

def Misuse.message : Misuse → String
  | .unknownOption argument => s!"unexpected argument '{Text.Utf8.display argument}' found"
  | .missingValue s => s!"a value is required for '--{s.name}' but none was supplied"
  | .unexpectedValue argument => s!"no value was expected in '{Text.Utf8.display argument}'"
  | .invalidValue s value =>
    s!"'{Text.Utf8.display value}' cannot be the value of '--{s.name}', as it is no UTF-8"
  | .repeatedFlag f => s!"the argument '--{f.name}' cannot be used multiple times"
  | .repeatedSetting s => s!"the argument '--{s.name}' cannot be used multiple times"
  | .emptyPath => "a path must not be empty"
  | .tooManyPaths argument => s!"unexpected argument '{Text.Utf8.display argument}' found"
  | .missingInput => "an input file is required"

/-- Why reading ends before the last argument. -/
inductive Stop where
  | misuse (m : Misuse)
  | help
  | version
  deriving DecidableEq, Repr

/-- What an argument is by the look of it. -/
inductive Shape where
  | ending
  | long (name : Word) (attached : Option Word)
  | short (letters : Word)
  | plain (word : Word)
  deriving DecidableEq, Repr

/-- A long option may have its value behind an equals sign. -/
def Shape.ofLong (spelling : Word) : Shape :=
  match spelling.dropWhile (· != equals) with
  | [] => .long spelling none
  | _ :: value => .long (spelling.takeWhile (· != equals)) (some value)

/-- The number of hyphens in front tells what an argument is. A single hyphen is no option. -/
def Shape.ofWord (word : Word) : Shape :=
  match word with
  | first :: second :: rest =>
    if first ≠ hyphen then .plain word
    else if second ≠ hyphen then .short (second :: rest)
    else if rest = [] then .ending
    else .ofLong rest
  | _ => .plain word

/-- What has been read. -/
structure Arguments where
  paths : List Path := []
  flags : List Flag := []
  settings : List (Setting × Word) := []
  deriving DecidableEq, Repr

/-- What is wrong with a value, if anything is. A format is a text and may be empty; a
configuration is any path. -/
def Setting.fault? (s : Setting) (value : Word) : Option Misuse :=
  match s with
  | .format => if (Text.Utf8.decode? value).isSome then none else some (.invalidValue s value)
  | .config => if value = [] then some .emptyPath else none

namespace Arguments

/-- Adds a path; there are at most two. -/
def addPath (a : Arguments) (path : Path) : Except Stop Arguments :=
  if a.paths.length = 2 then .error (.misuse (.tooManyPaths path.bytes))
  else if path.bytes = [] then .error (.misuse .emptyPath)
  else .ok { a with paths := a.paths ++ [path] }

def raise (a : Arguments) (f : Flag) : Except Stop Arguments :=
  if f ∈ a.flags then .error (.misuse (.repeatedFlag f))
  else .ok { a with flags := a.flags ++ [f] }

/-- Gives an option its value. -/
def give (a : Arguments) (s : Setting) (value : Word) : Except Stop Arguments :=
  if (a.settings.lookup s).isSome then .error (.misuse (.repeatedSetting s))
  else
    match s.fault? value with
    | some m => .error (.misuse m)
    | none => .ok { a with settings := a.settings ++ [(s, value)] }

/-- Reads letters behind one hyphen. The rest after a letter that wants a value is the
value, with or without an equals sign; if nothing is left, the value is still to come. -/
def readLetters (a : Arguments) : Word → Except Stop (Arguments × Option Setting)
  | [] => .ok (a, none)
  | letter :: rest =>
    match Switch.ofShort? letter with
    | none =>
      let size := (Text.Utf8.firstSequence letter rest).1
      .error (.misuse (.unknownOption (hyphen :: (letter :: rest).take size)))
    | some .help => .error .help
    | some .version => .error .version
    | some (.flag f) =>
      match a.raise f with
      | .error e => .error e
      | .ok b => b.readLetters rest
    | some (.setting s) =>
      match rest with
      | [] => .ok (a, some s)
      | first :: value =>
        (a.give s (if first = equals then value else first :: value)).map (·, none)

/-- Reads a long option and whether its value is still to come. -/
def readLong (a : Arguments) (argument name : Word) (attached : Option Word) :
    Except Stop (Arguments × Option Setting) :=
  match Switch.ofLong? name, attached with
  | none, _ => .error (.misuse (.unknownOption argument))
  | some (.flag f), none => (a.raise f).map (·, none)
  | some (.setting s), some value => (a.give s value).map (·, none)
  | some (.setting s), none => .ok (a, some s)
  | some .help, none => .error .help
  | some .version, none => .error .version
  | some _, some _ => .error (.misuse (.unexpectedValue argument))

/-- Reads arguments that are all paths. -/
def readPaths (a : Arguments) : List Word → Except Stop Arguments
  | [] => .ok a
  | word :: rest =>
    match a.addPath ⟨word⟩ with
    | .error e => .error e
    | .ok b => b.readPaths rest

/-- Reads arguments in order. `awaited` is the option whose value comes next. -/
def readFrom (a : Arguments) (awaited : Option Setting) : List Word → Except Stop Arguments
  | [] =>
    match awaited with
    | none => .ok a
    | some s => .error (.misuse (.missingValue s))
  | word :: rest =>
    match awaited, Shape.ofWord word with
    | some s, .plain value =>
      match a.give s value with
      | .error e => .error e
      | .ok b => b.readFrom none rest
    | some s, _ => .error (.misuse (.missingValue s))
    | none, .plain path =>
      match a.addPath ⟨path⟩ with
      | .error e => .error e
      | .ok b => b.readFrom none rest
    | none, .ending => a.readPaths rest
    | none, .short letters =>
      match a.readLetters letters with
      | .error e => .error e
      | .ok (b, next) => b.readFrom next rest
    | none, .long name attached =>
      match a.readLong word name attached with
      | .error e => .error e
      | .ok (b, next) => b.readFrom next rest

def read (words : List Word) : Except Stop Arguments := ({} : Arguments).readFrom none words

/-- The request that arguments spell, if they name an input. -/
def request? (a : Arguments) : Option Run.Request :=
  match a.paths with
  | [] => none
  | input :: more => some {
      input
      output := more.head?
      format := (a.settings.lookup .format).bind Text.Utf8.decode?
      skipLong := a.flags.contains .skipLong
      strict := a.flags.contains .strict
      config := (a.settings.lookup .config).map Path.mk }

end Arguments

/-- What the program is asked to do. -/
inductive Command where
  | run (r : Run.Request)
  | listFormats
  | help
  | version
  deriving DecidableEq, Repr

/-- The command that arguments spell. -/
def Command.read (words : List Word) : Except Misuse Command :=
  match Arguments.read words with
  | .error .help => .ok .help
  | .error .version => .ok .version
  | .error (.misuse m) => .error m
  | .ok a =>
    if a.flags.contains .listFormats then .ok .listFormats
    else
      match a.request? with
      | none => .error .missingInput
      | some r => .ok (.run r)

end AdTemplates.CommandLine
