import AdTemplates.Yaml.Token.Basic

/-! The place in a text from which tokens are scanned, with all that decides what the next
token is: indentation, nesting of flow collections, and the places at which a key may have
begun. Scanning yields nothing for a text that is not well formed. -/
namespace AdTemplates.Yaml

structure Mark where
  index : Nat
  line : Nat
  column : Nat
  deriving Repr

/-- A place where a key may have begun. `number` counts the tokens before it, and a required
candidate must turn out to be a key. -/
structure KeyCandidate where
  possible : Bool
  required : Bool
  number : Nat
  mark : Mark
  deriving Repr

/-- An indentation to come back to, and whether a block collection ends there. -/
structure Indentation where
  column : Int
  isBlock : Bool
  deriving Repr

/-- `keyAllowed` tells whether a key may begin here, and `atLineStart` whether only blanks
have been passed on the line. Flow collections nest to `depth`. -/
structure Cursor where
  rest : List Char
  mark : Mark
  /-- Tokens so far, each with the column where it began. -/
  tokens : Array (Token × Nat)
  indent : Int
  outer : List Indentation
  /-- Innermost first; one for each flow collection and one for the block level. -/
  candidates : List KeyCandidate
  depth : Nat
  keyAllowed : Bool
  atLineStart : Bool
  /-- Where a value indicator needs no blank behind it, after a quoted key. -/
  valueMayTouchAt : Nat
  inFlowMapping : Bool
  /-- Whether a mapping of a single pair has begun inside a flow sequence. -/
  inSinglePair : Bool

abbrev Scan := StateT Cursor Option

namespace Cursor

/-- The place before a text. What follows an end mark is no part of the text. -/
def start (text : List Char) : Cursor where
  rest := text.takeWhile (· != endMark)
  mark := ⟨0, 0, 0⟩
  tokens := #[]
  indent := -1
  outer := []
  candidates := [⟨false, false, 0, ⟨0, 0, 0⟩⟩]
  depth := 0
  keyAllowed := true
  atLineStart := true
  valueMayTouchAt := 0
  inFlowMapping := false
  inSinglePair := false

def peek (s : Cursor) (n : Nat) : Char := s.rest[n]?.getD endMark

/-- Passes `n` characters of one line. -/
def pass (s : Cursor) (n : Nat) : Cursor :=
  { s with
    rest := s.rest.drop n
    mark := ⟨s.mark.index + n, s.mark.line, s.mark.column + n⟩ }

/-- Passes a line break. -/
def passBreak (s : Cursor) : Cursor :=
  let n := if s.peek 0 == '\r' && s.peek 1 == '\n' then 2 else 1
  { s with
    rest := s.rest.drop n
    mark := ⟨s.mark.index + n, s.mark.line + 1, 0⟩
    atLineStart := true }

def insertToken (s : Cursor) (number : Nat) (t : Token) (column : Nat) : Cursor :=
  { s with tokens := s.tokens.extract 0 number ++ #[(t, column)] ++ s.tokens.extract number }

end Cursor

namespace Scan

def peek (n : Nat := 0) : Scan Char := return (← get).peek n

def column : Scan Nat := return (← get).mark.column

/-- An upper bound on the number of steps that the rest of the text admits. -/
def bound : Scan Nat := return (← get).rest.length + 2

def inFlow : Scan Bool := return (← get).depth > 0

/-- Passes blanks. -/
def skipBlanks (n : Nat) : Scan Unit := modify (·.pass n)

/-- Passes characters that are not blank. -/
def skip (n : Nat := 1) : Scan Unit := modify fun s => { s.pass n with atLineStart := false }

def skipBreak : Scan Unit := modify Cursor.passBreak

/-- Passes the characters in front that satisfy a condition, and yields them. -/
def takeWhile (p : Char → Bool) : Scan (List Char) := do
  let run := (← get).rest.takeWhile p
  unless run.isEmpty do skip run.length
  return run

def skipComment : Scan Unit := do
  let _ ← takeWhile (!isBreakOrEnd ·)

def push (t : Token) (column : Nat) : Scan Unit :=
  modify fun s => { s with tokens := s.tokens.push (t, column) }

def allowKey (b : Bool) : Scan Unit := modify fun s => { s with keyAllowed := b }

/-- Passes blanks and a comment up to the end of the line, and tells whether there were
tabs and whether there were spaces. A comment must stand off. -/
def skipToLineEnd (tabs : Bool) : Scan (Bool × Bool) := do
  let run := (← get).rest.takeWhile fun c => c == ' ' || (tabs && c == '\t')
  skipBlanks run.length
  if (← peek) == '#' then
    guard !run.isEmpty
    skipComment
  return (run.contains '\t', run.contains ' ')

/-- Passes everything up to the next token. Tabs may not indent what stands in a block. -/
def skipToToken : Nat → Scan Unit
  | 0 => failure
  | n + 1 => do
    let s ← get
    match ← peek with
    | '\t' =>
      if !s.outer.isEmpty && s.atLineStart && (s.mark.column : Int) < s.indent then
        let _ ← skipToLineEnd true
        guard (isBreakOrEnd (← peek))
      else skipBlanks 1
      skipToToken n
    | ' ' => skipBlanks 1; skipToToken n
    | '\n' | '\r' =>
      skipBreak
      if s.depth = 0 then allowKey true
      skipToToken n
    | '#' => skipComment; skipToToken n
    | _ => return

/-- Passes spaces, line breaks and comments, and tells whether there were spaces or line
breaks. -/
def skipWhitespace (seen : Bool) : Nat → Scan Bool
  | 0 => failure
  | n + 1 => do
    match ← peek with
    | ' ' => skipBlanks 1; skipWhitespace true n
    | '\n' | '\r' =>
      skipBreak
      if !(← inFlow) then allowKey true
      skipWhitespace true n
    | '#' => skipComment; skipWhitespace seen n
    | _ => return seen

end Scan

end AdTemplates.Yaml
