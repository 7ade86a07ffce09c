import AdTemplates.Yaml.Token.Directive

/-! Block scalars, literal and folded. -/
namespace AdTemplates.Yaml.Scan

/-- What becomes of the line breaks at the end of a block scalar. -/
inductive Chomping where
  | strip
  | clip
  | keep
  deriving DecidableEq

/-- Passes a line break and yields it as a line feed. -/
def readBreak : Scan (List Char) := do
  skipBreak
  return ['\n']

/-- Passes empty lines and the indentation of the next line. -/
def skipIndentation (indent : Nat) : Nat → Scan (List Char)
  | 0 => failure
  | n + 1 => do
    let s ← get
    let spaces := (s.rest.takeWhile (· == ' ')).length
    skipBlanks (min spaces (indent - s.mark.column))
    if isBreak (← peek) then
      let b ← readBreak
      return b ++ (← skipIndentation indent n)
    return []

/-- Passes empty lines and finds the indentation of the first line that is not. -/
def findIndentation (widest : Nat) : Nat → Scan (Nat × List Char)
  | 0 => failure
  | n + 1 => do
    let s ← get
    skipBlanks (s.rest.takeWhile (· == ' ')).length
    let widest := max widest (← column)
    if isBreak (← peek) then
      let b ← readBreak
      let (found, breaks) ← findIndentation widest n
      return (found, b ++ breaks)
    return (widest, [])

/-- The content of a block scalar while its lines are read. -/
structure BlockText where
  text : List Char := []
  lineBreak : List Char := []
  emptyLines : List Char := []
  moreIndented : Bool := false

/-- Reads the lines of a block scalar. Folding joins two lines that begin with a
character other than a blank. -/
def blockLines (literal : Bool) (indent : Nat) (b : BlockText) : Nat → Scan BlockText
  | 0 => failure
  | n + 1 => do
    let s ← get
    if s.mark.column ≠ indent || s.rest.isEmpty then return b
    if indent = 0 && (← atMarker '.') then return b
    let blank := isSpaceOrTab (← peek)
    let joint :=
      if !literal && !b.lineBreak.isEmpty && !b.moreIndented && !blank then
        if b.emptyLines.isEmpty then [' '] else b.emptyLines
      else b.lineBreak ++ b.emptyLines
    let line ← takeWhile (!isBreakOrEnd ·)
    let text := b.text ++ joint ++ line
    if (← get).rest.isEmpty then return ⟨text, [], [], blank⟩
    let lineBreak ← readBreak
    let emptyLines ← skipIndentation indent (← bound)
    blockLines literal indent ⟨text, lineBreak, emptyLines, blank⟩ n

/-- The header of a block scalar: how to chomp, and the indentation if it is given. -/
def blockHeader : Scan (Chomping × Nat) := do
  let chomping (c : Char) : Option Chomping :=
    if c == '+' then some .keep else if c == '-' then some .strip else none
  let indicator : Scan Nat := do
    let c ← peek
    if c.isDigit then
      guard (c != '0')
      skip
      return c.toNat - '0'.toNat
    return 0
  match chomping (← peek) with
  | some how =>
    skip
    return (how, ← indicator)
  | none =>
    let n ← indicator
    if 0 < n then
      match chomping (← peek) with
      | some how =>
        skip
        return (how, n)
      | none => return (.clip, n)
    return (.clip, 0)

def blockScalar (literal : Bool) : Scan (List Char) := do
  let start ← get
  skip
  releaseColumns
  let (chomping, indicator) ← blockHeader
  let _ ← skipToLineEnd true
  guard (isBreakOrEnd (← peek))
  let firstBreak ← if isBreak (← peek) then readBreak else pure []
  guard ((← peek) != '\t')
  let outer := (← get).indent
  let (indent, breaks) ←
    if 0 < indicator then do
      let indent := (if 0 ≤ outer then outer + indicator else indicator).toNat
      pure (indent, ← skipIndentation indent (← bound))
    else do
      let (widest, breaks) ← findIndentation 0 (← bound)
      let indent := max widest (outer + 1).toNat
      pure (if 0 < outer then max indent 1 else indent, breaks)
  let s ← get
  if s.rest.isEmpty then
    return match chomping with
      | .strip => []
      | _ =>
        if s.mark.line = start.mark.line then []
        else if chomping = .clip || breaks.isEmpty then firstBreak
        else breaks
  guard !(s.mark.column < indent && outer < s.mark.column)
  let b ← blockLines literal indent ⟨[], [], breaks, false⟩ (← bound)
  let s ← get
  let closing :=
    if chomping = .strip then []
    else b.lineBreak ++
      (if s.rest.isEmpty && max indent 1 ≤ s.mark.column then ['\n'] else [])
  return b.text ++ closing ++ (if chomping = .keep then b.emptyLines else [])

def scanBlockScalar (literal : Bool) : Scan Unit := do
  rememberKey
  allowKey true
  let start ← column
  let text ← blockScalar literal
  push (.scalar false (String.ofList text)) start

end AdTemplates.Yaml.Scan
