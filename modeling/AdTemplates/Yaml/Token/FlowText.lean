import AdTemplates.Yaml.Token.BlockText

/-! Quoted and plain scalars. A line break between two runs of characters becomes a blank, and
empty lines become line breaks. -/
namespace AdTemplates.Yaml.Scan

/-- The white space between two runs of a scalar. -/
structure Gap where
  blanks : List Char := []
  lineBreak : List Char := []
  emptyLines : List Char := []

/-- What folding makes of a gap that holds a line break. -/
def Gap.folded (g : Gap) : List Char :=
  if g.lineBreak.isEmpty then g.emptyLines
  else if g.emptyLines.isEmpty then [' ']
  else g.emptyLines

/-- An escape sequence between double quotes. -/
def escape : Scan Char := do
  let numeric (digits : Nat) : Scan Char := do
    skip 2
    let s ← get
    let cs := (List.range digits).map s.peek
    let some code := hexadecimal? cs | failure
    skip digits
    if h : code.isValidChar then return Char.ofNatAux code h else failure
  let plain (c : Char) : Scan Char := do
    skip 2
    return c
  match ← peek 1 with
  | '0' => plain '\x00'
  | 'a' => plain '\x07'
  | 'b' => plain '\x08'
  | 't' => plain '\t'
  | '\t' => plain '\t'
  | 'n' => plain '\n'
  | 'v' => plain '\x0b'
  | 'f' => plain '\x0c'
  | 'r' => plain '\r'
  | 'e' => plain '\x1b'
  | ' ' => plain ' '
  | '"' => plain '"'
  | '/' => plain '/'
  | '\\' => plain '\\'
  | 'N' => plain '\u0085'
  | '_' => plain '\u00a0'
  | 'L' => plain '\u2028'
  | 'P' => plain '\u2029'
  | 'x' => numeric 2
  | 'u' => numeric 4
  | 'U' => numeric 8
  | _ => failure

/-- Characters of a quoted scalar up to a blank or the closing quote, and whether they
end with an escaped line break. -/
def quotedRun (single : Bool) : Nat → Scan (List Char × Bool)
  | 0 => failure
  | n + 1 => do
    let c ← peek
    let next ← peek 1
    if isBlankOrEnd c then return ([], false)
    else if single && c == '\'' then
      if next == '\'' then
        skip 2
        let (more, broken) ← quotedRun single n
        return ('\'' :: more, broken)
      else return ([], false)
    else if !single && c == '"' then return ([], false)
    else if !single && c == '\\' then
      if isBreak next then
        skip
        skipBreak
        return ([], true)
      let e ← escape
      let (more, broken) ← quotedRun single n
      return (e :: more, broken)
    else
      skip
      let (more, broken) ← quotedRun single n
      return (c :: more, broken)

/-- Passes the white space after a run of a quoted scalar. -/
def quotedGap (onNewLine : Bool) (g : Gap) : Nat → Scan (Bool × Gap)
  | 0 => failure
  | n + 1 => do
    let s ← get
    let c ← peek
    if isSpaceOrTab c then
      if onNewLine then
        guard !(c == '\t' && (s.mark.column : Int) < s.indent)
        skipBlanks 1
        quotedGap true g n
      else
        skipBlanks 1
        quotedGap false { g with blanks := g.blanks ++ [c] } n
    else if isBreak c then
      let b ← readBreak
      if onNewLine then quotedGap true { g with emptyLines := g.emptyLines ++ b } n
      else quotedGap true { g with blanks := [], lineBreak := b } n
    else return (onNewLine, g)

def quotedText (single : Bool) : Nat → Scan (List Char)
  | 0 => failure
  | n + 1 => do
    let s ← get
    guard !(s.mark.column = 0 && (← atDocumentMarker))
    guard !s.rest.isEmpty
    guard (s.indent ≤ s.mark.column)
    let (run, broken) ← quotedRun single (← bound)
    if (← peek) == (if single then '\'' else '"') then return run
    let (onNewLine, gap) ← quotedGap broken {} (← bound)
    let joint := if onNewLine then gap.folded else gap.blanks
    return run ++ joint ++ (← quotedText single n)

def scanQuotedScalar (single : Bool) : Scan Unit := do
  rememberKey
  allowKey false
  let start ← get
  skip
  let text ← quotedText single (← bound)
  skip
  let _ ← skipToLineEnd true
  let c ← peek
  let s ← get
  let flow := s.depth > 0
  guard (isBreakOrEnd c || (flow && (c == ',' || c == '\x7d' || c == ']')) ||
    (c == ':' && (flow || start.mark.line = s.mark.line)))
  skipToToken (← bound)
  modify fun s => { s with valueMayTouchAt := s.mark.index }
  push (.scalar false (String.ofList text)) start.mark.column

/-- Whether the current character can belong to a plain scalar. -/
def atPlainChar : Scan Bool := do
  let c ← peek
  let next ← peek 1
  let flow ← inFlow
  if isBlankOrEnd c then return false
  if c == ':' && (isBlankOrEnd next || (flow && isFlow next)) then return false
  return !(flow && isFlow c)

def plainRun : Nat → Scan (List Char)
  | 0 => return []
  | n + 1 => do
    if !(← atPlainChar) then return []
    let c ← peek
    skip
    return c :: (← plainRun n)

/-- Passes the white space after a run of a plain scalar. -/
def plainGap (indent : Int) (g : Gap) : Nat → Scan Gap
  | 0 => failure
  | n + 1 => do
    let s ← get
    let c ← peek
    if isSpaceOrTab c then
      if !s.atLineStart then
        skipBlanks 1
        plainGap indent { g with blanks := g.blanks ++ [c] } n
      else if c == '\t' && (s.mark.column : Int) < indent then
        let _ ← skipToLineEnd true
        guard (isBreakOrEnd (← peek))
        plainGap indent g n
      else
        skipBlanks 1
        plainGap indent g n
    else if isBreak c then
      let b ← readBreak
      if s.atLineStart then
        plainGap indent { g with emptyLines := g.emptyLines ++ b } n
      else plainGap indent { g with blanks := [], lineBreak := b } n
    else return g

/-- Reads a plain scalar from a run on, which the gap separates from what came before. -/
def plainText (indent : Int) (g : Gap) : Nat → Scan (List Char)
  | 0 => failure
  | n + 1 => do
    let s ← get
    let flow := s.depth > 0
    if s.mark.column = 0 && (← atDocumentMarker) then return []
    if (← peek) == '#' then return []
    guard !(flow && (← peek) == '-' && isFlow (← peek 1))
    let (text, g) ←
      if ← atPlainChar then do
        let joint := if s.atLineStart then g.folded else g.blanks
        let run ← plainRun (← bound)
        pure (joint ++ run, {})
      else pure ([], g)
    if !(isSpaceOrTab (← peek) || isBreak (← peek)) then return text
    let g ← plainGap indent g (← bound)
    if !flow && ((← column : Nat) : Int) < indent then return text
    return text ++ (← plainText indent g n)

def scanPlainScalar : Scan Unit := do
  rememberKey
  allowKey false
  releaseColumns
  let s ← get
  let indent := s.indent + 1
  guard !(s.depth > 0 && (s.mark.column : Int) < indent)
  let text ← plainText indent {} (← bound)
  guard !text.isEmpty
  if (← get).atLineStart then allowKey true
  push (.scalar true (String.ofList text)) s.mark.column

end AdTemplates.Yaml.Scan
