import AdTemplates.Number.Integer
import AdTemplates.Yaml.Token.Nesting

/-! Document markers, directives and tags. -/
namespace AdTemplates.Yaml.Scan

/-- Whether three dots or dashes stand alone at the current place. -/
def atMarker (c : Char) : Scan Bool := do
  return (← peek 0) == c && (← peek 1) == c && (← peek 2) == c && isBlankOrEnd (← peek 3)

def atDocumentMarker : Scan Bool := do
  return (← atMarker '-') || (← atMarker '.')

def scanStreamEnd : Scan Unit := do
  modify fun s =>
    if s.mark.column = 0 then s else { s with mark := ⟨s.mark.index, s.mark.line + 1, 0⟩ }
  let s ← get
  guard !(s.candidates.any fun k => k.required && k.possible)
  set { s with candidates := s.candidates.map fun (k : KeyCandidate) => { k with possible := false } }
  leaveBlocks (-1)
  forgetKey
  allowKey false
  push .streamEnd 0

def scanDocumentMarker (t : Token) : Scan Unit := do
  leaveBlocks (-1)
  forgetKey
  allowKey false
  skip 3
  push t 0

def hexadecimal? (cs : List Char) : Option Nat := Number.digits? 16 cs

/-- A percent-encoded character: its octets, put together byte by byte. -/
def percentEscape : Scan Char := do
  let octet : Scan Nat := do
    guard ((← peek) == '%')
    let some n := hexadecimal? [← peek 1, ← peek 2] | failure
    skip 3
    return n
  let first ← octet
  let more ←
    if first < 0x80 then pure 0
    else if 0xc0 ≤ first && first < 0xe0 then pure 1
    else if 0xe0 ≤ first && first < 0xf0 then pure 2
    else if 0xf0 ≤ first && first < 0xf8 then pure 3
    else failure
  let mut code := first
  for _ in List.range more do
    let next ← octet
    guard (0x80 ≤ next && next < 0xc0)
    code := code * 256 + next
  if h : code.isValidChar then return Char.ofNatAux code h else failure

/-- Characters of a tag or URI, with their escapes resolved. -/
def uriChars (p : Char → Bool) : Nat → Scan (List Char)
  | 0 => return []
  | n + 1 => do
    let c ← peek
    if !p c then return []
    let c ← if c == '%' then percentEscape else do skip; pure c
    return c :: (← uriChars p n)

def readHandle (directive : Bool) : Scan (List Char) := do
  guard ((← peek) == '!')
  skip
  let name ← takeWhile isWord
  if (← peek) == '!' then
    skip
    return '!' :: name ++ ['!']
  guard !(directive && !name.isEmpty)
  return '!' :: name

/-- One to nine digits. -/
def versionNumber : Scan Unit := do
  let digits ← takeWhile Char.isDigit
  guard (0 < digits.length && digits.length ≤ 9)

def scanDirective : Scan Unit := do
  leaveBlocks (-1)
  forgetKey
  allowKey false
  skip
  let name ← takeWhile isWord
  guard (!name.isEmpty && isBlankOrEnd (← peek))
  let blanks : Scan Unit := do
    skipBlanks ((← get).rest.takeWhile isSpaceOrTab).length
  let t ← match String.ofList name with
    | "YAML" => do
      blanks
      versionNumber
      guard ((← peek) == '.')
      skip
      versionNumber
      pure Token.versionDirective
    | "TAG" => do
      blanks
      let handle ← readHandle true
      blanks
      let c ← peek
      guard (c == '!' || isTagChar c)
      let first ← if c == '%' then percentEscape else do skip; pure c
      let expansion := first :: (← uriChars isUri (← bound))
      guard (isBlankOrEnd (← peek))
      pure (Token.tagDirective (String.ofList handle) (String.ofList expansion))
    | _ => do
      skipComment
      pure (Token.tagDirective "" "")
  let _ ← skipToLineEnd true
  guard (isBreakOrEnd (← peek))
  if isBreak (← peek) then skipBreak
  push t 0

def scanTag : Scan Unit := do
  rememberKey
  allowKey false
  let start ← column
  let (handle, suffix) ←
    if (← peek 1) == '<' then do
      skip 2
      let suffix ← uriChars isUri (← bound)
      guard ((← peek) == '>')
      skip
      pure ([], suffix)
    else do
      let handle ← readHandle false
      if 2 ≤ handle.length && handle.getLast? == some '!' then
        let suffix ← uriChars isTagChar (← bound)
        guard !suffix.isEmpty
        pure (handle, suffix)
      else
        let suffix := handle.drop 1 ++ (← uriChars isTagChar (← bound))
        pure (if suffix.isEmpty then ([], ['!']) else (['!'], suffix))
  guard (isBlankOrEnd (← peek) || ((← inFlow) && isFlow (← peek)))
  push (.tag (String.ofList handle) (String.ofList suffix)) start

end AdTemplates.Yaml.Scan
