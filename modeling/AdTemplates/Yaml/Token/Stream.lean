import AdTemplates.Yaml.Token.FlowText
import AdTemplates.Yaml.Token.Indicator

/-! The tokens of a whole text. -/
namespace AdTemplates.Yaml

namespace Scan

/-- Scans the next token, and tells whether there may be more. -/
def scanToken : Scan Bool := do
  skipToToken (← bound)
  expireKeys
  leaveBlocks (← column)
  let s ← get
  if s.rest.isEmpty then
    scanStreamEnd
    return false
  let c ← peek
  let next ← peek 1
  let flow := s.depth > 0
  if s.mark.column = 0 && c == '%' then scanDirective
  else if s.mark.column = 0 && (← atMarker '-') then scanDocumentMarker .documentStart
  else if s.mark.column = 0 && (← atMarker '.') then
    scanDocumentMarker .documentEnd
    let _ ← skipToLineEnd true
    guard (isBreakOrEnd (← peek))
  else
    guard (s.indent ≤ s.mark.column)
    if c == '[' then scanFlowStart .flowSequenceStart
    else if c == '\x7b' then scanFlowStart .flowMappingStart
    else if c == ']' then scanFlowEnd .flowSequenceEnd
    else if c == '\x7d' then scanFlowEnd .flowMappingEnd
    else if c == ',' then scanFlowEntry
    else if c == '-' && isBlankOrEnd next then scanBlockEntry
    else if c == '?' && isBlankOrEnd next then scanKey
    else if c == ':' && (isBlankOrEnd next ||
        (flow && (isFlow next || s.mark.index = s.valueMayTouchAt))) then scanValue
    else if c == '*' then scanReference .alias
    else if c == '&' then scanReference .anchor
    else if c == '!' then scanTag
    else if c == '|' && !flow then scanBlockScalar true
    else if c == '>' && !flow then scanBlockScalar false
    else if c == '\'' then scanQuotedScalar true
    else if c == '"' then scanQuotedScalar false
    else
      guard !(c == '%' || c == '@' || c == '\x60')
      scanPlainScalar
  return true

def scanAll : Nat → Scan Unit
  | 0 => failure
  | n + 1 => do
    if ← scanToken then scanAll n

end Scan

/-- The tokens of a text, if it is well formed. -/
def Token.scan? (text : List Char) : Option (List Token) := do
  let s := Cursor.start text
  let (_, s) ← (Scan.scanAll (s.rest.length + 2)).run s
  return s.tokens.toList.map (·.1)

end AdTemplates.Yaml
