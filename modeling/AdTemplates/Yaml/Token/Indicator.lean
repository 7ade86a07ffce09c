import AdTemplates.Yaml.Token.Nesting

/-! Indicators: brackets, entries, keys, values, anchors and aliases. -/
namespace AdTemplates.Yaml.Scan

def scanFlowStart (t : Token) : Scan Unit := do
  rememberKey
  demandColumn
  let s ← get
  guard (s.depth < 255)
  set { s with
    candidates := ⟨false, false, 0, s.mark⟩ :: s.candidates
    depth := s.depth + 1
    keyAllowed := true
    inFlowMapping := s.inFlowMapping || t == Token.flowMappingStart }
  skip
  let _ ← skipToLineEnd true
  push t s.mark.column

def scanFlowEnd (t : Token) : Scan Unit := do
  forgetKey
  modify fun s =>
    if s.depth = 0 then s
    else { s with depth := s.depth - 1, candidates := s.candidates.tail }
  allowKey false
  endSinglePair
  let start ← column
  skip
  let _ ← skipToLineEnd true
  modify fun s => if s.depth > 0 then { s with valueMayTouchAt := s.mark.index } else s
  push t start

def scanFlowEntry : Scan Unit := do
  forgetKey
  allowKey true
  endSinglePair
  let start ← column
  skip
  let _ ← skipToLineEnd true
  push .flowEntry start

def scanBlockEntry : Scan Unit := do
  let s ← get
  guard (s.depth = 0 && s.keyAllowed)
  match s.tokens.back? with
  | some (.anchor _, 0) | some (.tag _ _, 0) => guard !(s.mark.column = 0 && s.indent > -1)
  | _ => pure ()
  skip
  enterBlock s.mark.column none .blockSequenceStart
  let (tabs, _) ← skipToLineEnd true
  guard !(tabs && (← peek) == '-' && isBlankOrEnd (← peek 1))
  let _ ← skipToLineEnd false
  if isBreak (← peek) || isFlow (← peek) then demandColumn
  forgetKey
  allowKey true
  push .blockEntry (← column)

def scanKey : Scan Unit := do
  let s ← get
  if s.depth = 0 then
    guard s.keyAllowed
    enterBlock s.mark.column none .blockMappingStart
  else set { s with inFlowMapping := true }
  forgetKey
  allowKey (s.depth = 0)
  skip
  guard (← skipWhitespace false (← bound))
  guard ((← peek) != '\t')
  push .key s.mark.column

def scanValue : Scan Unit := do
  let s ← get
  let implicit := s.depth > 0 && !s.inFlowMapping
  set { s with inSinglePair := implicit }
  skip
  if (← peek) == '\t' then
    let (_, spaces) ← skipToLineEnd true
    let c ← peek
    guard (spaces || !(c == '-' || isWord c))
  match s.candidates with
  | [] => failure
  | k :: more =>
    if k.possible then
      modify (·.insertToken k.number .key k.mark.column)
      if implicit then
        guard (s.mark.line ≤ k.mark.line)
        modify (·.insertToken k.number .flowMappingStart k.mark.column)
      enterBlock k.mark.column (some k.number) .blockMappingStart
      demandColumn
      modify fun s => { s with candidates := { k with possible := false } :: more }
      allowKey false
    else
      if implicit then push .flowMappingStart s.mark.column
      if s.depth = 0 then
        guard s.keyAllowed
        enterBlock s.mark.column none .blockMappingStart
      demandColumn
      allowKey (s.depth = 0)
    push .value s.mark.column

def scanReference (make : String → Token) : Scan Unit := do
  rememberKey
  allowKey false
  let start ← column
  skip
  let name ← takeWhile isAnchorChar
  guard !name.isEmpty
  push (make (String.ofList name)) start

end AdTemplates.Yaml.Scan
