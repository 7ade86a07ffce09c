import AdTemplates.Yaml.Token.Cursor

/-! Indentation and keys. A block collection lasts as long as its lines begin at its column or
to the right of it. A key is told only by the value indicator behind it, so the places where
one may have begun are remembered. -/
namespace AdTemplates.Yaml.Scan

/-- Leaves indentations to the right of a column. -/
def leaveBlocks (column : Int) : Scan Unit := do
  if ← inFlow then return
  let s ← get
  let left := s.outer.length
  go column left
where
  go (column : Int) : Nat → Scan Unit
    | 0 => return
    | n + 1 => do
      let s ← get
      if s.indent ≤ column then return
      match s.outer with
      | [] => return
      | top :: more =>
        set { s with outer := more, indent := top.column }
        if top.isBlock then push .blockEnd s.mark.column
        go column n

/-- Enters an indentation at which a block collection begins. Its token goes to the given
place, or to the end. -/
def enterBlock (column : Nat) (number : Option Nat) (t : Token) : Scan Unit := do
  if ← inFlow then return
  let s ← get
  if s.indent ≤ column then
    match s.outer with
    | top :: more =>
      unless top.isBlock do set { s with outer := more, indent := top.column }
    | [] => pure ()
  let s ← get
  if s.indent < column then
    set { s with outer := ⟨s.indent, true⟩ :: s.outer, indent := column }
    match number with
    | some n => modify (·.insertToken n t column)
    | none => push t column

/-- Demands one more column of indentation inside a block collection. -/
def demandColumn : Scan Unit := do
  let s ← get
  match s.outer with
  | top :: _ =>
    if s.depth = 0 && top.isBlock then
      set { s with outer := ⟨s.indent, false⟩ :: s.outer, indent := s.indent + 1 }
  | [] => return

/-- Takes back what `demandColumn` demanded. -/
def releaseColumns : Scan Unit := modify fun s =>
  match s.outer.dropWhile (!·.isBlock), (s.outer.takeWhile (!·.isBlock)).getLast? with
  | kept, some last => { s with outer := kept, indent := last.column }
  | _, none => s

/-- Forgets keys that can no longer be on the current line. -/
def expireKeys : Scan Unit := do
  let s ← get
  let stale (k : KeyCandidate) : Bool :=
    k.possible && s.depth = 0 &&
      (k.mark.line < s.mark.line || k.mark.index + 1024 < s.mark.index)
  guard !(s.candidates.any fun k => stale k && k.required)
  set { s with
    candidates := s.candidates.map fun k => if stale k then { k with possible := false } else k }

/-- Remembers that a key may begin here. -/
def rememberKey : Scan Unit := modify fun s =>
  if s.keyAllowed then
    let required := s.depth = 0 && s.indent == s.mark.column &&
      (match s.outer with
        | top :: _ => top.isBlock
        | [] => false)
    { s with candidates := ⟨true, required, s.tokens.size, s.mark⟩ :: s.candidates.tail }
  else s

/-- Forgets that a key may have begun at this level. -/
def forgetKey : Scan Unit := do
  let s ← get
  match s.candidates with
  | [] => return
  | k :: more =>
    guard !(k.possible && k.required)
    set { s with candidates := { k with possible := false } :: more }

/-- Ends a mapping of a single pair inside a flow sequence. -/
def endSinglePair : Scan Unit := do
  let s ← get
  if s.inSinglePair then
    set { s with inSinglePair := false, inFlowMapping := false }
    push .flowMappingEnd s.mark.column

end AdTemplates.Yaml.Scan
