import AdTemplates.Yaml.Node.Basic
import AdTemplates.Yaml.Token.Stream

/-! Nodes read from tokens, one construct of the syntax after another, with anchors and tags
resolved. Reading yields nothing for tokens that do not form documents. -/
namespace AdTemplates.Yaml

/-- Tokens to be read, and what is known in the current document. -/
structure Reader where
  tokens : List Token
  /-- The number that an anchor stands for; the last one of a name comes first. -/
  anchors : List (String × Nat) := []
  nextAnchor : Nat := 1
  /-- Nodes that are complete, by the number of their anchor. -/
  anchored : List (Nat × Node) := []
  /-- What tag handles expand to. -/
  handles : List (String × String) := []

abbrev Read := StateT Reader Option

namespace Read

def peek : Read Token := return (← get).tokens.head?.getD .streamEnd

def skip : Read Unit := modify fun r => { r with tokens := r.tokens.tail }

/-- An upper bound on the depth of reading that the tokens admit. -/
def bound : Read Nat := return 8 * (← get).tokens.length + 8

/-! ### Properties -/

def resolveTag (handle suffix : String) : Read Tag := do
  let handles := (← get).handles
  if handle = "!!" then
    return ⟨(handles.lookup "!!").getD "tag:yaml.org,2002:", suffix⟩
  else if handle = "" ∧ suffix = "!" then return ⟨(handles.lookup "").getD "", suffix⟩
  else match handles.lookup handle with
    | some expansion => return ⟨expansion, suffix⟩
    | none =>
      guard !(2 ≤ handle.length && handle.startsWith "!" && handle.endsWith "!")
      return ⟨handle, suffix⟩

def registerAnchor (name : String) : Read Nat := do
  let r ← get
  set { r with anchors := (name, r.nextAnchor) :: r.anchors, nextAnchor := r.nextAnchor + 1 }
  return r.nextAnchor

def anchor? : Read (Option Nat) := do
  match ← peek with
  | .anchor name =>
    skip
    return some (← registerAnchor name)
  | _ => return none

def tag? : Read (Option Tag) := do
  match ← peek with
  | .tag handle suffix =>
    skip
    return some (← resolveTag handle suffix)
  | _ => return none

/-- The anchor and the tag in front of a node, in either order. -/
def properties : Read (Option Nat × Option Tag) := do
  match ← anchor? with
  | some anchor => return (some anchor, ← tag?)
  | none =>
    let tag ← tag?
    match tag with
    | some _ => return (← anchor?, tag)
    | none => return (none, none)

/-- Makes a node known under its anchor. -/
def complete (anchor : Option Nat) (node : Node) : Read Node := do
  match anchor with
  | some n => modify fun r => { r with anchored := (n, node) :: r.anchored }
  | none => pure ()
  return node

/-- What an alias stands for. A node that contains the alias is not complete. -/
def resolveAlias (name : String) : Read Node := do
  let r ← get
  let some n := r.anchors.lookup name | failure
  return (r.anchored.lookup n).getD .invalid

/-! ### Nodes -/

/-- Whether a node is left out in front of a token of a block mapping. -/
def endsBlockPart : Token → Bool
  | .key | .value | .blockEnd => true
  | _ => false

/-- Whether a node is left out in front of a token of a flow mapping. -/
def endsFlowPart : Token → Bool
  | .flowEntry | .flowMappingEnd => true
  | _ => false

/-- Whether a node is left out in front of a token of a flow sequence. -/
def endsFlowItem : Token → Bool
  | .flowEntry | .flowSequenceEnd => true
  | _ => false

/-- A comma in front of every item of a flow collection but the first. -/
def comma (first : Bool) : Read Unit := do
  unless first do
    guard ((← peek) == .flowEntry)
    skip

mutual
/-- A node. `block` admits block collections, and `indentless` a sequence whose entries are
not indented. -/
def node (block indentless : Bool) : Nat → Read Node
  | 0 => failure
  | n + 1 => do
    match ← peek with
    | .alias name =>
      skip
      resolveAlias name
    | _ =>
      let (anchor, tag) ← properties
      complete anchor (← content block indentless (anchor.isSome || tag.isSome) tag n)

/-- What follows the properties of a node. With properties it may be left out. -/
def content (block indentless optional : Bool) (tag : Option Tag) : Nat → Read Node
  | 0 => failure
  | n + 1 => do
    match ← peek with
    | .scalar plain text =>
      skip
      return .ofScalar plain text tag
    | .flowSequenceStart =>
      skip
      return .sequence (← flowItems true n)
    | .flowMappingStart =>
      skip
      Node.ofPairs? (← flowPairs true n)
    | .blockSequenceStart =>
      guard (block || optional)
      if block then
        skip
        return .sequence (← blockItems n)
      else return .ofScalar true "" tag
    | .blockMappingStart =>
      guard (block || optional)
      if block then
        skip
        Node.ofPairs? (← blockPairs n)
      else return .ofScalar true "" tag
    | .blockEntry =>
      guard (indentless || optional)
      if indentless then return .sequence (← indentlessItems n)
      else return .ofScalar true "" tag
    | _ =>
      guard optional
      return .ofScalar true "" tag

/-- A node, or nothing in front of a token that ends its place. -/
def nodeUnless (ends : Token → Bool) (block indentless : Bool) : Nat → Read Node
  | 0 => failure
  | n + 1 => do
    if ends (← peek) then return .null else node block indentless n

/-- A node behind the value indicator, or nothing without one. -/
def valueUnless (ends : Token → Bool) (block : Bool) : Nat → Read Node
  | 0 => failure
  | n + 1 => do
    if (← peek) == .value then
      skip
      nodeUnless ends block block n
    else return .null

/-- Items of a block sequence up to its end. -/
def blockItems : Nat → Read (List Node)
  | 0 => failure
  | n + 1 => do
    match ← peek with
    | .blockEnd =>
      skip
      return []
    | .blockEntry =>
      skip
      let item ← nodeUnless (fun t => t == .blockEntry || t == .blockEnd) true false n
      return item :: (← blockItems n)
    | _ => failure

/-- Items of a sequence that is not indented. It ends in front of any other token. -/
def indentlessItems : Nat → Read (List Node)
  | 0 => failure
  | n + 1 => do
    if (← peek) == .blockEntry then
      skip
      let item ← nodeUnless (fun t => t == .blockEntry || endsBlockPart t) true false n
      return item :: (← indentlessItems n)
    else return []

/-- Keys and values of a block mapping, in turn, up to its end. -/
def blockPairs : Nat → Read (List Node)
  | 0 => failure
  | n + 1 => do
    match ← peek with
    | .blockEnd =>
      skip
      return []
    | .key =>
      skip
      let key ← nodeUnless endsBlockPart true true n
      let value ← valueUnless endsBlockPart true n
      return key :: value :: (← blockPairs n)
    | .value =>
      let value ← valueUnless endsBlockPart true n
      return .null :: value :: (← blockPairs n)
    | _ => failure

/-- Items of a flow sequence up to its end. An item may be a mapping of a single pair. -/
def flowItems (first : Bool) : Nat → Read (List Node)
  | 0 => failure
  | n + 1 => do
    if (← peek) == .flowSequenceEnd then
      skip
      return []
    comma first
    match ← peek with
    | .flowSequenceEnd =>
      skip
      return []
    | .key =>
      skip
      let pair ← singlePair n
      return pair :: (← flowItems false n)
    | _ =>
      let item ← node false false n
      return item :: (← flowItems false n)

/-- A key and its value in a flow sequence. -/
def singlePair : Nat → Read Node
  | 0 => failure
  | n + 1 => do
    let t ← peek
    let key ←
      if t == .value || endsFlowItem t then do
        skip
        pure .null
      else node false false n
    let value ← valueUnless endsFlowItem false n
    Node.ofPairs? [key, value]

/-- Keys and values of a flow mapping, in turn, up to its end. -/
def flowPairs (first : Bool) : Nat → Read (List Node)
  | 0 => failure
  | n + 1 => do
    if (← peek) == .flowMappingEnd then
      skip
      return []
    comma first
    match ← peek with
    | .flowMappingEnd =>
      skip
      return []
    | .key =>
      skip
      let key ← nodeUnless (fun t => t == .value || endsFlowPart t) false false n
      let value ← valueUnless endsFlowPart false n
      return key :: value :: (← flowPairs false n)
    | .value =>
      let value ← valueUnless endsFlowPart false n
      return .null :: value :: (← flowPairs false n)
    | _ =>
      let key ← node false false n
      return key :: .null :: (← flowPairs false n)
end

/-! ### Documents -/

def isDirective : Token → Bool
  | .versionDirective | .tagDirective _ _ => true
  | _ => false

/-- Passes directives. Each one replaces the tag handles that are known; the version may be
given once. -/
def directives (versionSeen : Bool) : Nat → Read Unit
  | 0 => failure
  | n + 1 => do
    match ← peek with
    | .versionDirective =>
      guard !versionSeen
      modify fun r => { r with handles := [] }
      skip
      directives true n
    | .tagDirective handle expansion =>
      modify fun r => { r with handles := [(handle, expansion)] }
      skip
      directives versionSeen n
    | _ => return

def skipDocumentEnds : Nat → Read Unit
  | 0 => failure
  | n + 1 => do
    if (← peek) == .documentEnd then
      skip
      skipDocumentEnds n

/-- The content of a document behind its start marker, or nothing. -/
def documentContent : Read Node := do
  let t ← peek
  if isDirective t || t == .documentStart || t == .documentEnd || t == .streamEnd then return .null
  else node true false (← bound)

/-- A document, with directives and a start marker or bare. Anchors belong to one document. -/
def document (bare : Bool) : Read Node := do
  modify fun r => { r with anchors := [] }
  let t ← peek
  if bare && !isDirective t && t != .documentStart then node true false (← bound)
  else
    directives false (← bound)
    guard ((← peek) == .documentStart)
    skip
    documentContent

/-- The documents up to the end of the stream. Only the first one and one behind an end
marker may be bare or have directives. -/
def documents (bare : Bool) : Nat → Read (List Node)
  | 0 => failure
  | n + 1 => do
    skipDocumentEnds (← bound)
    if (← peek) == .streamEnd then return []
    let root ← document bare
    modify fun r => { r with handles := [] }
    let closed := (← peek) == .documentEnd
    if closed then skip else guard !isDirective (← peek)
    return root :: (← documents closed n)

end Read

/-- The documents of a YAML text, if it is well formed. -/
def Node.read? (text : String) : Option (List Node) := do
  let tokens ← Token.scan? text.toList
  let (documents, _) ← (Read.documents true (tokens.length + 1)).run { tokens }
  return documents

end AdTemplates.Yaml
