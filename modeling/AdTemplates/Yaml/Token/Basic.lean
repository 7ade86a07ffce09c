/-! Tokens of a YAML stream, and the characters that its syntax gives a meaning to. -/
namespace AdTemplates.Yaml

inductive Token where
  | streamEnd
  | versionDirective
  | tagDirective (handle expansion : String)
  | documentStart
  | documentEnd
  | blockSequenceStart
  | blockMappingStart
  | blockEnd
  | flowSequenceStart
  | flowSequenceEnd
  | flowMappingStart
  | flowMappingEnd
  | blockEntry
  | flowEntry
  | key
  | value
  | alias (name : String)
  | anchor (name : String)
  | tag (handle suffix : String)
  | scalar (plain : Bool) (text : String)
  deriving DecidableEq, Repr

/-- Stands for the end of the text, also when it occurs in it. -/
def endMark : Char := '\x00'

def isBreak (c : Char) : Bool := c == '\n' || c == '\r'

def isBreakOrEnd (c : Char) : Bool := isBreak c || c == endMark

def isSpaceOrTab (c : Char) : Bool := c == ' ' || c == '\t'

def isBlankOrEnd (c : Char) : Bool := isSpaceOrTab c || isBreakOrEnd c

/-- An indicator of flow collections. -/
def isFlow (c : Char) : Bool := c == ',' || c == '[' || c == ']' || c == '\x7b' || c == '\x7d'

/-- A character of a directive's name or a tag handle. -/
def isWord (c : Char) : Bool := c.isAlphanum || c == '_' || c == '-'

def isUri (c : Char) : Bool :=
  (isWord c && c != '_') || "#;/?:@&=+$,_.!~*'()[]%".toList.contains c

def isTagChar (c : Char) : Bool := isUri c && !isFlow c && c != '!'

def isAnchorChar (c : Char) : Bool :=
  !isBreakOrEnd c && c != '\ufeff' && !isSpaceOrTab c && !isFlow c

end AdTemplates.Yaml
