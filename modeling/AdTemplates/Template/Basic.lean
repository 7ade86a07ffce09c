import AdTemplates.Template.Token
import AdTemplates.Text.UpperCase

/-! Templates: lines with placeholders, tokenized once and rendered once per keyword.
Literal segments are as long as they can be, so a line has one list of segments. -/
namespace AdTemplates

namespace Template

inductive Segment where
  | literal (text : String)
  | keyword (casing : Casing)
  deriving DecidableEq, Repr

/-- The segment that a token stands for: placeholders insert the keyword, all else is
literal. -/
def Segment.ofToken : Token → Segment
  | .placeholder p => .keyword p.casing
  | .openBracket => .literal "["
  | .text run => .literal (String.ofList run)

/-- Puts a segment in front of others; a literal grows into the literal after it. -/
def consSegment : Segment → List Segment → List Segment
  | .literal a, .literal b :: more => .literal (a ++ b) :: more
  | segment, more => segment :: more

/-- The segments of a list of tokens. -/
def segmentsOf (tokens : List Token) : List Segment :=
  tokens.foldr (fun t more => consSegment (.ofToken t) more) []

end Template

/-- A line of text with places for a keyword. -/
structure Template where
  segments : List Template.Segment
  deriving DecidableEq, Repr

namespace Template

/-- Reads a template. Every text is one. -/
def parse (source : String) : Template := ⟨segmentsOf (Token.scan source.toList)⟩

/-- Whether any segment inserts the keyword. -/
def hasPlaceholders (t : Template) : Bool :=
  t.segments.any fun
    | .keyword _ => true
    | .literal _ => false

/-- The keyword as a placeholder inserts it. -/
def Casing.apply : Casing → String → String
  | .asIs, keyword => keyword
  | .capitalized, keyword => Text.capitalizeFirst keyword

/-- What a segment contributes for a keyword. -/
def Segment.render (keyword : String) : Segment → String
  | .literal text => text
  | .keyword casing => casing.apply keyword

/-- The text of a template for a keyword. -/
def render (t : Template) (keyword : String) : String :=
  t.segments.foldr (fun segment rest => segment.render keyword ++ rest) ""

end Template

/-- A text with a keyword put into each of its placeholders. -/
def substitute (template keyword : String) : String := (Template.parse template).render keyword

end AdTemplates
