import AdTemplates.Count
import AdTemplates.Document

/-! Advertisements, the limits on their lengths, and the options of an expansion. -/
namespace AdTemplates

/-- One advertisement, with the keyword that it was made for. -/
structure Record where
  keyword : String
  title : String
  text : String
  deriving DecidableEq, Repr

/-- The greatest lengths of a title and of a text, in characters. -/
structure LengthLimits where
  title : Nat := 35
  text : Nat := 75
  deriving DecidableEq, Repr

/-- Whether neither the title nor the text of an advertisement is too long. -/
def LengthLimits.allows (limits : LengthLimits) (r : Record) : Bool :=
  r.title.length ≤ limits.title && r.text.length ≤ limits.text

/-- Whether advertisements that are too long are left out, and what counts as too long. -/
structure ExpandOptions where
  skipLong : Bool := false
  limits : LengthLimits := {}
  deriving DecidableEq, Repr

/-- Whether an advertisement is kept. -/
def ExpandOptions.keeps (options : ExpandOptions) (r : Record) : Bool :=
  !options.skipLong || options.limits.allows r

/-- How many advertisements a document expands to before any is left out. -/
def Document.combinationCount (d : Document) : Nat :=
  Count.product d.keywords.length d.titles.length d.texts.length

end AdTemplates
