import AdTemplates.Template.Basic

/-! Sections of a document. A section begins at its marker, which is a whole line. -/
namespace AdTemplates

inductive Section where
  | keywords
  | titles
  | texts
  deriving DecidableEq, Repr

namespace Section

/-- The line that opens a section. -/
def marker : Section → String
  | .keywords => "[Ключи]"
  | .titles => "[Заголовки]"
  | .texts => "[Тексты]"

def name : Section → String
  | .keywords => "keywords"
  | .titles => "titles"
  | .texts => "texts"

/-- The section that a trimmed line opens, if it is a marker. -/
def ofMarker? (line : String) : Option Section :=
  if line = marker .keywords then some .keywords
  else if line = marker .titles then some .titles
  else if line = marker .texts then some .texts
  else none

/-- Whether a line is a single pair of brackets around a text without brackets. -/
def isBracketed : List Char → Bool
  | '[' :: rest =>
    rest.getLast? == some ']' && !rest.dropLast.isEmpty &&
      rest.dropLast.all fun c => c != '[' && c != ']'
  | _ => false

/-- Whether a trimmed line has the shape of a marker. A line that is nothing but a
placeholder is a template and has not. -/
def looksLikeMarker (line : String) : Bool :=
  isBracketed line.toList && !(Template.parse line).hasPlaceholders

end Section
end AdTemplates
