/-! Tokens of a template line. A placeholder is one of four spellings; every other
opening bracket is a token of its own, and what lies between brackets is plain text.
The slices of the tokens, put together, are the line. -/
namespace AdTemplates.Template

/-- How a placeholder inserts the keyword. -/
inductive Casing where
  | asIs
  | capitalized
  deriving DecidableEq, Repr

/-- A placeholder: what it inserts, and whether it is spelled out as a word. -/
structure Placeholder where
  casing : Casing
  spelledOut : Bool
  deriving DecidableEq, Repr

/-- The text that a placeholder is written with. -/
def Placeholder.spelling : Placeholder → List Char
  | ⟨.asIs, false⟩ => ['[', 'k', ']']
  | ⟨.asIs, true⟩ => ['[', 'k', 'e', 'y', ']']
  | ⟨.capitalized, false⟩ => ['[', 'K', ']']
  | ⟨.capitalized, true⟩ => ['[', 'K', 'e', 'y', ']']

inductive Token where
  | placeholder (p : Placeholder)
  | openBracket
  | text (run : List Char)
  deriving DecidableEq, Repr

namespace Token

/-- The part of the line that a token covers. -/
def slice : Token → List Char
  | .placeholder p => p.spelling
  | .openBracket => ['[']
  | .text run => run

/-- Puts a plain character in front of the tokens of a line. -/
def consText (c : Char) : List Token → List Token
  | .text run :: more => .text (c :: run) :: more
  | more => .text [c] :: more

/-- The tokens of a line. A placeholder wins over the bracket that it begins with. -/
def scan : List Char → List Token
  | [] => []
  | '[' :: 'k' :: ']' :: rest => .placeholder ⟨.asIs, false⟩ :: scan rest
  | '[' :: 'k' :: 'e' :: 'y' :: ']' :: rest => .placeholder ⟨.asIs, true⟩ :: scan rest
  | '[' :: 'K' :: ']' :: rest => .placeholder ⟨.capitalized, false⟩ :: scan rest
  | '[' :: 'K' :: 'e' :: 'y' :: ']' :: rest => .placeholder ⟨.capitalized, true⟩ :: scan rest
  | '[' :: rest => .openBracket :: scan rest
  | c :: rest => consText c (scan rest)

/-- The number of bytes that a text takes in UTF-8. -/
def byteLength (cs : List Char) : Nat := cs.foldr (fun c n => c.utf8Size + n) 0

/-- A token with the byte offsets of its first byte and of the byte after it. -/
structure Span where
  token : Token
  start : Nat
  stop : Nat
  deriving DecidableEq, Repr

/-- The places of consecutive tokens, the first of which begins at byte `start`. -/
def spansFrom (start : Nat) : List Token → List Span
  | [] => []
  | t :: more =>
    let stop := start + byteLength t.slice
    ⟨t, start, stop⟩ :: spansFrom stop more

/-- The tokens of a line with their places in it. -/
def spans (source : String) : List Span := spansFrom 0 (scan source.toList)

end Token
end AdTemplates.Template
