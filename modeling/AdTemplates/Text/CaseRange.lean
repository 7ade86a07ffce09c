/-! Tables of character properties and letter pairs, by ranges of code points. -/
namespace AdTemplates.Text

/-- The code points `first`, `first + step`, …, `last`, each paired with the code point
`offset` further on. -/
structure CaseRange where
  first : Nat
  last : Nat
  step : Nat
  offset : Int

namespace CaseRange

/-- The partner of a code point that the range holds. -/
def partner? (r : CaseRange) (n : Nat) : Option Nat :=
  if r.first ≤ n ∧ n ≤ r.last ∧ (n - r.first) % r.step = 0 then some (n + r.offset).toNat else none

end CaseRange

/-- The image of a character under a table of ranges and a table of single characters
whose image is written out; characters in neither are kept. -/
def mapCase (ranges : List CaseRange) (expansions : List (Nat × List Nat)) (c : Char) : List Char :=
  match expansions.lookup c.toNat with
  | some image => image.map Char.ofNat
  | none =>
    match ranges.findSome? (·.partner? c.toNat) with
    | some n => [Char.ofNat n]
    | none => [c]

/-- Whether a code point has a property, given the ascending code points at which the
property begins or ends to hold. -/
def holdsAt (changes : List Nat) (n : Nat) : Bool := changes.countP (· ≤ n) % 2 == 1

end AdTemplates.Text
