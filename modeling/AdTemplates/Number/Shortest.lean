import AdTemplates.Number.Binary64

/-! Decimal text of floating-point numbers: the fewest digits that still single out the
number, and among those the nearest. -/
namespace AdTemplates.Number.Binary64

/-- The numbers that a mantissa and an exponent stand for lie between `low` and `high`,
seen as multiples of `unit = num / den`; the ends count if the mantissa is even. -/
structure Interval where
  low : Nat
  value : Nat
  high : Nat
  exponent : Int
  closed : Bool

/-- The reals that round to a positive number. Below a power of two the distance to the
neighbour is half of that above. -/
def interval (mantissa : Nat) (exponent : Int) : Interval where
  low := if mantissa = Nat.pow 2 52 ∧ -1074 < exponent then 4 * mantissa - 1 else 4 * mantissa - 2
  value := 4 * mantissa
  high := 4 * mantissa + 2
  exponent := exponent - 2
  closed := mantissa % 2 == 0

/-- A quotient in units of a power of ten. -/
def inUnits (n : Nat) (exponent scale : Int) : Nat × Nat :=
  let (num, den) := divPow2 n 1 (-exponent)
  if 0 ≤ scale then (num, den * Nat.pow 10 scale.toNat) else (num * Nat.pow 10 (-scale).toNat, den)

/-- Whether `k * 10 ^ scale` lies in the interval. -/
def Interval.holds (i : Interval) (scale : Int) (k : Nat) : Bool :=
  let (low, lowDen) := inUnits i.low i.exponent scale
  let (high, highDen) := inUnits i.high i.exponent scale
  if i.closed then low ≤ k * lowDen && k * highDen ≤ high
  else low < k * lowDen && k * highDen < high

/-- The nearer of the two multiples of `10 ^ scale` next to the value that lie in the
interval; of two equally near ones the greater. -/
def Interval.onGrid? (i : Interval) (scale : Int) : Option Nat :=
  let (num, den) := inUnits i.value i.exponent scale
  let below := num / den
  let nearest := roundHalfUp num den
  let other := if nearest = below then below + 1 else below
  if nearest ≠ 0 && i.holds scale nearest then some nearest
  else if other ≠ 0 && i.holds scale other then some other
  else none

/-- The first scale of a falling sequence at which the interval holds a grid point. -/
def Interval.firstGrid (i : Interval) (scale : Int) : Nat → Nat × Int
  | 0 => (((inUnits i.value i.exponent scale).1 / (inUnits i.value i.exponent scale).2), scale)
  | n + 1 =>
    match i.onGrid? scale with
    | some k => (k, scale)
    | none => i.firstGrid (scale - 1) n

/-- The least `e` with `num / den < 10 ^ e`, searched upwards. -/
def decimalWidth (num den : Nat) (e : Int) : Nat → Int
  | 0 => e
  | n + 1 =>
    let (a, b) :=
      if 0 ≤ e then (num, den * Nat.pow 10 e.toNat) else (num * Nat.pow 10 (-e).toNat, den)
    if a < b then e else decimalWidth num den (e + 1) n

/-- The shortest digits of a positive number, as a natural number, and the power of ten
that they count. -/
def shortest (mantissa : Nat) (exponent : Int) : Nat × Int :=
  let i := interval mantissa exponent
  let (num, den) := inUnits i.value i.exponent 0
  let guess : Int := ((num.log2 : Int) - den.log2 - 1) * 30103 / 100000 - 1
  let width := decimalWidth num den guess 8
  i.firstGrid width 18

/-- Digits and a power of ten in positional notation. -/
def positional (digits : List Char) (scale : Int) : List Char :=
  if 0 ≤ scale then digits ++ List.replicate scale.toNat '0'
  else
    let places := (-scale).toNat
    if places < digits.length then
      digits.take (digits.length - places) ++ '.' :: digits.drop (digits.length - places)
    else '0' :: '.' :: List.replicate (places - digits.length) '0' ++ digits

/-- A power of ten is taken out of the digits as long as they end in zero. -/
def dropZeros (digits : List Char) (scale : Int) : List Char × Int :=
  let kept := (digits.reverse.dropWhile (· == '0')).reverse
  (kept, scale + (digits.length - kept.length : Nat))

/-- The text of a number: shortest digits in positional notation, without an exponent. -/
def text : Binary64 → String
  | .nan => "NaN"
  | .infinite negative => if negative then "-inf" else "inf"
  | .finite negative mantissa exponent =>
    let body :=
      if mantissa = 0 then ['0']
      else
        let (n, scale) := shortest mantissa exponent
        let (digits, scale) := dropZeros (Nat.toDigits 10 n) scale
        positional digits scale
    String.ofList (if negative then '-' :: body else body)

/-- The text of a number with a decimal point wherever a finite number has none. -/
def textWithPoint (x : Binary64) : String :=
  if x.isFinite && !x.text.toList.contains '.' then x.text ++ ".0" else x.text

end AdTemplates.Number.Binary64
