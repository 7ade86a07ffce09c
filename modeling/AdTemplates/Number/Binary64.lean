import AdTemplates.Number.Integer

/-! Floating-point numbers with 53 binary digits, as exact values. A decimal literal is
rounded to the nearest of them, and to the even neighbour when two are equally near. -/
namespace AdTemplates.Number

/-- A finite number is `mantissa * 2 ^ exponent`, with the largest mantissa below `2 ^ 53`
that the least exponent -1074 admits. -/
inductive Binary64 where
  | nan
  | infinite (negative : Bool)
  | finite (negative : Bool) (mantissa : Nat) (exponent : Int)
  deriving DecidableEq, Repr

/-- The nearest whole number to a quotient; a half goes to the even neighbour. -/
def roundHalfEven (num den : Nat) : Nat :=
  let q := num / den
  let twice := 2 * (num % den)
  if twice < den || (twice == den && q % 2 == 0) then q else q + 1

/-- The nearest whole number to a quotient; a half goes up. -/
def roundHalfUp (num den : Nat) : Nat := (2 * num + den) / (2 * den)

/-- Numerator and denominator of a quotient divided by a power of two. -/
def divPow2 (num den : Nat) (exponent : Int) : Nat × Nat :=
  if 0 ≤ exponent then (num, den * Nat.pow 2 exponent.toNat) else (num * Nat.pow 2 (-exponent).toNat, den)

namespace Binary64

def zero (negative : Bool) : Binary64 := .finite negative 0 (-1074)

/-- The exponent of the leading binary digit of a positive quotient. -/
def leadingExponent (num den : Nat) : Int :=
  let e := (num.log2 : Int) - den.log2
  let (n, d) := divPow2 num den e
  if d ≤ n then e else e - 1

/-- The number nearest to a quotient. -/
def ofQuotient (negative : Bool) (num den : Nat) : Binary64 :=
  if num = 0 then zero negative
  else
    let exponent := max (-1074) (leadingExponent num den - 52)
    let (n, d) := divPow2 num den exponent
    let mantissa := roundHalfEven n d
    let (mantissa, exponent) :=
      if mantissa = Nat.pow 2 53 then (Nat.pow 2 52, exponent + 1) else (mantissa, exponent)
    if 971 < exponent then .infinite negative else .finite negative mantissa exponent

/-- The number nearest to `digits * 10 ^ scale`, where `digits` has `size` digits. -/
def ofDecimal (negative : Bool) (digits size : Nat) (scale : Int) : Binary64 :=
  if digits = 0 then zero negative
  else if 400 < scale + size then .infinite negative
  else if scale + size < -400 then zero negative
  else if 0 ≤ scale then ofQuotient negative (digits * Nat.pow 10 scale.toNat) 1
  else ofQuotient negative digits (Nat.pow 10 (-scale).toNat)

/-- Reads the exponent of a decimal literal, or the end of the text. -/
def readScale? : List Char → Option Int
  | [] => some 0
  | c :: rest =>
    if c = 'e' ∨ c = 'E' then
      match rest with
      | '+' :: ds => (digits? 10 ds).map Int.ofNat
      | '-' :: ds => (digits? 10 ds).map fun n => -(n : Int)
      | ds => (digits? 10 ds).map Int.ofNat
    else none

/-- Reads a number without a sign: digits with an optional point, at least one digit, and
an optional exponent. -/
def readUnsigned? (negative : Bool) (cs : List Char) : Option Binary64 :=
  let whole := cs.takeWhile Char.isDigit
  let (fraction, rest) :=
    match cs.dropWhile Char.isDigit with
    | '.' :: after => (after.takeWhile Char.isDigit, after.dropWhile Char.isDigit)
    | after => ([], after)
  match digits? 10 (whole ++ fraction), readScale? rest with
  | some n, some scale =>
    let leading := ((whole ++ fraction).takeWhile (· == '0')).length
    some (ofDecimal negative n ((whole ++ fraction).length - leading) (scale - fraction.length))
  | _, _ => none

/-- The words for what no digits spell. -/
def readWord? (negative : Bool) (cs : List Char) : Option Binary64 :=
  let word := String.ofList (cs.map Char.toLower)
  if word = "nan" then some .nan
  else if word = "inf" ∨ word = "infinity" then some (.infinite negative)
  else none

/-- Reads a decimal literal. -/
def read? (cs : List Char) : Option Binary64 :=
  let (negative, rest) :=
    match cs with
    | '+' :: rest => (false, rest)
    | '-' :: rest => (true, rest)
    | _ => (false, cs)
  (readUnsigned? negative rest).or (readWord? negative rest)

/-- Whether a number equals zero. -/
def isZero : Binary64 → Bool
  | .finite _ 0 _ => true
  | _ => false

def isFinite : Binary64 → Bool
  | .finite .. => true
  | _ => false

/-- The nearest natural number, a half away from zero, kept within 0 and `bound`. -/
def toNatClamped (bound : Nat) : Binary64 → Nat
  | .nan => 0
  | .infinite negative => if negative then 0 else bound
  | .finite true _ _ => 0
  | .finite false mantissa exponent =>
    let (n, d) := divPow2 mantissa 1 (-exponent)
    min (roundHalfUp n d) bound

end Binary64
end AdTemplates.Number
