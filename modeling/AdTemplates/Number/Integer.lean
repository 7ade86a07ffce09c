/-! Reading whole numbers of a bounded range, in any radix up to sixteen. -/
namespace AdTemplates.Number

/-- The value of a digit, if it is one in this radix. -/
def digit? (radix : Nat) (c : Char) : Option Nat :=
  let value :=
    if '0' ≤ c ∧ c ≤ '9' then some (c.toNat - '0'.toNat)
    else if 'a' ≤ c ∧ c ≤ 'f' then some (c.toNat - 'a'.toNat + 10)
    else if 'A' ≤ c ∧ c ≤ 'F' then some (c.toNat - 'A'.toNat + 10)
    else none
  value.filter (· < radix)

/-- The number that digits spell after those that spell `before`. -/
def digitsFrom? (radix : Nat) (before : Nat) : List Char → Option Nat
  | [] => some before
  | c :: rest =>
    match digit? radix c with
    | some d => digitsFrom? radix (before * radix + d) rest
    | none => none

/-- The number that one or more digits spell. -/
def digits? (radix : Nat) : List Char → Option Nat
  | [] => none
  | cs => digitsFrom? radix 0 cs

/-- A natural number below a bound, which may have a plus sign. -/
def natural? (bound : Nat) (cs : List Char) : Option Nat :=
  (match cs with
    | '+' :: rest => digits? 10 rest
    | _ => digits? 10 cs).filter (· < bound)

/-- A signed whole number of 64 bits. -/
def int64? (radix : Nat) (cs : List Char) : Option Int :=
  let value : Option Int :=
    match cs with
    | '+' :: rest => (digits? radix rest).map Int.ofNat
    | '-' :: rest => (digits? radix rest).map fun n => -(n : Int)
    | _ => (digits? radix cs).map Int.ofNat
  value.filter fun n => -(Nat.pow 2 63 : Nat) ≤ n && n < Nat.pow 2 63

end AdTemplates.Number
