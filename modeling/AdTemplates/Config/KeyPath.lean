import AdTemplates.Config.Value
import AdTemplates.Number.Integer

/-! Paths of keys, such as `limits.title` or `limits[0]`. A path is walked from the top of
a configuration, and tables and arrays are made where it needs them. -/
namespace AdTemplates.Config

inductive Step where
  | member (key : String)
  | index (i : Int)
  deriving DecidableEq, Repr

/-- A key of the topmost table and the steps below it. -/
structure KeyPath where
  first : String
  more : List Step
  deriving DecidableEq, Repr

namespace KeyPath

/-- What a text that is no path lacks. -/
inductive Fault where
  | name
  | step
  | digit
  | range
  deriving DecidableEq, Repr

/-- The word for a fault. -/
def Fault.message : Fault → String
  | .name => "IsA"
  | .step => "Char"
  | .digit => "Digit"
  | .range => "Map on Result"

/-- The characters of names: those of ASCII words, spaces and hyphens. -/
def isNameChar (c : Char) : Bool := c.isAlphanum || c = '_' || c = '-' || c = ' '

def isGap (c : Char) : Bool := c = ' ' || c = '\t'

/-- The digits of an index with its sign, and what follows them. -/
def splitNumber (cs : List Char) : List Char × List Char :=
  match cs with
  | '-' :: rest => ('-' :: rest.takeWhile Char.isDigit, rest.dropWhile Char.isDigit)
  | _ => (cs.takeWhile Char.isDigit, cs.dropWhile Char.isDigit)

/-- Reads an index behind its opening bracket, up to the closing one. -/
def parseIndex (cs : List Char) : Except Fault (Int × List Char) :=
  let (number, rest) := splitNumber (cs.dropWhile isGap)
  if number = [] ∨ number = ['-'] then .error .digit
  else
    match Number.int64? 10 number, rest.dropWhile isGap with
    | none, _ => .error .range
    | some i, ']' :: after => .ok (i, after)
    | some _, _ => .error .step

theorem splitNumber_length (cs : List Char) : (splitNumber cs).2.length ≤ cs.length := by
  unfold splitNumber
  split
  · exact Nat.le_succ_of_le (List.dropWhile_sublist _).length_le
  · exact (List.dropWhile_sublist _).length_le

theorem parseIndex_length {cs rest : List Char} {i : Int} (h : parseIndex cs = .ok (i, rest)) :
    rest.length < cs.length := by
  unfold parseIndex at h
  have hs := splitNumber_length (cs.dropWhile isGap)
  have hg : (cs.dropWhile isGap).length ≤ cs.length := (List.dropWhile_sublist _).length_le
  generalize splitNumber (cs.dropWhile isGap) = split at h hs
  obtain ⟨number, after⟩ := split
  dsimp only at h hs
  split at h
  · cases h
  · split at h
    · cases h
    · next heq =>
      cases h
      have hd : (after.dropWhile isGap).length ≤ after.length := (List.dropWhile_sublist _).length_le
      rw [heq] at hd
      simp only [List.length_cons] at hd
      omega
    · cases h

/-- Reads the steps behind the first name. -/
def parseSteps (cs : List Char) : Except Fault (List Step) :=
  match cs with
  | [] => .ok []
  | '[' :: rest =>
    match h : parseIndex rest with
    | .error e => .error e
    | .ok (i, after) =>
      have := parseIndex_length h
      (parseSteps after).map (.index i :: ·)
  | '.' :: rest =>
    if rest.takeWhile isNameChar = [] then .error .step
    else
      have : (rest.dropWhile isNameChar).length ≤ rest.length := (List.dropWhile_sublist _).length_le
      (parseSteps (rest.dropWhile isNameChar)).map
        (.member (String.ofList (rest.takeWhile isNameChar)) :: ·)
  | _ :: _ => .error .step
termination_by cs.length
decreasing_by all_goals simp only [List.length_cons]; omega

/-- Reads a path: a name, then members and indices. -/
def parse (text : String) : Except Fault KeyPath :=
  let cs := text.toList
  if cs.takeWhile isNameChar = [] then .error .name
  else (parseSteps (cs.dropWhile isNameChar)).map fun more =>
    ⟨String.ofList (cs.takeWhile isNameChar), more⟩

end KeyPath

/-- The most items that an array can have. -/
def maxItems : Nat := Nat.pow 2 26

/-- The place of an index in an array. A negative one counts from the end; there is no
place before the beginning. -/
def place? (i : Int) (size : Nat) : Option Nat :=
  let counted := if i < 0 then size + i else i
  if 0 ≤ counted ∧ counted < maxItems then some counted.toNat else none

/-- An array with a place filled in, and with nothing at the places before it that it did
not have. -/
def setItem (items : List Value) (n : Nat) (v : Value) : List Value :=
  (items ++ List.replicate (n + 1 - items.length) Value.nil).set n v

namespace Value

/-- Puts a value at the end of some steps. A last member is assigned, and a last index
replaces. Nothing results when an index has no place. -/
def put (incoming : Value) : List Step → Value → Option Value
  | [], _ => some incoming
  | .member key :: more, target =>
    if more = [] then some (target.assign key incoming)
    else
      let inner := (target.member? (Text.lower key)).getD nil
      (put incoming more inner).map (target.setMember (Text.lower key))
  | .index i :: more, target =>
    let (origin, items) := target.asArray
    match place? i items.length with
    | none => none
    | some n =>
      (put incoming more ((items[n]?).getD nil)).map fun v => .array origin (setItem items n v)

/-- Puts a value at the end of a path. -/
def putAt (target incoming : Value) (path : KeyPath) : Option Value :=
  put incoming (.member path.first :: path.more) target

end Value
end AdTemplates.Config
