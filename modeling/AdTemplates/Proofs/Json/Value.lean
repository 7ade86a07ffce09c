import AdTemplates.Proofs.Json.Token
import AdTemplates.Text.Utf8

/-! JSON values, read from their tokens with a stack of the arrays and objects that are
open. -/
namespace AdTemplates.Json

/-- A JSON value. A number is kept as it was written, and an object has its members in their
order. -/
inductive Value where
  | null
  | bool (b : Bool)
  | number (literal : List Char)
  | string (s : String)
  | array (items : List Value)
  | object (members : List (String × Value))

/-- Whether a text is made of digits, one at least. -/
def isDigits (cs : List Char) : Bool := !cs.isEmpty && cs.all Char.isDigit

/-- Whether a text is an exponent, or nothing. -/
def isExponent : List Char → Bool
  | [] => true
  | c :: '+' :: rest | c :: '-' :: rest => (c = 'e' || c = 'E') && isDigits rest
  | c :: rest => (c = 'e' || c = 'E') && isDigits rest

/-- Whether a text is a fraction with an exponent, either of which may be missing. -/
def isFraction : List Char → Bool
  | '.' :: rest =>
    isDigits (rest.takeWhile Char.isDigit) && isExponent (rest.dropWhile Char.isDigit)
  | rest => isExponent rest

/-- Whether a text is a number without sign. Only zero itself starts with a zero. -/
def isUnsigned (cs : List Char) : Bool :=
  let whole := cs.takeWhile Char.isDigit
  isDigits whole && (whole.head? ≠ some '0' || whole = ['0']) &&
    isFraction (cs.dropWhile Char.isDigit)

/-- Whether a text is a number. -/
def isNumber : List Char → Bool
  | '-' :: rest => isUnsigned rest
  | cs => isUnsigned cs

/-- The value of a word. -/
def Value.ofWord? (literal : List Char) : Option Value :=
  if literal = "null".toList then some .null
  else if literal = "true".toList then some (.bool true)
  else if literal = "false".toList then some (.bool false)
  else if isNumber literal then some (.number literal)
  else none

/-- An array or object that is still open, with what it holds so far. An open object also
has the name of the member whose value is being read. -/
inductive Frame where
  | array (items : List Value)
  | object (members : List (String × Value)) (name : String)

/-- What a parser has read and what it expects, inside the frames of a stack: a value, a
value or the end of an empty array, a name or the end of an empty object, a name, the colon
after a name, or what comes after a value. -/
inductive Parser where
  | value (stack : List Frame)
  | firstItem (stack : List Frame)
  | firstName (stack : List Frame)
  | nextName (members : List (String × Value)) (stack : List Frame)
  | colon (members : List (String × Value)) (name : String) (stack : List Frame)
  | done (v : Value) (stack : List Frame)

namespace Parser

/-- Reads the first token of a value. -/
def start (stack : List Frame) : Token → Option Parser
  | .openArray => some (.firstItem stack)
  | .openObject => some (.firstName stack)
  | .string s => some (.done (.string s) stack)
  | .word literal => (Value.ofWord? literal).map (.done · stack)
  | _ => none

/-- Reads a token. -/
def step : Parser → Token → Option Parser
  | .value stack, t => start stack t
  | .firstItem stack, .closeArray => some (.done (.array []) stack)
  | .firstItem stack, t => start (.array [] :: stack) t
  | .firstName stack, .closeObject => some (.done (.object []) stack)
  | .firstName stack, .string name => some (.colon [] name stack)
  | .nextName members stack, .string name => some (.colon members name stack)
  | .colon members name stack, .colon => some (.value (.object members name :: stack))
  | .done v (.array items :: stack), .comma => some (.value (.array (items ++ [v]) :: stack))
  | .done v (.array items :: stack), .closeArray => some (.done (.array (items ++ [v])) stack)
  | .done v (.object members name :: stack), .comma =>
    some (.nextName (members ++ [(name, v)]) stack)
  | .done v (.object members name :: stack), .closeObject =>
    some (.done (.object (members ++ [(name, v)])) stack)
  | _, _ => none

/-- The value, if the text may end here. -/
def finish : Parser → Option Value
  | .done v [] => some v
  | _ => none

end Parser

/-- The value that these tokens write. -/
def Value.ofTokens? (tokens : List Token) : Option Value :=
  (Text.scan Parser.step (.value []) tokens).bind Parser.finish

/-- The value that a text writes. -/
def parse? (text : List Char) : Option Value := (tokens? text).bind Value.ofTokens?

/-- The value that these bytes write, if they are JSON. -/
def read? (bytes : List UInt8) : Option Value :=
  (Text.Utf8.decode? bytes).bind fun text => parse? text.toList

end AdTemplates.Json
