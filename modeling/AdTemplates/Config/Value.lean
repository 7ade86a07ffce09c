import AdTemplates.Entries
import AdTemplates.Number.Binary64
import AdTemplates.Text.LowerCase

/-! Values of a configuration and their layering. Assigning under a key goes into a table
entry by entry and replaces anything else as a whole. Keys are compared in lower case. -/
namespace AdTemplates.Config

inductive Scalar where
  | nil
  | boolean (b : Bool)
  /-- An integer of a file is one of 64 bits. What can be made of a greater one is up to what
  it is read as. -/
  | integer (n : Int)
  | float (x : Number.Binary64)
  | text (s : String)
  deriving DecidableEq, Repr

/-- The file that a value was read from, if it was read from one. -/
abbrev Origin := Option String

inductive Value where
  | scalar (origin : Origin) (s : Scalar)
  | array (origin : Origin) (items : List Value)
  | table (origin : Origin) (entries : List (String × Value))
  deriving Repr

namespace Value

def nil : Value := .scalar none .nil

def emptyTable : Value := .table none []

def origin : Value → Origin
  | .scalar o _ => o
  | .array o _ => o
  | .table o _ => o

/-- The value as a table; what is none gives way to an empty one. -/
def asTable (v : Value) : Origin × List (String × Value) :=
  match v with
  | .table o entries => (o, entries)
  | _ => (none, [])

/-- The value as an array; what is none gives way to an empty one. -/
def asArray (v : Value) : Origin × List Value :=
  match v with
  | .array o items => (o, items)
  | _ => (none, [])

/-- The entry of a key, if the value is a table that has one. -/
def member? (v : Value) (key : String) : Option Value := v.asTable.2.lookup key

/-- The value as a table with a new entry, or with its entry of that key replaced. -/
def setMember (v : Value) (key : String) (entry : Value) : Value :=
  .table v.asTable.1 (Entries.set key entry v.asTable.2)

/-- A key that has been set holds the new entry, and every other key what it held. -/
theorem member?_setMember (v entry : Value) (key other : String) :
    (v.setMember key entry).member? other = if other = key then some entry else v.member? other :=
  Entries.lookup_set key other entry v.asTable.2

mutual
/-- Assigns a value under a key. A table is assigned entry by entry to what the key holds
already, and anything else replaces it. -/
def assign (target : Value) (key : String) : Value → Value
  | .table _ entries =>
    target.setMember (Text.lower key)
      (assignAll ((target.member? (Text.lower key)).getD emptyTable) entries)
  | .scalar o s => target.setMember (Text.lower key) (.scalar o s)
  | .array o items => target.setMember (Text.lower key) (.array o items)

/-- Assigns the entries of a table in the order in which they are met. -/
def assignAll (target : Value) : List (String × Value) → Value
  | [] => target
  | (key, v) :: more => assignAll (assign target key v) more
end

end Value
end AdTemplates.Config
