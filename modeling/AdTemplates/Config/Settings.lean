import AdTemplates.Config.Traversal
import AdTemplates.Record

/-! The settings of a run, and how they are read from the layered values. A section is a
table of fields by name or an array of fields in order; what is missing keeps its default.
Of several values that do not fit the first one that is met is reported. -/
namespace AdTemplates.Config

structure Settings where
  limits : LengthLimits := {}
  skipLong : Bool := false
  strictMarkers : Bool := false
  defaultFormat : String := "tsv"
  deriving DecidableEq, Repr

def Settings.expandOptions (s : Settings) : ExpandOptions := ⟨s.skipLong, s.limits⟩

/-- What a value is, and what a setting wanted instead. -/
structure Mismatch where
  found : Found
  expected : Kind
  deriving DecidableEq, Repr

namespace Value

/-- The words for yes and no, in lower case. -/
def truth? (word : String) : Option Bool :=
  if word = "true" ∨ word = "on" ∨ word = "yes" then some true
  else if word = "false" ∨ word = "off" ∨ word = "no" then some false
  else none

/-- The greatest limit. -/
def maxLimit : Nat := Nat.pow 2 64 - 1

/-- A value as a limit. -/
def toLimit : Value → Except Mismatch Nat
  | .scalar _ (.integer n) =>
    if 0 ≤ n ∧ n ≤ maxLimit then .ok n.toNat else .error ⟨.scalar (.integer n), .unsigned⟩
  | .scalar _ (.boolean b) => .ok b.toNat
  | .scalar _ (.float x) => .ok (x.toNatClamped maxLimit)
  | .scalar _ (.text s) =>
    match truth? (Text.lower s), Number.natural? (maxLimit + 1) s.toList with
    | some b, _ => .ok b.toNat
    | none, some n => .ok n
    | none, none => .error ⟨.scalar (.text s), .integer⟩
  | v => .error ⟨v.found, .integer⟩

/-- A value as a flag. -/
def toFlag : Value → Except Mismatch Bool
  | .scalar _ (.boolean b) => .ok b
  | .scalar _ (.integer n) => .ok (n != 0)
  | .scalar _ (.float x) => .ok (!x.isZero)
  | .scalar _ (.text s) =>
    let word := Text.lower s
    if word = "1" then .ok true
    else if word = "0" then .ok false
    else match truth? word with
      | some b => .ok b
      | none => .error ⟨.scalar (.text word), .boolean⟩
  | v => .error ⟨v.found, .boolean⟩

/-- A value as a text. -/
def toText : Value → Except Mismatch String
  | .scalar _ (.text s) => .ok s
  | .scalar _ (.boolean b) => .ok (toString b)
  | .scalar _ (.integer n) => .ok (toString n)
  | .scalar _ (.float x) => .ok x.text
  | v => .error ⟨v.found, .text⟩

/-- A field of a section and the step that leads to it. -/
def field? (v : Value) (name : String) (position : Nat) : Option (Step × Value) :=
  match v with
  | .table _ entries => (entries.lookup name).map (.member name, ·)
  | .array _ items => items[position]?.map (.index position, ·)
  | .scalar .. => none

/-- Reads a setting in what its section holds. -/
def readHeld {α : Type} (held : Value) (k : Setting) (read : Value → Except Mismatch α)
    (missing : α) : Except Error α :=
  match held.field? k.name k.position with
  | none => .ok missing
  | some (step, v) =>
    match read v with
    | .ok a => .ok a
    | .error m => .error (.wrongType m.found m.expected ⟨k.within.key, [step]⟩ v.origin)

/-- Reads a setting. Its section must not be a scalar. -/
def readField {α : Type} (root : Value) (k : Setting) (read : Value → Except Mismatch α)
    (missing : α) : Except Error α :=
  match root.member? k.within.key with
  | none => .ok missing
  | some (.scalar _ found) => .error (.wrongSection found k.within)
  | some held => held.readHeld k read missing

/-- Reads a setting and tells how it changes settings. -/
def reading (root : Value) (k : Setting) : Except Error (Settings → Settings) :=
  let defaults : Settings := {}
  match k with
  | .titleLimit => (root.readField k toLimit defaults.limits.title).map fun n c =>
    { c with limits := { c.limits with title := n } }
  | .textLimit => (root.readField k toLimit defaults.limits.text).map fun n c =>
    { c with limits := { c.limits with text := n } }
  | .skipLong => (root.readField k toFlag defaults.skipLong).map fun b c => { c with skipLong := b }
  | .strictMarkers => (root.readField k toFlag defaults.strictMarkers).map fun b c =>
    { c with strictMarkers := b }
  | .defaultFormat => (root.readField k toText defaults.defaultFormat).map fun s c =>
    { c with defaultFormat := s }

/-- The settings of a section in the order in which they are read. That of an array is fixed. -/
def fieldOrder (root : Value) (o : Traversal) (s : Section) : List Setting :=
  match root.member? s.key with
  | some (.table ..) => o.fields s
  | _ => s.settings

end Value

/-- Takes up one setting. -/
def Settings.take (root : Value) (c : Settings) (k : Setting) : Except Error Settings :=
  (root.reading k).map (· c)

/-- Reads settings section by section. -/
def Settings.read (root : Value) (o : Traversal := .asWritten) : Except Error Settings :=
  (o.sections.flatMap (root.fieldOrder o)).foldlM (Settings.take root) {}

/-- Limits of zero would keep nothing. -/
def Settings.validate (s : Settings) : Except Error Settings :=
  if s.limits.title = 0 ∨ s.limits.text = 0 then .error .zeroLimit else .ok s

end AdTemplates.Config
