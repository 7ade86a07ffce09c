import AdTemplates.Config.Error

/-! The settings one by one: the section that each belongs to, and its place there. -/
namespace AdTemplates.Config

inductive Setting where
  | titleLimit
  | textLimit
  | skipLong
  | strictMarkers
  | defaultFormat
  deriving DecidableEq, Repr

namespace Setting

/-- The section that a setting belongs to. -/
def within : Setting → Section
  | .titleLimit | .textLimit => .limits
  | .skipLong => .generation
  | .strictMarkers => .parser
  | .defaultFormat => .output

/-- The key of a setting in the table of its section. -/
def name : Setting → String
  | .titleLimit => "title"
  | .textLimit => "text"
  | .skipLong => "skip_long"
  | .strictMarkers => "strict_markers"
  | .defaultFormat => "default_format"

/-- The place of a setting where its section is an array. -/
def position : Setting → Nat
  | .textLimit => 1
  | _ => 0

def path (k : Setting) : KeyPath := ⟨k.within.key, [.member k.name]⟩

end Setting

/-- The settings of a section, in the order of their places. -/
def Section.settings : Section → List Setting
  | .limits => [.titleLimit, .textLimit]
  | .generation => [.skipLong]
  | .parser => [.strictMarkers]
  | .output => [.defaultFormat]

end AdTemplates.Config
