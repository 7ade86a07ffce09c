import AdTemplates.Config.Loader
import Mathlib.Control.Monad.Basic

/-! Values for settings: where each stands in the layered values, and what a configuration
comes to when each of them has a value. -/
namespace AdTemplates.Config

namespace Setting

/-- The key of a setting in the whole configuration. -/
def key (k : Setting) : String := k.within.key ++ "." ++ k.name

/-- What a setting is when nobody sets it. -/
def default : Setting → Scalar
  | .titleLimit => .integer 35
  | .textLimit => .integer 75
  | .skipLong => .boolean false
  | .strictMarkers => .boolean false
  | .defaultFormat => .text "tsv"

theorem parse_key (k : Setting) : KeyPath.parse k.key = .ok k.path := by
  cases k <;> decide +kernel

@[simp] theorem lower_name (k : Setting) : Text.lower k.name = k.name := by
  cases k <;> decide +kernel

@[simp] theorem name_inj {j k : Setting} : j.name = k.name ↔ j = k := by
  cases j <;> cases k <;> decide

theorem path_inj {j k : Setting} : j.path = k.path ↔ j = k := by
  simp only [path, KeyPath.mk.injEq, List.cons.injEq, Step.member.injEq, name_inj, and_true]
  exact and_iff_right_of_imp fun h => h ▸ rfl

/-- Reads a value as what the setting holds, and says of one that does not fit where it
stands. -/
def readAs {α : Type} (k : Setting) (read : Value → Except Mismatch α) (v : Value) :
    Except Error α :=
  (read v).mapError fun m => .wrongType m.found m.expected k.path v.origin

end Setting

namespace Section

theorem parse_key (s : Section) : KeyPath.parse s.key = .ok ⟨s.key, []⟩ := by
  cases s <;> decide +kernel

@[simp] theorem lower_key (s : Section) : Text.lower s.key = s.key := by
  cases s <;> decide +kernel

@[simp] theorem key_inj {s s' : Section} : s.key = s'.key ↔ s = s' := by
  cases s <;> cases s' <;> decide

end Section

/-- What becomes of a value for every setting: each is read as what its setting holds, one
after the other, and limits of zero are refused at the end. -/
def Settings.settle (given : Setting → Value) : Except Error Settings := do
  let title ← Setting.titleLimit.readAs Value.toLimit (given .titleLimit)
  let text ← Setting.textLimit.readAs Value.toLimit (given .textLimit)
  let skipLong ← Setting.skipLong.readAs Value.toFlag (given .skipLong)
  let strictMarkers ← Setting.strictMarkers.readAs Value.toFlag (given .strictMarkers)
  let defaultFormat ← Setting.defaultFormat.readAs Value.toText (given .defaultFormat)
  Settings.validate ⟨⟨title, text⟩, skipLong, strictMarkers, defaultFormat⟩

namespace Value

/-- What a configuration holds for a setting. -/
def setting? (root : Value) (k : Setting) : Option Value :=
  (root.member? k.within.key).bind (·.member? k.name)

/-- Every setting has a value, in a table of its section. -/
def Holds (root : Value) (given : Setting → Value) : Prop := ∀ k, root.setting? k = some (given k)

/-- A value with an entry is a table with that entry. -/
theorem member?_eq_some {v entry : Value} {key : String} (h : v.member? key = some entry) :
    ∃ o entries, v = .table o entries ∧ entries.lookup key = some entry := by
  cases v with
  | table o entries => exact ⟨o, entries, rfl, h⟩
  | scalar o s => cases h
  | array o items => cases h

variable {root : Value} {given : Setting → Value}

theorem Holds.member? (h : root.Holds given) (k : Setting) :
    ∃ o entries, root.member? k.within.key = some (.table o entries) ∧
      entries.lookup k.name = some (given k) := by
  obtain ⟨v, hv, he⟩ := Option.bind_eq_some_iff.mp (h k)
  obtain ⟨o, entries, rfl, hl⟩ := member?_eq_some he
  exact ⟨o, entries, hv, hl⟩

/-- A setting that has a value is read from it, in whatever place of an array it would be. -/
theorem Holds.readField {α : Type} (h : root.Holds given) (k : Setting)
    (read : Value → Except Mismatch α) (missing : α) :
    root.readField k read missing = k.readAs read (given k) := by
  obtain ⟨o, entries, hv, hl⟩ := h.member? k
  simp only [Value.readField, readHeld, hv, field?, hl, Option.map_some, Setting.readAs,
    Setting.path]
  cases read (given k) <;> rfl

end Value

end AdTemplates.Config
