import AdTemplates.Proofs.Config.Setting
import Mathlib.Data.List.Perm.Basic

/-! Reading settings in any order. The settings that are read, if they can be read at all, do not
depend on the order in which sections and fields are met (`read_eq_ok_iff`). Of several values
that do not fit it depends on the order which one is reported. -/
namespace AdTemplates.Config

section Computations

variable {ε α β σ : Type}

/-- A computation succeeds if its first part does and the rest does with what that gives. -/
theorem bind_eq_ok_iff {x : Except ε α} {f : α → Except ε β} {b : β} :
    x >>= f = .ok b ↔ ∃ a, x = .ok a ∧ f a = .ok b := by
  cases x with
  | error e =>
    refine ⟨fun h => ?_, fun ⟨a, ha, _⟩ => ?_⟩
    · cases h
    · cases ha
  | ok a =>
    refine ⟨fun h => ⟨a, rfl, h⟩, fun ⟨a', ha, h⟩ => ?_⟩
    cases ha
    exact h

theorem map_eq_error_iff {x : Except ε α} {f : α → β} {e : ε} :
    x.map f = .error e ↔ x = .error e := by
  cases x with
  | error e' =>
    refine ⟨fun h => ?_, fun h => ?_⟩
    · cases h
      rfl
    · cases h
      rfl
  | ok a =>
    refine ⟨fun h => ?_, fun h => ?_⟩ <;> cases h

theorem map_eq_ok_iff {x : Except ε α} {f : α → β} {b : β} :
    x.map f = .ok b ↔ ∃ a, x = .ok a ∧ f a = b := by
  cases x with
  | error e =>
    refine ⟨fun h => ?_, fun ⟨a, ha, _⟩ => ?_⟩
    · cases h
    · cases ha
  | ok a =>
    refine ⟨fun h => ?_, fun ⟨a', ha, h⟩ => ?_⟩
    · cases h
      exact ⟨a, rfl, rfl⟩
    · cases ha
      exact congrArg Except.ok h

/-- Where any two steps can change places without changing what they come to, all can. -/
theorem foldlM_eq_ok_of_perm {step : σ → α → Except ε σ} {l l' : List α} (hperm : l.Perm l')
    (hn : l.Nodup)
    (hswap : ∀ a b, a ≠ b → ∀ s u v, step s a = .ok u → step u b = .ok v →
      ∃ w, step s b = .ok w ∧ step w a = .ok v)
    {s v : σ} (h : l.foldlM step s = .ok v) : l'.foldlM step s = .ok v := by
  induction hperm generalizing s with
  | nil => exact h
  | cons a _ ih =>
    rw [List.foldlM_cons, bind_eq_ok_iff] at h ⊢
    obtain ⟨u, hu, hmore⟩ := h
    exact ⟨u, hu, ih (List.nodup_cons.mp hn).2 hmore⟩
  | swap a b more =>
    simp only [List.foldlM_cons, bind_eq_ok_iff] at h ⊢
    obtain ⟨u, hu, w, hw, hmore⟩ := h
    have hne : b ≠ a := fun heq => (List.nodup_cons.mp hn).1 (heq ▸ List.mem_cons_self)
    obtain ⟨u', hu', hw'⟩ := hswap b a hne s u w hu hw
    exact ⟨u', hu', w, hw', hmore⟩
  | trans hfirst _ ih ih' => exact ih' (hfirst.nodup_iff.mp hn) (ih hn h)

/-- A fold that fails has failed in one of its steps. -/
theorem exists_step_of_foldlM {step : σ → α → Except ε σ} {l : List α} {s : σ} {e : ε}
    (h : l.foldlM step s = .error e) : ∃ a ∈ l, ∃ u, step u a = .error e := by
  induction l generalizing s with
  | nil => cases h
  | cons a more ih =>
    cases hstep : step s a with
    | error e' =>
      rw [List.foldlM_cons, hstep] at h
      cases h
      exact ⟨a, List.mem_cons_self, s, hstep⟩
    | ok u =>
      rw [List.foldlM_cons, hstep] at h
      obtain ⟨b, hb, hfails⟩ := ih h
      exact ⟨b, List.mem_cons_of_mem a hb, hfails⟩

end Computations

/-- The error tells of a value that does not fit where it stands. -/
def Error.IsMistyped : Error → Prop
  | .wrongType .. | .wrongSection .. => True
  | _ => False

namespace Value

variable {root : Value}

theorem isMistyped_readField {α : Type} {k : Setting} {read : Value → Except Mismatch α}
    {missing : α} {e : Error} (h : root.readField k read missing = .error e) : e.IsMistyped := by
  unfold readField at h
  split at h
  · cases h
  · cases h
    trivial
  · unfold readHeld at h
    split at h
    · cases h
    · split at h
      · cases h
      · cases h
        trivial

theorem isMistyped_reading {k : Setting} {e : Error} (h : root.reading k = .error e) :
    e.IsMistyped := by
  cases k <;> exact isMistyped_readField (map_eq_error_iff.mp h)

/-- Different settings do not get into each other's way. -/
theorem reading_comm {j k : Setting} (hne : j ≠ k) {f g : Settings → Settings}
    (hf : root.reading j = .ok f) (hg : root.reading k = .ok g) (c : Settings) :
    g (f c) = f (g c) := by
  cases j <;> cases k <;> first
    | exact absurd rfl hne
    | (obtain ⟨_, -, rfl⟩ := map_eq_ok_iff.mp hf
       obtain ⟨_, -, rfl⟩ := map_eq_ok_iff.mp hg
       rfl)

/-- All settings, in some order. -/
theorem perm_fieldOrder (root : Value) (o : Traversal) :
    (o.sections.flatMap (root.fieldOrder o)).Perm
      [.titleLimit, .textLimit, .skipLong, .strictMarkers, .defaultFormat] := by
  have hfields (s : Section) : (root.fieldOrder o s).Perm s.settings := by
    unfold fieldOrder
    split
    · exact o.fields_perm s
    · exact .refl _
  exact o.sections_perm.flatMap fun s _ => hfields s

theorem fieldOrder_asWritten (root : Value) :
    Traversal.asWritten.sections.flatMap (root.fieldOrder .asWritten) =
      [.titleLimit, .textLimit, .skipLong, .strictMarkers, .defaultFormat] := by
  have hfields : root.fieldOrder .asWritten = Section.settings := by
    funext s
    unfold fieldOrder
    split <;> rfl
  rw [hfields]
  rfl

end Value

namespace Settings

variable {root : Value} {c : Settings}

theorem take_swap {j k : Setting} (hne : j ≠ k) {u v : Settings} (hj : c.take root j = .ok u)
    (hk : u.take root k = .ok v) : ∃ w, c.take root k = .ok w ∧ w.take root j = .ok v := by
  obtain ⟨f, hf, rfl⟩ := map_eq_ok_iff.mp hj
  obtain ⟨g, hg, rfl⟩ := map_eq_ok_iff.mp hk
  refine ⟨g c, map_eq_ok_iff.mpr ⟨g, hg, rfl⟩, map_eq_ok_iff.mpr ⟨f, hf, ?_⟩⟩
  exact (Value.reading_comm hne hf hg c).symm

/-- The settings that can be read are the same in every order. -/
theorem read_eq_ok_iff_asWritten (o : Traversal) :
    read root o = .ok c ↔ read root = .ok c := by
  have hperm := root.perm_fieldOrder o
  have hall :
      [Setting.titleLimit, .textLimit, .skipLong, .strictMarkers, .defaultFormat].Nodup := by
    decide
  have hswap : ∀ j k : Setting, j ≠ k → ∀ s u v : Settings, s.take root j = .ok u →
      u.take root k = .ok v → ∃ w, s.take root k = .ok w ∧ w.take root j = .ok v :=
    fun _ _ hne _ _ _ hj hk => take_swap hne hj hk
  unfold read
  rw [root.fieldOrder_asWritten]
  exact ⟨foldlM_eq_ok_of_perm hperm (hperm.nodup_iff.mpr hall) hswap,
    foldlM_eq_ok_of_perm hperm.symm hall hswap⟩

theorem isMistyped_read {o : Traversal} {e : Error} (h : read root o = .error e) :
    e.IsMistyped := by
  obtain ⟨k, -, u, hk⟩ := exists_step_of_foldlM h
  exact Value.isMistyped_reading (map_eq_error_iff.mp hk)

/-- Where one order meets a value that does not fit, every order meets one. -/
theorem exists_read_eq_error {o : Traversal} {e : Error} (h : read root o = .error e)
    (o' : Traversal) : ∃ e', read root o' = .error e' ∧ e'.IsMistyped := by
  cases hread : read root o' with
  | error e' => exact ⟨e', rfl, isMistyped_read hread⟩
  | ok c =>
    rw [read_eq_ok_iff_asWritten, ← read_eq_ok_iff_asWritten o, h] at hread
    cases hread

end Settings

namespace Value

variable {root : Value} {c : Settings}

/-- What settings are read from. -/
structure ReadsAs (root : Value) (c : Settings) : Prop where
  title : root.readField .titleLimit toLimit 35 = .ok c.limits.title
  text : root.readField .textLimit toLimit 75 = .ok c.limits.text
  skipLong : root.readField .skipLong toFlag false = .ok c.skipLong
  strictMarkers : root.readField .strictMarkers toFlag false = .ok c.strictMarkers
  defaultFormat : root.readField .defaultFormat toText "tsv" = .ok c.defaultFormat

theorem read_eq_ok_iff {o : Traversal} : Settings.read root o = .ok c ↔ root.ReadsAs c := by
  rw [Settings.read_eq_ok_iff_asWritten, Settings.read, fieldOrder_asWritten]
  simp only [List.foldlM_cons, List.foldlM_nil, bind_eq_ok_iff, Settings.take, map_eq_ok_iff,
    reading]
  constructor
  · rintro ⟨_, ⟨_, ⟨title, htitle, rfl⟩, rfl⟩, _, ⟨_, ⟨text, htext, rfl⟩, rfl⟩, _,
      ⟨_, ⟨skipLong, hskipLong, rfl⟩, rfl⟩, _, ⟨_, ⟨strict, hstrict, rfl⟩, rfl⟩, _,
      ⟨_, ⟨format, hformat, rfl⟩, rfl⟩, hc⟩
    cases hc
    exact ⟨htitle, htext, hskipLong, hstrict, hformat⟩
  · intro h
    exact ⟨_, ⟨_, ⟨_, h.title, rfl⟩, rfl⟩, _, ⟨_, ⟨_, h.text, rfl⟩, rfl⟩, _,
      ⟨_, ⟨_, h.skipLong, rfl⟩, rfl⟩, _, ⟨_, ⟨_, h.strictMarkers, rfl⟩, rfl⟩, _,
      ⟨_, ⟨_, h.defaultFormat, rfl⟩, rfl⟩, rfl⟩

end Value

/-- Errors of the same kind. Of two values that do not fit it is not said which. -/
inductive Error.SameKind : Error → Error → Prop where
  | refl (e : Error) : SameKind e e
  | wrongType (found found' : Found) (expected expected' : Kind) (key key' : KeyPath)
      (origin origin' : Origin) :
      SameKind (.wrongType found expected key origin) (.wrongType found' expected' key' origin')

/-- The same settings, or errors of the same kind. -/
inductive SameOutcome : Except Error Settings → Except Error Settings → Prop where
  | ok (c : Settings) : SameOutcome (.ok c) (.ok c)
  | error {e e' : Error} (h : e.SameKind e') : SameOutcome (.error e) (.error e')

theorem SameOutcome.refl (x : Except Error Settings) : SameOutcome x x := by
  cases x with
  | ok c => exact .ok c
  | error e => exact .error (.refl e)

theorem SameOutcome.eq_ok {x : Except Error Settings} {c : Settings} (h : SameOutcome x (.ok c)) :
    x = .ok c := by
  cases h
  rfl

namespace Settings

variable {root : Value} {given : Setting → Value}

/-- Settings are read from the values of their keys alone. -/
theorem read_of_holds (h : root.Holds given) : read root >>= validate = settle given := by
  have title := h.readField .titleLimit Value.toLimit
  have text := h.readField .textLimit Value.toLimit
  have skipLong := h.readField .skipLong Value.toFlag
  have strictMarkers := h.readField .strictMarkers Value.toFlag
  have defaultFormat := h.readField .defaultFormat Value.toText
  rw [read, Value.fieldOrder_asWritten]
  simp only [List.foldlM_cons, List.foldlM_nil, take, Value.reading, title, text, skipLong,
    strictMarkers, defaultFormat, settle]
  cases Setting.titleLimit.readAs Value.toLimit (given .titleLimit) with
  | error e => rfl
  | ok title =>
    cases Setting.textLimit.readAs Value.toLimit (given .textLimit) with
    | error e => rfl
    | ok text =>
      cases Setting.skipLong.readAs Value.toFlag (given .skipLong) with
      | error e => rfl
      | ok skipLong =>
        cases Setting.strictMarkers.readAs Value.toFlag (given .strictMarkers) with
        | error e => rfl
        | ok strictMarkers =>
          cases Setting.defaultFormat.readAs Value.toText (given .defaultFormat) <;> rfl

/-- Where every setting has a value in a section, only the type of one can be wrong. -/
theorem exists_wrongType (h : root.Holds given) {o : Traversal} {e : Error}
    (hread : read root o = .error e) :
    ∃ found expected key origin, e = .wrongType found expected key origin := by
  have hfield {α : Type} {k : Setting} {read : Value → Except Mismatch α} {missing : α}
      (hfails : root.readField k read missing = .error e) :
      ∃ found expected key origin, e = .wrongType found expected key origin := by
    rw [h.readField, Setting.readAs] at hfails
    cases hvalue : read (given k) with
    | ok a =>
      rw [hvalue] at hfails
      cases hfails
    | error m =>
      rw [hvalue] at hfails
      cases hfails
      exact ⟨_, _, _, _, rfl⟩
  obtain ⟨k, -, u, hk⟩ := exists_step_of_foldlM hread
  have hreading := map_eq_error_iff.mp hk
  cases k <;> exact hfield (map_eq_error_iff.mp hreading)

theorem read_sameOutcome (h : root.Holds given) (o : Traversal) :
    SameOutcome (read root o >>= validate) (settle given) := by
  rw [← read_of_holds h]
  cases hread : read root o with
  | ok c =>
    rw [read_eq_ok_iff_asWritten] at hread
    rw [hread]
    exact .refl _
  | error e =>
    obtain ⟨e', hread', -⟩ := exists_read_eq_error hread .asWritten
    obtain ⟨_, _, _, _, rfl⟩ := exists_wrongType h hread
    obtain ⟨_, _, _, _, rfl⟩ := exists_wrongType h hread'
    rw [hread']
    exact .error (.wrongType ..)

end Settings
end AdTemplates.Config
