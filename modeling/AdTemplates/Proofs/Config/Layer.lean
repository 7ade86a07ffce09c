import AdTemplates.Proofs.Config.Setting

/-! What a layer brings. Assigning tables of settings to a configuration changes the
settings that they have and no other ones, and a file brings the settings of its YAML
mapping. -/
namespace AdTemplates

/-- The last one that there is, in a list that has grown at its beginning. -/
theorem getLast?_filterMap_cons {α β : Type} (f : α → Option β) (a : α) (l : List α) :
    ((a :: l).filterMap f).getLast? = (l.filterMap f).getLast?.or (f a) := by
  rw [List.filterMap_cons]
  cases f a with
  | none => rw [Option.or_none]
  | some b => cases h : (l.filterMap f).getLast? <;> simp [List.getLast?_cons, h]

namespace Config.Value

/-- What a key holds after an assignment. A table goes into what was there, and anything
else replaces it. -/
def onto (old : Option Value) : Value → Value
  | .table _ entries => assignAll (old.getD emptyTable) entries
  | v => v

theorem assign_eq (target : Value) (key : String) (v : Value) :
    target.assign key v =
      target.setMember (Text.lower key) (onto (target.member? (Text.lower key)) v) := by
  cases v <;> rw [assign] <;> rfl

theorem member?_getD (v : Option Value) {missing : Value} (h : missing.asTable.2 = [])
    (key : String) : (v.getD missing).member? key = v.bind (·.member? key) := by
  cases v with
  | none => rw [Option.getD_none, member?, h]; rfl
  | some v => rfl

/-- Entries whose keys differ are assigned independently of one another. -/
theorem member?_assignAll {entries : List (String × Value)} (hn : (entries.map Prod.fst).Nodup)
    (hl : ∀ e ∈ entries, Text.lower e.1 = e.1) (target : Value) (key : String) :
    (assignAll target entries).member? key =
      ((entries.lookup key).map (onto (target.member? key))).or (target.member? key) := by
  induction entries generalizing target with
  | nil => rfl
  | cons e more ih =>
    obtain ⟨first, v⟩ := e
    obtain ⟨hnew, hn⟩ := List.nodup_cons.mp hn
    obtain ⟨hfirst, hl⟩ := List.forall_mem_cons.mp hl
    rw [assignAll, ih hn hl, assign_eq, hfirst, member?_setMember]
    by_cases hkey : key = first
    · subst hkey
      simp [Entries.lookup_eq_none hnew]
    · have hne : (key == first) = false := beq_eq_false_iff_ne.mpr hkey
      simp only [if_neg hkey, List.lookup_cons, hne]

/-- A table that has nothing but single values of settings. -/
def HoldsSettings : Value → Prop
  | .table _ entries => (entries.map Prod.fst).Nodup ∧
      ∀ e ∈ entries, (∃ k : Setting, e.1 = k.name) ∧ ∃ o s, e.2 = .scalar o s
  | _ => False

/-- Sections, each with settings. -/
structure IsLayer (entries : List (String × Value)) : Prop where
  keysDiffer : (entries.map Prod.fst).Nodup
  holdsSettings : ∀ e ∈ entries, (∃ s : Section, e.1 = s.key) ∧ e.2.HoldsSettings

theorem member?_onto {table : Value} (h : table.HoldsSettings) (old : Option Value) (key : String) :
    (onto old table).member? key = (table.member? key).or (old.bind (·.member? key)) := by
  cases table with
  | scalar o s => cases h
  | array o items => cases h
  | table o entries =>
    obtain ⟨hn, hs⟩ := h
    have hl : ∀ e ∈ entries, Text.lower e.1 = e.1 := by
      intro e he
      obtain ⟨⟨k, hk⟩, -⟩ := hs e he
      rw [hk, Setting.lower_name]
    have hsingle : ∀ old, (entries.lookup key).map (onto old) = entries.lookup key := by
      intro old
      cases hv : entries.lookup key with
      | none => rfl
      | some v =>
        obtain ⟨-, o, s, rfl⟩ := hs (key, v) (Entries.mem_of_lookup hv)
        rfl
    rw [onto, member?_assignAll hn hl, hsingle, member?_getD _ rfl]
    rfl

/-- Some settings have been laid over a configuration. They win where they say something,
and give way where they do not. -/
def IsOver (above below : Value) (given : Setting → Option Value) : Prop :=
  ∀ k, above.setting? k = (given k).or (below.setting? k)

theorem isOver_assignAll {entries : List (String × Value)} (h : IsLayer entries) (root : Value) :
    (assignAll root entries).IsOver root (Value.table none entries).setting? := by
  intro k
  have hl : ∀ e ∈ entries, Text.lower e.1 = e.1 := by
    intro e he
    obtain ⟨⟨s, hs⟩, -⟩ := h.holdsSettings e he
    rw [hs, Section.lower_key]
  unfold setting?
  rw [member?_assignAll h.keysDiffer hl]
  change _ = ((entries.lookup k.within.key).bind _).or _
  cases hv : entries.lookup k.within.key with
  | none => rfl
  | some v =>
    obtain ⟨-, hsettings⟩ := h.holdsSettings _ (Entries.mem_of_lookup hv)
    simp only [Option.map_some, Option.some_or, Option.bind_some]
    exact member?_onto hsettings _ _

/-- The last value that any of a list gives to a setting. -/
def lastOf {α : Type} (given : α → Setting → Option Value) (l : List α) (k : Setting) :
    Option Value :=
  (l.filterMap (given · k)).getLast?

theorem lastOf_cons {α : Type} (given : α → Setting → Option Value) (a : α) (l : List α)
    (k : Setting) : lastOf given (a :: l) k = (lastOf given l k).or (given a k) :=
  getLast?_filterMap_cons _ a l

/-- Where every step of a fold lays settings over what was there, the last ones win. -/
theorem foldlM_isOver {α : Type} {step : Value → α → Except Error Value}
    {given : α → Setting → Option Value} {l : List α}
    (h : ∀ a ∈ l, ∀ below, ∃ above, step below a = .ok above ∧ above.IsOver below (given a))
    (below : Value) :
    ∃ above, l.foldlM step below = .ok above ∧
      above.IsOver below (lastOf given l) := by
  induction l generalizing below with
  | nil => exact ⟨below, rfl, fun k => rfl⟩
  | cons a more ih =>
    obtain ⟨ha, hmore⟩ := List.forall_mem_cons.mp h
    obtain ⟨next, hnext, hover⟩ := ha below
    obtain ⟨above, habove, hlast⟩ := ih hmore next
    refine ⟨above, ?_, fun k => ?_⟩
    · rw [List.foldlM_cons, hnext]
      exact habove
    · rw [hlast k, hover k, lastOf_cons, Option.or_assoc]

end Config.Value
end AdTemplates
