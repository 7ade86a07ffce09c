import AdTemplates.Format.Registry
import AdTemplates.Proofs.Text.ByteOrder
import Mathlib.Data.List.Sort

/-! A registry forgets everything about its history but the last formatter of each name. -/
namespace AdTemplates.Format.Registry

variable {r s : Registry} {f g : Formatter} {formatters history others : List Formatter}
  {name : String}

/-- Registers formatters one after the other. -/
def registerAll (r : Registry) (history : List Formatter) : Registry := history.foldl register r

/-- What every registry knows that was not created empty. -/
def builtin : List Formatter := [Delimited.csv, Delimited.tsv, JsonLines.jsonl]

/-- A formatter has the name, and none that was registered after it has. -/
def LastNamed (name : String) (history : List Formatter) (f : Formatter) : Prop :=
  f.name = name ∧ ∃ before after, history = before ++ f :: after ∧ ∀ g ∈ after, g.name ≠ name

/-- The formatters stand in ascending order of their names. -/
def Ascending (formatters : List Formatter) : Prop := formatters.Pairwise (·.name < ·.name)

theorem mem_insertSorted (h : g ∈ insertSorted f formatters) : g = f ∨ g ∈ formatters := by
  fun_induction insertSorted f formatters with
  | case1 => exact .inl (List.mem_singleton.mp h)
  | case2 k more hname => exact (List.mem_cons.mp h).imp_right (List.mem_cons_of_mem k)
  | case3 k more hname hlt => exact List.mem_cons.mp h
  | case4 k more hname hlt ih =>
    rcases List.mem_cons.mp h with rfl | h
    · exact .inr List.mem_cons_self
    · exact (ih h).imp_right (List.mem_cons_of_mem k)

theorem Ascending.insertSorted (h : Ascending formatters) :
    Ascending (insertSorted f formatters) := by
  fun_induction Registry.insertSorted f formatters with
  | case1 => exact List.pairwise_singleton ..
  | case2 k more hname =>
    obtain ⟨hk, hmore⟩ := List.pairwise_cons.mp h
    exact List.pairwise_cons.mpr ⟨hname ▸ hk, hmore⟩
  | case3 k more hname hlt =>
    refine List.pairwise_cons.mpr ⟨fun g hg => ?_, h⟩
    rcases List.mem_cons.mp hg with rfl | hg
    · exact hlt
    · exact String.lt_trans hlt ((List.pairwise_cons.mp h).1 g hg)
  | case4 k more hname hlt ih =>
    obtain ⟨hk, hmore⟩ := List.pairwise_cons.mp h
    refine List.pairwise_cons.mpr ⟨fun g hg => ?_, ih hmore⟩
    rcases mem_insertSorted hg with rfl | hg
    · exact ((Std.lt_trichotomy _ _).resolve_left hlt).resolve_left hname
    · exact hk g hg

theorem ascending_registerAll (h : Ascending r.formatters) (history : List Formatter) :
    Ascending (r.registerAll history).formatters := by
  induction history generalizing r with
  | nil => exact h
  | cons f more ih => exact ih (r := r.register f) h.insertSorted

/-- The later of two registrations decides, and before the first one it is what the registry
knew. -/
theorem get?_registerAll (r : Registry) (history : List Formatter) (name : String) :
    (r.registerAll history).get? name =
      (history.reverse.find? (·.name = name)).or (r.get? name) := by
  induction history generalizing r with
  | nil => rfl
  | cons f more ih =>
    rw [List.reverse_cons, List.find?_append, Option.or_assoc]
    refine (ih (r.register f)).trans (congrArg _ ?_)
    rw [get?_register]
    by_cases hname : f.name = name <;> simp [hname]

theorem find?_reverse_eq_some_iff :
    history.reverse.find? (·.name = name) = some f ↔ LastNamed name history f := by
  rw [List.find?_eq_some_iff_append, decide_eq_true_iff]
  refine and_congr_right fun _ => ⟨?_, ?_⟩
  · rintro ⟨after, before, heq, hafter⟩
    refine ⟨before.reverse, after.reverse, ?_, fun g hg => ?_⟩
    · rw [← List.reverse_reverse history, heq, List.reverse_append, List.reverse_cons,
        List.append_assoc, List.singleton_append]
    · simpa using hafter g (List.mem_reverse.mp hg)
  · rintro ⟨before, after, rfl, hafter⟩
    refine ⟨after.reverse, before.reverse, ?_, fun g hg => ?_⟩
    · rw [List.reverse_append, List.reverse_cons, List.append_assoc, List.singleton_append]
    · simpa using hafter g (List.mem_reverse.mp hg)

theorem get?_registerAll_empty :
    (empty.registerAll history).get? name = history.reverse.find? (·.name = name) := by
  rw [get?_registerAll]
  exact Option.or_none

theorem get?_registerAll_eq_some_iff :
    (empty.registerAll history).get? name = some f ↔ LastNamed name history f := by
  rw [get?_registerAll_empty, find?_reverse_eq_some_iff]

theorem get?_registerAll_eq_none_iff :
    (empty.registerAll history).get? name = none ↔ ∀ f ∈ history, f.name ≠ name := by
  rw [get?_registerAll_empty, List.find?_eq_none]
  simp

theorem mem_names_iff : name ∈ r.names ↔ (r.get? name).isSome := by
  rw [names, get?, List.find?_isSome, List.mem_map]
  simp

/-- Among distinct names a formatter is found by its own. -/
theorem Ascending.mem_iff (h : Ascending r.formatters) :
    f ∈ r.formatters ↔ r.get? f.name = some f := by
  refine ⟨fun hf => ?_, List.mem_of_find?_eq_some⟩
  obtain ⟨before, after, heq⟩ := List.append_of_mem hf
  refine List.find?_eq_some_iff_append.mpr ⟨decide_eq_true rfl, before, after, heq, fun g hg => ?_⟩
  rw [Ascending, heq] at h
  have hlt : g.name < f.name := (List.pairwise_append.mp h).2.2 g hg f List.mem_cons_self
  have hne : g.name ≠ f.name := fun hname => String.lt_irrefl f.name (hname ▸ hlt)
  simpa using hne

/-- What is found under the names determines the formatters and their order. -/
theorem Ascending.ext (hr : Ascending r.formatters) (hs : Ascending s.formatters)
    (h : ∀ name, r.get? name = s.get? name) : r = s := by
  have : Std.Antisymm fun f g : Formatter => f.name < g.name :=
    ⟨fun f g hfg hgf => absurd (String.lt_trans hfg hgf) (String.lt_irrefl f.name)⟩
  have : Std.Irrefl fun f g : Formatter => f.name < g.name := ⟨fun f => String.lt_irrefl f.name⟩
  refine congrArg Registry.mk (List.Pairwise.eq_of_mem_iff hr hs fun f => ?_)
  rw [hr.mem_iff, hs.mem_iff, h]

theorem ascending_registerAll_empty (history : List Formatter) :
    Ascending (empty.registerAll history).formatters :=
  ascending_registerAll List.Pairwise.nil history

theorem registerAll_eq_of_lastNamed
    (h : ∀ name f, LastNamed name history f ↔ LastNamed name others f) :
    empty.registerAll history = empty.registerAll others := by
  refine (ascending_registerAll_empty history).ext (ascending_registerAll_empty others) fun name =>
    Option.ext fun f => ?_
  rw [get?_registerAll_eq_some_iff, get?_registerAll_eq_some_iff, h]

/-- Texts are distinct when they ascend, so only one order of the names does. -/
theorem mergeSort_eq_names {keys : List String} (h : r.names.Pairwise (· < ·)) (hkeys : keys.Nodup)
    (hmem : ∀ name, name ∈ keys ↔ name ∈ r.names) : keys.mergeSort (· ≤ ·) = r.names := by
  have hperm : keys.Perm r.names :=
    (List.perm_ext_iff_of_nodup hkeys (h.imp String.ne_of_lt)).mpr hmem
  exact ((List.mergeSort_perm keys _).trans hperm).eq_of_pairwise'
    (List.pairwise_mergeSort' (· ≤ ·) keys) (h.imp Std.le_of_lt)

theorem registerAll_defaults (history : List Formatter) :
    defaults.registerAll history = empty.registerAll (builtin ++ history) :=
  rfl

/-- Whatever is registered, in whatever order and under whatever names, a registry behaves as a
map that keeps the last formatter of each name and lists the names in the order of their bytes.
`keys` are the names in the order in which a table happens to hold them. -/
theorem registerAll_keeps_last (history : List Formatter) :
    defaults.registerAll history = empty.registerAll (builtin ++ history) ∧
      (∀ name f, (empty.registerAll history).get? name = some f ↔ LastNamed name history f) ∧
      (∀ name, (empty.registerAll history).get? name = none ↔ ∀ f ∈ history, f.name ≠ name) ∧
      (empty.registerAll history).names.Pairwise (Text.Utf8.encode · < Text.Utf8.encode ·) ∧
      (∀ name, name ∈ (empty.registerAll history).names ↔
        ((empty.registerAll history).get? name).isSome) ∧
      (∀ keys : List String, keys.Nodup →
        (∀ name, name ∈ keys ↔ ((empty.registerAll history).get? name).isSome) →
        keys.mergeSort (· ≤ ·) = (empty.registerAll history).names) ∧
      (∀ f name, name ≠ f.name → (empty.registerAll (history ++ [f])).get? name =
        (empty.registerAll history).get? name) ∧
      ∀ others, (∀ name f, LastNamed name history f ↔ LastNamed name others f) →
        (∀ name, (empty.registerAll history).get? name = (empty.registerAll others).get? name) ∧
        (empty.registerAll history).names = (empty.registerAll others).names ∧
        ∀ name records sink, (empty.registerAll history).write name records sink =
          (empty.registerAll others).write name records sink := by
  have hnames : (empty.registerAll history).names.Pairwise (· < ·) :=
    List.pairwise_map.mpr (ascending_registerAll_empty history)
  refine ⟨registerAll_defaults history, fun _ _ => get?_registerAll_eq_some_iff,
    fun _ => get?_registerAll_eq_none_iff, hnames.imp Text.Utf8.encode_lt_encode,
    fun _ => mem_names_iff, fun keys hkeys hmem => ?_, fun f name hname => ?_,
    fun others hlast => ?_⟩
  · exact mergeSort_eq_names hnames hkeys fun name => (hmem name).trans mem_names_iff.symm
  · rw [registerAll, List.foldl_append, List.foldl_cons, List.foldl_nil, get?_register,
      if_neg hname.symm]
    rfl
  · rw [registerAll_eq_of_lastNamed hlast]
    exact ⟨fun _ => rfl, rfl, fun _ _ _ => rfl⟩

/-- A formatter that was replaced under its name and registered again leaves no trace of the
other one. -/
theorem registerAll_keeps_last_restored :
    (∀ name, (empty.registerAll [Delimited.csv, ⟨"csv", "", fun _ sink => .ok (0, sink)⟩,
        Delimited.csv]).get? name = (empty.registerAll [Delimited.csv]).get? name) ∧
      (empty.registerAll [Delimited.csv, Delimited.tsv]).get? "csv" =
        (empty.registerAll [Delimited.csv]).get? "csv" ∧
      ["csv"].mergeSort (· ≤ ·) = (empty.registerAll [Delimited.csv]).names := by
  obtain ⟨_, _, _, _, hmem, hkeys, hother, _⟩ := registerAll_keeps_last [Delimited.csv]
  refine ⟨?_, hother Delimited.tsv "csv" (by decide), hkeys ["csv"] (by decide) fun name => ?_⟩
  · refine ((registerAll_keeps_last _).2.2.2.2.2.2.2 [Delimited.csv] fun name f => ?_).1
    rw [← find?_reverse_eq_some_iff, ← find?_reverse_eq_some_iff]
    by_cases hname : "csv" = name <;> simp [Delimited.csv, hname]
  · exact hmem name

end AdTemplates.Format.Registry
