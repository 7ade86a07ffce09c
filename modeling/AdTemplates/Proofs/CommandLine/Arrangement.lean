import AdTemplates.CommandLine.Logging
import AdTemplates.Proofs.CommandLine.Spelling
import AdTemplates.Proofs.Run.Order
import Mathlib.Data.List.Basic

/-! Arranged arguments. Options may stand in any order, before, between and behind the paths, and
in any spelling: what is read depends on which items there are and on the order of the paths. So
does what the program does, and logging does not change it. -/
namespace AdTemplates.CommandLine

open Text.Utf8 (encode)

def Item.path? : Item → Option Path
  | .path p => some p
  | _ => none

def Item.flag? : Item → Option Flag
  | .flag f => some f
  | _ => none

def Item.setting? : Item → Option (Setting × Word)
  | .setting s value => some (s, value)
  | _ => none

namespace Arguments

variable {a b : Arguments} {items : List Item}

/-- What has been read, and items to it. -/
def plus (a : Arguments) (items : List Item) : Arguments where
  paths := a.paths ++ items.filterMap Item.path?
  flags := a.flags ++ items.filterMap Item.flag?
  settings := a.settings ++ items.filterMap Item.setting?

theorem plus_nil (a : Arguments) : a.plus [] = a := by
  simp [plus]

theorem plus_append (a : Arguments) (first items : List Item) :
    a.plus (first ++ items) = (a.plus first).plus items := by
  simp [plus]

/-- Nothing is given that is not taken. -/
structure Sound (a : Arguments) : Prop where
  few : a.paths.length ≤ 2
  paths : ⟨[]⟩ ∉ a.paths
  flags : a.flags.Nodup
  settings : (a.settings.map Prod.fst).Nodup
  values : ∀ e ∈ a.settings, e.1.fault? e.2 = none

theorem Sound.of_plus (h : (a.plus items).Sound) : a.Sound := by
  obtain ⟨few, paths, flags, settings, values⟩ := h
  simp only [plus, List.length_append, List.map_append, List.mem_append, not_or]
    at few paths flags settings values
  exact ⟨by omega, paths.1, (List.nodup_append.mp flags).1, (List.nodup_append.mp settings).1,
    fun e he => values e (.inl he)⟩

theorem plus_path (a : Arguments) (p : Path) :
    a.plus [.path p] = { a with paths := a.paths ++ [p] } := by
  simp [plus, Item.path?, Item.flag?, Item.setting?]

theorem plus_flag (a : Arguments) (f : Flag) :
    a.plus [.flag f] = { a with flags := a.flags ++ [f] } := by
  simp [plus, Item.path?, Item.flag?, Item.setting?]

theorem plus_setting (a : Arguments) (s : Setting) (value : Word) :
    a.plus [.setting s value] = { a with settings := a.settings ++ [(s, value)] } := by
  simp [plus, Item.path?, Item.flag?, Item.setting?]

/-- An item is added if it is taken. -/
theorem add_eq_ok {item : Item} (h : (a.plus [item]).Sound) : a.add item = .ok (a.plus [item]) := by
  cases item with
  | path p =>
    rw [plus_path] at h ⊢
    have hfew : ¬ a.paths.length = 2 := by
      have := h.few
      rw [List.length_append, List.length_singleton] at this
      omega
    have hp : ¬ p.bytes = [] := by
      intro hempty
      obtain rfl : p = ⟨[]⟩ := by rw [← hempty]
      exact h.paths (List.mem_append_right _ List.mem_cons_self)
    rw [add, addPath, if_neg hfew, if_neg hp]
  | flag f =>
    rw [plus_flag] at h ⊢
    have hf : f ∉ a.flags := fun hmem =>
      (List.nodup_append.mp h.flags).2.2 f hmem f List.mem_cons_self rfl
    rw [add, raise, if_neg hf]
  | setting s value =>
    rw [plus_setting] at h ⊢
    have hkeys := h.settings
    rw [List.map_append] at hkeys
    have hnew : a.settings.lookup s = none := Entries.lookup_eq_none fun hmem =>
      (List.nodup_append.mp hkeys).2.2 s hmem s List.mem_cons_self rfl
    have hvalue : s.fault? value = none :=
      h.values (s, value) (List.mem_append_right _ List.mem_cons_self)
    rw [add, give, hnew, Option.isSome_none, if_neg Bool.false_ne_true, hvalue]

theorem foldlM_add (h : (a.plus items).Sound) : items.foldlM add a = .ok (a.plus items) := by
  induction items generalizing a with
  | nil => rw [plus_nil]; rfl
  | cons item items ih =>
    have hplus : a.plus (item :: items) = (a.plus [item]).plus items := plus_append a [item] items
    rw [hplus] at h ⊢
    rw [List.foldlM_cons, add_eq_ok h.of_plus]
    exact ih h

/-- The same but for the order of options. -/
structure Alike (a b : Arguments) : Prop where
  paths : a.paths = b.paths
  flags : a.flags.Perm b.flags
  settings : a.settings.Perm b.settings

theorem Alike.sound (h : a.Alike b) (hb : b.Sound) : a.Sound where
  few := h.paths ▸ hb.few
  paths := h.paths ▸ hb.paths
  flags := h.flags.nodup_iff.mpr hb.flags
  settings := (h.settings.map _).nodup_iff.mpr hb.settings
  values := fun e he => hb.values e (h.settings.mem_iff.mp he)

theorem Alike.request? (h : a.Alike b) (hb : b.Sound) : a.request? = b.request? := by
  have hsetting (s : Setting) : a.settings.lookup s = b.settings.lookup s :=
    Entries.lookup_perm h.settings hb.settings s
  simp only [Arguments.request?, h.paths, h.flags.contains_eq, hsetting]

theorem Alike.logLevel (h : a.Alike b) : a.logLevel = b.logLevel := by
  rw [Arguments.logLevel, Arguments.logLevel, h.flags.contains_eq]

end Arguments

/-- What a command line asks for. -/
structure Invocation where
  input : Path
  output : Option Path := none
  format : Option String := none
  config : Option Path := none
  skipLong : Bool := false
  strict : Bool := false
  verbose : Bool := false
  listFormats : Bool := false

namespace Invocation

def isRaised (i : Invocation) : Flag → Bool
  | .skipLong => i.skipLong
  | .strict => i.strict
  | .verbose => i.verbose
  | .listFormats => i.listFormats

def value? (i : Invocation) : Setting → Option Word
  | .format => i.format.map encode
  | .config => i.config.map Path.bytes

/-- The arguments of an invocation, with its options in the order of their declaration. -/
def arguments (i : Invocation) : Arguments where
  paths := i.input :: i.output.toList
  flags := [.skipLong, .strict, .verbose, .listFormats].filter i.isRaised
  settings := [.format, .config].filterMap fun s => (i.value? s).map (s, ·)

def items (i : Invocation) : List Item :=
  i.arguments.paths.map .path ++ i.arguments.flags.map .flag ++
    i.arguments.settings.map fun e => .setting e.1 e.2

/-- The settings of a run that an invocation spells. -/
def request (i : Invocation) : Run.Request where
  input := i.input
  output := i.output
  format := i.format
  skipLong := i.skipLong
  strict := i.strict
  config := i.config

def logLevel (i : Invocation) : LogLevel := if i.verbose then .debug else .warn

/-- The arguments ask for what an invocation does, every item once, the paths in their order. -/
def Arranges (i : Invocation) (words : List Word) : Prop :=
  ∃ items : List Item, items.Perm i.items ∧
    items.filterMap Item.path? = i.arguments.paths ∧ Spells items words

variable {i : Invocation} {words : List Word}

theorem plus_items (i : Invocation) : ({} : Arguments).plus i.items = i.arguments := by
  simp [Arguments.plus, items, List.filterMap_map, Function.comp_def, List.filterMap_none,
    Item.path?, Item.flag?, Item.setting?]

/-- What is asked for in another order, the paths apart, is alike. -/
theorem alike_of_perm {items : List Item} (hperm : items.Perm i.items)
    (hpaths : items.filterMap Item.path? = i.arguments.paths) :
    (({} : Arguments).plus items).Alike i.arguments := by
  rw [← plus_items] at hpaths ⊢
  exact ⟨hpaths, hperm.filterMap _, hperm.filterMap _⟩

theorem nodup_settings (i : Invocation) : (i.arguments.settings.map Prod.fst).Nodup := by
  unfold arguments value?
  cases i.format <;> cases i.config <;> simp

theorem lookup_arguments (i : Invocation) (s : Setting) :
    i.arguments.settings.lookup s = i.value? s := by
  unfold arguments value?
  cases i.format <;> cases i.config <;> cases s <;> rfl

theorem sound_arguments (h : ∀ item ∈ i.items, item.IsProper) : i.arguments.Sound where
  few := by
    unfold arguments
    cases i.output <;> simp
  paths hmem := (h (.path ⟨[]⟩) (by simpa [items] using hmem)).1 rfl
  flags := List.Pairwise.filter _ (by decide)
  settings := i.nodup_settings
  values := by
    rintro ⟨s, value⟩ hmem
    have hvalue : i.value? s = some value := by
      rw [← i.lookup_arguments]
      exact Entries.lookup_eq_some_of_mem i.nodup_settings hmem
    cases s with
    | format =>
      obtain ⟨format, -, rfl⟩ := Option.map_eq_some_iff.mp hvalue
      simp [Setting.fault?]
    | config =>
      have hproper : IsValue value := h (.setting .config value) (by simpa [items] using hmem)
      exact if_neg hproper.1

theorem contains_arguments (i : Invocation) (f : Flag) :
    i.arguments.flags.contains f = i.isRaised f := by
  rw [Bool.eq_iff_iff, List.contains_iff_mem]
  cases f <;> simp [arguments]

theorem request?_arguments (i : Invocation) : i.arguments.request? = some i.request := by
  have hformat : (i.format.map encode).bind Text.Utf8.decode? = i.format := by
    cases i.format <;> simp
  have hconfig : (i.config.map Path.bytes).map Path.mk = i.config := by
    cases i.config <;> rfl
  have houtput : i.output.toList.head? = i.output := by
    cases i.output <;> rfl
  have hpaths : i.arguments.paths = i.input :: i.output.toList := rfl
  simp only [Arguments.request?, contains_arguments, lookup_arguments, hpaths, isRaised, value?,
    hformat, hconfig, houtput, request]

/-- However an invocation is arranged, the same is read. -/
theorem Arranges.read (h : i.Arranges words) :
    ∃ a, Arguments.read words = .ok a ∧ a.Alike i.arguments ∧ i.arguments.Sound := by
  obtain ⟨items, hperm, hpaths, hspells⟩ := h
  have hsound : i.arguments.Sound := sound_arguments fun item hitem =>
    hspells.isProper item (hperm.mem_iff.mpr hitem)
  have halike := alike_of_perm hperm hpaths
  refine ⟨_, ?_, halike, hsound⟩
  rw [Arguments.read_of_spells hspells]
  exact Arguments.foldlM_add (halike.sound hsound)

theorem Arranges.command (h : i.Arranges words) :
    Command.read words = .ok (if i.listFormats then .listFormats else .run i.request) := by
  obtain ⟨a, hread, halike, hsound⟩ := h.read
  have hlist : a.flags.contains .listFormats = i.listFormats :=
    halike.flags.contains_eq.trans (i.contains_arguments .listFormats)
  rw [Command.read, hread]
  simp only [hlist, halike.request? hsound, request?_arguments]
  cases i.listFormats <;> rfl

theorem Arranges.logged {Filter : Type} (h : i.Arranges words) (l : Logger Filter)
    (value : Option (List UInt8)) (t : FileTree) (o : Config.Traversal) :
    l.logged value words t o =
      if i.listFormats then "" else l.log (l.filter value i.logLevel) i.request t o := by
  obtain ⟨a, hread, halike, -⟩ := h.read
  have hlevel : a.logLevel = i.logLevel := by
    rw [halike.logLevel, Arguments.logLevel, contains_arguments]
    rfl
  rw [Logger.logged, hread, h.command]
  cases i.listFormats
  · exact congrArg (fun level => l.log (l.filter value level) i.request t o) hlevel
  · rfl

end Invocation

theorem Invocation.Arranges.executeWords {i : Invocation} {words : List Word}
    (h : i.Arranges words) (hrun : i.listFormats = false) (t : FileTree) (o : Config.Traversal) :
    executeWords words t o =
      (Report.ofOutcome (run i.request t o).1, (run i.request t o).2) := by
  rw [CommandLine.executeWords, h.command, hrun]
  rfl

end AdTemplates.CommandLine
