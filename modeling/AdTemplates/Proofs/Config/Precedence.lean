import AdTemplates.Proofs.Config.File
import AdTemplates.Proofs.Config.Order
import AdTemplates.Proofs.Config.Override

/-! Which layer wins. A loader takes files and single settings in any order. For every
setting the last single value counts, whenever it was given; without one the last file that
has the setting, and without that the default. -/
namespace AdTemplates.Config.Loader

/-- What a loader is told. -/
inductive Call where
  | file (path : Path)
  | optionalFile (path : Path)
  | override (k : Setting) (s : Scalar)
  deriving DecidableEq, Repr

namespace Call

def apply (l : Loader) : Call → Except Error Loader
  | .file path => .ok (l.withFile path)
  | .optionalFile path => .ok (l.withOptionalFile path)
  | .override k s => l.override? k.key s

/-- The file that a call adds. -/
def source? : Call → Option Source
  | .file path => some ⟨path, true⟩
  | .optionalFile path => some ⟨path, false⟩
  | .override .. => none

/-- The value that a call gives to a setting. -/
def override? (k : Setting) : Call → Option Scalar
  | .override j s => if j = k then some s else none
  | _ => none

end Call

/-- The value that counts for a setting. -/
def flattened (t : FileTree) (calls : List Call) (k : Setting) : Value :=
  let single := (calls.filterMap (·.override? k)).getLast?
  let file := ((calls.filterMap (·.source?)).filterMap (·.setting? t k)).getLast?
  ((single.map (.scalar none)).or file).getD (.scalar none k.default)

/-- Single values, at most one for each setting. -/
structure SetsSettings (overrides : List (KeyPath × Scalar)) : Prop where
  pathsDiffer : (overrides.map Prod.fst).Nodup
  settings : ∀ o ∈ overrides, ∃ k : Setting, o.1 = k.path

theorem SetsSettings.override {overrides : List (KeyPath × Scalar)} (h : SetsSettings overrides)
    (k : Setting) (s : Scalar) : SetsSettings (Entries.set k.path s overrides) :=
  ⟨Entries.nodup_keys_set _ _ h.pathsDiffer, Entries.forall_mem_set h.settings ⟨k, rfl⟩⟩

/-- What a single value gives to a setting. -/
def givenBy (o : KeyPath × Scalar) (k : Setting) : Option Value :=
  if o.1 = k.path then some (.scalar none o.2) else none

theorem layOverride_isOver {o : KeyPath × Scalar} {k : Setting} (h : o.1 = k.path)
    (below : Value) :
    ∃ above, layOverride below o = .ok above ∧ above.IsOver below (givenBy o) := by
  obtain ⟨path, s⟩ := o
  obtain rfl : path = k.path := h
  refine ⟨below.withSetting k (.scalar none s), layOverride_path k s below, fun j => ?_⟩
  unfold Value.setting? givenBy
  rw [Value.member?_withSetting]
  simp only [Setting.path_inj]
  by_cases hs : j.within = k.within
  · rw [if_pos hs, Option.bind_some, Value.member?_setMember, Value.member?_getD _ rfl, hs]
    simp only [Setting.name_inj, eq_comm (a := j)]
    split <;> rfl
  · rw [if_neg hs, if_neg fun hj : k = j => hs (hj ▸ rfl), Option.none_or]

theorem SetsSettings.lastOf_givenBy {overrides : List (KeyPath × Scalar)}
    (h : SetsSettings overrides) (k : Setting) :
    Value.lastOf givenBy overrides k = (overrides.lookup k.path).map (.scalar none) :=
  Entries.getLast?_filterMap h.pathsDiffer _ _

theorem Call.override?_override (j k : Setting) (s : Scalar) :
    (Call.override j s).override? k = if j = k then some s else none := rfl

/-- What a loader has been told, besides what it was to begin with. -/
structure Told (before : Loader) (calls : List Call) (l : Loader) : Prop where
  sources : l.sources = before.sources ++ calls.filterMap (·.source?)
  setsSettings : SetsSettings l.overrides
  lookup : ∀ k : Setting, l.overrides.lookup k.path =
    ((calls.filterMap (·.override? k)).getLast?).or (before.overrides.lookup k.path)

theorem told_one (before : Loader) (h : SetsSettings before.overrides) (c : Call) :
    ∃ l, Call.apply before c = .ok l ∧ Told before [c] l := by
  cases c with
  | file path => exact ⟨_, rfl, rfl, h, fun k => rfl⟩
  | optionalFile path => exact ⟨_, rfl, rfl, h, fun k => rfl⟩
  | override j s =>
    refine ⟨before.override j.path s, ?_, (List.append_nil _).symm, h.override j s, fun k => ?_⟩
    · rw [Call.apply, override?, j.parse_key]
    · rw [getLast?_filterMap_cons, Call.override?_override]
      change (Entries.set j.path s before.overrides).lookup k.path = _
      rw [Entries.lookup_set]
      simp only [Setting.path_inj, eq_comm (a := k)]
      split <;> rfl

theorem Told.cons {before next l : Loader} {c : Call} {calls : List Call}
    (hone : Told before [c] next) (h : Told next calls l) : Told before (c :: calls) l where
  sources := by
    rw [h.sources, hone.sources, List.append_assoc, ← List.filterMap_append]
    rfl
  setsSettings := h.setsSettings
  lookup k := by
    rw [h.lookup, hone.lookup, getLast?_filterMap_cons, getLast?_filterMap_cons, ← Option.or_assoc]
    rfl

/-- No call fails, and of several single values for a setting the last one is kept. -/
theorem told (before : Loader) (h : SetsSettings before.overrides) (calls : List Call) :
    ∃ l, calls.foldlM Call.apply before = .ok l ∧ Told before calls l := by
  induction calls generalizing before with
  | nil => exact ⟨before, rfl, (List.append_nil _).symm, h, fun k => rfl⟩
  | cons c calls ih =>
    obtain ⟨next, hnext, hone⟩ := told_one before h c
    obtain ⟨l, hl, hmore⟩ := ih next hone.setsSettings
    refine ⟨l, ?_, hone.cons hmore⟩
    rw [List.foldlM_cons, hnext]
    exact hl

theorem holds_defaultLayer : defaultLayer.Holds fun k => .scalar none k.default := by
  intro k
  cases k <;> rfl

/-- In a file of sections and settings no two entries reach the same place. -/
theorem unambiguous_of_applies {t : FileTree} {s : Source} (h : s.Applies t) :
    s.Unambiguous t := by
  obtain ⟨node, hnode, hlayer⟩ | ⟨hmissing, -⟩ := h
  · intro entries hentries
    obtain ⟨layer, hload, hlayer, -⟩ := Source.load_of_node hnode hlayer
    cases hentries.symm.trans hload
    exact hlayer.unambiguous
  · exact Source.unambiguous_of_missing hmissing

/-- The layers after some calls, and that they hold the values that count. -/
theorem exists_layers {t : FileTree} {calls : List Call}
    (h : ∀ s ∈ calls.filterMap (·.source?), s.Applies t) :
    ∃ l root, calls.foldlM Call.apply {} = .ok l ∧ l.Settled t ∧ l.layers t = .ok root ∧
      root.Holds (flattened t calls) := by
  obtain ⟨l, hl, htold⟩ := told {} ⟨List.nodup_nil, by simp⟩ calls
  have hsources : l.sources = calls.filterMap (·.source?) := htold.sources
  have hfile : ∀ s ∈ l.sources, ∀ below, ∃ above, laySource t id below s = .ok above ∧
      above.IsOver below (s.setting? t) :=
    fun s hs => laySource_isOver (h s (hsources ▸ hs))
  have hsingle : ∀ o ∈ l.overrides, ∀ below, ∃ above, layOverride below o = .ok above ∧
      above.IsOver below (givenBy o) := by
    intro o ho
    obtain ⟨k, hk⟩ := htold.setsSettings.settings o ho
    exact layOverride_isOver hk
  obtain ⟨files, hfiles, hlastFile⟩ := Value.foldlM_isOver hfile defaultLayer
  obtain ⟨root, hroot, hlastSingle⟩ := Value.foldlM_isOver hsingle files
  refine ⟨l, root, hl, ?_, ?_, fun k => ?_⟩
  · exact {
      sources := fun s hs => unambiguous_of_applies (h s (hsources ▸ hs))
      overrides := parted_overrides htold.setsSettings.pathsDiffer htold.setsSettings.settings }
  · rw [layers_asWritten, hfiles]
    exact hroot
  · rw [hlastSingle k, hlastFile k, htold.setsSettings.lastOf_givenBy, htold.lookup, hsources,
      holds_defaultLayer k, List.lookup_nil, Option.or_none, flattened, ← Option.or_assoc,
      Option.or_some]
    rfl

/-- However files and single values are mixed, the settings are those of the values that
count, and so is the failure if there is one. In whatever order tables are gone through, the
settings are the same ones, or the failure is of the same kind. -/
theorem build_eq_settle {t : FileTree} {calls : List Call}
    (h : ∀ s ∈ calls.filterMap (·.source?), s.Applies t) :
    (do
      let l ← calls.foldlM Call.apply {}
      l.build t) = Settings.settle (flattened t calls) ∧
    ∀ o, SameOutcome
      (do
        let l ← calls.foldlM Call.apply {}
        l.build t o)
      (Settings.settle (flattened t calls)) := by
  obtain ⟨l, root, hl, hsettled, hlayers, hholds⟩ := exists_layers h
  have hbuild (o : Traversal) :
      l.build t o = Settings.read root o >>= Settings.validate := by
    rw [l.build_eq hsettled o .asWritten, hlayers]
    rfl
  rw [hl]
  refine ⟨?_, fun o => ?_⟩
  · change l.build t = _
    rw [hbuild]
    exact Settings.read_of_holds hholds
  · change SameOutcome (l.build t o) _
    rw [hbuild]
    exact Settings.read_sameOutcome hholds o

/-- Two files for the same section. The first one alone would be refused. -/
def twoFiles : FileTree :=
  ⟨[([Text.Utf8.encode "a"], .file (Text.Utf8.encode "limits:\n  title: 0\n")),
    ([Text.Utf8.encode "b"], .file (Text.Utf8.encode "limits:\n  text: 90\n"))], []⟩

def twoFileCalls : List Call :=
  [.override .titleLimit (.integer 20), .file (.ofString "a"), .optionalFile (.ofString "c"),
    .file (.ofString "b")]

/-- What counts after these calls. -/
def twoFileValues : Setting → Value
  | .titleLimit => .scalar none (.integer 20)
  | .textLimit => .scalar (Source.origin twoFiles ⟨.ofString "b", true⟩) (.integer 90)
  | k => .scalar none k.default

/-- A mapping with a single setting. -/
def singleNode (k : Setting) (n : Int) : Yaml.Node :=
  .mapping [(.string k.within.key, .mapping [(.string k.name, .integer n)])]

theorem isLayer_singleNode (k : Setting) (n : Int) : (singleNode k n).IsLayer := by
  simp [singleNode, Yaml.Node.IsLayer, Yaml.Node.GivesSettings, Yaml.Node.scalar?]

theorem setting?_singleNode (j k : Setting) (n : Int) :
    (singleNode k n).setting? j = if k = j then some (.integer n) else none := by
  cases j <;> cases k <;> rfl

theorem node_a : Source.node? twoFiles ⟨.ofString "a", true⟩ = some (singleNode .titleLimit 0) := by
  have htokens : Yaml.Token.scan? "limits:\n  title: 0\n".toList =
      some [.blockMappingStart, .key, .scalar true "limits", .value, .blockMappingStart, .key,
        .scalar true "title", .value, .scalar true "0", .blockEnd, .blockEnd, .streamEnd] := by
    decide +kernel
  refine Source.node?_eq_some_iff.mpr ⟨.ofString "/a", "limits:\n  title: 0\n",
    by decide +kernel, by decide +kernel, ?_⟩
  rw [Yaml.Node.read?, htokens]
  rfl

theorem node_b : Source.node? twoFiles ⟨.ofString "b", true⟩ = some (singleNode .textLimit 90) := by
  have htokens : Yaml.Token.scan? "limits:\n  text: 90\n".toList =
      some [.blockMappingStart, .key, .scalar true "limits", .value, .blockMappingStart, .key,
        .scalar true "text", .value, .scalar true "90", .blockEnd, .blockEnd, .streamEnd] := by
    decide +kernel
  refine Source.node?_eq_some_iff.mpr ⟨.ofString "/b", "limits:\n  text: 90\n",
    by decide +kernel, by decide +kernel, ?_⟩
  rw [Yaml.Node.read?, htokens]
  rfl

/-- The single value wins over the first file although it was given before, and the second
file does not reset it. -/
theorem build_twoFiles :
    (∀ s ∈ twoFileCalls.filterMap (·.source?), s.Applies twoFiles) ∧
      (do
        let l ← twoFileCalls.foldlM Call.apply {}
        l.build twoFiles) = .ok ⟨⟨20, 90⟩, false, false, "tsv"⟩ ∧
      ∀ o, (do
        let l ← twoFileCalls.foldlM Call.apply {}
        l.build twoFiles o) = .ok ⟨⟨20, 90⟩, false, false, "tsv"⟩ := by
  have hmissing : Source.locate? twoFiles ⟨.ofString "c", false⟩ = none := by decide +kernel
  have happlies : ∀ s ∈ twoFileCalls.filterMap (·.source?), s.Applies twoFiles := by
    simp only [twoFileCalls, List.filterMap_cons, Call.source?, List.filterMap_nil,
      List.forall_mem_cons]
    exact ⟨.inl ⟨_, node_a, isLayer_singleNode _ _⟩, .inr ⟨hmissing, rfl⟩,
      .inl ⟨_, node_b, isLayer_singleNode _ _⟩, by simp⟩
  have hc : Source.node? twoFiles ⟨.ofString "c", false⟩ = none := by
    rw [Source.node?, hmissing]
    rfl
  have hflat : flattened twoFiles twoFileCalls = twoFileValues := by
    funext k
    cases k <;> simp [flattened, twoFileValues, twoFileCalls, Call.source?, Call.override?,
      Source.setting?, node_a, node_b, hc, setting?_singleNode]
  have hsettle : Settings.settle (flattened twoFiles twoFileCalls) =
      .ok ⟨⟨20, 90⟩, false, false, "tsv"⟩ := by
    rw [hflat]
    rfl
  obtain ⟨hbuild, hevery⟩ := build_eq_settle happlies
  rw [hsettle] at hbuild hevery
  exact ⟨happlies, hbuild, fun o => (hevery o).eq_ok⟩

end AdTemplates.Config.Loader
