import AdTemplates.Proofs.Config.Layer

/-! The settings of a file, as its YAML mapping spells them, and the layer that they make. -/
namespace AdTemplates
open Config

namespace Yaml.Node

/-- The value that a node is, unless it has parts or cannot be read. -/
def scalar? : Node → Option Scalar
  | .null | .invalid => some .nil
  | .boolean b => some (.boolean b)
  | .integer n => some (.integer n)
  | .real text => (Number.Binary64.read? text.toList).map .float
  | .string text => some (.text text)
  | .sequence _ | .mapping _ => none

/-- The node of an entry that stands under a key. -/
def valueOf? (key : String) (e : Node × Node) : Option Node :=
  match e.1 with
  | .string k => if k = key then some e.2 else none
  | _ => none

/-- The node that a mapping has under a key, the last one if there are several. -/
def under? (node : Node) (key : String) : Option Node :=
  match node with
  | .mapping entries => (entries.filterMap (valueOf? key)).getLast?
  | _ => none

theorem mem_of_under? {entries : List (Node × Node)} {key : String} {node : Node}
    (h : (mapping entries).under? key = some node) : (.string key, node) ∈ entries := by
  obtain ⟨⟨name, value⟩, he, hunder⟩ := List.mem_filterMap.mp (List.mem_of_getLast? h)
  unfold valueOf? at hunder
  split at hunder
  · rename_i k hk
    obtain ⟨rfl, hvalue⟩ := Option.ite_none_right_eq_some.mp hunder
    cases hvalue
    exact hk ▸ he
  · cases hunder

/-- The value that a mapping of sections has for a setting. -/
def setting? (node : Node) (k : Setting) : Option Scalar :=
  ((node.under? k.within.key).bind (·.under? k.name)).bind scalar?

/-- A mapping of settings of a section to scalars. -/
def GivesSettings (s : Config.Section) : Node → Prop
  | .mapping entries =>
    ∀ e ∈ entries, (∃ k : Setting, k.within = s ∧ e.1 = .string k.name) ∧ ∃ x, e.2.scalar? = some x
  | _ => False

/-- A mapping of sections to settings that they have. -/
def IsLayer : Node → Prop
  | .mapping entries =>
    ∀ e ∈ entries, ∃ s : Config.Section, e.1 = .string s.key ∧ e.2.GivesSettings s
  | _ => False

end Yaml.Node

namespace Config.Value
open Yaml (Node)

theorem ofNode_scalar {node : Node} {x : Scalar} (h : node.scalar? = some x) (source : String) :
    ofNode source node = .ok (.scalar (some source) x) := by
  cases node with
  | real text =>
    obtain ⟨r, hr, rfl⟩ := Option.map_eq_some_iff.mp h
    simp [ofNode, hr]
  | sequence items => cases h
  | mapping entries => cases h
  | _ => cases h; rfl

/-- The value of a node that can be read. -/
def ofReadable (source : String) (node : Node) : Value :=
  (ofNode source node).toOption.getD nil

theorem ofReadable_eq {source : String} {node : Node} {v : Value} (h : ofNode source node = .ok v) :
    ofReadable source node = v := by
  rw [ofReadable, h]
  rfl

/-- What a mapping becomes. Of the entries of a key the last one remains. -/
structure Becomes (source : String) (before : List (String × Value)) (nodes : List (Node × Node))
    (entries : List (String × Value)) : Prop where
  ofEntries : ofEntries source before nodes = .ok entries
  keysDiffer : (entries.map Prod.fst).Nodup
  lookup : ∀ key, entries.lookup key =
    ((nodes.filterMap (Node.valueOf? key)).getLast?.map (ofReadable source)).or (before.lookup key)

theorem exists_becomes {source : String} {nodes : List (Node × Node)} {p : String × Value → Prop}
    (h : ∀ e ∈ nodes, ∃ key v, e.1 = .string key ∧ ofNode source e.2 = .ok v ∧ p (key, v))
    (before : List (String × Value)) (hn : (before.map Prod.fst).Nodup) (hp : ∀ e ∈ before, p e) :
    ∃ entries, Becomes source before nodes entries ∧ ∀ e ∈ entries, p e := by
  induction nodes generalizing before with
  | nil => exact ⟨before, ⟨rfl, hn, fun key => rfl⟩, hp⟩
  | cons e nodes ih =>
    obtain ⟨name, node⟩ := e
    obtain ⟨⟨k, v, rfl, hv, hpv⟩, hmore⟩ := List.forall_mem_cons.mp h
    obtain ⟨entries, hr, hpe⟩ :=
      ih hmore _ (Entries.nodup_keys_set k v hn) (Entries.forall_mem_set hp hpv)
    refine ⟨entries, ⟨?_, hr.keysDiffer, fun key => ?_⟩, hpe⟩
    · simp only [Value.ofEntries, hv]
      exact hr.ofEntries
    · have hunder : (Node.valueOf? key (.string k, node)).map (ofReadable source) =
          if key = k then some v else none := by
        simp only [Node.valueOf?, eq_comm (a := k)]
        split
        · exact congrArg some (ofReadable_eq hv)
        · rfl
      rw [hr.lookup, getLast?_filterMap_cons, Entries.lookup_set, Option.map_or, hunder,
        Option.or_assoc]
      split <;> rfl

/-- A mapping is read as a table that holds, under every key, what its last entry of that
key is read as. -/
theorem ofNode_mapping (source : String) {nodes : List (Node × Node)} (p : String × Value → Prop)
    (h : ∀ e ∈ nodes, ∃ key v, e.1 = .string key ∧ ofNode source e.2 = .ok v ∧ p (key, v)) :
    ∃ entries, ofNode source (.mapping nodes) = .ok (.table (some source) entries) ∧
      (entries.map Prod.fst).Nodup ∧ (∀ e ∈ entries, p e) ∧
      ∀ key, entries.lookup key = ((Node.mapping nodes).under? key).map (ofReadable source) := by
  obtain ⟨entries, hr, hp⟩ := exists_becomes h [] List.nodup_nil (by simp)
  refine ⟨entries, ?_, hr.keysDiffer, hp, fun key => ?_⟩
  · simp only [ofNode, hr.ofEntries]
    rfl
  · rw [hr.lookup, List.lookup_nil, Option.or_none]
    rfl

/-- Settings of a section are read as a table of them. -/
theorem ofNode_settings {s : Config.Section} {node : Node} (h : node.GivesSettings s)
    (source : String) :
    ∃ table, ofNode source node = .ok table ∧ table.HoldsSettings ∧
      ∀ key, table.member? key =
        ((node.under? key).bind Node.scalar?).map (.scalar (some source)) := by
  cases node with
  | mapping nodes =>
    obtain ⟨entries, hread, hn, hp, hlookup⟩ := ofNode_mapping source
      (fun e => (∃ k : Setting, e.1 = k.name) ∧ ∃ o x, e.2 = .scalar o x) fun e he => by
        obtain ⟨⟨k, -, hk⟩, x, hx⟩ := h e he
        exact ⟨k.name, _, hk, ofNode_scalar hx source, ⟨k, rfl⟩, _, x, rfl⟩
    refine ⟨_, hread, ⟨hn, hp⟩, fun key => (hlookup key).trans ?_⟩
    cases hentry : (Node.mapping nodes).under? key with
    | none => rfl
    | some n =>
      obtain ⟨-, x, hx⟩ := h _ (Node.mem_of_under? hentry)
      simp [hx, ofReadable_eq (ofNode_scalar hx source)]
  | _ => exact absurd h id

/-- A mapping of sections is read as a layer with the same settings. -/
theorem ofNode_layer {node : Node} (h : node.IsLayer) (source : String) :
    ∃ entries, ofNode source node = .ok (.table (some source) entries) ∧ IsLayer entries ∧
      ∀ k, (Value.table none entries).setting? k =
        (node.setting? k).map (.scalar (some source)) := by
  cases node with
  | mapping nodes =>
    obtain ⟨entries, hread, hn, hp, hlookup⟩ := ofNode_mapping source
      (fun e => (∃ s : Config.Section, e.1 = s.key) ∧ e.2.HoldsSettings) fun e he => by
        obtain ⟨s, hs, hsettings⟩ := h e he
        obtain ⟨table, htable, hholds, -⟩ := ofNode_settings hsettings source
        exact ⟨s.key, table, hs, htable, ⟨s, rfl⟩, hholds⟩
    refine ⟨entries, hread, ⟨hn, hp⟩, fun k => ?_⟩
    change (entries.lookup k.within.key).bind _ = _
    rw [hlookup, Node.setting?]
    cases hentry : (Node.mapping nodes).under? k.within.key with
    | none => rfl
    | some n =>
      obtain ⟨s, -, hsettings⟩ := h _ (Node.mem_of_under? hentry)
      obtain ⟨table, htable, -, hmember⟩ := ofNode_settings hsettings source
      simp only [Option.map_some, Option.bind_some, ofReadable_eq htable, hmember]
  | _ => exact absurd h id

end Config.Value

namespace Config

theorem Value.layEntry_section {e : String × Value} {s : Section} (h : e.1 = s.key)
    (target : Value) : target.layEntry e = .ok (target.assign e.1 e.2) := by
  simp only [layEntry, h, s.parse_key, putAt, put, if_true]

theorem Value.foldlM_layEntry {entries : List (String × Value)} (h : IsLayer entries)
    (target : Value) : entries.foldlM layEntry target = .ok (assignAll target entries) := by
  have hkeys : ∀ e ∈ entries, ∃ s : Section, e.1 = s.key := fun e he => (h.holdsSettings e he).1
  clear h
  induction entries generalizing target with
  | nil => rfl
  | cons e more ih =>
    obtain ⟨⟨s, hs⟩, hmore⟩ := List.forall_mem_cons.mp hkeys
    rw [List.foldlM_cons, layEntry_section hs, assignAll]
    exact ih _ hmore

theorem readTable_of_node {source text : String} {node : Yaml.Node} {o : Origin}
    {entries : List (String × Value)} (hyaml : Yaml.Node.read? text = some [node])
    (hread : Value.ofNode source node = .ok (.table o entries)) :
    readTable source text = .ok entries := by
  unfold readTable
  rw [hyaml]
  simp only [hread]
  rfl

namespace Source

/-- The node of a file that is there and holds one YAML document. -/
def node? (t : FileTree) (s : Source) : Option Yaml.Node := do
  let file ← s.locate? t
  let text ← (t.read file).toOption.bind Text.Utf8.decode?
  match Yaml.Node.read? text with
  | some [node] => some node
  | _ => none

/-- How messages call a file. -/
def origin (t : FileTree) (s : Source) : Origin :=
  (s.locate? t).map fun file => (file.relativeTo t.workingPath).display

/-- The value that a file has for a setting. -/
def setting? (t : FileTree) (s : Source) (k : Setting) : Option Value :=
  ((s.node? t).bind (·.setting? k)).map (.scalar (s.origin t))

/-- The file holds a mapping of sections to settings, or it is missing and may be. -/
def Applies (t : FileTree) (s : Source) : Prop :=
  (∃ node, s.node? t = some node ∧ node.IsLayer) ∨ s.locate? t = none ∧ s.required = false

theorem node?_eq_some_iff {t : FileTree} {s : Source} {node : Yaml.Node} :
    s.node? t = some node ↔ ∃ file text, s.locate? t = some file ∧
      (t.read file).toOption.bind Text.Utf8.decode? = some text ∧
      Yaml.Node.read? text = some [node] := by
  constructor
  · intro h
    obtain ⟨file, hfile, hrest⟩ := Option.bind_eq_some_iff.mp h
    obtain ⟨text, htext, hone⟩ := Option.bind_eq_some_iff.mp hrest
    refine ⟨file, text, hfile, htext, ?_⟩
    split at hone
    · cases hone; assumption
    · cases hone
  · rintro ⟨file, text, hfile, htext, hread⟩
    simp only [node?, hfile, Option.bind_eq_bind, Option.bind_some, htext, hread]

theorem load_of_table {t : FileTree} {s : Source} {text : String} {node : Yaml.Node} {o : Origin}
    {entries : List (String × Value)} (file : Path) (name : String)
    (hfile : s.locate? t = some file)
    (htext : (t.read file).toOption.bind Text.Utf8.decode? = some text)
    (hname : (file.relativeTo t.workingPath).display = name)
    (hyaml : Yaml.Node.read? text = some [node])
    (hread : Value.ofNode name node = .ok (.table o entries)) : s.load t = .ok entries := by
  simp only [load, hfile, htext, hname]
  exact readTable_of_node hyaml hread

theorem load_of_node {t : FileTree} {s : Source} {node : Yaml.Node} (hn : s.node? t = some node)
    (hl : node.IsLayer) :
    ∃ entries, s.load t = .ok entries ∧ Value.IsLayer entries ∧
      ∀ k, (Value.table none entries).setting? k = s.setting? t k := by
  obtain ⟨file, text, hfile, htext, hyaml⟩ := node?_eq_some_iff.mp hn
  obtain ⟨entries, hread, hlayer, hsetting⟩ :=
    Value.ofNode_layer hl (file.relativeTo t.workingPath).display
  refine ⟨entries, ?_, hlayer, fun k => ?_⟩
  · exact load_of_table file _ hfile htext rfl hyaml hread
  · simp only [hsetting, setting?, hn, origin, hfile, Option.bind_some, Option.map_some]

end Source

/-- Layers in the order in which everything was written down. -/
theorem Loader.layers_asWritten (l : Loader) (t : FileTree) :
    l.layers t =
      l.sources.foldlM (laySource t id) defaultLayer >>= l.overrides.foldlM layOverride := by
  have hsources : l.sources.zipIdx.foldlM (fun below s => laySource t id below s.1) defaultLayer =
      l.sources.foldlM (laySource t id) defaultLayer := by
    rw [← List.foldlM_map, List.zipIdx_map_fst]
  rw [← hsources]
  rfl

/-- A file is laid over what was there. -/
theorem Loader.laySource_isOver {t : FileTree} {s : Source} (h : s.Applies t) (below : Value) :
    ∃ above, laySource t id below s = .ok above ∧ above.IsOver below (s.setting? t) := by
  obtain ⟨node, hnode, hlayer⟩ | ⟨hmissing, hrequired⟩ := h
  · obtain ⟨entries, hload, hentries, hsetting⟩ := Source.load_of_node hnode hlayer
    refine ⟨Value.assignAll below entries, ?_, fun k => ?_⟩
    · rw [laySource, hload]
      exact Value.foldlM_layEntry hentries below
    · rw [Value.isOver_assignAll hentries below k, hsetting]
  · refine ⟨below, ?_, fun k => ?_⟩
    · rw [laySource, Source.load, hmissing, hrequired]
      rfl
    · rw [Source.setting?, Source.node?, hmissing]
      rfl

end Config
end AdTemplates
