import AdTemplates.Proofs.Config.Leaves
import AdTemplates.Proofs.Config.Reading

/-! When the order in which tables are gone through is of no account. If no two entries of a file
reach the same place, the layers come to the same in every order (`layers_alike`), and so do the
settings that are read from them (`build_eq_ok_of_settled`). -/
namespace AdTemplates.Config

namespace Value

variable {root other v w : Value}

/-! ### Reading -/

/-- What refuses arrays and tables, whatever is in them, does not tell values apart that are
alike. -/
theorem Alike.read_eq {α : Type} {read : Value → Except Mismatch α} {expected : Kind}
    (harray : ∀ o items, read (.array o items) = .error ⟨.array, expected⟩)
    (htable : ∀ o entries, read (.table o entries) = .error ⟨.table, expected⟩)
    (h : v.Alike w) : read v = read w := by
  have hfound := h.found
  cases v with
  | scalar o s => rw [h.eq_of_scalar]
  | array o items =>
    cases w with
    | array o' others => rw [harray, harray]
    | _ => cases hfound
  | table o entries =>
    cases w with
    | table o' others => rw [htable, htable]
    | _ => cases hfound

/-- The same field is found, with a value that is alike. -/
theorem Alike.field? (h : v.Alike w) (name : String) (position : Nat) :
    Option.Rel (fun a b => a.1 = b.1 ∧ a.2.Alike b.2) (v.field? name position)
      (w.field? name position) := by
  have hfound := h.found
  have hmember := h.member? name
  have hitem := h.items.getElem? position
  cases v with
  | scalar o s => rw [h.eq_of_scalar]; exact .none
  | array o items =>
    cases w with
    | array o' others =>
      change OptionAlike items[position]? others[position]? at hitem
      unfold Value.field?
      dsimp only
      generalize items[position]? = a at hitem ⊢
      generalize others[position]? = b at hitem ⊢
      cases hitem with
      | none => exact .none
      | some hab => exact .some ⟨rfl, hab⟩
    | _ => cases hfound
  | table o entries =>
    cases w with
    | table o' others =>
      change OptionAlike (entries.lookup name) (others.lookup name) at hmember
      unfold Value.field?
      dsimp only
      generalize entries.lookup name = a at hmember ⊢
      generalize others.lookup name = b at hmember ⊢
      cases hmember with
      | none => exact .none
      | some hab => exact .some ⟨rfl, hab⟩
    | _ => cases hfound

theorem Alike.readHeld {α : Type} {read : Value → Except Mismatch α} (h : v.Alike w)
    (hread : ∀ v w : Value, v.Alike w → read v = read w) (k : Setting) (missing : α) :
    v.readHeld k read missing = w.readHeld k read missing := by
  have hfield := h.field? k.name k.position
  unfold Value.readHeld
  generalize v.field? k.name k.position = a at hfield ⊢
  generalize w.field? k.name k.position = b at hfield ⊢
  cases hfield with
  | none => rfl
  | @some a b hab =>
    obtain ⟨step, v⟩ := a
    obtain ⟨step', w⟩ := b
    obtain ⟨hstep, hvalue⟩ := hab
    obtain rfl : step = step' := hstep
    simp only [hread v w hvalue, hvalue.origin]

theorem Alike.readField {α : Type} {read : Value → Except Mismatch α} (h : root.Alike other)
    (hread : ∀ v w : Value, v.Alike w → read v = read w) (k : Setting) (missing : α) :
    root.readField k read missing = other.readField k read missing := by
  have hheld := h.member? k.within.key
  unfold Value.readField
  generalize root.member? k.within.key = a at hheld ⊢
  generalize other.member? k.within.key = b at hheld ⊢
  cases hheld with
  | none => rfl
  | @some a b hab =>
    have hfound := hab.found
    cases a with
    | scalar o s => rw [hab.eq_of_scalar]
    | array o items =>
      cases b with
      | array o' others => exact hab.readHeld hread k missing
      | _ => cases hfound
    | table o entries =>
      cases b with
      | table o' others => exact hab.readHeld hread k missing
      | _ => cases hfound

theorem Alike.reading (h : root.Alike other) (k : Setting) : root.reading k = other.reading k := by
  have hlimit : ∀ v w : Value, v.Alike w → v.toLimit = w.toLimit :=
    fun _ _ => read_eq (fun _ _ => rfl) (fun _ _ => rfl)
  have hflag : ∀ v w : Value, v.Alike w → v.toFlag = w.toFlag :=
    fun _ _ => read_eq (fun _ _ => rfl) (fun _ _ => rfl)
  have htext : ∀ v w : Value, v.Alike w → v.toText = w.toText :=
    fun _ _ => read_eq (fun _ _ => rfl) (fun _ _ => rfl)
  cases k with
  | titleLimit | textLimit => exact congrArg (Except.map _) (h.readField hlimit _ _)
  | skipLong | strictMarkers => exact congrArg (Except.map _) (h.readField hflag _ _)
  | defaultFormat => exact congrArg (Except.map _) (h.readField htext _ _)

theorem Alike.fieldOrder (h : root.Alike other) (o : Traversal) (s : Section) :
    root.fieldOrder o s = other.fieldOrder o s := by
  have hheld := h.member? s.key
  unfold Value.fieldOrder
  generalize root.member? s.key = a at hheld ⊢
  generalize other.member? s.key = b at hheld ⊢
  cases hheld with
  | none => rfl
  | @some a b hab =>
    have hfound := hab.found
    cases a <;> cases b <;> first | rfl | cases hfound

/-- Settings are read alike. -/
theorem Alike.read (h : root.Alike other) (o : Traversal) :
    Settings.read root o = Settings.read other o := by
  have htake : Settings.take root = Settings.take other := by
    funext c k
    rw [Settings.take, Settings.take, h.reading]
  have horder : root.fieldOrder o = other.fieldOrder o := funext fun s => h.fieldOrder o s
  rw [Settings.read, Settings.read, htake, horder]

end Value

/-! ### Layering -/

/-- No two entries reach the same place. -/
def Value.Unambiguous (entries : List (String × Value)) : Prop :=
  Placement.Parted (Value.filePlacements entries)

instance (entries : List (String × Value)) : Decidable (Value.Unambiguous entries) :=
  inferInstanceAs (Decidable (Placement.Parted _))

/-- Whatever file is found, no two of its entries reach the same place. -/
def Source.Unambiguous (t : FileTree) (s : Source) : Prop :=
  ∀ entries, s.load t = .ok entries → Value.Unambiguous entries

/-- A file that is missing leaves nothing to the order. -/
theorem Source.unambiguous_of_missing {t : FileTree} {s : Source} (h : s.locate? t = none) :
    s.Unambiguous t := by
  intro entries hload
  simp only [load, h] at hload
  split at hload
  · cases hload
  · cases hload
    exact List.Pairwise.nil

/-- What a single value puts where. -/
def overridePlacement (o : KeyPath × Scalar) : Placement :=
  ⟨.member o.1.first :: o.1.more, .scalar none o.2⟩

/-- Nothing that is layered leaves anything to an order. -/
structure Loader.Settled (l : Loader) (t : FileTree) : Prop where
  sources : ∀ s ∈ l.sources, s.Unambiguous t
  overrides : Placement.Parted (l.overrides.map overridePlacement)

/-- Layers that are alike, or the same error. -/
inductive LayersAlike : Except Error Value → Except Error Value → Prop where
  | ok {v w : Value} (h : v.Alike w) : LayersAlike (.ok v) (.ok w)
  | error (e : Error) : LayersAlike (.error e) (.error e)

namespace LayersAlike

theorem bind {x y : Except Error Value} (h : LayersAlike x y) {f g : Value → Except Error Value}
    (hf : ∀ v w : Value, v.Alike w → LayersAlike (f v) (g w)) :
    LayersAlike (x >>= f) (y >>= g) := by
  cases h with
  | ok h => exact hf _ _ h
  | error e => exact .error e

theorem orNoPlace {v w : Option Value} (h : Value.OptionAlike v w) :
    LayersAlike (Value.orNoPlace v) (Value.orNoPlace w) := by
  cases h with
  | none => exact .error _
  | some h => exact .ok h

end LayersAlike

namespace Loader

variable {l : Loader} {t : FileTree} {s : Source} {v w : Value}

/-- A file in which no two entries reach the same place can be laid in any order. -/
theorem laySource_alike (hs : s.Unambiguous t) {f g : List (String × Value) → List (String × Value)}
    (hf : ∀ entries, (Value.table none entries).Alike (.table none (f entries)))
    (hg : ∀ entries, (Value.table none entries).Alike (.table none (g entries)))
    (h : v.Alike w) : LayersAlike (laySource t f v s) (laySource t g w s) := by
  unfold laySource
  cases hload : s.load t with
  | error e => exact .error e
  | ok entries =>
    change LayersAlike ((f entries).foldlM Value.layEntry v) ((g entries).foldlM Value.layEntry w)
    have hparted : Placement.Parted (Value.filePlacements (f entries)) :=
      (hf entries).filePlacements.parted (hs entries hload)
    have halike : (Value.table none (f entries)).Alike (.table none (g entries)) :=
      (hf entries).symm.trans (hg entries)
    rw [Value.foldlM_layEntry_eq, Value.foldlM_layEntry_eq]
    exact .orNoPlace (halike.filePlacements.layAll
      (fun a ha => Value.proper_of_mem_filePlacements ha) hparted h)

theorem laySources_alike {sources : List Source} (hs : ∀ s ∈ sources, s.Unambiguous t)
    (o o' : Traversal) (n : Nat) (h : v.Alike w) :
    LayersAlike
      ((sources.zipIdx n).foldlM (fun below s => laySource t (o.file s.2) below s.1) v)
      ((sources.zipIdx n).foldlM (fun below s => laySource t (o'.file s.2) below s.1) w) := by
  induction sources generalizing n v w with
  | nil => exact .ok h
  | cons s more ih =>
    obtain ⟨hfirst, hmore⟩ := List.forall_mem_cons.mp hs
    rw [List.zipIdx_cons, List.foldlM_cons, List.foldlM_cons]
    exact (laySource_alike hfirst (o.file_alike n) (o'.file_alike n) h).bind
      fun _ _ h => ih hmore (n + 1) h

theorem foldlM_layOverride_eq (overrides : List (KeyPath × Scalar)) (below : Value) :
    overrides.foldlM layOverride below =
      Value.orNoPlace (Placement.layAll (overrides.map overridePlacement) below) := by
  induction overrides generalizing below with
  | nil => rfl
  | cons o more ih =>
    rw [List.foldlM_cons, List.map_cons, Placement.layAll_cons]
    change (layOverride below o >>= _) =
      Value.orNoPlace ((below.putAt (.scalar none o.2) o.1).bind _)
    rw [layOverride]
    cases below.putAt (.scalar none o.2) o.1 with
    | none => rfl
    | some u => exact ih u

/-- Where nothing is left to an order, every order makes the same layers. -/
theorem layers_alike (h : l.Settled t) (o o' : Traversal) :
    LayersAlike (l.layers t o) (l.layers t o') := by
  unfold layers
  refine (laySources_alike h.sources o o' 0 (.refl _)).bind fun v w hvw => ?_
  have hperm : (o.overrides l.overrides).Perm (o'.overrides l.overrides) :=
    (o.overrides_perm _).trans (o'.overrides_perm _).symm
  have hproper : ∀ a ∈ (o.overrides l.overrides).map overridePlacement, a.Proper := by
    intro a ha
    obtain ⟨single, -, rfl⟩ := List.mem_map.mp ha
    exact fun _ _ => rfl
  have hparted : Placement.Parted ((o.overrides l.overrides).map overridePlacement) :=
    (Placement.Rearranged.of_perm ((o.overrides_perm _).symm.map _)).parted h.overrides
  rw [foldlM_layOverride_eq, foldlM_layOverride_eq]
  exact .orNoPlace ((Placement.Rearranged.of_perm (hperm.map _)).layAll hproper hparted hvw)

/-- Only the order of reading is left, and only for errors. -/
theorem build_eq (h : l.Settled t) (o o' : Traversal) :
    l.build t o = l.layers t o' >>= fun root => Settings.read root o >>= Settings.validate := by
  have hlayers := l.layers_alike h o o'
  unfold build
  generalize l.layers t o = x at hlayers ⊢
  generalize l.layers t o' = y at hlayers ⊢
  cases hlayers with
  | ok hroot =>
    change (Settings.read _ o >>= _) = (Settings.read _ o >>= _)
    rw [hroot.read o]
  | error e => rfl

-- A dotted key beside its section: the one that is met last wins.
example :
    let dotted : String × Value := ("limits.title", .scalar none (.integer 5))
    let nested : String × Value := ("limits", .table none [("title", .scalar none (.integer 50))])
    ([dotted, nested].foldlM Value.layEntry defaultLayer >>= Settings.read) =
        .ok ⟨⟨50, 75⟩, false, false, "tsv"⟩ ∧
      ([nested, dotted].foldlM Value.layEntry defaultLayer >>= Settings.read) =
        .ok ⟨⟨5, 75⟩, false, false, "tsv"⟩ := by
  decide +kernel

end Loader

/-! ### Keys that are plain names -/

namespace Value

open Placement (Parted)

variable {entries : List (String × Value)}

/-- Where the keys of a table differ, so do the places of its leaves. -/
theorem parted_leavesOf (hn : (entries.map fun e => Text.lower e.1).Nodup)
    (h : ∀ e ∈ entries, Parted e.2.leaves) : Parted (leavesOf entries) := by
  rw [leavesOf_eq_flatMap, Parted, List.pairwise_flatMap]
  constructor
  · intro e he
    refine List.Pairwise.map _ (fun a b hab => ?_) (h e he)
    simpa [apart, Placement.behind] using hab
  · refine (List.pairwise_map.mp hn).imp fun {e f} hne a ha b hb => ?_
    obtain ⟨a, -, rfl⟩ := List.mem_map.mp ha
    obtain ⟨b, -, rfl⟩ := List.mem_map.mp hb
    simp [apart, Placement.behind, hne]

/-- A file in which every key is a plain name leaves nothing to the order if keys of one table
differ. -/
theorem unambiguous_of_names (hkeys : ∀ e ∈ entries, entrySteps e.1 = [.member e.1])
    (hn : (entries.map fun e => Text.lower e.1).Nodup) (h : ∀ e ∈ entries, Parted e.2.leaves) :
    Unambiguous entries := by
  have hplacements : filePlacements entries = leavesOf entries := by
    rw [leavesOf_eq_flatMap, filePlacements]
    refine List.flatMap_congr fun e he => ?_
    rw [entryPlacements, hkeys e he]
    rfl
  rw [Unambiguous, hplacements]
  exact parted_leavesOf hn h

theorem nodup_lower_keys (hl : ∀ e ∈ entries, Text.lower e.1 = e.1)
    (hn : (entries.map Prod.fst).Nodup) : (entries.map fun e => Text.lower e.1).Nodup := by
  rwa [List.map_congr_left hl]

theorem parted_of_holdsSettings {v : Value} (h : v.HoldsSettings) : Parted v.leaves := by
  cases v with
  | scalar o s => cases h
  | array o items => cases h
  | table o entries =>
    obtain ⟨hn, hsettings⟩ := h
    cases entries with
    | nil => exact List.pairwise_singleton ..
    | cons e more =>
      rw [leaves]
      refine parted_leavesOf (nodup_lower_keys (fun e he => ?_) hn) fun e he => ?_
      · obtain ⟨⟨k, hk⟩, -⟩ := hsettings e he
        rw [hk, Setting.lower_name]
      · obtain ⟨-, o, s, hs⟩ := hsettings e he
        rw [hs]
        exact List.pairwise_singleton ..

theorem IsLayer.unambiguous (h : IsLayer entries) : Unambiguous entries := by
  have hsection : ∀ e ∈ entries, ∃ s : Section, e.1 = s.key := fun e he =>
    (h.holdsSettings e he).1
  refine unambiguous_of_names (fun e he => ?_) (nodup_lower_keys (fun e he => ?_) h.keysDiffer)
    fun e he => parted_of_holdsSettings (h.holdsSettings e he).2
  · obtain ⟨s, hs⟩ := hsection e he
    rw [hs, entrySteps, s.parse_key]
  · obtain ⟨s, hs⟩ := hsection e he
    rw [hs, Section.lower_key]

end Value

/-- Single values for different settings are laid in any order. -/
theorem parted_overrides {overrides : List (KeyPath × Scalar)}
    (hn : (overrides.map Prod.fst).Nodup) (h : ∀ o ∈ overrides, ∃ k : Setting, o.1 = k.path) :
    Placement.Parted (overrides.map overridePlacement) := by
  refine List.pairwise_map.mpr ((List.pairwise_map.mp hn).imp_of_mem fun {o o'} ho ho' hne => ?_)
  obtain ⟨j, hj⟩ := h o ho
  obtain ⟨k, hk⟩ := h o' ho'
  have hjk : j ≠ k := fun heq => hne (by rw [hj, hk, heq])
  simp [overridePlacement, hj, hk, Setting.path, apart, hjk]

end AdTemplates.Config
