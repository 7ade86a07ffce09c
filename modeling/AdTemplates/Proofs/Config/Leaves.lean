import AdTemplates.Proofs.Config.Placement

/-! What the entries of a file put where. A table is taken apart into its leaves, each with the keys
that lead to it, and laying the entries of a file is putting their leaves one after the other
(`foldlM_layEntry_eq`). In another order the entries of tables put the same leaves at the same
places. -/
namespace AdTemplates.Config

namespace Placement

/-- What is put at a place behind some steps. -/
def behind (steps : List Step) (p : Placement) : Placement := ⟨steps ++ p.steps, p.value⟩

theorem Rearranged.behind {l l' : List Placement} (h : Rearranged l l') (steps : List Step) :
    Rearranged (l.map (.behind steps)) (l'.map (.behind steps)) := by
  induction h with
  | refl l => exact .refl _
  | trans _ _ ih ih' => exact ih.trans ih'
  | swap before after a b =>
    simp only [List.map_append, List.map_cons]
    exact .swap _ _ _ _
  | value before after more h =>
    simp only [List.map_append, List.map_cons]
    exact .value _ _ (steps ++ more) h

theorem layAll_singleton (a : Placement) (v : Value) : layAll [a] v = lay v a := by
  rw [layAll_cons]
  cases lay v a <;> rfl

theorem lay_member {a : Placement} (h : a.steps ≠ []) (key : String) (v : Value) :
    lay v (a.behind [.member key]) =
      (lay ((v.member? (Text.lower key)).getD .nil) a).map (v.setMember (Text.lower key)) := by
  change Value.put a.value (.member key :: a.steps) v = _
  rw [Value.put_member, Value.putOnto, if_neg h]
  rfl

/-- What is put below a key is put into what the key holds. -/
theorem layAll_member {l : List Placement} (hl : l ≠ []) (hsteps : ∀ a ∈ l, a.steps ≠ [])
    (key : String) (v : Value) :
    layAll (l.map (.behind [.member key])) v =
      (layAll l ((v.member? (Text.lower key)).getD .nil)).map (v.setMember (Text.lower key)) := by
  induction l generalizing v with
  | nil => exact absurd rfl hl
  | cons a more ih =>
    obtain ⟨ha, hmore⟩ := List.forall_mem_cons.mp hsteps
    rw [List.map_cons, layAll_cons, layAll_cons, lay_member ha]
    cases lay ((v.member? (Text.lower key)).getD .nil) a with
    | none => rfl
    | some u =>
      rw [Option.map_some, Option.bind_some, Option.bind_some]
      by_cases hend : more = []
      · subst hend
        rfl
      · rw [ih hend hmore, Value.member?_setMember, if_pos rfl, Option.getD_some]
        exact congrArg (Option.map · _) (funext fun w => Value.setMember_setMember v u w _)

theorem lay_index (a : Placement) (i : Int) (v : Value) :
    lay v (a.behind [.index i]) =
      (place? i v.asArray.2.length).bind fun n =>
        (lay ((v.asArray.2[n]?).getD .nil) a).map fun u =>
          .array v.asArray.1 (setItem v.asArray.2 n u) :=
  Value.put_index a.value v i a.steps

/-- What is put below an index is put into the item that it has. -/
theorem layAll_index {l : List Placement} (hl : l ≠ []) (i : Int) (v : Value) :
    layAll (l.map (.behind [.index i])) v =
      (place? i v.asArray.2.length).bind fun n =>
        (layAll l ((v.asArray.2[n]?).getD .nil)).map fun u =>
          .array v.asArray.1 (setItem v.asArray.2 n u) := by
  induction l generalizing v with
  | nil => exact absurd rfl hl
  | cons a more ih =>
    rw [List.map_cons, layAll_cons, lay_index]
    cases hplace : place? i v.asArray.2.length with
    | none => rfl
    | some n =>
      rw [Option.bind_some, Option.bind_some, layAll_cons]
      cases lay ((v.asArray.2[n]?).getD .nil) a with
      | none => rfl
      | some u =>
        rw [Option.map_some, Option.bind_some, Option.bind_some]
        by_cases hend : more = []
        · subst hend
          rfl
        · rw [ih hend]
          simp only [Value.asArray_array, Value.place?_length_setItem hplace, Option.bind_some,
            Value.getElem?_setItem, if_true, Option.getD_some, Value.setItem_setItem]

end Placement

namespace Value

open Placement (Rearranged layAll)

mutual
/-- What remains of a value when its tables are taken apart, with the keys that lead there. -/
def leaves : Value → List Placement
  | .table o [] => [⟨[], .table o []⟩]
  | .table _ (e :: more) => leavesOf (e :: more)
  | .array o items => [⟨[], .array o items⟩]
  | .scalar o s => [⟨[], .scalar o s⟩]

/-- The leaves of the entries of a table. -/
def leavesOf : List (String × Value) → List Placement
  | [] => []
  | (key, v) :: more => (leaves v).map (.behind [.member key]) ++ leavesOf more
end

theorem leavesOf_eq_flatMap (entries : List (String × Value)) :
    leavesOf entries = entries.flatMap fun e => e.2.leaves.map (.behind [.member e.1]) := by
  induction entries with
  | nil => rfl
  | cons e more ih => rw [leavesOf, ih, List.flatMap_cons]

theorem leaves_table {entries : List (String × Value)} (h : entries ≠ []) (o : Origin) :
    (table o entries).leaves = entries.flatMap fun e => e.2.leaves.map (.behind [.member e.1]) := by
  cases entries with
  | nil => exact absurd rfl h
  | cons e more => rw [leaves, leavesOf_eq_flatMap]

theorem steps_ne_nil_of_mem_leavesOf {entries : List (String × Value)} {a : Placement}
    (h : a ∈ leavesOf entries) : a.steps ≠ [] := by
  rw [leavesOf_eq_flatMap] at h
  obtain ⟨e, -, ha⟩ := List.mem_flatMap.mp h
  obtain ⟨b, -, rfl⟩ := List.mem_map.mp ha
  exact List.cons_ne_nil _ _

mutual
theorem leaves_ne_nil : ∀ v : Value, v.leaves ≠ []
  | .table _ [] | .array .. | .scalar .. => List.cons_ne_nil _ _
  | .table _ (e :: more) => by
    rw [leaves]
    exact leavesOf_ne_nil e more

theorem leavesOf_ne_nil : ∀ (e : String × Value) (more : List (String × Value)),
    leavesOf (e :: more) ≠ []
  | (key, v), more => by
    rw [leavesOf]
    exact List.append_ne_nil_of_left_ne_nil (List.map_eq_nil_iff.not.mpr (leaves_ne_nil v)) _
end

mutual
theorem isLeaf_of_mem_leaves : ∀ (v : Value), ∀ a ∈ v.leaves, a.value.IsLeaf
  | .table _ [] | .array .. | .scalar .. => by
    intro a ha
    cases List.mem_singleton.mp ha
    rfl
  | .table _ (e :: more) => by
    rw [leaves]
    exact isLeaf_of_mem_leavesOf (e :: more)

theorem isLeaf_of_mem_leavesOf : ∀ (entries : List (String × Value)),
    ∀ a ∈ leavesOf entries, a.value.IsLeaf
  | [] => by
    intro a ha
    cases ha
  | (key, v) :: more => by
    intro a ha
    rcases List.mem_append.mp ha with hfirst | hmore
    · obtain ⟨b, hb, rfl⟩ := List.mem_map.mp hfirst
      exact isLeaf_of_mem_leaves v b hb
    · exact isLeaf_of_mem_leavesOf more a hmore
end

theorem put_end (x : Value) (key : String) (v : Value) :
    put x [.member key] v = some (v.assign key x) := by
  rw [put, if_pos rfl]

/-- A table is made for the first entry if there is none. -/
theorem assignAll_getD (old : Option Value) (e : String × Value) (more : List (String × Value)) :
    assignAll (old.getD nil) (e :: more) = assignAll (old.getD emptyTable) (e :: more) := by
  cases old with
  | none => rw [Option.getD_none, Option.getD_none, assignAll, assignAll, assign_eq, assign_eq]; rfl
  | some v => rfl

mutual
/-- Assigning a value puts its leaves below the key. -/
theorem layAll_leaves : ∀ (v : Value) (key : String) (target : Value),
    layAll (v.leaves.map (.behind [.member key])) target = some (target.assign key v)
  | .table o [], key, target | .array o items, key, target | .scalar o s, key, target => by
    rw [leaves, List.map_singleton, Placement.layAll_singleton]
    exact put_end _ key target
  | .table o (e :: more), key, target => by
    rw [leaves, Placement.layAll_member (leavesOf_ne_nil e more)
      (fun a ha => steps_ne_nil_of_mem_leavesOf ha), layAll_leavesOf, Option.map_some, assign_eq,
      onto, assignAll_getD]

theorem layAll_leavesOf : ∀ (entries : List (String × Value)) (target : Value),
    layAll (leavesOf entries) target = some (assignAll target entries)
  | [], target => rfl
  | (key, v) :: more, target => by
    rw [leavesOf, Placement.layAll_append, layAll_leaves v key target, Option.bind_some,
      layAll_leavesOf more, assignAll]
end

/-- What comes of a value at the end of some steps, the last of which is a key. -/
theorem put_eq_layAll (v : Value) {steps : List Step} {key : String}
    (h : steps.getLast? = some (.member key)) (target : Value) :
    put v steps target = layAll (v.leaves.map (.behind steps)) target := by
  induction steps generalizing target with
  | nil => cases h
  | cons step more ih =>
    by_cases hend : more = []
    · subst hend
      cases h
      rw [layAll_leaves, put_end]
    · have hmore : more.getLast? = some (.member key) := by
        obtain ⟨next, rest, rfl⟩ := List.exists_cons_of_ne_nil hend
        exact (List.getLast?_cons_cons ..).symm.trans h
      have hbehind : v.leaves.map (Placement.behind (step :: more)) =
          (v.leaves.map (Placement.behind more)).map (Placement.behind [step]) := by
        rw [List.map_map]
        rfl
      have hne : v.leaves.map (Placement.behind more) ≠ [] :=
        List.map_eq_nil_iff.not.mpr (leaves_ne_nil v)
      rw [hbehind]
      cases step with
      | member j =>
        have hsteps : ∀ a ∈ v.leaves.map (Placement.behind more), a.steps ≠ [] := by
          intro a ha
          obtain ⟨b, -, rfl⟩ := List.mem_map.mp ha
          exact List.append_ne_nil_of_left_ne_nil hend _
        rw [Placement.layAll_member hne hsteps, put_member, putOnto, if_neg hend, ih hmore]
      | index i =>
        rw [Placement.layAll_index hne, put_index]
        exact congrArg _ (funext fun n => congrArg (Option.map _) (ih hmore _))

/-! ### Entries of files -/

/-- The steps that the key of an entry of a file stands for. -/
def entrySteps (key : String) : List Step :=
  match KeyPath.parse key with
  | .error _ => [.member key]
  | .ok path => .member path.first :: path.more

/-- What an entry of a file puts where. An item of an array is replaced as a whole. -/
def entryPlacements (e : String × Value) : List Placement :=
  match (entrySteps e.1).getLast? with
  | some (.index _) => [⟨entrySteps e.1, e.2⟩]
  | _ => e.2.leaves.map (.behind (entrySteps e.1))

/-- What the entries of a file put where. -/
def filePlacements (entries : List (String × Value)) : List Placement :=
  entries.flatMap entryPlacements

/-- A result, or the error for an index without a place. -/
def orNoPlace : Option Value → Except Error Value
  | some v => .ok v
  | none => .error .noPlace

theorem entrySteps_ne_nil (key : String) : entrySteps key ≠ [] := by
  unfold entrySteps
  split <;> exact List.cons_ne_nil _ _

theorem layEntry_eq_put (target : Value) (e : String × Value) :
    target.layEntry e = orNoPlace (put e.2 (entrySteps e.1) target) := by
  unfold layEntry entrySteps
  cases KeyPath.parse e.1 with
  | error fault => rw [put_end]; rfl
  | ok path =>
    dsimp only [putAt]
    cases put e.2 (.member path.first :: path.more) target <;> rfl

theorem layEntry_eq (target : Value) (e : String × Value) :
    target.layEntry e = orNoPlace (layAll (entryPlacements e) target) := by
  rw [layEntry_eq_put, entryPlacements]
  split
  · rw [Placement.layAll_singleton]
    rfl
  · rename_i hindex
    cases hlast : (entrySteps e.1).getLast? with
    | none => exact absurd (List.getLast?_eq_none_iff.mp hlast) (entrySteps_ne_nil e.1)
    | some step =>
      cases step with
      | member key => rw [put_eq_layAll e.2 hlast]
      | index i => exact absurd hlast (hindex i)

theorem foldlM_layEntry_eq (entries : List (String × Value)) (target : Value) :
    entries.foldlM layEntry target = orNoPlace (layAll (filePlacements entries) target) := by
  induction entries generalizing target with
  | nil => rfl
  | cons e more ih =>
    rw [List.foldlM_cons, layEntry_eq, filePlacements, List.flatMap_cons, Placement.layAll_append]
    cases layAll (entryPlacements e) target with
    | none => rfl
    | some u => exact ih u

theorem proper_of_mem_filePlacements {entries : List (String × Value)} {a : Placement}
    (h : a ∈ filePlacements entries) : a.Proper := by
  obtain ⟨e, -, ha⟩ := List.mem_flatMap.mp h
  unfold entryPlacements at ha
  split at ha
  · rename_i i hlast
    cases List.mem_singleton.mp ha
    intro key hkey
    cases hlast.symm.trans hkey
  · obtain ⟨b, hb, rfl⟩ := List.mem_map.mp ha
    exact fun _ _ => isLeaf_of_mem_leaves e.2 b hb

/-! ### Other orders -/

theorem Alike.leaves {v w : Value} (h : v.Alike w) : Rearranged v.leaves w.leaves := by
  induction h with
  | refl v => exact .refl _
  | trans _ _ ih ih' => exact ih.trans ih'
  | swap o before after _ =>
    rw [leaves_table (by simp), leaves_table (by simp)]
    exact .of_perm (((List.Perm.swap _ _ after).append_left before).flatMap_right _)
  | entry o before after key _ ih =>
    rw [leaves_table (by simp), leaves_table (by simp)]
    simp only [List.flatMap_append, List.flatMap_cons]
    exact ((ih.behind _).append_right _).append_left _
  | item o before after h _ => exact .value [] [] [] (.item o before after h)

theorem Alike.entryPlacements {v w : Value} (h : v.Alike w) (key : String) :
    Rearranged (entryPlacements (key, v)) (entryPlacements (key, w)) := by
  unfold Value.entryPlacements
  dsimp only
  split
  · exact .value [] [] _ h
  · exact h.leaves.behind _

/-- In another order the entries of a file put the same at the same places. -/
theorem Alike.filePlacements {v w : Value} (h : v.Alike w) :
    Rearranged (filePlacements v.asTable.2) (filePlacements w.asTable.2) := by
  induction h with
  | refl v => exact .refl _
  | trans _ _ ih ih' => exact ih.trans ih'
  | swap o before after _ =>
    exact .of_perm (((List.Perm.swap _ _ after).append_left before).flatMap_right _)
  | entry o before after key h _ =>
    simp only [Value.filePlacements, asTable, List.flatMap_append, List.flatMap_cons]
    exact ((h.entryPlacements key).append_right _).append_left _
  | item => exact .refl _

end Value
end AdTemplates.Config
