import AdTemplates.Proofs.Config.Alike
import AdTemplates.Proofs.Config.Layer

/-! Values put at places of a configuration. Two of them can change places if they part on the way,
and then so can all of a list: what they come to is alike whatever their order
(`Rearranged.layAll`). -/
namespace AdTemplates.Config

/-- Whether two places part: at a table, where they go on under different keys, or at an array,
where they go on at different items counted from the beginning. -/
def apart : List Step → List Step → Bool
  | .member j :: p, .member k :: q => Text.lower j ≠ Text.lower k || apart p q
  | .index i :: p, .index j :: q => if i = j then apart p q else 0 ≤ i && 0 ≤ j
  | _, _ => false

theorem apart_comm (p q : List Step) : apart p q = apart q p := by
  fun_induction apart p q with
  | case1 j p k q ih => simp [apart, ih, ne_comm]
  | case2 p i q ih => simp [apart, ih]
  | case3 i p j q hne => simp [apart, Ne.symm hne, Bool.and_comm]
  | case4 p q hmember hindex =>
    unfold apart
    split
    · exact (hmember _ _ _ _ rfl rfl).elim
    · exact (hindex _ _ _ _ rfl rfl).elim
    · rfl

namespace Value

variable {v w x y : Value} {p q : List Step}

/-- There is nothing in the value that could be assigned entry by entry. -/
def IsLeaf (v : Value) : Prop := v.asTable.2 = []

theorem Alike.isLeaf (h : v.Alike w) (hv : v.IsLeaf) : w.IsLeaf := by
  induction h with
  | trans _ _ ih ih' => exact ih' (ih hv)
  | swap o before => cases before <;> cases hv
  | entry o before => cases before <;> cases hv
  | _ => exact hv

theorem onto_of_isLeaf (h : v.IsLeaf) (old : Option Value) :
    onto old v = if v.found = .table then old.getD emptyTable else v := by
  cases v with
  | scalar o s => rfl
  | array o items => rfl
  | table o entries =>
    obtain rfl : entries = [] := h
    rfl

theorem Alike.onto (h : x.Alike y) (hx : x.IsLeaf) {old other : Option Value}
    (hold : OptionAlike old other) : (onto old x).Alike (onto other y) := by
  rw [onto_of_isLeaf hx, onto_of_isLeaf (h.isLeaf hx), ← h.found]
  split
  · exact hold.getD emptyTable
  · exact h

/-- What comes of what a key or an index holds, when a value is put at the end of further steps. -/
def putOnto (incoming : Value) (more : List Step) (old : Option Value) : Option Value :=
  if more = [] then some (onto old incoming) else put incoming more (old.getD nil)

theorem put_member (x v : Value) (key : String) (more : List Step) :
    put x (.member key :: more) v =
      (putOnto x more (v.member? (Text.lower key))).map (v.setMember (Text.lower key)) := by
  unfold putOnto
  rw [put]
  split
  · rw [assign_eq]
    rfl
  · rfl

theorem asArray_array (o : Origin) (items : List Value) :
    (Value.array o items).asArray = (o, items) := rfl

theorem put_index (x v : Value) (i : Int) (more : List Step) :
    put x (.index i :: more) v =
      (place? i v.asArray.2.length).bind fun n =>
        (put x more ((v.asArray.2[n]?).getD nil)).map fun u =>
          .array v.asArray.1 (setItem v.asArray.2 n u) := by
  rw [put]
  obtain ⟨o, items⟩ := v.asArray
  dsimp only
  cases place? i items.length <;> rfl

theorem place?_eq_some_iff {i : Int} {size n : Nat} :
    place? i size = some n ↔ (if i < 0 then size + i else i) = n ∧ n < maxItems := by
  simp only [place?, Option.ite_none_right_eq_some, Option.some.injEq]
  omega

/-- A place that an index has stays the same when it is filled in. -/
theorem place?_length_setItem {i : Int} {items : List Value} {n : Nat}
    (h : place? i items.length = some n) (u : Value) :
    place? i (setItem items n u).length = some n := by
  rw [place?_eq_some_iff] at h ⊢
  rw [length_setItem]
  refine ⟨?_, h.2⟩
  have hplace := h.1
  split at hplace <;> split <;> omega

/-- An index that is counted from the beginning has its place however many items there are. -/
theorem place?_of_nonneg {i : Int} (h : 0 ≤ i) (size other : Nat) :
    place? i size = place? i other := by
  simp only [place?, if_neg (Int.not_lt.mpr h)]

end Value

/-- A value and the steps to the place where it is put. -/
structure Placement where
  steps : List Step
  value : Value

namespace Placement

open Value

/-- A value that is put under a key is there as a whole. -/
def Proper (p : Placement) : Prop :=
  ∀ key, p.steps.getLast? = some (.member key) → p.value.IsLeaf

def lay (v : Value) (p : Placement) : Option Value := Value.put p.value p.steps v

/-- Puts values one after the other. -/
def layAll (l : List Placement) (v : Value) : Option Value := l.foldlM lay v

end Placement

namespace Value

variable {v w x y : Value} {p q : List Step}

theorem Alike.put (hx : x.Alike y) (hproper : Placement.Proper ⟨p, x⟩) (h : v.Alike w) :
    OptionAlike (put x p v) (put y p w) := by
  induction p generalizing v w with
  | nil => exact .some hx
  | cons step more ih =>
    have hmore : more ≠ [] → Placement.Proper ⟨more, x⟩ := by
      intro hne key hlast
      obtain ⟨next, rest, rfl⟩ := List.exists_cons_of_ne_nil hne
      exact hproper key ((List.getLast?_cons_cons ..).trans hlast)
    cases step with
    | member key =>
      rw [put_member, put_member]
      refine OptionAlike.map ?_ fun a b hab => h.setMember _ hab
      have hold := h.member? (Text.lower key)
      unfold putOnto
      split
      · rename_i hend
        subst hend
        exact .some (hx.onto (hproper key rfl) hold)
      · rename_i hne
        exact ih (hmore hne) (hold.getD nil)
    | index i =>
      rw [put_index, put_index, ← h.origin_asArray, h.items.length_eq]
      cases place? i w.asArray.2.length with
      | none => exact .none
      | some n =>
        refine OptionAlike.map ?_ fun a b hab => .array _ (h.items.setItem n hab)
        have hold := (h.items.getElem? n).getD nil
        by_cases hend : more = []
        · subst hend
          exact .some hx
        · exact ih (hmore hend) hold

theorem ne_nil_of_apart (h : apart p q = true) : p ≠ [] ∧ q ≠ [] := by
  constructor
  · rintro rfl
    cases h
  · rintro rfl
    cases p with
    | nil => cases h
    | cons step more => cases step <;> cases h

/-- Two values that are put below one key are put into what it holds. -/
theorem put_bind_member {j k : String} (hkey : Text.lower j = Text.lower k) (hp : p ≠ [])
    (hq : q ≠ []) (x y v : Value) :
    (put x (.member j :: p) v).bind (put y (.member k :: q)) =
      ((put x p ((v.member? (Text.lower k)).getD nil)).bind (put y q)).map
        (v.setMember (Text.lower k)) := by
  rw [put_member, putOnto, if_neg hp, hkey]
  cases put x p ((v.member? (Text.lower k)).getD nil) with
  | none => rfl
  | some u =>
    rw [Option.map_some, Option.bind_some, Option.bind_some, put_member, putOnto, if_neg hq,
      member?_setMember, if_pos rfl, Option.getD_some]
    congr 1
    funext w
    exact setMember_setMember v u w _

/-- Two values that are put below one item are put into what it is. -/
theorem put_bind_index (i : Int) (x y v : Value) :
    (put x (.index i :: p) v).bind (put y (.index i :: q)) =
      (place? i v.asArray.2.length).bind fun n =>
        ((put x p ((v.asArray.2[n]?).getD nil)).bind (put y q)).map fun u =>
          .array v.asArray.1 (setItem v.asArray.2 n u) := by
  rw [put_index]
  cases hplace : place? i v.asArray.2.length with
  | none => rfl
  | some n =>
    rw [Option.bind_some, Option.bind_some]
    cases put x p ((v.asArray.2[n]?).getD nil) with
    | none => rfl
    | some u =>
      rw [Option.map_some, Option.bind_some, Option.bind_some, put_index]
      simp only [asArray_array, place?_length_setItem hplace, Option.bind_some, getElem?_setItem,
        if_true, Option.getD_some, setItem_setItem]

/-- Keys that differ are set in either order. -/
theorem put_comm_member {j k : String} (hkey : Text.lower j ≠ Text.lower k) (x y v : Value) :
    OptionAlike ((put x (.member j :: p) v).bind (put y (.member k :: q)))
      ((put y (.member k :: q) v).bind (put x (.member j :: p))) := by
  have hother (u : Value) : (v.setMember (Text.lower j) u).member? (Text.lower k) =
      v.member? (Text.lower k) := by
    rw [member?_setMember, if_neg hkey.symm]
  have hother' (u : Value) : (v.setMember (Text.lower k) u).member? (Text.lower j) =
      v.member? (Text.lower j) := by
    rw [member?_setMember, if_neg hkey]
  simp only [put_member, Option.bind_map, Function.comp_def, hother, hother']
  cases putOnto x p (v.member? (Text.lower j)) <;> cases putOnto y q (v.member? (Text.lower k))
  case some.some a b => exact .some (setMember_comm hkey v a b)
  all_goals exact .none

/-- Items that differ and are counted from the beginning are filled in in either order. -/
theorem put_comm_index {i j : Int} (hne : i ≠ j) (hi : 0 ≤ i) (hj : 0 ≤ j) (x y v : Value) :
    OptionAlike ((put x (.index i :: p) v).bind (put y (.index j :: q)))
      ((put y (.index j :: q) v).bind (put x (.index i :: p))) := by
  simp only [put_index, Option.bind_assoc, Option.bind_map, Function.comp_def, asArray_array,
    place?_of_nonneg hi _ v.asArray.2.length, place?_of_nonneg hj _ v.asArray.2.length]
  cases hn : place? i v.asArray.2.length with
  | none => cases place? j v.asArray.2.length <;> simp
  | some n =>
    cases hm : place? j v.asArray.2.length with
    | none => simp
    | some m =>
      have hnm : n ≠ m := by
        rw [place?_eq_some_iff] at hn hm
        have hn' := hn.1
        have hm' := hm.1
        split at hn' <;> split at hm' <;> omega
      simp only [Option.bind_some, getD_getElem?_setItem _ hnm, getD_getElem?_setItem _ hnm.symm]
      cases put x p ((v.asArray.2[n]?).getD nil) with
      | none => cases put y q ((v.asArray.2[m]?).getD nil) <;> simp
      | some a =>
        cases put y q ((v.asArray.2[m]?).getD nil) with
        | none => simp
        | some b =>
          simp only [Option.bind_some, Option.map_some, setItem_comm _ hnm]
          exact .refl _

/-- Values that are put at places apart can be put in either order. -/
theorem put_comm (h : apart p q = true) (x y v : Value) :
    OptionAlike ((put x p v).bind (put y q)) ((put y q v).bind (put x p)) := by
  fun_induction apart p q generalizing v with
  | case1 j p k q ih =>
    by_cases hkey : Text.lower j = Text.lower k
    · have hmore : apart p q = true := by simpa [hkey] using h
      obtain ⟨hp, hq⟩ := ne_nil_of_apart hmore
      rw [put_bind_member hkey hp hq, put_bind_member hkey.symm hq hp, hkey]
      exact (ih hmore _).map fun a b hab => .setMember_right v hab _
    · exact put_comm_member hkey x y v
  | case2 p i q ih =>
    rw [put_bind_index, put_bind_index]
    cases place? i v.asArray.2.length with
    | none => exact .none
    | some n =>
      exact (ih h _).map fun a b hab => .array _ ((ItemsAlike.refl _).setItem n hab)
  | case3 i p j q hne =>
    obtain ⟨hi, hj⟩ : 0 ≤ i ∧ 0 ≤ j := by simpa using h
    exact put_comm_index hne hi hj x y v
  | case4 => cases h

end Value

namespace Placement

open Value (Alike OptionAlike)

variable {l l' : List Placement} {v w : Value}

/-- The same places in another order, with values that are alike. -/
inductive Rearranged : List Placement → List Placement → Prop where
  | refl (l : List Placement) : Rearranged l l
  | trans {first second third : List Placement} (h : Rearranged first second)
      (h' : Rearranged second third) : Rearranged first third
  | swap (before after : List Placement) (a b : Placement) :
      Rearranged (before ++ a :: b :: after) (before ++ b :: a :: after)
  | value (before after : List Placement) (steps : List Step) {v w : Value} (h : v.Alike w) :
      Rearranged (before ++ ⟨steps, v⟩ :: after) (before ++ ⟨steps, w⟩ :: after)

namespace Rearranged

theorem append_left (h : Rearranged l l') (before : List Placement) :
    Rearranged (before ++ l) (before ++ l') := by
  induction h with
  | refl l => exact .refl _
  | trans _ _ ih ih' => exact ih.trans ih'
  | swap first after a b =>
    rw [← List.append_assoc, ← List.append_assoc]
    exact .swap _ after a b
  | value first after steps h =>
    rw [← List.append_assoc, ← List.append_assoc]
    exact .value _ after steps h

theorem append_right (h : Rearranged l l') (after : List Placement) :
    Rearranged (l ++ after) (l' ++ after) := by
  induction h with
  | refl l => exact .refl _
  | trans _ _ ih ih' => exact ih.trans ih'
  | swap before last a b =>
    rw [List.append_assoc, List.append_assoc]
    exact .swap before _ a b
  | value before last steps h =>
    rw [List.append_assoc, List.append_assoc]
    exact .value before _ steps h

theorem of_perm (h : l.Perm l') : Rearranged l l' := by
  induction h with
  | nil => exact .refl []
  | cons a _ ih => exact ih.append_left [a]
  | swap a b more => exact .swap [] more b a
  | trans _ _ ih ih' => exact ih.trans ih'

theorem perm_steps (h : Rearranged l l') : (l.map steps).Perm (l'.map steps) := by
  induction h with
  | refl l => exact .refl _
  | trans _ _ ih ih' => exact ih.trans ih'
  | swap before after a b => exact ((List.Perm.swap b a after).append_left before).map steps
  | value before after steps h => rw [List.map_append, List.map_append]; exact .refl _

theorem proper (h : Rearranged l l') (hl : ∀ a ∈ l, a.Proper) : ∀ a ∈ l', a.Proper := by
  induction h with
  | refl l => exact hl
  | trans _ _ ih ih' => exact ih' (ih hl)
  | swap before after a b =>
    have hperm := (List.Perm.swap a b after).append_left before
    exact fun c hc => hl c (hperm.mem_iff.mp hc)
  | value before after steps h =>
    simp only [List.forall_mem_append, List.forall_mem_cons] at hl ⊢
    exact ⟨hl.1, fun key hend => h.isLeaf (hl.2.1 key hend), hl.2.2⟩

end Rearranged

/-- Any two of the places part. -/
def Parted (l : List Placement) : Prop := l.Pairwise fun a b => apart a.steps b.steps = true

instance (l : List Placement) : Decidable (Parted l) := inferInstanceAs (Decidable (l.Pairwise _))

theorem Rearranged.parted (h : Rearranged l l') (hl : Parted l) : Parted l' := by
  have hsteps : (l.map steps).Pairwise fun p q => apart p q = true := List.pairwise_map.mpr hl
  have hsymm : ∀ {p q : List Step}, apart p q = true → apart q p = true :=
    fun {p q} hpq => (apart_comm q p).trans hpq
  exact List.pairwise_map.mp ((h.perm_steps.pairwise_iff hsymm).mp hsteps)

theorem layAll_append (l l' : List Placement) (v : Value) :
    layAll (l ++ l') v = (layAll l v).bind (layAll l') := List.foldlM_append ..

theorem layAll_cons (a : Placement) (l : List Placement) (v : Value) :
    layAll (a :: l) v = (lay v a).bind (layAll l) := List.foldlM_cons ..

theorem layAll_cons_cons (a b : Placement) (l : List Placement) (v : Value) :
    layAll (a :: b :: l) v = ((lay v a).bind (lay · b)).bind (layAll l) := by
  rw [layAll_cons, Option.bind_assoc]
  exact congrArg _ (funext fun u => layAll_cons b l u)

/-- What is alike before is alike afterwards. -/
theorem layAll_alike (hproper : ∀ a ∈ l, a.Proper) (h : v.Alike w) :
    OptionAlike (layAll l v) (layAll l w) := by
  induction l generalizing v w with
  | nil => exact .some h
  | cons a more ih =>
    obtain ⟨ha, hmore⟩ := List.forall_mem_cons.mp hproper
    rw [layAll_cons, layAll_cons]
    exact ((Alike.refl a.value).put ha h).bind fun u u' hu => ih hmore hu

/-- Values at places of which any two part come to the same in every order. -/
theorem Rearranged.layAll (h : Rearranged l l') (hproper : ∀ a ∈ l, a.Proper) (hl : Parted l)
    (hv : v.Alike w) : OptionAlike (layAll l v) (layAll l' w) := by
  induction h generalizing v w with
  | refl l => exact layAll_alike hproper hv
  | trans h _ ih ih' =>
    exact (ih hproper hl hv).trans (ih' (h.proper hproper) (h.parted hl) (.refl w))
  | swap before after a b =>
    obtain ⟨hbefore, hrest⟩ := List.forall_mem_append.mp hproper
    have hafter := (List.forall_mem_cons.mp (List.forall_mem_cons.mp hrest).2).2
    have hab : apart a.steps b.steps = true :=
      (List.pairwise_cons.mp (List.pairwise_append.mp hl).2.1).1 b List.mem_cons_self
    rw [layAll_append, layAll_append]
    refine (layAll_alike hbefore hv).bind fun u u' hu => (layAll_alike hrest hu).trans ?_
    rw [layAll_cons_cons, layAll_cons_cons]
    exact (Value.put_comm hab a.value b.value u').bind fun _ _ h => layAll_alike hafter h
  | value before after steps h =>
    obtain ⟨hbefore, hrest⟩ := List.forall_mem_append.mp hproper
    obtain ⟨hfirst, hafter⟩ := List.forall_mem_cons.mp hrest
    rw [layAll_append, layAll_append]
    refine (layAll_alike hbefore hv).bind fun u u' hu => ?_
    rw [layAll_cons, layAll_cons]
    exact (h.put hfirst hu).bind fun _ _ h => layAll_alike hafter h

end Placement
end AdTemplates.Config
