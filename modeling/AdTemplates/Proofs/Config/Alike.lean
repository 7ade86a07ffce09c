import AdTemplates.Config.Settings
import Mathlib.Data.List.Forall2

/-! Values that differ in the order of entries alone. Whatever is done to them and read from them,
the order does not show: the same keys hold values that are alike, the same changes make them alike
again, and settings are read from both in the same way. -/
namespace AdTemplates

namespace Config.Value

variable {u v w x y : Value} {key : String}

theorem Alike.symm (h : v.Alike w) : w.Alike v := by
  induction h with
  | refl v => exact .refl v
  | trans _ _ ih ih' => exact ih'.trans ih
  | swap o before after hne => exact .swap o before after hne.symm
  | entry o before after key _ ih => exact .entry o before after key ih
  | item o before after _ ih => exact .item o before after ih

/-- Two values that may be missing, both or neither, and are alike if they are there. -/
abbrev OptionAlike : Option Value → Option Value → Prop := Option.Rel Alike

theorem OptionAlike.refl (v : Option Value) : OptionAlike v v := by
  cases v with
  | none => exact .none
  | some v => exact .some (.refl v)

theorem OptionAlike.trans {u v w : Option Value} (h : OptionAlike u v) (h' : OptionAlike v w) :
    OptionAlike u w := by
  cases h with
  | none => exact h'
  | some h => cases h' with | some h' => exact .some (h.trans h')

theorem OptionAlike.getD {v w : Option Value} (h : OptionAlike v w) (missing : Value) :
    (v.getD missing).Alike (w.getD missing) := by
  cases h with
  | none => exact .refl missing
  | some h => exact h

theorem OptionAlike.map {v w : Option Value} (h : OptionAlike v w) {f g : Value → Value}
    (hf : ∀ a b, a.Alike b → (f a).Alike (g b)) : OptionAlike (v.map f) (w.map g) := by
  cases h with
  | none => exact .none
  | some h => exact .some (hf _ _ h)

theorem OptionAlike.bind {v w : Option Value} (h : OptionAlike v w) {f g : Value → Option Value}
    (hf : ∀ a b, a.Alike b → OptionAlike (f a) (g b)) : OptionAlike (v.bind f) (w.bind g) := by
  cases h with
  | none => exact .none
  | some h => exact hf _ _ h

theorem Alike.found (h : v.Alike w) : v.found = w.found := by
  induction h with
  | trans _ _ ih ih' => exact ih.trans ih'
  | _ => rfl

theorem Alike.origin (h : v.Alike w) : v.origin = w.origin := by
  induction h with
  | trans _ _ ih ih' => exact ih.trans ih'
  | _ => rfl

/-- A scalar is alike to nothing else. -/
theorem Alike.eq_of_scalar {o : Origin} {s : Scalar} (h : (scalar o s).Alike v) :
    v = .scalar o s := by
  have hfound := h.found
  have horigin := h.origin
  cases v with
  | scalar o' s' =>
    cases hfound
    cases horigin
    rfl
  | array o' items => cases hfound
  | table o' entries => cases hfound

/-! ### Tables -/

theorem lookup_swap {before after : List (String × Value)} {e f : String × Value}
    (h : e.1 ≠ f.1) (key : String) :
    (before ++ e :: f :: after).lookup key = (before ++ f :: e :: after).lookup key := by
  obtain ⟨j, v⟩ := e
  obtain ⟨k, w⟩ := f
  rw [List.lookup_append, List.lookup_append]
  by_cases hj : key = j
  · have hk : (key == k) = false := beq_eq_false_iff_ne.mpr (hj ▸ h)
    simp [List.lookup_cons, hj, hj ▸ hk]
  · have hj' : (key == j) = false := beq_eq_false_iff_ne.mpr hj
    simp [List.lookup_cons, hj']

theorem Alike.member? (h : v.Alike w) (key : String) :
    OptionAlike (v.member? key) (w.member? key) := by
  induction h with
  | refl v => exact .refl _
  | trans _ _ ih ih' => exact ih.trans ih'
  | swap o before after hne =>
    rw [Value.member?, Value.member?, asTable, asTable, lookup_swap hne]
    exact .refl _
  | entry o before after k h _ =>
    simp only [Value.member?, asTable, List.lookup_append, List.lookup_cons]
    cases before.lookup key with
    | some found => exact .some (.refl found)
    | none =>
      cases key == k with
      | true => exact .some h
      | false => exact .refl _
  | item => exact .none

theorem Alike.setMember_right (v : Value) (h : x.Alike y) (key : String) :
    (v.setMember key x).Alike (v.setMember key y) := by
  obtain ⟨before, after, hset⟩ := Entries.exists_set_eq key v.asTable.2
  rw [setMember, setMember, hset, hset]
  exact .entry _ before after key h

theorem Alike.setMember_left (h : v.Alike w) (key : String) (x : Value) :
    (v.setMember key x).Alike (w.setMember key x) := by
  induction h with
  | refl v => exact .refl _
  | trans _ _ ih ih' => exact ih.trans ih'
  | item => exact .refl _
  | swap o before after hne =>
    rename_i e f
    obtain ⟨j, a⟩ := e
    obtain ⟨k, b⟩ := f
    simp only [setMember, asTable, Entries.set_append]
    split
    · exact .swap o _ after hne
    · by_cases hj : j = key
      · have hk : ¬ k = key := fun hk => hne (hj.trans hk.symm)
        simp only [Entries.set, if_pos hj, if_neg hk]
        exact .swap o before after (hj ▸ hne)
      · by_cases hk : k = key
        · simp only [Entries.set, if_neg hj, if_pos hk]
          exact .swap o before after (hk ▸ hne)
        · simp only [Entries.set, if_neg hj, if_neg hk]
          exact .swap o before _ hne
  | entry o before after k h _ =>
    simp only [setMember, asTable, Entries.set_append]
    split
    · exact .entry o _ after k h
    · by_cases hk : k = key
      · simp only [Entries.set, if_pos hk]
        exact .refl _
      · simp only [Entries.set, if_neg hk]
        exact .entry o before _ k h

theorem Alike.setMember (h : v.Alike w) (key : String) (hx : x.Alike y) :
    (v.setMember key x).Alike (w.setMember key y) :=
  (h.setMember_left key x).trans (.setMember_right w hx key)

/-- Which of two keys is set first shows in the order of new entries alone. -/
theorem setMember_comm {j k : String} (hne : j ≠ k) (v x y : Value) :
    ((v.setMember j x).setMember k y).Alike ((v.setMember k y).setMember j x) := by
  suffices h : ∀ entries before : List (String × Value),
      (table v.asTable.1 (before ++ Entries.set k y (Entries.set j x entries))).Alike
        (table v.asTable.1 (before ++ Entries.set j x (Entries.set k y entries)))
    from h v.asTable.2 []
  intro entries
  induction entries with
  | nil =>
    intro before
    simp only [Entries.set, if_neg hne, if_neg hne.symm]
    exact .swap _ before [] hne
  | cons head more ih =>
    intro before
    obtain ⟨other, old⟩ := head
    by_cases hj : other = j
    · have hk : ¬ other = k := fun hk => hne (hj.symm.trans hk)
      simp only [Entries.set, if_pos hj, if_neg hk, if_neg hne]
      exact .refl _
    · by_cases hk : other = k
      · simp only [Entries.set, if_neg hj, if_pos hk, if_neg hne.symm]
        exact .refl _
      · have hbehind := ih (before ++ [(other, old)])
        simp only [List.append_assoc, List.singleton_append] at hbehind
        simpa only [Entries.set, if_neg hj, if_neg hk] using hbehind

@[simp] theorem setMember_setMember (v x y : Value) (key : String) :
    (v.setMember key x).setMember key y = v.setMember key y := by
  simp only [setMember, asTable, Entries.set_set]

/-! ### Arrays -/

abbrev ItemsAlike : List Value → List Value → Prop := List.Forall₂ Alike

theorem Alike.origin_asArray (h : v.Alike w) : v.asArray.1 = w.asArray.1 := by
  induction h with
  | trans _ _ ih ih' => exact ih.trans ih'
  | _ => rfl

theorem ItemsAlike.refl (items : List Value) : ItemsAlike items items :=
  List.forall₂_same.mpr fun v _ => .refl v

theorem ItemsAlike.trans {first second third : List Value} (h : ItemsAlike first second)
    (h' : ItemsAlike second third) : ItemsAlike first third := by
  induction h generalizing third with
  | nil => exact h'
  | cons hv _ ih =>
    cases h' with
    | cons hw h' => exact .cons (hv.trans hw) (ih h')

theorem Alike.items (h : v.Alike w) : ItemsAlike v.asArray.2 w.asArray.2 := by
  induction h with
  | refl v => exact .refl _
  | trans _ _ ih ih' => exact ih.trans ih'
  | swap => exact .nil
  | entry => exact .nil
  | item o before after h _ =>
    exact List.rel_append (ItemsAlike.refl before) (.cons h (ItemsAlike.refl after))

theorem Alike.array (o : Origin) {items others : List Value} (h : ItemsAlike items others) :
    (Value.array o items).Alike (.array o others) := by
  suffices hbehind : ∀ before, (Value.array o (before ++ items)).Alike (.array o (before ++ others))
    from hbehind []
  induction h with
  | nil => exact fun before => .refl _
  | @cons v w more others h _ ih =>
    intro before
    have hbehind := ih (before ++ [w])
    rw [List.append_assoc, List.append_assoc] at hbehind
    exact (Alike.item o before more h).trans hbehind

theorem ItemsAlike.getElem? {items others : List Value} (h : ItemsAlike items others) (n : Nat) :
    OptionAlike items[n]? others[n]? := by
  induction h generalizing n with
  | nil => exact .none
  | cons h _ ih =>
    cases n with
    | zero => exact .some h
    | succ n => exact ih n

theorem ItemsAlike.set {items others : List Value} (h : ItemsAlike items others) (n : Nat)
    (hx : x.Alike y) : ItemsAlike (items.set n x) (others.set n y) := by
  induction h generalizing n with
  | nil => exact .nil
  | cons h hmore ih =>
    cases n with
    | zero => exact .cons hx hmore
    | succ n => exact .cons h (ih n)

theorem ItemsAlike.setItem {items others : List Value} (h : ItemsAlike items others) (n : Nat)
    (hx : x.Alike y) : ItemsAlike (setItem items n x) (setItem others n y) := by
  unfold Config.setItem
  rw [h.length_eq]
  exact ItemsAlike.set (List.rel_append h (ItemsAlike.refl _)) n hx

theorem getElem?_setItem (items : List Value) (n m : Nat) (x : Value) :
    (setItem items n x)[m]? =
      if m = n then some x else if m < n then some (items[m]?.getD nil) else items[m]? := by
  unfold setItem
  rw [List.getElem?_set, List.length_append, List.length_replicate]
  by_cases hm : m = n
  · rw [if_pos hm.symm, if_pos hm, if_pos (by omega)]
  · rw [if_neg (Ne.symm hm), if_neg hm]
    by_cases hlength : m < items.length
    · rw [List.getElem?_append_left hlength, List.getElem?_eq_getElem hlength, Option.getD_some,
        ite_self]
    · rw [List.getElem?_append_right (Nat.le_of_not_lt hlength), List.getElem?_replicate,
        List.getElem?_eq_none (Nat.le_of_not_lt hlength), Option.getD_none]
      split <;> split <;> first | rfl | omega

/-- What an index finds where it fills in a place is not changed by filling in another one. -/
theorem getD_getElem?_setItem (items : List Value) {n m : Nat} (hne : m ≠ n) (x : Value) :
    (setItem items n x)[m]?.getD nil = items[m]?.getD nil := by
  rw [getElem?_setItem, if_neg hne]
  split <;> rfl

theorem length_setItem (items : List Value) (n : Nat) (x : Value) :
    (setItem items n x).length = max items.length (n + 1) := by
  simp only [setItem, List.length_set, List.length_append, List.length_replicate]
  omega

theorem setItem_setItem (items : List Value) (n : Nat) (x y : Value) :
    setItem (setItem items n x) n y = setItem items n y := by
  refine List.ext_getElem? fun m => ?_
  simp only [getElem?_setItem]
  split
  · rfl
  · split <;> rfl

theorem setItem_comm (items : List Value) {n m : Nat} (hne : n ≠ m) (x y : Value) :
    setItem (setItem items n x) m y = setItem (setItem items m y) n x := by
  refine List.ext_getElem? fun k => ?_
  simp only [getElem?_setItem]
  grind

end Config.Value
end AdTemplates
