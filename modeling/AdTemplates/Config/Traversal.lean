import AdTemplates.Config.Setting

/-! The order in which tables are gone through. A table has no order of its own: its entries
are met in some order, and the next time perhaps in another one. A traversal tells in which
order, and all that is known of one is that it meets what is there. -/
namespace AdTemplates.Config

/-- Values that differ at most in the order of entries of tables, at any depth. Entries that
change places have different keys. -/
inductive Value.Alike : Value → Value → Prop where
  | refl (v : Value) : Alike v v
  | trans {u v w : Value} (first : Alike u v) (second : Alike v w) : Alike u w
  | swap (o : Origin) (before after : List (String × Value)) {e f : String × Value}
      (h : e.1 ≠ f.1) :
      Alike (.table o (before ++ e :: f :: after)) (.table o (before ++ f :: e :: after))
  | entry (o : Origin) (before after : List (String × Value)) (key : String) {v w : Value}
      (h : Alike v w) :
      Alike (.table o (before ++ (key, v) :: after)) (.table o (before ++ (key, w) :: after))
  | item (o : Origin) (before after : List Value) {v w : Value} (h : Alike v w) :
      Alike (.array o (before ++ v :: after)) (.array o (before ++ w :: after))

/-- Every order that the entries of a table can be brought into makes a table that is alike. -/
theorem Value.Alike.of_perm (o : Origin) {entries others : List (String × Value)}
    (h : entries.Perm others) (hn : (entries.map Prod.fst).Nodup) :
    (Value.table o entries).Alike (.table o others) := by
  suffices hbehind : ∀ before,
      (Value.table o (before ++ entries)).Alike (.table o (before ++ others)) from hbehind []
  induction h with
  | nil => exact fun before => .refl _
  | cons e _ ih =>
    intro before
    have happend := ih (List.nodup_cons.mp hn).2 (before ++ [e])
    rwa [List.append_assoc, List.append_assoc] at happend
  | swap e f more =>
    intro before
    refine .swap o before more fun hkey => (List.nodup_cons.mp hn).1 ?_
    rw [hkey]
    exact List.mem_cons_self
  | trans h _ ih ih' =>
    have hn' := (h.map Prod.fst).nodup_iff.mp hn
    exact fun before => .trans (ih hn before) (ih' hn' before)

structure Traversal where
  /-- The entries of the file that is layered as this one, in the order in which they are met. -/
  file : Nat → List (String × Value) → List (String × Value)
  /-- Single values, in the order in which they are laid over the files. -/
  overrides : List (KeyPath × Scalar) → List (KeyPath × Scalar)
  /-- The sections, in the order in which they are read. -/
  sections : List Section
  /-- The settings of a section that is a table, in the order in which they are read. -/
  fields : Section → List Setting
  file_alike : ∀ n entries, (Value.table none entries).Alike (.table none (file n entries))
  overrides_perm : ∀ overrides', (overrides overrides').Perm overrides'
  sections_perm : sections.Perm [.limits, .generation, .parser, .output]
  fields_perm : ∀ s, (fields s).Perm s.settings

/-- The traversal that meets everything in the order in which it was written down. -/
def Traversal.asWritten : Traversal where
  file _ entries := entries
  overrides := id
  sections := [.limits, .generation, .parser, .output]
  fields := Section.settings
  file_alike _ _ := .refl _
  overrides_perm _ := .refl _
  sections_perm := .refl _
  fields_perm _ := .refl _

end AdTemplates.Config
