import AdTemplates.Proofs.Combinations.Calls
import AdTemplates.Proofs.Combinations.Progress
import Mathlib.Algebra.BigOperators.Group.List.Basic

/-! Counts that are cut off, against the exact ones. A product is cut off at every factor, and
that comes to cutting off the exact product once, so neither the order of the factors nor what
has been cut off on the way shows. After any calls on a cursor the total is the number of all
advertisements, and the position that of the combinations which have been consumed or left
out, each cut off once. -/
namespace AdTemplates

namespace Count

theorem max_pos : 0 < max := by decide

theorem product_perm {a b c a' b' c' : Nat} (h : [a, b, c].Perm [a', b', c']) :
    product a b c = product a' b' c' := by
  have hprod : a * b * c = a' * b' * c' := by
    simpa only [List.prod_cons, List.prod_nil, Nat.mul_one, Nat.mul_assoc] using h.prod_eq
  rw [product_eq_min, product_eq_min, hprod]

theorem product_mono {a b c a' b' c' : Nat} (ha : a ≤ a') (hb : b ≤ b') (hc : c ≤ c') :
    product a b c ≤ product a' b' c' := by
  have hexact : a * b * c ≤ a' * b' * c' := Nat.mul_le_mul (Nat.mul_le_mul ha hb) hc
  rw [product_eq_min, product_eq_min]
  omega

/-- A product that has been cut off on the way is still zero if a later factor is. -/
theorem product_eq_zero_iff {a b c : Nat} : product a b c = 0 ↔ a = 0 ∨ b = 0 ∨ c = 0 := by
  have hmax := max_pos
  have hcut : min (a * b * c) max = 0 ↔ a * b * c = 0 := by omega
  rw [product_eq_min, hcut, Nat.mul_eq_zero, Nat.mul_eq_zero, or_assoc]

end Count

namespace Combinations

variable {c : Combinations} {yielded : List Record}

/-- Whatever the calls are, what is behind the cursor has been consumed or left out. -/
theorem Accounts.runCalls (h : Accounts c yielded) (calls : List Call) :
    (Combinations.runCalls calls c).2.input = c.input ∧
      ∃ more, Accounts (Combinations.runCalls calls c).2 (yielded ++ more) := by
  induction calls generalizing c yielded with
  | nil => exact ⟨rfl, [], by rwa [List.append_nil]⟩
  | cons call calls ih =>
    obtain ⟨taken, htaken, _⟩ := call.consumes h.wellPlaced
    obtain ⟨hinput, more, hmore⟩ := ih (h.consumes htaken)
    exact ⟨hinput.trans htaken.input, taken ++ more, by rwa [← List.append_assoc]⟩

/-- What has been consumed, and then the rest of the walk, is the whole walk. -/
theorem Accounts.append_drain (h : Accounts c yielded) :
    yielded ++ c.drain.1 = c.all.filter c.options.keeps := by
  rw [h.wellPlaced.drain.records, ← h.yielded, ahead, ← List.filter_append, List.take_append_drop]

/-- A walk that leaves nothing out yields every combination. -/
theorem records_drain_unfiltered (d : Document) (options : ExpandOptions) :
    (d.combinations { options with skipLong := false }).drain.1 =
      expansion d.keywords d.titles d.texts := by
  rw [Document.combinations, records_drain_start, filter_keeps, if_neg Bool.false_ne_true]

/-- The count of a product is the exact product, cut off once. So it does not depend on the
order of the factors, grows with each of them, and is zero only if one of them is. The number
of combinations of a document and, after any calls, the total of its cursor are the number of
advertisements that a walk yields which leaves nothing out. The position is the number of the
combinations that have been consumed or left out by then, which are the first ones. -/
theorem counts_eq_min :
    (∀ keywords titles texts,
      Count.product keywords titles texts = min (keywords * titles * texts) Count.max) ∧
    (∀ a b c a' b' c', [a, b, c].Perm [a', b', c'] →
      Count.product a b c = Count.product a' b' c') ∧
    (∀ a b c a' b' c', a ≤ a' → b ≤ b' → c ≤ c' →
      Count.product a b c ≤ Count.product a' b' c') ∧
    (∀ a b c, Count.product a b c = 0 ↔ a = 0 ∨ b = 0 ∨ c = 0) ∧
    ∀ (d : Document) (options : ExpandOptions) (calls : List Call),
      let every := (d.combinations { options with skipLong := false }).drain.1
      let c := (runCalls calls (d.combinations options)).2
      d.combinationCount = min every.length Count.max ∧
        c.total = min every.length Count.max ∧
        ∃ passed consumed, every = passed ++ c.ahead ∧
          passed.filter options.keeps = consumed ∧
          consumed ++ c.drain.1 = (d.combinations options).drain.1 ∧
          consumed.length + c.skipped = passed.length ∧
          c.position = min passed.length Count.max := by
  refine ⟨Count.product_eq_min, fun _ _ _ _ _ _ => Count.product_perm,
    fun _ _ _ _ _ _ => Count.product_mono, fun _ _ _ => Count.product_eq_zero_iff, ?_⟩
  intro d options calls every c
  obtain ⟨hinput, consumed, hc⟩ :
      c.input = (d.combinations options).input ∧ ∃ consumed, Accounts c consumed :=
    Accounts.runCalls accounts_start calls
  have hevery : every = expansion d.keywords d.titles d.texts :=
    records_drain_unfiltered d options
  have hall : c.all = every :=
    (all_congr hinput).trans ((all_start _ _ _ _).trans hevery.symm)
  have hoptions : c.options = options := options_congr hinput
  have hpassed : (every.take c.offset).length = c.offset := hall ▸ hc.wellPlaced.length_passed
  refine ⟨?_, ?_, every.take c.offset, consumed, ?_, ?_, ?_, ?_, ?_⟩
  · rw [hevery, length_expansion]
    exact Count.product_eq_min _ _ _
  · rw [total_eq_min, ← length_all, hall]
  · rw [ahead, hall, List.take_append_drop]
  · rw [← hall, ← hoptions, hc.yielded]
  · rw [hc.append_drain, hall, hoptions, hevery, Document.combinations, records_drain_start]
  · rw [hpassed, hc.length_add_skipped]
  · rw [hpassed, position_eq_min]

end Combinations
end AdTemplates
