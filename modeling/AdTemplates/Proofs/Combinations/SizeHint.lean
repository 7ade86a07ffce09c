import AdTemplates.Proofs.Combinations.Drain

/-! Size hints against the exact numbers behind them. A saturated product is the exact one
cut off at the largest count, and so is a saturated position. The lower bound of a hint
always holds. The upper bound is the difference of two numbers that were cut off, so it
holds just when nothing was cut off or so little is left that it does not matter. -/
namespace AdTemplates

namespace Count

/-- Whatever an intermediate product is cut off to, the whole product is cut off once. -/
theorem product_eq_min (keywords titles texts : Nat) :
    product keywords titles texts = min (keywords * titles * texts) max := by
  unfold product mul
  rcases Nat.eq_zero_or_pos texts with rfl | htexts
  · simp
  · rcases Nat.le_total (keywords * titles) max with hle | hle
    · rw [Nat.min_eq_left hle]
    · have hmax : max ≤ max * texts := Nat.le_mul_of_pos_right max htexts
      have hexact : max * texts ≤ keywords * titles * texts := Nat.mul_le_mul_right texts hle
      rw [Nat.min_eq_right hle, Nat.min_eq_right hmax, Nat.min_eq_right (Nat.le_trans hmax hexact)]

end Count

namespace Combinations

variable {c : Combinations}

theorem total_eq_min (c : Combinations) : c.total = min c.size Count.max :=
  Count.product_eq_min _ _ _

theorem position_eq_min (c : Combinations) : c.position = min c.offset Count.max := by
  have hoffset : c.offset =
      c.keyword * c.titles.length * c.texts.length + c.title * c.texts.length + c.text := by
    rw [offset, Nat.add_mul]
  rw [position, Count.product_eq_min, hoffset]
  unfold Count.add Count.mul
  generalize c.keyword * c.titles.length * c.texts.length = before
  generalize c.title * c.texts.length = titles
  omega

/-- A hint is the difference of the two numbers that were cut off, also at the end. -/
theorem WellPlaced.sizeHint_eq (h : c.WellPlaced) :
    c.sizeHint =
      (if c.options.skipLong then 0 else min c.size Count.max - min c.offset Count.max,
        some (min c.size Count.max - min c.offset Count.max)) := by
  unfold sizeHint
  cases he : c.exhausted with
  | true => rw [if_pos rfl, h.offset_of_exhausted he, Nat.sub_self]
  | false => rw [if_neg (by decide), total_eq_min, position_eq_min]

theorem WellPlaced.length_drain_le (h : c.WellPlaced) :
    c.drain.1.length ≤ c.size - c.offset := by
  rw [h.drain.records, ← length_ahead]
  exact List.length_filter_le _ _

theorem WellPlaced.length_drain_of_not_skipLong (h : c.WellPlaced)
    (hs : c.options.skipLong = false) : c.drain.1.length = c.size - c.offset := by
  rw [h.drain.records, filter_keeps, if_neg (by rw [hs]; decide), length_ahead]

/-- Bounds on a number, the upper one only if there is one. -/
def Bounds (hint : Nat × Option Nat) (n : Nat) : Prop :=
  hint.1 ≤ n ∧ ∀ upper ∈ hint.2, n ≤ upper

theorem WellPlaced.sizeHint_lower_le (h : c.WellPlaced) :
    c.sizeHint.1 ≤ c.drain.1.length := by
  rw [h.sizeHint_eq]
  cases hs : c.options.skipLong with
  | true => exact Nat.zero_le _
  | false =>
    rw [if_neg (by decide), h.length_drain_of_not_skipLong hs]
    have hoffset := h.offset_le
    omega

theorem WellPlaced.bounds_iff (h : c.WellPlaced) :
    Bounds c.sizeHint c.drain.1.length ↔
      c.size ≤ Count.max ∨ c.drain.1.length = 0 ∨
        c.offset + c.drain.1.length ≤ Count.max := by
  have hlower := h.sizeHint_lower_le
  have hupper : c.sizeHint.2 = some (min c.size Count.max - min c.offset Count.max) := by
    rw [h.sizeHint_eq]
  have hdrain := h.length_drain_le
  have hoffset := h.offset_le
  rw [Bounds, hupper]
  simp only [hlower, Option.mem_some_iff, forall_eq', true_and]
  omega

/-- At every place that calls lead to, the lower bound of the hint holds. Both bounds hold
exactly if all combinations can be counted, or if those examined together with the
advertisements to come can, or if none is to come. While nothing is left out that is:
exactly if all combinations can be counted or the cursor is at the end. -/
theorem sizeHint_bounds_iff (h : c.Reachable) :
    c.sizeHint.1 ≤ c.drain.1.length ∧
      (Bounds c.sizeHint c.drain.1.length ↔
        c.size ≤ Count.max ∨ c.drain.1.length = 0 ∨
          c.offset + c.drain.1.length ≤ Count.max) ∧
      (c.options.skipLong = false →
        (Bounds c.sizeHint c.drain.1.length ↔ c.size ≤ Count.max ∨ c.exhausted = true)) := by
  have hw := h.wellPlaced
  refine ⟨hw.sizeHint_lower_le, hw.bounds_iff, ?_⟩
  intro hs
  rw [hw.bounds_iff, hw.length_drain_of_not_skipLong hs]
  cases he : c.exhausted with
  | true =>
    have hend : c.offset = c.size := hw.offset_of_exhausted he
    simp only [or_true, iff_true]
    omega
  | false =>
    have hlt : c.offset < c.size := hw.offset_lt he
    simp only [Bool.false_eq_true, or_false]
    omega

/-- The bounds hold one call into a small walk that leaves out long advertisements. -/
theorem sizeHint_bounds_small :
    let c := (start ["a", "bb"] ["[k]"] ["x", "y"] ⟨true, ⟨1, 1⟩⟩).next.2
    c.Reachable ∧ Bounds c.sizeHint c.drain.1.length := by
  intro c
  have hc : c.Reachable := .next (.start _ _ _ _)
  have hsize : c.size = 4 := by
    obtain ⟨_, ht⟩ := (wellPlaced_start ["a", "bb"] ["[k]"] ["x", "y"] ⟨true, ⟨1, 1⟩⟩).next
    rw [size_congr ht.input]
    rfl
  refine ⟨hc, (sizeHint_bounds_iff hc).2.1.mpr (.inl ?_)⟩
  rw [hsize]
  decide

/-- So many lines that three lists of them have more combinations than can be counted. -/
def manyLines : List String := List.replicate 2642246 ""

/-- Before the first call on such lists the upper bound is below the number of
advertisements to come. -/
theorem sizeHint_manyLines_not_bounds :
    let c := start manyLines manyLines manyLines {}
    c.Reachable ∧ c.sizeHint.2 = some Count.max ∧
      c.drain.1.length = 2642246 * 2642246 * 2642246 ∧
      ¬ Bounds c.sizeHint c.drain.1.length := by
  intro c
  have hc : c.Reachable := .start _ _ _ _
  have hlength : manyLines.length = 2642246 := List.length_replicate
  have hsize : c.size = 2642246 * 2642246 * 2642246 := by
    simp only [c, size, start, List.length_map, hlength]
  have hoffset : c.offset = 0 := by simp only [c, offset, start, Nat.zero_mul, Nat.add_zero]
  have hmax : Count.max < 2642246 * 2642246 * 2642246 := by decide
  have hn := hc.wellPlaced.length_drain_of_not_skipLong rfl
  rw [hsize, hoffset, Nat.sub_zero] at hn
  refine ⟨hc, ?_, hn, ?_⟩
  · rw [hc.wellPlaced.sizeHint_eq, hsize, hoffset, Nat.min_eq_right (Nat.le_of_lt hmax)]
    rfl
  · rw [hc.wellPlaced.bounds_iff, hsize, hoffset, hn]
    omega

end Combinations
end AdTemplates
