import AdTemplates.Proofs.Combinations.Cursor

/-! Taking one advertisement after the other. Each call drops the combinations in front of
the one that it returns, counts them, and leaves the cursor right behind it; the places
that calls lead to are all well placed. -/
namespace AdTemplates.Combinations

variable {c : Combinations} {r : Record}

/-- Combinations that are left out, then the advertisement that is taken, if there is one,
then what is still ahead. -/
structure Takes (c : Combinations) (result : Option Record) (d : Combinations)
    (left : List Record) : Prop where
  wellPlaced : d.WellPlaced
  input : d.input = c.input
  left_out : ∀ r ∈ left, c.options.keeps r = false
  kept : ∀ r ∈ result, c.options.keeps r = true
  ahead : c.ahead = left ++ result.toList ++ d.ahead
  skipped : d.skipped = c.skipped + left.length
  ended : result = none → d.exhausted = true

private theorem takes_skip {d : Combinations} {result : Option Record} {last : Combinations}
    {left : List Record} (hi : d.input = c.input) (hs : d.skipped = c.skipped)
    (ha : c.ahead = r :: d.ahead) (hr : c.options.keeps r = false)
    (h : Takes d.skip result last left) : Takes c result last (r :: left) where
  wellPlaced := h.wellPlaced
  input := h.input.trans hi
  left_out := by
    intro a ha
    rcases List.mem_cons.mp ha with rfl | ha
    · exact hr
    · rw [← options_congr hi]; exact h.left_out a ha
  kept a ha := by rw [← options_congr hi]; exact h.kept a ha
  ahead := by
    have hd : d.ahead = left ++ result.toList ++ last.ahead := h.ahead
    rw [ha, hd]
    rfl
  skipped := by
    have hd : last.skipped = d.skipped + 1 + left.length := h.skipped
    rw [hd, hs, List.length_cons]
    omega
  ended := h.ended

/-- What one advertisement costs: the induction is on what is ahead, and the place stays a
good one. -/
theorem WellPlaced.next (h : c.WellPlaced) : ∃ left, Takes c c.next.1 c.next.2 left := by
  fun_induction Combinations.next c with
  | case1 c hs =>
    have he := h.step?_eq_none_iff.mp hs
    exact ⟨[], h, rfl, by simp, by simp, by simp, by simp, fun _ => he⟩
  | case2 c r d hs hk =>
    obtain ⟨hd, hi, hsk, ha⟩ := h.of_step? hs
    exact ⟨[], hd, hi, by simp, by simpa using hk, ha, hsk, by simp⟩
  | case3 c r d hs hk ih =>
    obtain ⟨hd, hi, hsk, ha⟩ := h.of_step? hs
    obtain ⟨left, hleft⟩ := ih hd.skip
    exact ⟨r :: left, takes_skip hi hsk ha (by simpa using hk) hleft⟩

/-- The places that some number of calls lead to. -/
inductive Reachable : Combinations → Prop where
  | start (keywords titles texts : List String) (options : ExpandOptions) :
      Reachable (start keywords titles texts options)
  | next {c : Combinations} (h : Reachable c) : Reachable c.next.2

theorem Reachable.wellPlaced (h : c.Reachable) : c.WellPlaced := by
  induction h with
  | start keywords titles texts options => exact wellPlaced_start keywords titles texts options
  | next _ ih =>
    obtain ⟨_, ht⟩ := ih.next
    exact ht.wellPlaced

/-! Every way of consuming a cursor is made of single calls. -/

theorem Reachable.nth (h : c.Reachable) (n : Nat) : (Combinations.nth n c).2.Reachable := by
  induction n generalizing c with
  | zero => exact h.next
  | succ n ih =>
    have hnext : c.next.2.Reachable := h.next
    rw [Combinations.nth]
    split
    · rename_i d hd
      rw [hd] at hnext
      exact hnext
    · rename_i d hd
      rw [hd] at hnext
      exact ih hnext

theorem Reachable.take (h : c.Reachable) (n : Nat) : (Combinations.take n c).2.Reachable := by
  induction n generalizing c with
  | zero => exact h
  | succ n ih =>
    have hnext : c.next.2.Reachable := h.next
    rw [Combinations.take]
    split
    · rename_i d hd
      rw [hd] at hnext
      exact hnext
    · rename_i d hd
      rw [hd] at hnext
      exact ih hnext

theorem Reachable.drain (h : c.Reachable) : c.drain.2.Reachable := by
  fun_induction Combinations.drain c with
  | case1 c d hn =>
    have hnext : c.next.2.Reachable := h.next
    rw [hn] at hnext
    exact hnext
  | case2 c r d hn more last hm ih =>
    have hnext : c.next.2.Reachable := h.next
    rw [hn] at hnext
    have hlast := ih hnext
    rw [hm] at hlast
    exact hlast

end AdTemplates.Combinations
