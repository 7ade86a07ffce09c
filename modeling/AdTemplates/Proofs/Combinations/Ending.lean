import AdTemplates.Proofs.Combinations.Calls
import AdTemplates.Proofs.Combinations.Turns

/-! Every call ends, and the end is final. Each turn of a call takes one combination off those
that have not been examined, an exact number that no report cuts off, so a call takes no more
turns than there are combinations ahead. A cursor at the end answers every call with nothing and
stays where it is. -/
namespace AdTemplates.Combinations

variable {keywords titles texts : List String} {options : ExpandOptions}
variable {yielded : List Record} {c : Combinations}

theorem Visits.size (h : Visits keywords titles texts options yielded c) :
    c.size = keywords.length * titles.length * texts.length := by
  rw [size_congr h.input]
  simp only [Combinations.size, Combinations.start, List.length_map]

/-- What has been returned, what has been counted as left out and what is ahead are together all
combinations. -/
theorem Visits.remaining (h : Visits keywords titles texts options yielded c) :
    yielded.length + c.skipped + c.remaining =
      keywords.length * titles.length * texts.length := by
  have hle := h.accounts.wellPlaced.offset_le
  rw [h.accounts.length_add_skipped, Combinations.remaining, ← h.size]
  omega

/-- A call, turn by turn, takes as many turns as it takes combinations off those ahead. -/
theorem WellPlaced.exists_turns_of_next (h : c.WellPlaced) :
    ∃ n d, c.Turns n d ∧ n + c.next.1.toList.length + c.next.2.remaining = c.remaining ∧
      (d.exhausted = true ∧ c.next = (none, d) ∨
        ∃ r e, d.Turn (some r) e ∧ c.next = (some r, e)) := by
  obtain ⟨n, d, hturns, hlast⟩ := h.exists_turns
  obtain ⟨hd, _, hn⟩ := h.of_turns hturns
  refine ⟨n, d, hturns, ?_⟩
  rcases hlast with he | ⟨r, e, ht⟩
  · have hnext : c.next = (none, d) := by rw [hturns.next_eq, next_of_exhausted he]
    have hlength : n + 0 + d.remaining = c.remaining := by omega
    rw [hnext]
    exact ⟨hlength, .inl ⟨he, rfl⟩⟩
  · obtain ⟨_, _, hlast⟩ := hd.of_turn ht
    have hnext : c.next = (some r, e) := by rw [hturns.next_eq, next_of_returns ht]
    have hlength : n + 1 + e.remaining = c.remaining := by omega
    rw [hnext]
    exact ⟨hlength, .inr ⟨r, e, ht, rfl⟩⟩

/-! At the end. -/

theorem run_of_exhausted (he : c.exhausted = true) (call : Call) :
    call.run c = (call.answer [], c) := by
  have hnext := next_of_exhausted he
  cases call with
  | next => rw [Call.run, hnext]; rfl
  | nth n =>
    have hnth : Combinations.nth n c = (none, c) := by
      cases n with
      | zero => exact hnext
      | succ n => rw [Combinations.nth, hnext]
    rw [Call.run, hnth]
    rfl
  | take n =>
    have htake : Combinations.take n c = ([], c) := by
      cases n with
      | zero => rfl
      | succ n => rw [Combinations.take, hnext]
    rw [Call.run, htake]
    rfl
  | count =>
    have hdrain : c.drain = ([], c) := by
      rw [Combinations.drain]
      split
      · rename_i hn
        rw [hnext] at hn
        cases hn
        rfl
      · rename_i hn
        rw [hnext] at hn
        cases hn
    rw [Call.run, Combinations.count, hdrain]
    rfl

theorem runCalls_of_exhausted (he : c.exhausted = true) (calls : List Call) :
    runCalls calls c = (calls.map fun call => (call.answer [], c.skipped), c) := by
  induction calls with
  | nil => rfl
  | cons call calls ih =>
    rw [runCalls, run_of_exhausted he]
    simp only [ih, List.map_cons]

theorem WellPlaced.exhausted_of_next (h : c.WellPlaced) (hn : c.next.1 = none) :
    c.next.2.exhausted = true := by
  obtain ⟨_, ht⟩ := h.next
  exact ht.ended hn

/-- Whatever the lists and the options are, a call ends: after some turns that go on it is at the
end, or one more turn returns. It takes as many turns as it takes combinations off those ahead, so
never more than there are. Wherever its loop tests for the end, what has been returned or left out
before, the turns so far and what is ahead come to the product of the three lengths; there is a
turn unless it is the end, and every turn leaves fewer ahead. Once a call has returned nothing,
later calls of any kind find nothing, and the place stays as it is, its indices and its count of
what was left out included. -/
theorem ends_for_good (h : Visits keywords titles texts options yielded c) :
    (∃ n d, c.Turns n d ∧ n + c.next.1.toList.length + c.next.2.remaining = c.remaining ∧
      (d.exhausted = true ∧ c.next = (none, d) ∨
        ∃ r e, d.Turn (some r) e ∧ c.next = (some r, e))) ∧
    (∀ n d, c.Turns n d →
      yielded.length + c.skipped + n + d.remaining =
          keywords.length * titles.length * texts.length ∧
        (d.exhausted = false → ∃ result e, d.Turn result e) ∧
        ∀ result e, d.Turn result e → e.remaining < d.remaining) ∧
    (c.next.1 = none →
      c.next.2.next = (none, c.next.2) ∧
        ∀ calls, runCalls calls c.next.2 =
          (calls.map fun call => (call.answer [], c.next.2.skipped), c.next.2)) := by
  have hc := h.accounts.wellPlaced
  refine ⟨hc.exists_turns_of_next, ?_, ?_⟩
  · intro n d hturns
    obtain ⟨hd, _, hn⟩ := hc.of_turns hturns
    refine ⟨?_, hd.exists_turn, ?_⟩
    · rw [← h.remaining, ← hn]
      omega
    · intro result e ht
      obtain ⟨_, _, he⟩ := hd.of_turn ht
      omega
  · intro hnone
    have he := hc.exhausted_of_next hnone
    exact ⟨next_of_exhausted he, runCalls_of_exhausted he⟩

/-- A call that leaves out all three combinations ahead, and then every later call. -/
theorem ends_for_good_filtered :
    let c : Combinations := ⟨["a", "bb"], [.parse "[k]"], [.parse "x", .parse "yy"],
      ⟨true, ⟨1, 1⟩⟩, 0, 0, 1, some "a", 0⟩
    let last : Combinations :=
      { c with keyword := 2, text := 0, renderedTitle := none, skipped := 3 }
    Visits ["a", "bb"] ["[k]"] ["x", "yy"] ⟨true, ⟨1, 1⟩⟩ [⟨"a", "a", "x"⟩] c ∧
      c.remaining = 3 ∧ c.next = (none, last) ∧ (∃ d, c.Turns 3 d ∧ d.exhausted = true) ∧
      ∀ calls, runCalls calls last = (calls.map fun call => (call.answer [], 3), last) := by
  intro c last
  have hfirst : (start ["a", "bb"] ["[k]"] ["x", "yy"] ⟨true, ⟨1, 1⟩⟩).next =
      (some ⟨"a", "a", "x"⟩, c) := by decide +kernel
  have hvisits : Visits ["a", "bb"] ["[k]"] ["x", "yy"] ⟨true, ⟨1, 1⟩⟩ [⟨"a", "a", "x"⟩] c :=
    Visits.start.of_next hfirst
  have hnext : c.next = (none, last) := by decide +kernel
  obtain ⟨⟨n, d, hturns, hn, hend⟩, _, hfinal⟩ := ends_for_good hvisits
  rw [hnext] at hn hend hfinal
  have hthree : n = 3 := hn
  refine ⟨hvisits, by decide, hnext, ⟨d, hthree ▸ hturns, ?_⟩, (hfinal rfl).2⟩
  rcases hend with ⟨he, _⟩ | ⟨_, _, _, hr⟩
  · exact he
  · cases hr

end AdTemplates.Combinations
