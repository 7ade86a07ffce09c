import AdTemplates.Proofs.Combinations.Reading

/-! What the walk over all combinations returns. Taking all advertisements filters the
enumeration and leaves its order alone, and what is filtered out is counted. -/
namespace AdTemplates.Combinations

variable {c : Combinations}

theorem WellPlaced.consumes_drain (h : c.WellPlaced) : Consumes c none c.drain.1 c.drain.2 := by
  fun_induction Combinations.drain c with
  | case1 c d hn =>
    have hnext := h.consumes_next
    rw [hn] at hnext
    exact hnext.nothing (by simp)
  | case2 c r d hn more last hm ih =>
    have hnext := h.consumes_next
    rw [hn] at hnext
    have hmore := ih hnext.wellPlaced
    rw [hm] at hmore
    exact hnext.cons hmore

/-- What the whole walk yields, in order, and what it leaves out and counts. -/
structure Drains (c : Combinations) (records : List Record) (last : Combinations) : Prop where
  wellPlaced : last.WellPlaced
  input : last.input = c.input
  exhausted : last.exhausted = true
  records : records = c.ahead.filter c.options.keeps
  skipped : last.skipped = c.skipped + (c.ahead.filter (!c.options.keeps ·)).length

theorem WellPlaced.drain (h : c.WellPlaced) : Drains c c.drain.1 c.drain.2 := by
  have hdrain := h.consumes_drain
  have hend : c.drain.2.offset = c.all.length := hdrain.reads.ended (by simp)
  have hpassed : c.all.extract c.offset c.drain.2.offset = c.ahead := by
    rw [hend, List.extract, List.take_of_length_le (Nat.le_of_eq List.length_drop), ahead]
  exact {
    wellPlaced := hdrain.wellPlaced
    input := hdrain.input
    exhausted := by
      rw [← Bool.not_eq_false]
      intro he
      have hlt := hdrain.wellPlaced.offset_lt he
      rw [hend, length_all, size_congr hdrain.input] at hlt
      exact Nat.lt_irrefl _ hlt
    records := hdrain.reads.first
    skipped := hpassed ▸ hdrain.skipped }

section Options

variable {options : ExpandOptions}

private theorem keeps_of_skipLong (h : options.skipLong = true) :
    options.keeps = options.limits.allows := by
  funext r
  rw [ExpandOptions.keeps, h]
  rfl

private theorem keeps_of_not_skipLong (h : options.skipLong = false) (r : Record) :
    options.keeps r = true := by
  rw [ExpandOptions.keeps, h]
  rfl

theorem filter_keeps (records : List Record) :
    records.filter options.keeps =
      if options.skipLong then records.filter options.limits.allows else records := by
  cases h : options.skipLong with
  | true => rw [keeps_of_skipLong h, if_pos rfl]
  | false => exact List.filter_eq_self.mpr fun r _ => keeps_of_not_skipLong h r

theorem length_filter_not_keeps (records : List Record) :
    (records.filter (!options.keeps ·)).length =
      if options.skipLong then (records.filter (!options.limits.allows ·)).length else 0 := by
  cases h : options.skipLong with
  | true => rw [keeps_of_skipLong h, if_pos rfl]
  | false =>
    rw [if_neg (by decide), List.length_eq_zero_iff]
    exact List.filter_eq_nil_iff.mpr fun r _ => by rw [keeps_of_not_skipLong h]; decide

end Options

theorem records_drain_start (keywords titles texts : List String) (options : ExpandOptions) :
    (start keywords titles texts options).drain.1 =
      (expansion keywords titles texts).filter options.keeps := by
  rw [(wellPlaced_start keywords titles texts options).drain.records, ahead_start]
  rfl

theorem skipped_drain_start (keywords titles texts : List String) (options : ExpandOptions) :
    (start keywords titles texts options).drain.2.skipped =
      ((expansion keywords titles texts).filter (!options.keeps ·)).length := by
  rw [(wellPlaced_start keywords titles texts options).drain.skipped, ahead_start]
  exact Nat.zero_add _

/-- The whole walk yields the enumeration in its order, without those that are too long if
these are to be left out. What is left out is counted, so yielded and counted together are
the product of the three lengths. -/
theorem drain_start (keywords titles texts : List String) (options : ExpandOptions) :
    let records := expansion keywords titles texts
    let walk := (start keywords titles texts options).drain
    walk.1 = (if options.skipLong then records.filter options.limits.allows else records) ∧
      walk.2.skipped =
        (if options.skipLong then (records.filter (!options.limits.allows ·)).length else 0) ∧
      walk.1.length + walk.2.skipped = keywords.length * titles.length * texts.length := by
  intro records walk
  have hrecords : walk.1 = records.filter options.keeps :=
    records_drain_start keywords titles texts options
  have hskipped : walk.2.skipped = (records.filter (!options.keeps ·)).length :=
    skipped_drain_start keywords titles texts options
  refine ⟨?_, ?_, ?_⟩
  · rw [hrecords, filter_keeps]
  · rw [hskipped, length_filter_not_keeps]
  · rw [hrecords, hskipped, ← List.length_eq_length_filter_add]
    exact length_expansion keywords titles texts

end AdTemplates.Combinations
