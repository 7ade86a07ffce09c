import AdTemplates.Proofs.Combinations.SizeHint

/-! Size hints while all combinations can be counted. What calls have returned and what they
have counted as left out is, together, what is behind the cursor. Nothing that a hint is
computed from is cut off then, so a hint is the number of combinations ahead. -/
namespace AdTemplates

namespace Count

theorem mul_of_le {a b : Nat} (h : a * b ≤ max) : mul a b = a * b := Nat.min_eq_left h

theorem add_of_le {a b : Nat} (h : a + b ≤ max) : add a b = a + b := Nat.min_eq_left h

end Count

namespace Combinations

variable {keywords titles texts : List String} {options : ExpandOptions}
variable {yielded taken : List Record} {wanted : Option Nat} {c d : Combinations}

/-- The places that single calls lead to, each with all that the calls have returned. -/
inductive Visits (keywords titles texts : List String) (options : ExpandOptions) :
    List Record → Combinations → Prop where
  | start : Visits keywords titles texts options [] (start keywords titles texts options)
  | next {yielded : List Record} {c : Combinations}
      (h : Visits keywords titles texts options yielded c) :
      Visits keywords titles texts options (yielded ++ c.next.1.toList) c.next.2

/-- What has become of the combinations behind a cursor. -/
structure Accounts (c : Combinations) (yielded : List Record) : Prop where
  wellPlaced : c.WellPlaced
  yielded : (c.all.take c.offset).filter c.options.keeps = yielded
  skipped : rejected c.all c.options.keeps c.offset = c.skipped

/-- Records that are consumed come behind those that have been returned before. -/
theorem Accounts.consumes (h : Accounts c yielded) (hd : Consumes c wanted taken d) :
    Accounts d (yielded ++ taken) := by
  have hle := hd.reads.le
  refine ⟨hd.wellPlaced, ?_, ?_⟩
  · rw [all_congr hd.input, options_congr hd.input, ← take_append_extract hle,
      List.filter_append, h.yielded, hd.reads.passed]
  · rw [all_congr hd.input, options_congr hd.input, ← rejected_add hle, h.skipped, hd.skipped]

theorem Accounts.next (h : Accounts c yielded) :
    Accounts c.next.2 (yielded ++ c.next.1.toList) :=
  h.consumes h.wellPlaced.consumes_next

theorem accounts_start : Accounts (start keywords titles texts options) [] := by
  have hoffset : (start keywords titles texts options).offset = 0 := by simp [offset, start]
  refine ⟨wellPlaced_start keywords titles texts options, ?_, ?_⟩
  · rw [hoffset, List.take_zero, List.filter_nil]
  · rw [hoffset]
    rfl

theorem Visits.accounts (h : Visits keywords titles texts options yielded c) :
    Accounts c yielded := by
  induction h with
  | start => exact accounts_start
  | next _ ih => exact ih.next

theorem Visits.input (h : Visits keywords titles texts options yielded c) :
    c.input = (Combinations.start keywords titles texts options).input := by
  induction h with
  | start => rfl
  | next h ih => exact h.accounts.wellPlaced.consumes_next.input.trans ih

theorem WellPlaced.length_passed (h : c.WellPlaced) : (c.all.take c.offset).length = c.offset := by
  rw [List.length_take, length_all, Nat.min_eq_left h.offset_le]

/-- Each combination behind a cursor has been returned or counted as left out. -/
theorem Accounts.length_add_skipped (h : Accounts c yielded) :
    yielded.length + c.skipped = c.offset := by
  rw [← h.yielded, ← h.skipped, rejected, ← List.length_eq_length_filter_add,
    h.wellPlaced.length_passed]

/-- What was left out can be counted if all combinations can. -/
theorem Accounts.skipped_le_max (h : Accounts c yielded) (hsize : c.size ≤ Count.max) :
    c.skipped ≤ Count.max :=
  calc c.skipped ≤ yielded.length + c.skipped := Nat.le_add_left _ _
    _ = c.offset := h.length_add_skipped
    _ ≤ c.size := h.wellPlaced.offset_le
    _ ≤ Count.max := hsize

/-- Every product and every sum on the way to a hint is the exact one, and its difference
does not go below zero. -/
structure CountsExactly (c : Combinations) : Prop where
  pairs : Count.mul c.keywords.length c.titles.length = c.keywords.length * c.titles.length
  total : c.total = c.keywords.length * c.titles.length * c.texts.length
  pairsBehind : Count.mul c.keyword c.titles.length = c.keyword * c.titles.length
  keywordsBehind : Count.product c.keyword c.titles.length c.texts.length =
    c.keyword * c.titles.length * c.texts.length
  titlesBehind : Count.mul c.title c.texts.length = c.title * c.texts.length
  linesBehind : Count.add (Count.product c.keyword c.titles.length c.texts.length)
      (Count.mul c.title c.texts.length) =
    c.keyword * c.titles.length * c.texts.length + c.title * c.texts.length
  position : c.position =
    c.keyword * c.titles.length * c.texts.length + c.title * c.texts.length + c.text
  difference : c.position ≤ c.total

/-- Without texts the product is zero while the pairs of keywords and titles may be too many;
otherwise no number is greater than the product. -/
theorem WellPlaced.countsExactly (h : c.WellPlaced) (hsize : c.size ≤ Count.max)
    (htexts : c.texts ≠ []) : c.CountsExactly := by
  have hpos : 0 < c.texts.length := List.length_pos_iff.mpr htexts
  have hoffset : c.offset =
      c.keyword * c.titles.length * c.texts.length + c.title * c.texts.length + c.text := by
    rw [offset, Nat.add_mul]
  have hbehind : c.offset ≤ Count.max := Nat.le_trans h.offset_le hsize
  have hpairs : c.keywords.length * c.titles.length ≤ Count.max :=
    Nat.le_trans (Nat.le_mul_of_pos_right _ hpos) hsize
  have hpairsBehind : c.keyword * c.titles.length ≤ Count.max :=
    Nat.le_trans (Nat.mul_le_mul_right _ h.keyword_le) hpairs
  have htotal : c.total = c.size := by rw [total_eq_min, Nat.min_eq_left hsize]
  have hposition : c.position = c.offset := by rw [position_eq_min, Nat.min_eq_left hbehind]
  have hkeywords : Count.product c.keyword c.titles.length c.texts.length =
      c.keyword * c.titles.length * c.texts.length := by
    rw [Count.product_eq_min, Nat.min_eq_left (by omega)]
  have htitles : Count.mul c.title c.texts.length = c.title * c.texts.length :=
    Count.mul_of_le (by omega)
  exact {
    pairs := Count.mul_of_le hpairs
    total := htotal
    pairsBehind := Count.mul_of_le hpairsBehind
    keywordsBehind := hkeywords
    titlesBehind := htitles
    linesBehind := by rw [hkeywords, htitles, Count.add_of_le (by omega)]
    position := hposition.trans hoffset
    difference := by rw [htotal, hposition]; exact h.offset_le }

theorem WellPlaced.offset_eq_size_iff (h : c.WellPlaced) :
    c.offset = c.size ↔ c.exhausted = true := by
  constructor
  · intro hend
    rw [← Bool.not_eq_false]
    exact fun he => Nat.ne_of_lt (h.offset_lt he) hend
  · exact h.offset_of_exhausted

/-- A call that returns an advertisement takes it off what is ahead, and whatever it leaves
out on the way. -/
theorem Accounts.left_next (h : Accounts c yielded) {r : Record} (hr : c.next.1 = some r) :
    ∃ dropped, c.ahead = dropped ++ r :: c.next.2.ahead ∧
      (∀ a ∈ dropped, c.options.keeps a = false) ∧
      c.size - (yielded.length + c.skipped) =
        c.size - ((yielded ++ [r]).length + c.next.2.skipped) + (1 + dropped.length) := by
  obtain ⟨dropped, htakes⟩ := h.wellPlaced.next
  have hnext : (yielded ++ [r]).length + c.next.2.skipped ≤ c.size := by
    have hlength := h.next.length_add_skipped
    rw [hr, Option.toList_some] at hlength
    rw [hlength, ← size_congr htakes.input]
    exact htakes.wellPlaced.offset_le
  refine ⟨dropped, ?_, htakes.left_out, ?_⟩
  · rw [htakes.ahead, hr, Option.toList_some, List.append_assoc, List.singleton_append]
  · have hskipped := htakes.skipped
    rw [List.length_append, List.length_singleton] at hnext ⊢
    omega

/-- The hint is exact while all combinations can be counted: it is the number of combinations
that are left when those are taken off that have been returned or left out. These are the ones
ahead, and as many advertisements are to come while nothing is left out, and no more otherwise.
If there are texts, no operation behind the hint is cut off. The number is zero exactly at the
end, and a call that returns an advertisement takes one off for it and one for each that it
leaves out. -/
theorem sizeHint_exact (h : Visits keywords titles texts options yielded c)
    (hsize : keywords.length * titles.length * texts.length ≤ Count.max) :
    let size := keywords.length * titles.length * texts.length
    let left := size - (yielded.length + c.skipped)
    c.sizeHint = (if options.skipLong then 0 else left, some left) ∧
      (∃ examined, expansion keywords titles texts = examined ++ c.ahead ∧
        examined.filter options.keeps = yielded ∧
        (examined.filter (!options.keeps ·)).length = c.skipped) ∧
      c.ahead.length = left ∧
      c.drain.1.length ≤ left ∧ (options.skipLong = false → c.drain.1.length = left) ∧
      (texts ≠ [] → c.CountsExactly) ∧
      (left = 0 ↔ c.exhausted = true) ∧
      ∀ r, c.next.1 = some r → ∃ dropped, c.ahead = dropped ++ r :: c.next.2.ahead ∧
        (∀ a ∈ dropped, options.keeps a = false) ∧
        left = size - ((yielded ++ [r]).length + c.next.2.skipped) + (1 + dropped.length) := by
  intro size left
  have hplaced := h.accounts.wellPlaced
  have hoptions : c.options = options := options_congr h.input
  have hall : c.all = expansion keywords titles texts :=
    (all_congr h.input).trans (all_start keywords titles texts options)
  have hcsize : c.size = size := by rw [← length_all, hall, length_expansion]
  have hleft : left = c.size - c.offset := by rw [hcsize, ← h.accounts.length_add_skipped]
  have hmax : c.size ≤ Count.max := hcsize ▸ hsize
  have hle := hplaced.offset_le
  refine ⟨?_, ⟨c.all.take c.offset, ?_, ?_, ?_⟩, ?_, ?_, ?_, ?_, ?_, ?_⟩
  · rw [hplaced.sizeHint_eq, Nat.min_eq_left hmax, Nat.min_eq_left (Nat.le_trans hle hmax),
      hoptions, hleft]
  · rw [ahead, List.take_append_drop, hall]
  · rw [← hoptions, h.accounts.yielded]
  · rw [← hoptions, ← h.accounts.skipped, rejected]
  · rw [length_ahead, hleft]
  · rw [hleft]
    exact hplaced.length_drain_le
  · intro hs
    rw [hleft, hplaced.length_drain_of_not_skipLong (hoptions ▸ hs)]
  · intro htexts
    have hc : c.texts = texts.map Template.parse := congrArg (fun i => i.2.2.1) h.input
    exact hplaced.countsExactly hmax fun hnil => htexts (List.map_eq_nil_iff.mp (hc ▸ hnil))
  · rw [← hplaced.offset_eq_size_iff, hleft]
    omega
  · intro r hr
    obtain ⟨dropped, hsplit, hdropped, hcount⟩ := h.accounts.left_next hr
    rw [hcsize] at hcount
    exact ⟨dropped, hsplit, hoptions ▸ hdropped, hcount⟩

/-- The first call here leaves out two combinations before it returns one. -/
theorem sizeHint_exact_filtered :
    let c := (start ["bb", "a"] ["[k]"] ["x", "y"] ⟨true, ⟨1, 1⟩⟩).next.2
    Visits ["bb", "a"] ["[k]"] ["x", "y"] ⟨true, ⟨1, 1⟩⟩ [⟨"a", "a", "x"⟩] c ∧
      2 * 1 * 2 ≤ Count.max ∧ c.sizeHint = (0, some 1) ∧ c.ahead.length = 1 := by
  intro c
  have hyielded : (start ["bb", "a"] ["[k]"] ["x", "y"] ⟨true, ⟨1, 1⟩⟩).next.1 =
      some ⟨"a", "a", "x"⟩ := by decide +kernel
  have hskipped : c.skipped = 2 := by decide +kernel
  have hvisits : Visits ["bb", "a"] ["[k]"] ["x", "y"] ⟨true, ⟨1, 1⟩⟩ [⟨"a", "a", "x"⟩] c := by
    have h : Visits ["bb", "a"] ["[k]"] ["x", "y"] ⟨true, ⟨1, 1⟩⟩ _ c := .next .start
    rwa [hyielded] at h
  have hsize : 2 * 1 * 2 ≤ Count.max := by decide
  have hexact := sizeHint_exact hvisits hsize
  rw [hskipped] at hexact
  exact ⟨hvisits, hsize, hexact.1, hexact.2.2.1⟩

end Combinations
end AdTemplates
