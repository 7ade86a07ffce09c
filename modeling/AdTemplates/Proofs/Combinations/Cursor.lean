import AdTemplates.Combinations

/-! Where a cursor stands among all advertisements. What is ahead of it is a tail of the
nested enumeration; a step moves the head of that tail to the result, and every place
reached from the start is well placed. -/
namespace AdTemplates

/-- All advertisements: keyword by keyword, for each keyword title by title, and for each
title text by text. -/
def expansion (keywords titles texts : List String) : List Record :=
  keywords.flatMap fun keyword =>
    titles.flatMap fun title =>
      texts.map fun text => ⟨keyword, substitute title keyword, substitute text keyword⟩

section Blocks

variable {α β : Type} {f : α → List β} {n : Nat}

theorem length_flatMap_block (hf : ∀ a, (f a).length = n) (l : List α) :
    (l.flatMap f).length = l.length * n := by
  simp only [List.length_flatMap, hf, List.map_const', List.sum_replicate_nat]

/-- In blocks of one length, a block and a place in it are found by multiplication. -/
theorem getElem?_flatMap_block (hf : ∀ a, (f a).length = n) (l : List α) (i j : Nat)
    (hj : j < n) :
    (l.flatMap f)[i * n + j]? = l[i]?.bind fun a => (f a)[j]? := by
  induction l generalizing i with
  | nil => simp
  | cons a l ih =>
    cases i with
    | zero =>
      have hj' : j < (f a).length := by rw [hf]; exact hj
      simp [List.flatMap_cons, List.getElem?_append_left hj']
    | succ i =>
      have hle : (f a).length ≤ (i + 1) * n + j := by rw [hf, Nat.succ_mul]; omega
      have hsub : (i + 1) * n + j - n = i * n + j := by rw [Nat.succ_mul]; omega
      rw [List.flatMap_cons, List.getElem?_append_right hle, hf, hsub, ih]
      simp

end Blocks

namespace Combinations

variable {c d : Combinations} {r : Record}

/-- The enumeration that a cursor runs over. -/
def all (c : Combinations) : List Record :=
  c.keywords.flatMap fun keyword =>
    c.titles.flatMap fun title =>
      c.texts.map fun text => ⟨keyword, title.render keyword, text.render keyword⟩

/-- The part of the enumeration that has not been examined. -/
def ahead (c : Combinations) : List Record := c.all.drop c.offset

/-- What no step changes. -/
def input (c : Combinations) : List String × List Template × List Template × ExpandOptions :=
  (c.keywords, c.titles, c.texts, c.options)

theorem all_start (keywords titles texts : List String) (options : ExpandOptions) :
    (start keywords titles texts options).all = expansion keywords titles texts := by
  simp only [all, start, expansion, List.flatMap_map, List.map_map]
  rfl

theorem ahead_start (keywords titles texts : List String) (options : ExpandOptions) :
    (start keywords titles texts options).ahead = expansion keywords titles texts := by
  have h : (start keywords titles texts options).offset = 0 := by simp [offset, start]
  rw [ahead, h, all_start, List.drop_zero]

private theorem length_titleBlock (c : Combinations) (keyword : String) :
    (c.titles.flatMap fun title => c.texts.map fun text =>
      (⟨keyword, title.render keyword, text.render keyword⟩ : Record)).length =
        c.titles.length * c.texts.length :=
  length_flatMap_block (fun _ => List.length_map _) _

theorem length_all (c : Combinations) : c.all.length = c.size := by
  rw [all, length_flatMap_block (length_titleBlock c), size, Nat.mul_assoc]

theorem length_ahead (c : Combinations) : c.ahead.length = c.size - c.offset := by
  rw [ahead, List.length_drop, length_all]

theorem length_expansion (keywords titles texts : List String) :
    (expansion keywords titles texts).length =
      keywords.length * titles.length * texts.length := by
  rw [← all_start keywords titles texts {}, length_all]
  simp only [size, start, List.length_map]

theorem all_congr (h : d.input = c.input) : d.all = c.all := by
  simp only [input, Prod.mk.injEq] at h
  simp only [all, h]

theorem size_congr (h : d.input = c.input) : d.size = c.size := by
  rw [← length_all, ← length_all, all_congr h]

theorem options_congr (h : d.input = c.input) : d.options = c.options :=
  congrArg (fun i => i.2.2.2) h

theorem getElem?_all {keyword : String} {title text : Template}
    (hk : c.keywords[c.keyword]? = some keyword) (ht : c.titles[c.title]? = some title)
    (hx : c.texts[c.text]? = some text) :
    c.all[c.offset]? = some ⟨keyword, title.render keyword, text.render keyword⟩ := by
  have htl : c.title < c.titles.length := (List.getElem?_eq_some_iff.mp ht).1
  have hxl : c.text < c.texts.length := (List.getElem?_eq_some_iff.mp hx).1
  -- Within one keyword the titles are blocks of texts, and the keywords are blocks of those.
  have hinner : c.title * c.texts.length + c.text < c.titles.length * c.texts.length :=
    calc c.title * c.texts.length + c.text
        < (c.title + 1) * c.texts.length := by rw [Nat.succ_mul]; omega
      _ ≤ c.titles.length * c.texts.length := Nat.mul_le_mul_right _ htl
  have hoffset : c.offset =
      c.keyword * (c.titles.length * c.texts.length) + (c.title * c.texts.length + c.text) := by
    rw [offset, Nat.add_mul, Nat.mul_assoc, Nat.add_assoc]
  rw [hoffset, all, getElem?_flatMap_block (length_titleBlock c) _ _ _ hinner, hk,
    Option.bind_some, getElem?_flatMap_block (fun _ => List.length_map _) _ _ _ hxl, ht,
    Option.bind_some, List.getElem?_map, hx, Option.map_some]

/-- A cursor at a combination of the lists, or behind the last one. A title that is kept is
the one at the cursor. -/
structure WellPlaced (c : Combinations) : Prop where
  keyword_le : c.keyword ≤ c.keywords.length
  within : c.exhausted = false → c.title < c.titles.length ∧ c.text < c.texts.length
  reset : c.exhausted = true → c.title = 0 ∧ c.text = 0
  rendered : ∀ shown, c.renderedTitle = some shown →
    ∃ keyword title, c.keywords[c.keyword]? = some keyword ∧
      c.titles[c.title]? = some title ∧ shown = title.render keyword

theorem exhausted_eq_false_iff : c.exhausted = false ↔
    c.titles ≠ [] ∧ c.texts ≠ [] ∧ c.keyword < c.keywords.length := by
  simp [exhausted, and_assoc]

theorem wellPlaced_start (keywords titles texts : List String) (options : ExpandOptions) :
    (start keywords titles texts options).WellPlaced where
  keyword_le := Nat.zero_le _
  within h := by
    obtain ⟨ht, hx, _⟩ := exhausted_eq_false_iff.mp h
    exact ⟨List.length_pos_iff.mpr ht, List.length_pos_iff.mpr hx⟩
  reset _ := ⟨rfl, rfl⟩
  rendered _ h := nomatch h

/-- The whole enumeration is behind a cursor that is exhausted. -/
theorem WellPlaced.offset_of_exhausted (h : c.WellPlaced) (he : c.exhausted = true) :
    c.offset = c.size := by
  obtain ⟨ht, hx⟩ := h.reset he
  rw [offset, size, ht, hx, Nat.add_zero, Nat.add_zero]
  simp only [exhausted, Bool.or_eq_true, List.isEmpty_iff, decide_eq_true_eq] at he
  rcases he with (he | he) | he
  · simp [he]
  · simp [he]
  · rw [Nat.le_antisymm h.keyword_le he]

/-- Before the end each index points into its list. -/
theorem WellPlaced.current (h : c.WellPlaced) (he : c.exhausted = false) :
    ∃ keyword title text, c.keywords[c.keyword]? = some keyword ∧
      c.titles[c.title]? = some title ∧ c.texts[c.text]? = some text := by
  obtain ⟨ht, hx⟩ := h.within he
  obtain ⟨_, _, hk⟩ := exhausted_eq_false_iff.mp he
  exact ⟨_, _, _, List.getElem?_eq_getElem hk, List.getElem?_eq_getElem ht,
    List.getElem?_eq_getElem hx⟩

theorem WellPlaced.offset_lt (h : c.WellPlaced) (he : c.exhausted = false) :
    c.offset < c.size := by
  obtain ⟨keyword, title, text, hk, ht, hx⟩ := h.current he
  rw [← length_all]
  exact (List.getElem?_eq_some_iff.mp (getElem?_all hk ht hx)).1

theorem WellPlaced.offset_le (h : c.WellPlaced) : c.offset ≤ c.size := by
  cases he : c.exhausted with
  | true => exact Nat.le_of_eq (h.offset_of_exhausted he)
  | false => exact Nat.le_of_lt (h.offset_lt he)

private theorem input_advance (c : Combinations) : c.advance.input = c.input := by
  unfold advance
  split
  · split <;> rfl
  · rfl

private theorem skipped_advance (c : Combinations) : c.advance.skipped = c.skipped := by
  unfold advance
  split
  · split <;> rfl
  · rfl

private theorem wellPlaced_advance (h : c.WellPlaced) (he : c.exhausted = false) :
    c.advance.WellPlaced := by
  obtain ⟨ht, hx⟩ := h.within he
  obtain ⟨_, _, hk⟩ := exhausted_eq_false_iff.mp he
  unfold advance
  split
  · split
    · exact {
        keyword_le := hk
        within := fun _ => ⟨Nat.zero_lt_of_lt ht, Nat.zero_lt_of_lt hx⟩
        reset := fun _ => ⟨rfl, rfl⟩
        rendered := fun _ hs => nomatch hs }
    · exact {
        keyword_le := h.keyword_le
        within := fun _ => ⟨by simp only; omega, Nat.zero_lt_of_lt hx⟩
        -- The keyword is the same, so the cursor is not exhausted afterwards either.
        reset := fun he' => absurd he' (by rw [Bool.not_eq_true]; exact he)
        rendered := fun _ hs => nomatch hs }
  · exact {
      keyword_le := h.keyword_le
      within := fun _ => ⟨ht, by simp only; omega⟩
      reset := fun he' => absurd he' (by rw [Bool.not_eq_true]; exact he)
      rendered := h.rendered }

private theorem wellPlaced_keepTitle (h : c.WellPlaced) {keyword : String} {title : Template}
    (hk : c.keywords[c.keyword]? = some keyword) (ht : c.titles[c.title]? = some title) :
    WellPlaced { c with renderedTitle := some (title.render keyword) } where
  keyword_le := h.keyword_le
  within := h.within
  reset := h.reset
  rendered _ hs := ⟨keyword, title, hk, ht, (Option.some.inj hs).symm⟩

theorem WellPlaced.skip (h : c.WellPlaced) : c.skip.WellPlaced :=
  ⟨h.keyword_le, h.within, h.reset, h.rendered⟩

/-- Whether or not a title is kept, the title of the next advertisement is the one at the
cursor. -/
theorem WellPlaced.title_eq (h : c.WellPlaced) {keyword : String} {title : Template}
    (hk : c.keywords[c.keyword]? = some keyword) (ht : c.titles[c.title]? = some title) :
    c.renderedTitle.getD (title.render keyword) = title.render keyword := by
  cases hr : c.renderedTitle with
  | none => rfl
  | some shown =>
    obtain ⟨keyword', title', hk', ht', rfl⟩ := h.rendered shown hr
    cases Option.some.inj (hk.symm.trans hk')
    cases Option.some.inj (ht.symm.trans ht')
    rfl

theorem step?_of_exhausted (he : c.exhausted = true) : c.step? = none := by
  rw [step?, if_pos he]

/-- A step examines the first combination ahead. -/
theorem WellPlaced.step?_eq_some (h : c.WellPlaced) (he : c.exhausted = false) :
    ∃ r d, c.step? = some (r, d) ∧ d.WellPlaced ∧ d.input = c.input ∧
      d.skipped = c.skipped ∧ c.ahead = r :: d.ahead := by
  obtain ⟨keyword, title, text, hk, ht, hx⟩ := h.current he
  let r : Record := ⟨keyword, title.render keyword, text.render keyword⟩
  let kept : Combinations := { c with renderedTitle := some (title.render keyword) }
  have hs : c.step? = some (r, kept.advance) := by
    rw [Combinations.step?, if_neg (by rw [he]; decide), hk, ht, hx]
    simp only [h.title_eq hk ht, r, kept]
  refine ⟨r, kept.advance, hs, wellPlaced_advance (wellPlaced_keepTitle h hk ht) he,
    input_advance kept, skipped_advance kept, ?_⟩
  obtain ⟨hget, hall⟩ := List.getElem?_eq_some_iff.mp (getElem?_all hk ht hx)
  have hrest : kept.advance.ahead = c.all.drop (c.offset + 1) := by
    rw [ahead, (offset_of_step? hs).1, all_congr (input_advance kept)]
    rfl
  rw [hrest, ahead, List.drop_eq_getElem_cons hget, hall]

theorem WellPlaced.step?_eq_none_iff (h : c.WellPlaced) : c.step? = none ↔ c.exhausted = true := by
  constructor
  · intro hs
    cases he : c.exhausted with
    | true => rfl
    | false =>
      obtain ⟨r, d, hsome, _⟩ := h.step?_eq_some he
      rw [hs] at hsome
      cases hsome
  · exact step?_of_exhausted

/-- All that a step does. -/
theorem WellPlaced.of_step? (h : c.WellPlaced) (hs : c.step? = some (r, d)) :
    d.WellPlaced ∧ d.input = c.input ∧ d.skipped = c.skipped ∧ c.ahead = r :: d.ahead := by
  cases he : c.exhausted with
  | true => rw [step?_of_exhausted he] at hs; cases hs
  | false =>
    obtain ⟨r', d', hsome, hd⟩ := h.step?_eq_some he
    cases Option.some.inj (hs.symm.trans hsome)
    exact hd

theorem WellPlaced.ahead_of_exhausted (h : c.WellPlaced) (he : c.exhausted = true) :
    c.ahead = [] := by
  rw [ahead, h.offset_of_exhausted he, ← length_all, List.drop_length]

end Combinations
end AdTemplates
