import AdTemplates.Proofs.Combinations.Progress

/-! The loop of a call, one turn after the other. A turn examines the combination at the cursor
and returns it, or counts it as left out and goes on. Wherever the loop tests for the end, and
whatever has been left out before, each index points into its list unless the end is reached,
and a title that is kept belongs to the keyword and the title at the cursor. -/
namespace AdTemplates.Combinations

variable {keywords titles texts : List String} {options : ExpandOptions}
variable {yielded : List Record} {result : Option Record} {r : Record} {n : Nat}
variable {c d : Combinations}

/-- One turn of the loop, with what it returns if it does not go on. -/
inductive Turn (c : Combinations) : Option Record → Combinations → Prop where
  | returns {r : Record} {d : Combinations} (hs : c.step? = some (r, d))
      (hr : c.options.keeps r = true) : Turn c (some r) d
  | goesOn {r : Record} {d : Combinations} (hs : c.step? = some (r, d))
      (hr : c.options.keeps r = false) : Turn c none d.skip

/-- So many turns that go on. The loop tests for the end in front of each and behind the last. -/
inductive Turns : Combinations → Nat → Combinations → Prop where
  | begin (c : Combinations) : Turns c 0 c
  | goOn {c d e : Combinations} {n : Nat} (h : c.Turn none d) (hmore : Turns d n e) :
      Turns c (n + 1) e

theorem next_of_exhausted (he : c.exhausted = true) : c.next = (none, c) := by
  rw [Combinations.next]
  split
  · rfl
  · rename_i hs
    rw [step?_of_exhausted he] at hs
    cases hs

theorem next_of_step? (hs : c.step? = some (r, d)) :
    c.next = if c.options.keeps r then (some r, d) else d.skip.next := by
  rw [Combinations.next]
  split
  · rename_i hn
    rw [hs] at hn
    cases hn
  · rename_i hs'
    cases Option.some.inj (hs.symm.trans hs')
    rfl

theorem next_of_returns (h : c.Turn (some r) d) : c.next = (some r, d) := by
  cases h with
  | returns hs hr => rw [next_of_step? hs, if_pos hr]

theorem next_of_goesOn (h : c.Turn none d) : c.next = d.next := by
  cases h with
  | goesOn hs hr => rw [next_of_step? hs, if_neg (by rw [hr]; decide)]

theorem Turns.next_eq (h : c.Turns n d) : c.next = d.next := by
  induction h with
  | begin c => rfl
  | goOn h _ ih => rw [next_of_goesOn h, ih]

/-- A turn, whichever it is, takes the first combination off those ahead. -/
theorem WellPlaced.of_turn (h : c.WellPlaced) (ht : c.Turn result d) :
    d.WellPlaced ∧ d.input = c.input ∧ d.remaining + 1 = c.remaining := by
  cases ht with
  | returns hs _ =>
    obtain ⟨hd, hi, _⟩ := h.of_step? hs
    exact ⟨hd, hi, remaining_of_step? hs⟩
  | goesOn hs _ =>
    obtain ⟨hd, hi, _⟩ := h.of_step? hs
    have hn := remaining_of_step? hs
    exact ⟨hd.skip, hi, hn⟩

theorem WellPlaced.of_turns (h : c.WellPlaced) (ht : c.Turns n d) :
    d.WellPlaced ∧ d.input = c.input ∧ d.remaining + n = c.remaining := by
  induction ht with
  | begin c => exact ⟨h, rfl, rfl⟩
  | goOn ht _ ih =>
    obtain ⟨hd, hi, hn⟩ := h.of_turn ht
    obtain ⟨he, hi', hn'⟩ := ih hd
    exact ⟨he, hi'.trans hi, by omega⟩

/-- Before the end the loop has a turn to take. -/
theorem WellPlaced.exists_turn (h : c.WellPlaced) (he : c.exhausted = false) :
    ∃ result d, c.Turn result d := by
  obtain ⟨r, d, hs, _⟩ := h.step?_eq_some he
  cases hr : c.options.keeps r with
  | true => exact ⟨some r, d, .returns hs hr⟩
  | false => exact ⟨none, d.skip, .goesOn hs hr⟩

/-- The loop comes to an end: after some turns that go on there is one that returns, or nothing
is ahead. -/
theorem WellPlaced.exists_turns (h : c.WellPlaced) :
    ∃ n d, c.Turns n d ∧ (d.exhausted = true ∨ ∃ r e, d.Turn (some r) e) := by
  -- On the number of combinations ahead, not along the call: that it ends is what is shown here.
  induction hleft : c.remaining using Nat.strongRecOn generalizing c with
  | ind left ih =>
    cases he : c.exhausted with
    | true => exact ⟨0, c, .begin c, .inl he⟩
    | false =>
      obtain ⟨result, d, ht⟩ := h.exists_turn he
      obtain ⟨hd, _, hn⟩ := h.of_turn ht
      cases result with
      | some r => exact ⟨0, c, .begin c, .inr ⟨r, d, ht⟩⟩
      | none =>
        obtain ⟨n, e, hmore, hlast⟩ := ih d.remaining (by omega) hd rfl
        exact ⟨n + 1, e, .goOn ht hmore, hlast⟩

theorem WellPlaced.exhausted_eq_false_iff_lt (h : c.WellPlaced) :
    c.exhausted = false ↔ c.keyword < c.keywords.length ∧ c.title < c.titles.length ∧
      c.text < c.texts.length := by
  constructor
  · intro he
    exact ⟨(exhausted_eq_false_iff.mp he).2.2, h.within he⟩
  · rintro ⟨hk, ht, hx⟩
    exact exhausted_eq_false_iff.mpr ⟨List.ne_nil_of_length_pos (Nat.zero_lt_of_lt ht),
      List.ne_nil_of_length_pos (Nat.zero_lt_of_lt hx), hk⟩

/-- Before the end a step examines what the indices point to; a title that is kept does not show. -/
theorem WellPlaced.step?_current (h : c.WellPlaced) (he : c.exhausted = false) :
    ∃ keyword title text d, c.keywords[c.keyword]? = some keyword ∧
      c.titles[c.title]? = some title ∧ c.texts[c.text]? = some text ∧
      c.step? = some (⟨keyword, title.render keyword, text.render keyword⟩, d) := by
  obtain ⟨r, d, hs, _⟩ := h.step?_eq_some he
  obtain ⟨keyword, title, text, hk, ht, hx, hr, _⟩ := Combinations.step?_eq_some hs
  rw [h.title_eq hk ht] at hr
  exact ⟨keyword, title, text, d, hk, ht, hx, hr ▸ hs⟩

/-! Which title is kept depends only on the last turn. -/

private theorem renderedTitle_advance (h : c.renderedTitle ≠ none) :
    c.advance.renderedTitle = none ↔ c.advance.text = 0 := by
  unfold advance
  split
  · split
    · simp only
    · simp only
  · simp only [h, Nat.add_one_ne_zero]

/-- A title is kept between two texts of its pair, and nowhere else. -/
theorem renderedTitle_of_step? (hs : c.step? = some (r, d)) :
    d.renderedTitle = none ↔ d.text = 0 := by
  obtain ⟨_, _, _, _, _, _, _, rfl⟩ := step?_eq_some hs
  exact renderedTitle_advance (Option.some_ne_none _)

theorem renderedTitle_of_turn (h : c.Turn result d) : d.renderedTitle = none ↔ d.text = 0 := by
  cases h with
  | returns hs _ => exact renderedTitle_of_step? hs
  | goesOn hs _ =>
    have hd := renderedTitle_of_step? hs
    exact hd

theorem renderedTitle_of_turns (h : c.Turns n d) (hc : c.renderedTitle = none ↔ c.text = 0) :
    d.renderedTitle = none ↔ d.text = 0 := by
  induction h with
  | begin c => exact hc
  | goOn ht _ ih => exact ih (renderedTitle_of_turn ht)

theorem Visits.of_next (h : Visits keywords titles texts options yielded c)
    (hn : c.next = (result, d)) :
    Visits keywords titles texts options (yielded ++ result.toList) d := by
  have hd := h.next
  rwa [hn] at hd

theorem Visits.renderedTitle (h : Visits keywords titles texts options yielded c) :
    c.renderedTitle = none ↔ c.text = 0 := by
  induction h with
  | start => exact iff_of_true rfl rfl
  | next h ih =>
    obtain ⟨n, d, hturns, hlast⟩ := h.accounts.wellPlaced.exists_turns
    rw [hturns.next_eq]
    rcases hlast with he | ⟨r, e, ht⟩
    · rw [next_of_exhausted he]
      exact renderedTitle_of_turns hturns ih
    · rw [next_of_returns ht]
      exact renderedTitle_of_turn ht

theorem eq_of_input (h : d.input = (start keywords titles texts options).input) :
    d.keywords = keywords ∧ d.titles = titles.map Template.parse ∧
      d.texts = texts.map Template.parse ∧ d.options = options := by
  simpa only [input, start, Prod.mk.injEq] using h

theorem exists_line {lines : List String} {i : Nat} {template : Template}
    (h : (lines.map Template.parse)[i]? = some template) :
    ∃ line, lines[i]? = some line ∧ template = Template.parse line := by
  rw [List.getElem?_map, Option.map_eq_some_iff] at h
  obtain ⟨line, hline, rfl⟩ := h
  exact ⟨line, hline, rfl⟩

/-- Wherever a call tests for the end, also behind combinations that it has left out, each index
points into its list unless it is the end, and the keyword's is at most the number of keywords.
A title is kept between two texts of its pair and nowhere else, and it is the title at the cursor
for the keyword at the cursor. At the end the call returns nothing. Before it, the combination
that is examined next is the one that the indices point to, whether its title was kept or is
rendered now, and the call returns it or goes on behind it. -/
theorem coherent_at_turns (h : Visits keywords titles texts options yielded c)
    (ht : c.Turns n d) :
    d.keyword ≤ keywords.length ∧
      (d.exhausted = false ↔
        d.keyword < keywords.length ∧ d.title < titles.length ∧ d.text < texts.length) ∧
      (d.renderedTitle = none ↔ d.text = 0) ∧
      (∀ shown, d.renderedTitle = some shown → ∃ keyword title,
        keywords[d.keyword]? = some keyword ∧ titles[d.title]? = some title ∧
          shown = substitute title keyword) ∧
      (d.exhausted = true → c.next = (none, d)) ∧
      (d.exhausted = false → ∃ keyword title text e,
        keywords[d.keyword]? = some keyword ∧ titles[d.title]? = some title ∧
          texts[d.text]? = some text ∧
          let r : Record := ⟨keyword, substitute title keyword, substitute text keyword⟩
          d.step? = some (r, e) ∧
            c.next = if options.keeps r then (some r, e) else e.skip.next) := by
  obtain ⟨hd, hinput, _⟩ := h.accounts.wellPlaced.of_turns ht
  obtain ⟨hkeywords, htitles, htexts, hoptions⟩ := eq_of_input (hinput.trans h.input)
  have htitlesLength : d.titles.length = titles.length := by rw [htitles, List.length_map]
  have htextsLength : d.texts.length = texts.length := by rw [htexts, List.length_map]
  refine ⟨hkeywords ▸ hd.keyword_le, ?_, renderedTitle_of_turns ht h.renderedTitle, ?_, ?_, ?_⟩
  · rw [← hkeywords, ← htitlesLength, ← htextsLength]
    exact hd.exhausted_eq_false_iff_lt
  · intro shown hshown
    obtain ⟨keyword, template, hk, htemplate, rfl⟩ := hd.rendered shown hshown
    obtain ⟨title, htitle, rfl⟩ := exists_line (htitles ▸ htemplate)
    exact ⟨keyword, title, hkeywords ▸ hk, htitle, rfl⟩
  · intro he
    rw [ht.next_eq, next_of_exhausted he]
  · intro he
    obtain ⟨keyword, template, textTemplate, e, hk, htemplate, hx, hs⟩ := hd.step?_current he
    obtain ⟨title, htitle, rfl⟩ := exists_line (htitles ▸ htemplate)
    obtain ⟨text, htext, rfl⟩ := exists_line (htexts ▸ hx)
    refine ⟨keyword, title, text, e, hkeywords ▸ hk, htitle, htext, hs, ?_⟩
    rw [ht.next_eq, next_of_step? hs, hoptions]
    rfl

/-- The title of a keyword that has been left out altogether is gone, and the one that is kept
stays when a text of its pair is left out. -/
theorem coherent_at_turns_between :
    let c : Combinations := ⟨["bb", "a"], [.parse "[k]"], [.parse "x", .parse "yy", .parse "z"],
      ⟨true, ⟨1, 1⟩⟩, 1, 0, 1, some "a", 3⟩
    let d : Combinations := { c with text := 2, skipped := 4 }
    Visits ["bb", "a"] ["[k]"] ["x", "yy", "z"] ⟨true, ⟨1, 1⟩⟩ [⟨"a", "a", "x"⟩] c ∧
      c.Turns 1 d ∧ d.exhausted = false ∧
      ∃ e, d.step? = some (⟨"a", "a", "z"⟩, e) ∧ c.next = (some ⟨"a", "a", "z"⟩, e) := by
  intro c d
  have hfirst : (start ["bb", "a"] ["[k]"] ["x", "yy", "z"] ⟨true, ⟨1, 1⟩⟩).next =
      (some ⟨"a", "a", "x"⟩, c) := by decide +kernel
  have hvisits : Visits ["bb", "a"] ["[k]"] ["x", "yy", "z"] ⟨true, ⟨1, 1⟩⟩ [⟨"a", "a", "x"⟩] c :=
    Visits.start.of_next hfirst
  have hturn : c.Turn none d :=
    .goesOn (r := ⟨"a", "a", "yy"⟩) (d := { c with text := 2 }) (by decide +kernel) (by decide)
  have hturns : c.Turns 1 d := .goOn hturn (.begin d)
  obtain ⟨_, hwithin, _, _, _, hexamines⟩ := coherent_at_turns hvisits hturns
  have he : d.exhausted = false := hwithin.mpr (by decide)
  obtain ⟨keyword, title, text, e, hk, htitle, htext, hs, hnext⟩ := hexamines he
  cases hk
  cases htitle
  cases htext
  have hr : (⟨"a", substitute "[k]" "a", substitute "z" "a"⟩ : Record) = ⟨"a", "a", "z"⟩ := by
    decide +kernel
  rw [hr] at hs hnext
  rw [if_pos (by decide)] at hnext
  exact ⟨hvisits, hturns, he, e, hs, hnext⟩

end AdTemplates.Combinations
