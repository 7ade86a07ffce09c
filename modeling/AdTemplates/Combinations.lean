import AdTemplates.Record

/-! Advertisements one at a time. A cursor runs over the combinations of keywords, titles
and texts, texts fastest. The title of the current pair is rendered once and kept for the
texts that share it. Each step brings the cursor one combination further
(`offset_of_step?`), so every walk ends. -/
namespace AdTemplates

/-- A place in the list of all combinations. -/
structure Combinations where
  keywords : List String
  titles : List Template
  texts : List Template
  options : ExpandOptions
  keyword : Nat
  title : Nat
  text : Nat
  /-- The current title for the current keyword, once it has been needed. -/
  renderedTitle : Option String
  /-- How many combinations behind the cursor were left out. Wherever calls lead, this stays
  below the largest count if the number of all combinations does (`Accounts.skipped_le_max`). -/
  skipped : Nat
  deriving DecidableEq, Repr

namespace Combinations

/-- The place before the first combination. -/
def start (keywords titles texts : List String) (options : ExpandOptions) : Combinations where
  keywords := keywords
  titles := titles.map Template.parse
  texts := texts.map Template.parse
  options := options
  keyword := 0
  title := 0
  text := 0
  renderedTitle := none
  skipped := 0

/-- The exact number of combinations. -/
def size (c : Combinations) : Nat := c.keywords.length * c.titles.length * c.texts.length

/-- The exact number of combinations behind the cursor. -/
def offset (c : Combinations) : Nat :=
  (c.keyword * c.titles.length + c.title) * c.texts.length + c.text

/-- The exact number of combinations that are still ahead. -/
def remaining (c : Combinations) : Nat := c.size - c.offset

/-- The number of combinations, as reports show it. -/
def total (c : Combinations) : Nat :=
  Count.product c.keywords.length c.titles.length c.texts.length

/-- The number of combinations behind the cursor, as reports show it. -/
def position (c : Combinations) : Nat :=
  Count.add
    (Count.add (Count.product c.keyword c.titles.length c.texts.length)
      (Count.mul c.title c.texts.length))
    c.text

/-- Whether the cursor is behind the last combination. -/
def exhausted (c : Combinations) : Bool :=
  c.titles.isEmpty || c.texts.isEmpty || c.keywords.length ≤ c.keyword

/-- Moves the cursor to the next combination: the text first, then the title, then the
keyword. -/
def advance (c : Combinations) : Combinations :=
  if c.text + 1 = c.texts.length then
    if c.title + 1 = c.titles.length then
      { c with text := 0, title := 0, keyword := c.keyword + 1, renderedTitle := none }
    else { c with text := 0, title := c.title + 1, renderedTitle := none }
  else { c with text := c.text + 1 }

/-- The combination at the cursor, and the place after it. -/
def step? (c : Combinations) : Option (Record × Combinations) :=
  if c.exhausted then none
  else
    match c.keywords[c.keyword]?, c.titles[c.title]?, c.texts[c.text]? with
    | some keyword, some title, some text =>
      let rendered := c.renderedTitle.getD (title.render keyword)
      some (⟨keyword, rendered, text.render keyword⟩,
        ({ c with renderedTitle := some rendered }).advance)
    | _, _, _ => none

private theorem offset_advance (c : Combinations) : c.advance.offset = c.offset + 1 := by
  unfold advance offset
  split
  · rename_i hx
    split
    · rename_i ht
      simp only [Nat.add_zero]
      rw [Nat.add_mul, Nat.one_mul, ← ht, ← hx]
      simp only [Nat.add_mul, Nat.mul_add, Nat.one_mul, Nat.mul_one]
      omega
    · simp only [Nat.add_zero]
      rw [← Nat.add_assoc, Nat.add_mul _ 1, Nat.one_mul, ← hx]
      omega
  · rfl

private theorem size_advance (c : Combinations) : c.advance.size = c.size := by
  unfold advance size
  split
  · split <;> rfl
  · rfl

private theorem offset_lt_size {c : Combinations} (hk : c.keyword < c.keywords.length)
    (ht : c.title < c.titles.length) (hx : c.text < c.texts.length) : c.offset < c.size := by
  unfold offset size
  calc (c.keyword * c.titles.length + c.title) * c.texts.length + c.text
      < (c.keyword * c.titles.length + c.title + 1) * c.texts.length := by
        rw [Nat.add_mul (c.keyword * c.titles.length + c.title), Nat.one_mul]; omega
    _ ≤ ((c.keyword + 1) * c.titles.length) * c.texts.length := by
        apply Nat.mul_le_mul_right
        rw [Nat.add_mul, Nat.one_mul]; omega
    _ ≤ c.keywords.length * c.titles.length * c.texts.length :=
        Nat.mul_le_mul_right _ (Nat.mul_le_mul_right _ hk)

/-- What a step is made of: a combination within the lists. -/
theorem step?_eq_some {c d : Combinations} {r : Record} (h : c.step? = some (r, d)) :
    ∃ keyword title text,
      c.keywords[c.keyword]? = some keyword ∧ c.titles[c.title]? = some title ∧
      c.texts[c.text]? = some text ∧
      r = ⟨keyword, c.renderedTitle.getD (title.render keyword), text.render keyword⟩ ∧
      d = ({ c with renderedTitle := some r.title }).advance := by
  unfold step? at h
  split at h
  · cases h
  · split at h
    · rename_i keyword title text hk ht hx
      cases h
      exact ⟨keyword, title, text, hk, ht, hx, rfl, rfl⟩
    · cases h

/-- A step examines exactly one combination. -/
theorem offset_of_step? {c d : Combinations} {r : Record} (h : c.step? = some (r, d)) :
    d.offset = c.offset + 1 ∧ d.size = c.size ∧ c.offset < c.size := by
  obtain ⟨keyword, title, text, hk, ht, hx, _, rfl⟩ := step?_eq_some h
  refine ⟨?_, ?_, ?_⟩
  · rw [offset_advance]; rfl
  · rw [size_advance]; rfl
  · exact offset_lt_size (List.getElem?_eq_some_iff.mp hk).1 (List.getElem?_eq_some_iff.mp ht).1
      (List.getElem?_eq_some_iff.mp hx).1

/-- A step leaves one combination fewer ahead. -/
theorem remaining_of_step? {c d : Combinations} {r : Record} (h : c.step? = some (r, d)) :
    d.remaining + 1 = c.remaining := by
  obtain ⟨ho, hs, hlt⟩ := offset_of_step? h
  unfold remaining
  omega

/-- Counts one more combination as left out. -/
def skip (c : Combinations) : Combinations := { c with skipped := c.skipped + 1 }

/-- The next advertisement that is kept, and the place after it; those that are left out
on the way are counted. -/
def next (c : Combinations) : Option Record × Combinations :=
  match _h : c.step? with
  | none => (none, c)
  | some (r, d) => if c.options.keeps r then (some r, d) else d.skip.next
termination_by c.remaining
decreasing_by
  have := remaining_of_step? _h
  change d.remaining < c.remaining
  omega

/-- Taking an advertisement leaves fewer combinations ahead. -/
theorem remaining_of_next {c : Combinations} {r : Record} (h : c.next.1 = some r) :
    c.next.2.remaining < c.remaining := by
  fun_induction next c with
  | case1 => simp at h
  | case2 c r d hs => have := remaining_of_step? hs; simp only; omega
  | case3 c r d hs _ ih =>
    have := remaining_of_step? hs
    have hd : d.skip.remaining = d.remaining := rfl
    have := ih h
    omega

/-- All advertisements from here on, and the place behind the last combination. -/
def drain (c : Combinations) : List Record × Combinations :=
  match _h : c.next with
  | (none, d) => ([], d)
  | (some r, d) =>
    let (more, last) := d.drain
    (r :: more, last)
termination_by c.remaining
decreasing_by
  have := remaining_of_next (c := c) (r := r) (by rw [_h])
  rw [_h] at this
  exact this

/-- The advertisement after the next `n`. -/
def nth : Nat → Combinations → Option Record × Combinations
  | 0, c => c.next
  | n + 1, c =>
    match c.next with
    | (none, d) => (none, d)
    | (some _, d) => nth n d

/-- The next `n` advertisements, or as many as there are. -/
def take : Nat → Combinations → List Record × Combinations
  | 0, c => ([], c)
  | n + 1, c =>
    match c.next with
    | (none, d) => ([], d)
    | (some r, d) =>
      let (more, last) := take n d
      (r :: more, last)

/-- How many advertisements are left, and the place behind the last combination. -/
def count (c : Combinations) : Nat × Combinations :=
  let (records, last) := c.drain
  (records.length, last)

/-- Bounds on the number of advertisements to come. While none can be left out the lower
bound is the upper one. -/
def sizeHint (c : Combinations) : Nat × Option Nat :=
  let ahead := if c.exhausted then 0 else c.total - c.position
  (if c.options.skipLong then 0 else ahead, some ahead)

end Combinations

/-- The advertisements of a document, one at a time. -/
def Document.combinations (d : Document) (options : ExpandOptions) : Combinations :=
  .start d.keywords d.titles d.texts options

end AdTemplates
