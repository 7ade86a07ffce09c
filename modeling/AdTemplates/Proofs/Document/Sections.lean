import AdTemplates.Document
import Mathlib.Data.List.GetD

/-! Which line of a text belongs to which section. A line belongs to the section of the
nearest marker before it; markers, blank lines and whatever stands before the first marker
belong to none. Reading line by line with a current section comes to the same. -/
namespace AdTemplates

theorem Section.ofMarker?_eq_some_iff {line : String} {s : Section} :
    ofMarker? line = some s ↔ line = s.marker := by
  have hkt : marker .titles ≠ marker .keywords := by decide
  have hkx : marker .texts ≠ marker .keywords := by decide
  have htx : marker .texts ≠ marker .titles := by decide
  constructor
  · intro h
    unfold ofMarker? at h
    split at h
    · cases h; assumption
    · split at h
      · cases h; assumption
      · split at h
        · cases h; assumption
        · cases h
  · rintro rfl
    cases s with
    | keywords => exact if_pos rfl
    | titles => rw [ofMarker?, if_neg hkt, if_pos rfl]
    | texts => rw [ofMarker?, if_neg hkx, if_neg htx, if_pos rfl]

theorem Section.ofMarker?_eq_none_iff {line : String} :
    ofMarker? line = none ↔ ∀ s : Section, line ≠ s.marker := by
  rw [Option.eq_none_iff_forall_ne_some]
  exact forall_congr' fun s => not_congr ofMarker?_eq_some_iff

theorem Section.marker_inj {s t : Section} : s.marker = t.marker ↔ s = t := by
  rw [← ofMarker?_eq_some_iff, ofMarker?_eq_some_iff.mpr rfl, Option.some.injEq]

theorem Section.marker_ne_empty (s : Section) : s.marker ≠ "" := by
  cases s <;> decide

instance Section.decidableForall {p : Section → Prop} [DecidablePred p] :
    Decidable (∀ s, p s) :=
  decidable_of_iff (p .keywords ∧ p .titles ∧ p .texts)
    ⟨fun ⟨hk, ht, hx⟩ s => by cases s <;> assumption, fun h => ⟨h _, h _, h _⟩⟩

namespace Document

/-- A line without the blanks at its ends. Behind the last line everything is blank. -/
def trimmedAt (lines : List String) (i : Nat) : String := Text.trim (lines.getD i "")

/-- Line `i` is the marker of a section. -/
def OpensAt (lines : List String) (i : Nat) (s : Section) : Prop := trimmedAt lines i = s.marker

/-- Line `i` is neither blank nor a marker. -/
def IsContent (lines : List String) (i : Nat) : Prop :=
  trimmedAt lines i ≠ "" ∧ ∀ s, ¬ OpensAt lines i s

/-- The nearest marker before line `i` is that of a section. -/
def IsUnder (lines : List String) (i : Nat) (s : Section) : Prop :=
  ∃ j < i, OpensAt lines j s ∧ ∀ m < i, j < m → ∀ other, ¬ OpensAt lines m other

instance (lines : List String) (i : Nat) (s : Section) : Decidable (OpensAt lines i s) :=
  inferInstanceAs (Decidable (_ = _))

instance (lines : List String) (i : Nat) : Decidable (IsContent lines i) :=
  inferInstanceAs (Decidable (_ ∧ _))

instance (lines : List String) (i : Nat) (s : Section) : Decidable (IsUnder lines i s) :=
  inferInstanceAs (Decidable (∃ j < i, _ ∧ ∀ m < i, _))

/-- The lines that belong to a section, by their numbers. -/
def placesOf (lines : List String) (s : Section) : List Nat :=
  (List.range lines.length).filter fun i => IsContent lines i ∧ IsUnder lines i s

variable {lines before more : List String} {line : String} {i : Nat} {s : Section}

theorem mem_placesOf : i ∈ placesOf lines s ↔ IsContent lines i ∧ IsUnder lines i s := by
  simp only [placesOf, List.mem_filter, List.mem_range, decide_eq_true_eq]
  refine ⟨And.right, fun h => ⟨Nat.lt_of_not_le fun hi => ?_, h⟩⟩
  have hblank : trimmedAt lines i = "" := by
    rw [trimmedAt, List.getD_eq_default _ _ hi]
    decide
  exact h.1.1 hblank

example : placesOf ["a", " [Ключи] ", "x", "", " y", "[Тексты]", "[Ключи]", "z"] .keywords =
    [2, 4, 7] := by
  decide

theorem pairwise_placesOf (lines : List String) (s : Section) :
    (placesOf lines s).Pairwise (· < ·) :=
  List.pairwise_lt_range.filter _

/-- A line is under one section only. -/
theorem IsUnder.unique {other : Section} (h : IsUnder lines i s) (h' : IsUnder lines i other) :
    s = other := by
  obtain ⟨j, hj, hopens, hlast⟩ := h
  obtain ⟨k, hk, hopens', hlast'⟩ := h'
  rcases Nat.lt_trichotomy j k with hjk | rfl | hkj
  · exact absurd hopens' (hlast k hk hjk other)
  · exact Section.marker_inj.mp (hopens.symm.trans hopens')
  · exact absurd hopens (hlast' j hj hkj s)

/-- Under which section a line is depends on the line before it: a marker opens its own. -/
theorem isUnder_succ : IsUnder lines (i + 1) s ↔
    OpensAt lines i s ∨ (∀ other, ¬ OpensAt lines i other) ∧ IsUnder lines i s := by
  constructor
  · rintro ⟨j, hj, hopens, hlast⟩
    rcases Nat.lt_succ_iff_lt_or_eq.mp hj with hj | rfl
    · exact .inr ⟨hlast i (Nat.lt_succ_self i) hj, j, hj, hopens,
        fun m hm => hlast m (Nat.lt_succ_of_lt hm)⟩
    · exact .inl hopens
  · rintro (hopens | ⟨hnone, j, hj, hopens, hlast⟩)
    · exact ⟨i, Nat.lt_succ_self i, hopens, fun m hm him => absurd him (by omega)⟩
    · refine ⟨j, Nat.lt_succ_of_lt hj, hopens, fun m hm hjm => ?_⟩
      rcases Nat.lt_succ_iff_lt_or_eq.mp hm with hm | rfl
      · exact hlast m hm hjm
      · exact hnone

theorem exists_isUnder : (∃ s, IsUnder lines i s) ↔ ∃ j < i, ∃ s, OpensAt lines j s := by
  constructor
  · rintro ⟨s, j, hj, hopens, _⟩
    exact ⟨j, hj, s, hopens⟩
  · intro h
    induction i with
    | zero =>
      obtain ⟨j, hj, _⟩ := h
      exact absurd hj (Nat.not_lt_zero j)
    | succ i ih =>
      by_cases hi : ∃ s, OpensAt lines i s
      · obtain ⟨s, hs⟩ := hi
        exact ⟨s, isUnder_succ.mpr (.inl hs)⟩
      · obtain ⟨j, hj, s, hs⟩ := h
        rcases Nat.lt_succ_iff_lt_or_eq.mp hj with hj | rfl
        · obtain ⟨t, ht⟩ := ih ⟨j, hj, s, hs⟩
          exact ⟨t, isUnder_succ.mpr (.inr ⟨not_exists.mp hi, ht⟩)⟩
        · exact absurd ⟨s, hs⟩ hi

/-! More lines at the end change nothing about the lines before them. -/

theorem trimmedAt_append (hi : i < before.length) :
    trimmedAt (before ++ more) i = trimmedAt before i := by
  rw [trimmedAt, trimmedAt, List.getD_append _ _ _ _ hi]

theorem trimmedAt_length : trimmedAt (before ++ [line]) before.length = Text.trim line := by
  simp [trimmedAt]

theorem isUnder_append (hi : i ≤ before.length) :
    IsUnder (before ++ more) i s ↔ IsUnder before i s := by
  have hopens : ∀ j < i, ∀ other, OpensAt (before ++ more) j other ↔ OpensAt before j other := by
    intro j hj other
    rw [OpensAt, OpensAt, trimmedAt_append (Nat.lt_of_lt_of_le hj hi)]
  constructor
  · rintro ⟨j, hj, hs, hlast⟩
    exact ⟨j, hj, (hopens j hj s).mp hs,
      fun m hm hjm other h => hlast m hm hjm other ((hopens m hm other).mpr h)⟩
  · rintro ⟨j, hj, hs, hlast⟩
    exact ⟨j, hj, (hopens j hj s).mpr hs,
      fun m hm hjm other h => hlast m hm hjm other ((hopens m hm other).mp h)⟩

theorem isContent_append (hi : i < before.length) :
    IsContent (before ++ more) i ↔ IsContent before i := by
  simp only [IsContent, OpensAt, trimmedAt_append hi]

theorem isContent_length : IsContent (before ++ [line]) before.length ↔
    Text.trim line ≠ "" ∧ ∀ s : Section, Text.trim line ≠ s.marker := by
  simp only [IsContent, OpensAt, trimmedAt_length, ne_eq]

theorem placesOf_append (before : List String) (line : String) (s : Section) :
    placesOf (before ++ [line]) s = placesOf before s ++
      (if IsContent (before ++ [line]) before.length ∧ IsUnder before before.length s
        then [before.length] else []) := by
  have hrange : List.range (before ++ [line]).length =
      List.range before.length ++ [before.length] := by
    rw [List.length_append, List.length_singleton, List.range_succ]
  have hbefore : (List.range before.length).filter (fun i =>
      decide (IsContent (before ++ [line]) i ∧ IsUnder (before ++ [line]) i s)) =
        placesOf before s := by
    apply List.filter_congr
    intro i hi
    have hlt : i < before.length := List.mem_range.mp hi
    simp only [isContent_append hlt, isUnder_append (Nat.le_of_lt hlt)]
  rw [placesOf, hrange, List.filter_append, hbefore]
  simp only [List.filter_cons, List.filter_nil, isUnder_append (Nat.le_refl _),
    decide_eq_true_eq]

/-- One more line is added to the content of its section. -/
theorem map_placesOf_append (before : List String) (line : String) (s : Section) :
    (placesOf (before ++ [line]) s).map (trimmedAt (before ++ [line])) =
      (placesOf before s).map (trimmedAt before) ++
        (if (Text.trim line ≠ "" ∧ ∀ other : Section, Text.trim line ≠ other.marker) ∧
          IsUnder before before.length s then [Text.trim line] else []) := by
  have hbefore : (placesOf before s).map (trimmedAt (before ++ [line])) =
      (placesOf before s).map (trimmedAt before) := by
    apply List.map_congr_left
    intro i hi
    exact trimmedAt_append (List.mem_range.mp (List.mem_filter.mp hi).1)
  rw [placesOf_append, List.map_append, hbefore]
  simp only [isContent_length]
  split
  · rw [List.map_singleton, trimmedAt_length]
  · rfl

/-- A marker opens its own section for the line behind it. -/
theorem isUnder_length_append : IsUnder (before ++ [line]) (before ++ [line]).length s ↔
    Text.trim line = s.marker ∨
      (∀ other : Section, Text.trim line ≠ other.marker) ∧ IsUnder before before.length s := by
  rw [List.length_append, List.length_singleton, isUnder_succ, isUnder_append (Nat.le_refl _)]
  simp only [OpensAt, trimmedAt_length, ne_eq]

/-- Any other line leaves the section open that is. -/
theorem isUnder_length_append_of_ne (h : ∀ other : Section, Text.trim line ≠ other.marker) :
    IsUnder (before ++ [line]) (before ++ [line]).length s ↔ IsUnder before before.length s := by
  rw [isUnder_length_append]
  constructor
  · rintro (hs | ⟨_, hs⟩)
    · exact absurd hs (h s)
    · exact hs
  · intro hs
    exact .inr ⟨h, hs⟩

theorem content_push (d : Document) (s other : Section) (line : String) :
    (d.push s line).content other = d.content other ++ (if other = s then [line] else []) := by
  cases s <;> cases other <;> simp [push, content]

namespace Reading

variable {strict : Bool} {p q : Reading} {raw : String}

/-- What is known after some lines: the section of the next line, and the content so far. -/
structure HasRead (before : List String) (p : Reading) : Prop where
  count : p.lineCount = before.length
  active : ∀ s, p.active = some s ↔ IsUnder before before.length s
  content : ∀ s, p.document.content s = (placesOf before s).map (trimmedAt before)

theorem hasRead_start : HasRead [] start where
  count := rfl
  active s := by
    constructor
    · intro h
      cases h
    · rintro ⟨j, hj, _⟩
      exact absurd hj (Nat.not_lt_zero j)
  content s := by
    have hplaces : placesOf [] s = [] := rfl
    rw [hplaces]
    cases s <;> rfl

/-- All that reading a line can do: pass over a blank, open a section, or store content in
the current section if there is one. -/
theorem readLine_eq_ok (h : p.readLine strict raw = .ok q) :
    q.lineCount = p.lineCount + 1 ∧
      ((Text.trim raw = "" ∧ q.active = p.active ∧ q.document = p.document) ∨
        (∃ s : Section, Text.trim raw = s.marker ∧ q.active = some s ∧
          q.document = p.document) ∨
        (Text.trim raw ≠ "" ∧ (∀ s : Section, Text.trim raw ≠ s.marker) ∧
          (strict && Section.looksLikeMarker (Text.trim raw)) = false ∧ q.active = p.active ∧
          q.document =
            (match p.active with
              | none => p.document
              | some s => p.document.push s (Text.trim raw)))) := by
  unfold readLine at h
  simp only at h
  split at h
  · rename_i hblank
    cases h
    exact ⟨rfl, .inl ⟨hblank, rfl, rfl⟩⟩
  · rename_i hblank
    split at h
    · rename_i opened hopened
      cases h
      exact ⟨rfl, .inr (.inl ⟨opened, Section.ofMarker?_eq_some_iff.mp hopened, rfl, rfl⟩)⟩
    · rename_i hnone
      have hmarker := Section.ofMarker?_eq_none_iff.mp hnone
      split at h
      · cases h
      · rename_i hstrict
        have hstrict := Bool.not_eq_true _ ▸ hstrict
        split at h
        · rename_i hactive
          cases h
          exact ⟨rfl, .inr (.inr ⟨hblank, hmarker, hstrict, rfl, by rw [hactive]⟩)⟩
        · rename_i active hactive
          cases h
          exact ⟨rfl, .inr (.inr ⟨hblank, hmarker, hstrict, rfl, by rw [hactive]⟩)⟩

/-- One more line keeps what is known in step with the lines. -/
theorem HasRead.readLine {before : List String} (h : HasRead before p)
    (hr : p.readLine strict raw = .ok q) : HasRead (before ++ [raw]) q := by
  obtain ⟨hcount, hcase⟩ := readLine_eq_ok hr
  have hlength : q.lineCount = (before ++ [raw]).length := by
    rw [hcount, h.count, List.length_append, List.length_singleton]
  rcases hcase with ⟨hblank, hactive, hdocument⟩ | ⟨opened, hopened, hactive, hdocument⟩ |
      ⟨hblank, hmarker, _, hactive, hdocument⟩
  · have hmarker : ∀ s : Section, Text.trim raw ≠ s.marker := fun s hs =>
      s.marker_ne_empty (hs.symm.trans hblank)
    refine ⟨hlength, fun s => ?_, fun s => ?_⟩
    · rw [hactive, h.active, isUnder_length_append_of_ne hmarker]
    · rw [hdocument, h.content, map_placesOf_append, if_neg (fun hc => hc.1.1 hblank),
        List.append_nil]
  · refine ⟨hlength, fun s => ?_, fun s => ?_⟩
    · rw [hactive, isUnder_length_append, hopened, Option.some.injEq, Section.marker_inj]
      exact ⟨.inl, fun hs => hs.resolve_right fun hnone => hnone.1 opened rfl⟩
    · rw [hdocument, h.content, map_placesOf_append, if_neg (fun hc => hc.1.2 opened hopened),
        List.append_nil]
  · refine ⟨hlength, fun s => ?_, fun s => ?_⟩
    · rw [hactive, h.active, isUnder_length_append_of_ne hmarker]
    · have hcontent : (Text.trim raw ≠ "" ∧ ∀ other : Section, Text.trim raw ≠ other.marker) ∧
          IsUnder before before.length s ↔ p.active = some s := by
        rw [h.active]
        exact and_iff_right ⟨hblank, hmarker⟩
      rw [hdocument, map_placesOf_append, ← h.content]
      simp only [hcontent]
      cases hactive : p.active with
      | none => simp
      | some active =>
        rw [content_push]
        simp only [Option.some.injEq, eq_comm]

/-- A whole list of lines, by induction on what is still to be read. -/
theorem HasRead.readLines {before more : List String} (h : HasRead before p)
    (hr : p.readLines strict more = .ok q) : HasRead (before ++ more) q := by
  induction more generalizing before p with
  | nil =>
    cases hr
    rw [List.append_nil]
    exact h
  | cons line more ih =>
    rw [Reading.readLines] at hr
    split at hr
    · cases hr
    · rename_i next hnext
      rw [List.append_cons]
      exact ih (h.readLine hnext) hr

theorem readLine_lenient (p : Reading) (raw : String) : ∃ q, p.readLine false raw = .ok q := by
  unfold readLine
  simp only [Bool.false_and, Bool.false_eq_true, if_false]
  split
  · exact ⟨_, rfl⟩
  · split
    · exact ⟨_, rfl⟩
    · split <;> exact ⟨_, rfl⟩

theorem readLines_lenient (p : Reading) (more : List String) :
    ∃ q, p.readLines false more = .ok q := by
  induction more generalizing p with
  | nil => exact ⟨p, rfl⟩
  | cons line more ih =>
    obtain ⟨next, hnext⟩ := readLine_lenient p line
    rw [readLines, hnext]
    exact ih next

end Reading

/-- Whenever a text is read at all, each section holds its lines, in their order. -/
theorem content_of_parse {strict : Bool} {source : String} {d : Document}
    (h : parse strict source = .ok d) (s : Section) :
    d.content s = (placesOf (Text.lines source) s).map (trimmedAt (Text.lines source)) := by
  unfold parse at h
  cases hr : Reading.start.readLines strict (Text.lines source) with
  | error e => rw [hr] at h; cases h
  | ok p =>
    rw [hr] at h
    cases h
    exact (Reading.hasRead_start.readLines hr).content s

/-- Without strictness every text is read. Each section holds, in the order of the text and
as often as they occur, the trimmed lines whose nearest marker is its own. A line that is
neither blank nor a marker belongs to exactly one section once there is a marker before it;
every other line belongs to none. -/
theorem parse_lenient (source : String) :
    let lines := Text.lines source
    ∃ d, parse false source = .ok d ∧
      (∀ s, d.content s = (placesOf lines s).map (trimmedAt lines)) ∧
      (∀ s, (placesOf lines s).Pairwise (· < ·)) ∧
      (∀ i s, i ∈ placesOf lines s → IsContent lines i ∧ ∃ j < i, ∃ s, OpensAt lines j s) ∧
      ∀ i, (IsContent lines i ∧ ∃ j < i, ∃ s, OpensAt lines j s) →
        ∃ s, i ∈ placesOf lines s ∧ ∀ other, i ∈ placesOf lines other → other = s := by
  intro lines
  obtain ⟨p, hp⟩ := Reading.readLines_lenient .start lines
  have hparse : parse false source = .ok p.document := by
    rw [parse, hp]
    rfl
  refine ⟨p.document, hparse, content_of_parse hparse, pairwise_placesOf lines, ?_, ?_⟩
  · intro i s hi
    obtain ⟨hcontent, hunder⟩ := mem_placesOf.mp hi
    exact ⟨hcontent, exists_isUnder.mp ⟨s, hunder⟩⟩
  · rintro i ⟨hcontent, hmarker⟩
    obtain ⟨s, hs⟩ := exists_isUnder.mpr hmarker
    refine ⟨s, mem_placesOf.mpr ⟨hcontent, hs⟩, ?_⟩
    intro other hother
    exact (mem_placesOf.mp hother).2.unique hs

end Document
end AdTemplates
