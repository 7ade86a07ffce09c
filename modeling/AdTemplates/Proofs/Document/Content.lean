import AdTemplates.Proofs.Document.Faults

/-! A document as a function of its content lines, which are the trimmed lines that are not
blank. Reading a text fails, if it is strict, for a malformed line only; otherwise the
content lines alone decide what the document holds. -/
namespace AdTemplates.Document

open Text (trim)

/-- The lines of a text that count, without blanks at their ends. -/
def contentLines (source : String) : List String :=
  ((Text.lines source).map trim).filter (· ≠ "")

/-- What a line that counts does to the current section and to the content so far. -/
def absorb (state : Option Section × Document) (line : String) : Option Section × Document :=
  match Section.ofMarker? line with
  | some opened => (some opened, state.2)
  | none =>
    match state.1 with
    | none => state
    | some active => (state.1, state.2.push active line)

theorem absorb_marker (state : Option Section × Document) (s : Section) :
    absorb state s.marker = (some s, state.2) := by
  rw [absorb, Section.ofMarker?_eq_some_iff.mpr rfl]

theorem absorb_of_ne_marker {line : String} (h : ∀ s : Section, line ≠ s.marker)
    (state : Option Section × Document) :
    absorb state line =
      match state.1 with
      | none => state
      | some active => (state.1, state.2.push active line) := by
  rw [absorb, Section.ofMarker?_eq_none_iff.mpr h]

theorem isMalformed_trim {raw : String} : IsMalformed (trim raw) ↔ IsMalformed raw := by
  rw [IsMalformed, IsMalformed, Text.trim_trim]

namespace Reading

variable {strict : Bool} {p q : Reading}

/-- A line changes section and content as its trimmed text does, if it is not blank. -/
theorem state_of_readLine {raw : String} (h : p.readLine strict raw = .ok q) :
    (q.active, q.document) =
      if trim raw ≠ "" then absorb (p.active, p.document) (trim raw)
      else (p.active, p.document) := by
  obtain ⟨_, ⟨hblank, hactive, hdocument⟩ | ⟨opened, hopened, hactive, hdocument⟩ |
    ⟨hblank, hmarker, _, hactive, hdocument⟩⟩ := readLine_eq_ok h
  · rw [if_neg (not_not.mpr hblank), hactive, hdocument]
  · rw [if_pos (hopened ▸ opened.marker_ne_empty), hopened, absorb_marker, hactive, hdocument]
  · rw [if_pos hblank, absorb_of_ne_marker hmarker, hactive, hdocument]
    cases p.active <;> rfl

theorem state_of_readLines {lines : List String} (h : p.readLines strict lines = .ok q) :
    (q.active, q.document) =
      ((lines.map trim).filter (· ≠ "")).foldl absorb (p.active, p.document) := by
  induction lines generalizing p with
  | nil =>
    cases h
    rfl
  | cons line more ih =>
    rw [readLines] at h
    split at h
    · cases h
    · rename_i next hnext
      rw [ih h, state_of_readLine hnext, List.map_cons, List.filter_cons]
      by_cases hblank : trim line = ""
      · simp [hblank]
      · simp [hblank]

/-- Lines are read to their end unless strict reading finds one malformed. -/
theorem exists_readLines_iff {lines : List String} :
    (∃ q, p.readLines strict lines = .ok q) ↔
      (strict = true → ∀ raw ∈ lines, ¬ IsMalformed raw) := by
  induction lines generalizing p with
  | nil => exact iff_of_true ⟨p, rfl⟩ fun _ _ h => absurd h List.not_mem_nil
  | cons line more ih =>
    rw [readLines]
    cases hline : p.readLine strict line with
    | error e =>
      obtain ⟨hstrict, hmalformed, _⟩ := readLine_eq_error_iff.mp hline
      refine iff_of_false ?_ fun h => h hstrict line List.mem_cons_self hmalformed
      rintro ⟨q, hq⟩
      cases hq
    | ok next =>
      have hfirst : strict = true → ¬ IsMalformed line := by
        intro hstrict hmalformed
        rw [readLine_eq_error_iff.mpr ⟨hstrict, hmalformed, rfl⟩] at hline
        cases hline
      simp only [ih, List.forall_mem_cons]
      exact ⟨fun h hstrict => ⟨hfirst hstrict, h hstrict⟩, fun h hstrict => (h hstrict).2⟩

end Reading

/-- A text is a document unless reading is strict and one of its lines is malformed, and it
is the document that its content lines make up. -/
theorem parse_eq_ok_iff {strict : Bool} {source : String} {d : Document} :
    parse strict source = .ok d ↔
      (strict = true → ∀ line ∈ contentLines source, ¬ IsMalformed line) ∧
        d = ((contentLines source).foldl absorb (none, empty)).2 := by
  have hlines : (∀ line ∈ contentLines source, ¬ IsMalformed line) ↔
      ∀ raw ∈ Text.lines source, ¬ IsMalformed raw := by
    constructor
    · intro h raw hraw hmalformed
      refine h (trim raw) ?_ (isMalformed_trim.mpr hmalformed)
      exact List.mem_filter.mpr
        ⟨List.mem_map_of_mem hraw, decide_eq_true hmalformed.ne_empty⟩
    · intro h line hline hmalformed
      obtain ⟨raw, hraw, rfl⟩ := List.mem_map.mp (List.mem_filter.mp hline).1
      exact h raw hraw (isMalformed_trim.mp hmalformed)
  rw [hlines, ← Reading.exists_readLines_iff (p := .start)]
  constructor
  · intro h
    unfold parse at h
    cases hread : Reading.start.readLines strict (Text.lines source) with
    | error e =>
      rw [hread] at h
      cases h
    | ok q =>
      rw [hread] at h
      cases h
      exact ⟨⟨q, rfl⟩, congrArg Prod.snd (Reading.state_of_readLines hread)⟩
  · rintro ⟨⟨q, hread⟩, rfl⟩
    rw [parse, hread]
    exact congrArg (fun state => Except.ok state.2) (Reading.state_of_readLines hread)

end AdTemplates.Document
