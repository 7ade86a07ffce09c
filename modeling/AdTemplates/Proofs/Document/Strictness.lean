import AdTemplates.Proofs.Document.Printing

/-! Strict reading beside lenient reading. Strict reading refuses a text for its first line
that looks like a marker and is none, wherever the line stands; a text that it accepts is the
document that lenient reading makes of it. -/
namespace AdTemplates.Document

open Text (trim)
open Text.Utf8 (encode)

/-- The first line that looks like a marker and is none, with its number from 1 and its text
without blanks at the ends. Every line before it is counted, whatever it holds. -/
def FirstMalformedLine (lines : List String) (e : MalformedSection) : Prop :=
  ∃ i < lines.length, IsMalformed (lines.getD i "") ∧ e = ⟨i + 1, trimmedAt lines i⟩ ∧
    ∀ j < i, ¬ IsMalformed (lines.getD j "")

/-- A line that is nothing but a placeholder does not look like a marker. -/
theorem looksLikeMarker_spelling (p : Template.Placeholder) :
    Section.looksLikeMarker (String.ofList p.spelling) = false := by
  obtain ⟨casing, spelledOut⟩ := p
  cases casing <;> cases spelledOut <;> decide

theorem fault_encode_iff {strict : Bool} {number : Nat} {raw : String} {e : MalformedSection} :
    Fault strict number (encode raw) (.malformed e) ↔
      strict = true ∧ IsMalformed raw ∧ e = ⟨number, trim raw⟩ := by
  constructor
  · intro h
    cases h with | malformed other hstrict hraw hmalformed =>
    have hother : raw = other := by
      have hdecode := congrArg Text.Utf8.decode? hraw
      rwa [Text.Utf8.decode?_encode, Text.Utf8.decode?_encode, Option.some.injEq] at hdecode
    subst hother
    exact ⟨hstrict, hmalformed, rfl⟩
  · rintro ⟨hstrict, hmalformed, rfl⟩
    exact .malformed raw hstrict rfl hmalformed

theorem not_fault_encode_iff {number : Nat} {raw : String} :
    (∀ e, ¬ Fault true number (encode raw) e) ↔ ¬ IsMalformed raw := by
  constructor
  · intro h hmalformed
    exact h _ (.malformed raw rfl rfl hmalformed)
  · rintro h (_ | e) hfault
    · exact h (fault_encode_iff.mp hfault).2.1
    · cases hfault with | invalidUtf8 hnone =>
      rw [Text.Utf8.decode?_encode] at hnone
      cases hnone

/-- A text is refused as its bytes are, line by line. -/
theorem parse_eq_error_iff {source : String} {e : MalformedSection} :
    parse true source = .error e ↔ FirstMalformedLine (Text.lines source) e := by
  have hbytes : parse true source = .error e ↔
      Reading.start.readByteLines true ((Text.lines source).map encode) =
        .error (.malformed e) := by
    rw [parse, Reading.readByteLines_encode]
    cases Reading.start.readLines true (Text.lines source) with
    | ok q => exact iff_of_false (fun h => by cases h) fun h => by cases h
    | error cause => simp only [Except.map, Except.mapError, Except.error.injEq,
        ReadError.malformed.injEq]
  have hline (i : Nat) : ((Text.lines source).map encode).getD i [] =
      encode ((Text.lines source).getD i "") := List.getD_map _ "" encode
  have hnumber (i : Nat) : Reading.start.lineCount + i + 1 = i + 1 := by
    rw [show Reading.start.lineCount = 0 from rfl, Nat.zero_add]
  rw [hbytes, Reading.readByteLines_eq_error_iff]
  simp only [hline, hnumber, fault_encode_iff, not_fault_encode_iff, true_and]
  constructor
  · rintro ⟨i, ⟨hmalformed, rfl⟩, hearlier⟩
    refine ⟨i, ?_, hmalformed, rfl, hearlier⟩
    by_contra hlength
    rw [List.getD_eq_default _ _ (Nat.le_of_not_lt hlength)] at hmalformed
    exact hmalformed.ne_empty (by decide)
  · rintro ⟨i, _, hmalformed, rfl, hearlier⟩
    exact ⟨i, ⟨hmalformed, rfl⟩, hearlier⟩

theorem exists_parse_eq_error_iff {source : String} :
    (∃ e, parse true source = .error e) ↔ ∃ raw ∈ Text.lines source, IsMalformed raw := by
  have hread : (∃ q, Reading.start.readLines true (Text.lines source) = .ok q) ↔
      ¬ ∃ raw ∈ Text.lines source, IsMalformed raw := by
    rw [Reading.exists_readLines_iff]
    simp only [forall_const, not_exists, not_and]
  rw [← not_iff_not, ← hread, parse]
  cases Reading.start.readLines true (Text.lines source) with
  | error e =>
    refine iff_of_false (fun h => h ⟨e, rfl⟩) ?_
    rintro ⟨q, h⟩
    cases h
  | ok q =>
    refine iff_of_true ?_ ⟨q, rfl⟩
    rintro ⟨e, h⟩
    cases h

/-- What strict reading accepts is what lenient reading makes of the text. -/
theorem parse_lenient_of_strict {source : String} {d : Document}
    (h : parse true source = .ok d) : parse false source = .ok d :=
  parse_eq_ok_iff.mpr ⟨nofun, (parse_eq_ok_iff.mp h).2⟩

/-- Strict reading refuses a text if some line looks like a marker and is none, whether or not
a section is open there, and it names the first such line. Otherwise the document is that of
lenient reading and none of its lines looks like a marker. A marker and a line that is nothing
but a placeholder are never what it names. -/
theorem parse_strict (source : String) :
    ((∃ e, parse true source = .error e) ↔
      ∃ raw ∈ Text.lines source, Section.looksLikeMarker (trim raw) = true ∧
        ∀ s : Section, trim raw ≠ s.marker) ∧
    (∀ e, parse true source = .error e ↔ FirstMalformedLine (Text.lines source) e) ∧
    (∀ d, parse true source = .ok d → parse false source = .ok d ∧
      ∀ s, ∀ line ∈ d.content s, Section.looksLikeMarker line = false) ∧
    (∀ e, parse true source = .error e →
      (∀ s : Section, e.marker ≠ s.marker) ∧
        ∀ p : Template.Placeholder, e.marker ≠ String.ofList p.spelling) := by
  refine ⟨exists_parse_eq_error_iff, fun e => parse_eq_error_iff, ?_, ?_⟩
  · intro d h
    refine ⟨parse_lenient_of_strict h, fun s line hline => ?_⟩
    obtain ⟨hadmissible, raw, _, rfl⟩ := admissible_of_parse h hline
    have hmalformed := not_isMalformed_of_parse h hline
    rw [isMalformed_trim] at hmalformed
    exact Bool.eq_false_iff.mpr fun hlooks => hmalformed ⟨hlooks, hadmissible.ne_marker⟩
  · intro e h
    obtain ⟨i, _, ⟨hlooks, hmarker⟩, rfl, _⟩ := parse_eq_error_iff.mp h
    refine ⟨hmarker, fun p hp => ?_⟩
    have hspelling := looksLikeMarker_spelling p
    rw [← hp] at hspelling
    exact Bool.false_ne_true (hspelling.symm.trans hlooks)

/-- A line before the first section is refused under its own number, and a placeholder in a
section is kept. -/
theorem parse_strict_preamble :
    parse true "\n\t[x] \n[Ключи]" = .error ⟨2, "[x]"⟩ ∧
      parse true "[Ключи]\n[k]" = .ok ⟨["[k]"], [], []⟩ ∧
      parse false "[Ключи]\n[k]" = .ok ⟨["[k]"], [], []⟩ := by
  have hline : FirstMalformedLine (Text.lines "\n\t[x] \n[Ключи]") ⟨2, "[x]"⟩ := by
    refine ⟨1, by decide, ⟨by decide, by decide⟩, by decide, ?_⟩
    intro j hj
    obtain rfl : j = 0 := by omega
    exact fun hmalformed => hmalformed.ne_empty (by decide)
  have hstrict : parse true "[Ключи]\n[k]" = .ok ⟨["[k]"], [], []⟩ := by decide
  exact ⟨((parse_strict _).2.1 _).mpr hline, hstrict, ((parse_strict _).2.2.1 _ hstrict).1⟩

end AdTemplates.Document
