import AdTemplates.Proofs.Document.Bytes
import AdTemplates.Proofs.Document.Sections

/-! What stops reading. A line of bytes is at fault when it is not UTF-8, or, if reading is
strict, when it looks like a marker and is none. Reading fails exactly when there is such a
line, and the error is that of the first. -/
namespace AdTemplates.Document

open Text.Utf8 (encode decode?)

/-- A line that looks like a marker and is none. -/
def IsMalformed (raw : String) : Prop :=
  Section.looksLikeMarker (Text.trim raw) = true ∧ ∀ s : Section, Text.trim raw ≠ s.marker

/-- What is wrong with a line of bytes that has a number. -/
inductive Fault (strict : Bool) (number : Nat) (bytes : List UInt8) : ReadError → Prop where
  | invalidUtf8 : decode? bytes = none → Fault strict number bytes .invalidUtf8
  | malformed (raw : String) : strict = true → bytes = encode raw → IsMalformed raw →
      Fault strict number bytes (.malformed ⟨number, Text.trim raw⟩)

theorem IsMalformed.ne_empty {raw : String} (h : IsMalformed raw) : Text.trim raw ≠ "" := by
  intro hblank
  have hlooks := h.1
  rw [hblank] at hlooks
  cases hlooks

theorem not_fault_nil (strict : Bool) (number : Nat) (e : ReadError) :
    ¬ Fault strict number [] e := by
  rintro (hnone | ⟨raw, _, hraw, hmalformed⟩)
  · have hempty : decode? [] = some "" := Text.Utf8.decode?_encode ""
    rw [hempty] at hnone
    cases hnone
  · have hempty : decode? [] = some raw := Text.Utf8.decode?_eq_some_iff.mpr hraw
    rw [show ([] : List UInt8) = encode "" from rfl, Text.Utf8.decode?_encode] at hempty
    cases hempty
    exact hmalformed.ne_empty rfl

namespace Reading

variable {strict : Bool} {p : Reading}

theorem readLine_eq_error_iff {raw : String} {e : MalformedSection} :
    p.readLine strict raw = .error e ↔
      strict = true ∧ IsMalformed raw ∧ e = ⟨p.lineCount + 1, Text.trim raw⟩ := by
  unfold readLine
  simp only
  split
  · rename_i hblank
    exact iff_of_false nofun fun ⟨_, h, _⟩ => h.ne_empty hblank
  · split
    · rename_i opened hopened
      have hmarker := Section.ofMarker?_eq_some_iff.mp hopened
      exact iff_of_false nofun fun ⟨_, h, _⟩ => h.2 opened hmarker
    · rename_i hnone
      have hmarker := Section.ofMarker?_eq_none_iff.mp hnone
      split
      · rename_i hlooks
        obtain ⟨hstrict, hlooks⟩ := Bool.and_eq_true_iff.mp hlooks
        constructor
        · intro h
          cases h
          exact ⟨hstrict, ⟨hlooks, hmarker⟩, rfl⟩
        · rintro ⟨_, _, rfl⟩
          rfl
      · rename_i hlooks
        have hno : ¬ (strict = true ∧ IsMalformed raw ∧ e = ⟨p.lineCount + 1, Text.trim raw⟩) :=
          fun ⟨hstrict, h, _⟩ => hlooks (Bool.and_eq_true_iff.mpr ⟨hstrict, h.1⟩)
        split <;> exact iff_of_false nofun hno

/-- A line is refused exactly for what is wrong with it. -/
theorem readBytes_eq_error_iff {bytes : List UInt8} {e : ReadError} :
    p.readBytes strict bytes = .error e ↔ Fault strict (p.lineCount + 1) bytes e := by
  unfold readBytes
  cases hdecode : decode? bytes with
  | none =>
    constructor
    · intro h
      cases h
      exact .invalidUtf8 hdecode
    · rintro (_ | ⟨raw, _, hraw, _⟩)
      · rfl
      · rw [hraw, Text.Utf8.decode?_encode] at hdecode
        cases hdecode
  | some line =>
    have hbytes := Text.Utf8.decode?_eq_some_iff.mp hdecode
    constructor
    · intro h
      cases hline : p.readLine strict line with
      | ok q =>
        simp only [hline] at h
        cases h
      | error cause =>
        simp only [hline] at h
        cases h
        obtain ⟨hstrict, hmalformed, rfl⟩ := readLine_eq_error_iff.mp hline
        exact .malformed line hstrict hbytes hmalformed
    · rintro (hnone | ⟨raw, hstrict, hraw, hmalformed⟩)
      · rw [hdecode] at hnone
        cases hnone
      · rw [hraw, Text.Utf8.decode?_encode] at hdecode
        cases hdecode
        simp only [readLine_eq_error_iff.mpr ⟨hstrict, hmalformed, rfl⟩]
        rfl

theorem lineCount_of_readBytes {bytes : List UInt8} {q : Reading}
    (h : p.readBytes strict bytes = .ok q) : q.lineCount = p.lineCount + 1 := by
  unfold readBytes at h
  split at h
  · cases h
  · rename_i line _
    cases hline : p.readLine strict line with
    | error e =>
      rw [hline] at h
      cases h
    | ok q' =>
      rw [hline] at h
      cases h
      exact (readLine_eq_ok hline).1

/-- Lines are refused for what is wrong with the first that is at fault. The induction is on
the lines, where a line without fault moves every number by one. -/
theorem readByteLines_eq_error_iff {lines : List (List UInt8)} {e : ReadError} :
    p.readByteLines strict lines = .error e ↔
      ∃ i, Fault strict (p.lineCount + i + 1) (lines.getD i []) e ∧
        ∀ j < i, ∀ earlier, ¬ Fault strict (p.lineCount + j + 1) (lines.getD j []) earlier := by
  induction lines generalizing p with
  | nil =>
    constructor
    · intro h
      cases h
    · rintro ⟨i, hfault, _⟩
      exact absurd hfault (not_fault_nil _ _ _)
  | cons bytes more ih =>
    rw [readByteLines_cons]
    cases hbytes : p.readBytes strict bytes with
    | error cause =>
      have hfirst := readBytes_eq_error_iff.mp hbytes
      constructor
      · intro h
        cases h
        exact ⟨0, hfirst, fun j hj => absurd hj (Nat.not_lt_zero j)⟩
      · rintro ⟨i, hfault, hearlier⟩
        cases i with
        | zero =>
          have hsame := hbytes.symm.trans (readBytes_eq_error_iff.mpr hfault)
          cases hsame
          rfl
        | succ i => exact absurd hfirst (hearlier 0 (Nat.succ_pos i) cause)
    | ok q =>
      have hcount (k : Nat) : q.lineCount + k + 1 = p.lineCount + (k + 1) + 1 := by
        rw [lineCount_of_readBytes hbytes]
        omega
      have hfirst (cause : ReadError) : ¬ Fault strict (p.lineCount + 1) bytes cause := by
        intro hfault
        rw [readBytes_eq_error_iff.mpr hfault] at hbytes
        cases hbytes
      simp only [ih, hcount]
      constructor
      · rintro ⟨i, hfault, hearlier⟩
        refine ⟨i + 1, hfault, fun j hj => ?_⟩
        cases j with
        | zero => exact hfirst
        | succ j => exact hearlier j (Nat.lt_of_succ_lt_succ hj)
      · rintro ⟨i, hfault, hearlier⟩
        cases i with
        | zero => exact absurd hfault (hfirst e)
        | succ i => exact ⟨i, hfault, fun j hj => hearlier (j + 1) (Nat.succ_lt_succ hj)⟩

end Reading
end AdTemplates.Document
