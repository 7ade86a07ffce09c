import AdTemplates.Proofs.Document.Bytes
import AdTemplates.Proofs.Document.Faults
import AdTemplates.Run
import Mathlib.Data.Nat.Find

/-! A document from a file, from a stream and from a string. The three agree on every text,
and the first two on all bytes, however the stream is cut; what is no UTF-8 is refused for
the first line that is at fault. -/
namespace AdTemplates

namespace Document

open Text (trim)
open Text.Utf8 (encode decode?)

/-- Line `i` of bytes, which newlines separate. Behind the last line there are empty ones. -/
def byteLine (bytes : List UInt8) (i : Nat) : List UInt8 := (bytes.splitOn newline).getD i []

/-- Line `i` is the first that is not UTF-8. -/
def FirstInvalid (bytes : List UInt8) (i : Nat) : Prop :=
  decode? (byteLine bytes i) = none ∧ ∀ j < i, decode? (byteLine bytes j) ≠ none

/-- The first line that looks like a marker and is none, with its number from 1 and its text
without blanks at the ends. -/
def FirstMalformed (bytes : List UInt8) (e : MalformedSection) : Prop :=
  ∃ i raw, byteLine bytes i = encode raw ∧ IsMalformed raw ∧ e = ⟨i + 1, trim raw⟩ ∧
    ∀ j < i, ∀ earlier, byteLine bytes j = encode earlier → ¬ IsMalformed earlier

variable {strict : Bool} {bytes : List UInt8} {pieces : List (List UInt8)} {bad : Nat}

/-- Bytes that are not UTF-8 have a line that is not. -/
theorem exists_firstInvalid (h : decode? bytes = none) : ∃ i, FirstInvalid bytes i := by
  have hinvalid : ∃ i, decode? (byteLine bytes i) = none := by
    by_contra hvalid
    have hlines : ∀ line ∈ bytes.splitOn newline, ∃ s, line = encode s := by
      intro line hline
      obtain ⟨i, hi, rfl⟩ := List.mem_iff_getElem.mp hline
      obtain ⟨s, hs⟩ := Option.ne_none_iff_exists'.mp (not_exists.mp hvalid i)
      refine ⟨s, ?_⟩
      rw [← Text.Utf8.decode?_eq_some_iff.mp hs, byteLine, List.getD_eq_getElem _ _ hi]
    obtain ⟨s, hs⟩ := Text.Utf8.exists_encode_of_splitOn bytes hlines
    rw [hs, Text.Utf8.decode?_encode] at h
    cases h
  exact ⟨Nat.find hinvalid, Nat.find_spec hinvalid, fun j hj => Nat.find_min hinvalid hj⟩

theorem read_eq_error_iff {cause : ReadError} :
    read strict pieces = .error cause ↔
      ∃ i, Fault strict (i + 1) (byteLine pieces.flatten i) cause ∧
        ∀ j < i, ∀ earlier, ¬ Fault strict (j + 1) (byteLine pieces.flatten j) earlier := by
  have hcount (k : Nat) : Reading.start.lineCount + k + 1 = k + 1 := by
    rw [show Reading.start.lineCount = 0 from rfl, Nat.zero_add]
  have hlines : Reading.start.readByteLines strict (pieces.flatten.splitOn newline) =
      .error cause ↔ _ := Reading.readByteLines_eq_error_iff
  simp only [hcount] at hlines
  refine Iff.trans ?_ hlines
  rw [read_eq_readByteLines]
  cases Reading.start.readByteLines strict (pieces.flatten.splitOn newline) with
  | error e => simp only [Except.map, Except.error.injEq]
  | ok q => exact iff_of_false nofun nofun

/-- Bytes that are not UTF-8 are no document. -/
theorem exists_read_eq_error (strict : Bool) (h : decode? pieces.flatten = none) :
    ∃ cause, read strict pieces = .error cause := by
  cases hread : read strict pieces with
  | error cause => exact ⟨cause, rfl⟩
  | ok d =>
    obtain ⟨source, hsource, _⟩ := read_eq_ok_iff.mp hread
    rw [hsource, Text.Utf8.decode?_encode] at h
    cases h

/-- A line before the first that is not UTF-8 is malformed. -/
theorem read_eq_malformed_iff (h : FirstInvalid pieces.flatten bad) {e : MalformedSection} :
    read strict pieces = .error (.malformed e) ↔
      strict = true ∧ FirstMalformed pieces.flatten e ∧ e.line ≤ bad := by
  rw [read_eq_error_iff]
  constructor
  · rintro ⟨i, hfault, hearlier⟩
    cases hfault with | malformed raw hstrict hraw hmalformed =>
    have hbad : i < bad := by
      rcases Nat.lt_trichotomy i bad with hlt | heq | hgt
      · exact hlt
      · have hinvalid := h.1
        rw [← heq, hraw, Text.Utf8.decode?_encode] at hinvalid
        cases hinvalid
      · exact absurd (.invalidUtf8 h.1) (hearlier bad hgt .invalidUtf8)
    refine ⟨hstrict, ⟨i, raw, hraw, hmalformed, rfl, ?_⟩, hbad⟩
    intro j hj earlier hline hearlierMalformed
    exact hearlier j hj _ (.malformed earlier hstrict hline hearlierMalformed)
  · rintro ⟨hstrict, ⟨i, raw, hraw, hmalformed, rfl, hearlier⟩, hbad⟩
    refine ⟨i, .malformed raw hstrict hraw hmalformed, ?_⟩
    rintro j hj _ (hinvalid | ⟨earlier, _, hline, hearlierMalformed⟩)
    · exact h.2 j (Nat.lt_trans hj hbad) hinvalid
    · exact hearlier j hj earlier hline hearlierMalformed

end Document

namespace Run

open Document
open Text.Utf8 (encode decode?)

theorem readDocument_eq_mapError {t : FileTree} {path : Path} {bytes : List UInt8}
    (hfile : t.read path = .ok bytes) (strict : Bool) :
    readDocument t path strict = (Document.read strict [bytes]).mapError (.ofRead path) := by
  rw [readDocument, hfile]
  simp only
  cases Document.read strict [bytes] with
  | ok d => rfl
  | error cause => cases cause <;> rfl

/-- A file, a stream and a string give the same document or the same error for the line that
looks like a marker and is none, if the bytes are those of a text. If they are not, then the
file and the stream, which may be cut anywhere, have the same error but for the name in it:
that of the first malformed line if reading is strict and the line stands before the first
that is not UTF-8, and otherwise that the source cannot be read. -/
theorem sources_agree {t : FileTree} {path : Path} {bytes : List UInt8}
    (hfile : t.read path = .ok bytes) {pieces : List (List UInt8)}
    (hpieces : pieces.flatten = bytes) (strict : Bool) :
    (∀ source, decode? bytes = some source →
      readDocument t path strict = (parse strict source).mapError .malformed ∧
      readStream pieces strict = (parse strict source).mapError .malformed) ∧
    (decode? bytes = none →
      ∃ cause bad, FirstInvalid bytes bad ∧
        readDocument t path strict = .error (.ofRead path cause) ∧
        readStream pieces strict = .error (.ofRead streamName cause) ∧
        (∀ e, cause = .malformed e ↔
          strict = true ∧ FirstMalformed bytes e ∧ e.line ≤ bad) ∧
        (cause = .invalidUtf8 ↔
          ¬ ∃ e, strict = true ∧ FirstMalformed bytes e ∧ e.line ≤ bad)) := by
  have hwhole : [bytes].flatten = bytes := List.flatten_singleton
  rw [readDocument_eq_mapError hfile, readStream]
  constructor
  · intro source hsource
    have hencode := Text.Utf8.decode?_eq_some_iff.mp hsource
    rw [read_encode strict (hwhole.trans hencode), read_encode strict (hpieces.trans hencode)]
    constructor <;> cases parse strict source <;> rfl
  · intro hinvalid
    obtain ⟨bad, hbad⟩ := exists_firstInvalid hinvalid
    obtain ⟨cause, hcause⟩ := exists_read_eq_error strict (hpieces ▸ hinvalid)
    have hsame : Document.read strict [bytes] = .error cause := by
      rw [read_eq_readByteLines, hwhole, ← hpieces, ← read_eq_readByteLines, hcause]
    have hmalformed (e : MalformedSection) :
        cause = .malformed e ↔ strict = true ∧ FirstMalformed bytes e ∧ e.line ≤ bad := by
      rw [← hpieces, ← read_eq_malformed_iff (hpieces ▸ hbad), hcause, Except.error.injEq]
    refine ⟨cause, bad, hbad, ?_, ?_, hmalformed, ?_⟩
    · rw [hsame]
      rfl
    · rw [hcause]
      rfl
    · simp only [← hmalformed]
      cases cause with
      | malformed e => exact iff_of_false nofun fun h => h ⟨e, rfl⟩
      | invalidUtf8 => exact iff_of_true rfl nofun

/-- The bytes of a line that looks like a marker and of one that is not UTF-8. -/
def brokenBytes : List UInt8 := encode "[x]\r\n" ++ [0xd0]

/-- A tree with a file of these bytes. -/
def brokenTree : FileTree := ⟨[([encode "a"], .file brokenBytes)], []⟩

/-- The stream is cut inside the line end. -/
theorem sources_agree_broken :
    brokenTree.read (.ofString "a") = .ok brokenBytes ∧
    [encode "[x]\r", [0x0a, 0xd0]].flatten = brokenBytes ∧
    decode? brokenBytes = none ∧
    ∃ cause bad, FirstInvalid brokenBytes bad ∧
      readDocument brokenTree (.ofString "a") true = .error (.ofRead (.ofString "a") cause) ∧
      readStream [encode "[x]\r", [0x0a, 0xd0]] true = .error (.ofRead streamName cause) ∧
      (∀ e, cause = .malformed e ↔
        true = true ∧ FirstMalformed brokenBytes e ∧ e.line ≤ bad) ∧
      (cause = .invalidUtf8 ↔
        ¬ ∃ e, true = true ∧ FirstMalformed brokenBytes e ∧ e.line ≤ bad) := by
  have hfile : brokenTree.read (.ofString "a") = .ok brokenBytes := by decide +kernel
  have hpieces : [encode "[x]\r", [0x0a, 0xd0]].flatten = brokenBytes := by decide +kernel
  have hinvalid : decode? brokenBytes = none := by decide +kernel
  exact ⟨hfile, hpieces, hinvalid, (sources_agree hfile hpieces true).2 hinvalid⟩

end Run
end AdTemplates
