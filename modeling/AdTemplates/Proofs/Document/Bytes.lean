import AdTemplates.Document
import AdTemplates.Proofs.Text.Utf8
import AdTemplates.Proofs.Text.Whitespace

/-! Documents from bytes. However the bytes are cut, they are split into the lines of the
whole, and bytes that spell a text give what the text gives. -/
namespace AdTemplates.Document

open Text (splitLines chomp trim)
open Text.Utf8 (encode decode?)

/-- A piece completes lines and leaves the beginning of one, whatever follows. -/
theorem splitLines_takeLines {pending : List UInt8} (hpending : newline ∉ pending)
    (piece rest : List UInt8) :
    newline ∉ (takeLines pending piece).2 ∧
      splitLines newline carriageReturn (pending.reverse ++ (piece ++ rest)) =
        (takeLines pending piece).1 ++
          splitLines newline carriageReturn ((takeLines pending piece).2.reverse ++ rest) := by
  induction piece generalizing pending with
  | nil => exact ⟨hpending, rfl⟩
  | cons b piece ih =>
    by_cases hb : b = newline
    · obtain ⟨hleft, hlines⟩ := ih List.not_mem_nil
      have hreverse : newline ∉ pending.reverse := fun h => hpending (List.mem_reverse.mp h)
      rw [takeLines, if_pos hb]
      refine ⟨hleft, ?_⟩
      rw [List.cons_append, hb, Text.splitLines_append_newline hreverse, List.cons_append, ← hlines]
      rfl
    · have hmore : newline ∉ b :: pending := by
        intro h
        rcases List.mem_cons.mp h with h | h
        · exact hb h.symm
        · exact hpending h
      obtain ⟨hleft, hlines⟩ := ih hmore
      rw [takeLines, if_neg hb]
      refine ⟨hleft, ?_⟩
      rw [← hlines, List.reverse_cons, List.append_assoc, List.singleton_append, List.cons_append]

/-- The pieces have the lines of the bytes that they make up. -/
theorem linesOfPieces_eq_splitLines (pieces : List (List UInt8)) :
    linesOfPieces [] pieces = splitLines newline carriageReturn pieces.flatten := by
  have hpieces (pending : List UInt8) (hpending : newline ∉ pending) :
      linesOfPieces pending pieces =
        splitLines newline carriageReturn (pending.reverse ++ pieces.flatten) := by
    induction pieces generalizing pending with
    | nil =>
      rw [linesOfPieces, List.flatten_nil, List.append_nil]
      by_cases hempty : pending = []
      · rw [hempty]
        rfl
      · have hreverse : newline ∉ pending.reverse := fun h => hpending (List.mem_reverse.mp h)
        rw [Text.splitLines_of_notMem hreverse (fun h => hempty (List.reverse_eq_nil_iff.mp h)),
          if_neg (by simpa using hempty)]
    | cons piece pieces ih =>
      obtain ⟨hleft, hlines⟩ := splitLines_takeLines hpending piece pieces.flatten
      rw [List.flatten_cons, hlines, ← ih _ hleft]
      rfl
  exact hpieces [] List.not_mem_nil

namespace Reading

/-- One line given as bytes. -/
def readBytes (strict : Bool) (p : Reading) (bytes : List UInt8) : Except ReadError Reading :=
  match decode? bytes with
  | none => .error .invalidUtf8
  | some line => (p.readLine strict line).mapError .malformed

theorem readByteLines_cons (strict : Bool) (p : Reading) (bytes : List UInt8)
    (more : List (List UInt8)) :
    p.readByteLines strict (bytes :: more) =
      match p.readBytes strict bytes with
      | .error e => .error e
      | .ok q => q.readByteLines strict more := by
  rw [readByteLines, readBytes]
  cases decode? bytes with
  | none => rfl
  | some line =>
    simp only
    cases p.readLine strict line with
    | error e => rfl
    | ok q => rfl

/-- Lines given as the bytes of texts are read as the texts are. -/
theorem readByteLines_encode (strict : Bool) (p : Reading) (ls : List String) :
    p.readByteLines strict (ls.map encode) = (p.readLines strict ls).mapError .malformed := by
  induction ls generalizing p with
  | nil => rfl
  | cons line ls ih =>
    rw [List.map_cons, readByteLines_cons, readLines, readBytes, Text.Utf8.decode?_encode]
    simp only
    cases p.readLine strict line with
    | error e => rfl
    | ok q => exact ih q

theorem exists_encode_of_readBytes {strict : Bool} {p q : Reading} {bytes : List UInt8}
    (h : p.readBytes strict bytes = .ok q) : ∃ s, bytes = encode s := by
  unfold readBytes at h
  split at h
  · cases h
  · rename_i s hdecode
    exact ⟨s, Text.Utf8.decode?_eq_some_iff.mp hdecode⟩

/-- What has been read was UTF-8. -/
theorem readByteLines_eq_ok {strict : Bool} {p q : Reading} {ls : List (List UInt8)}
    (h : p.readByteLines strict ls = .ok q) : ∀ line ∈ ls, ∃ s, line = encode s := by
  induction ls generalizing p with
  | nil =>
    intro line hline
    exact absurd hline List.not_mem_nil
  | cons bytes ls ih =>
    rw [readByteLines_cons] at h
    cases hbytes : p.readBytes strict bytes with
    | error e =>
      rw [hbytes] at h
      cases h
    | ok next =>
      rw [hbytes] at h
      intro line hmem
      rcases List.mem_cons.mp hmem with rfl | hmem
      · exact exists_encode_of_readBytes hbytes
      · exact ih h line hmem

/-- Reading depends on a line only through its trimmed text. -/
theorem readLine_congr {strict : Bool} {p : Reading} {raw raw' : String}
    (h : trim raw = trim raw') : p.readLine strict raw = p.readLine strict raw' := by
  rw [readLine, readLine, h]

/-- The carriage return of a line end does not matter. -/
theorem readBytes_chomp (strict : Bool) (p : Reading) (bytes : List UInt8) :
    p.readBytes strict (chomp carriageReturn bytes) = p.readBytes strict bytes := by
  rcases Text.chomp_cases carriageReturn bytes with hbytes | hbytes
  · rw [← hbytes]
  · generalize chomp carriageReturn bytes = line at hbytes ⊢
    subst hbytes
    rw [readBytes, readBytes, carriageReturn, Text.Utf8.decode?_append_return]
    cases decode? line with
    | none => rfl
    | some s =>
      have htrim : trim s = trim (s ++ "\r") := by
        rw [Text.trim_eq_trim_iff, String.toList_append]
        exact (Text.trimChars_append_return _).symm
      exact congrArg (Except.mapError ReadError.malformed) (readLine_congr htrim)

theorem readBytes_nil (strict : Bool) (p : Reading) :
    p.readBytes strict [] = .ok { p with lineCount := p.lineCount + 1 } := by
  rw [readBytes, show ([] : List UInt8) = encode "" from rfl, Text.Utf8.decode?_encode]
  rfl

/-- For what is read, only newlines separate lines, and an empty line at the end is none. -/
theorem document_readByteLines_splitOn (strict : Bool) (p : Reading) (bytes : List UInt8) :
    (p.readByteLines strict (splitLines newline carriageReturn bytes)).map (·.document) =
      (p.readByteLines strict (bytes.splitOn newline)).map (·.document) := by
  induction bytes using Text.lineInduction newline generalizing p with
  | last w hw =>
    rw [Text.splitOn_of_notMem hw]
    by_cases hempty : w = []
    · rw [hempty, readByteLines_cons, readBytes_nil]
      rfl
    · rw [Text.splitLines_of_notMem hw hempty]
  | line w rest hw ih =>
    rw [Text.splitLines_append_newline hw, Text.splitOn_append_newline hw, readByteLines_cons,
      readByteLines_cons, readBytes_chomp]
    cases p.readBytes strict w with
    | error e => rfl
    | ok q => exact ih q

end Reading

theorem read_eq_readByteLines (strict : Bool) (pieces : List (List UInt8)) :
    read strict pieces =
      (Reading.start.readByteLines strict (pieces.flatten.splitOn newline)).map (·.document) := by
  rw [read, linesOfPieces_eq_splitLines, Reading.document_readByteLines_splitOn]

/-- Pieces that make up the bytes of a text give what the text gives. -/
theorem read_encode (strict : Bool) {pieces : List (List UInt8)} {source : String}
    (hpieces : pieces.flatten = encode source) :
    read strict pieces = (parse strict source).mapError .malformed := by
  have hlines : linesOfPieces [] pieces = (Text.lines source).map encode := by
    rw [linesOfPieces_eq_splitLines, hpieces]
    exact Text.Utf8.splitLines_encode source
  rw [read, parse, hlines, Reading.readByteLines_encode]
  cases Reading.start.readLines strict (Text.lines source) with
  | error e => rfl
  | ok q => rfl

/-- Bytes are a document when they spell a text that is one. -/
theorem read_eq_ok_iff {strict : Bool} {pieces : List (List UInt8)} {d : Document} :
    read strict pieces = .ok d ↔
      ∃ source, pieces.flatten = encode source ∧ parse strict source = .ok d := by
  constructor
  · intro h
    have hutf8 : ∃ source, pieces.flatten = encode source := by
      rw [read_eq_readByteLines] at h
      cases hread : Reading.start.readByteLines strict (pieces.flatten.splitOn newline) with
      | error e =>
        rw [hread] at h
        cases h
      | ok q => exact Text.Utf8.exists_encode_of_splitOn _ (Reading.readByteLines_eq_ok hread)
    obtain ⟨source, hsource⟩ := hutf8
    refine ⟨source, hsource, ?_⟩
    rw [read_encode strict hsource] at h
    cases hparse : parse strict source with
    | error e =>
      rw [hparse] at h
      cases h
    | ok d' =>
      rw [hparse] at h
      cases h
      rfl
  · rintro ⟨source, hsource, hparse⟩
    rw [read_encode strict hsource, hparse]
    rfl

end AdTemplates.Document
