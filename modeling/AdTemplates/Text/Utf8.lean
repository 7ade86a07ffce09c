/-! UTF-8: the bytes of a text, reading them back, and a readable form for bytes that
are not UTF-8. Reading accepts exactly what writing produces (`decode?_eq_some_iff`). -/
namespace AdTemplates.Text.Utf8

/-- The bytes of a text. -/
def encode (s : String) : List UInt8 := s.toUTF8.data.toList

/-- The text written by these bytes, if they are UTF-8. -/
def decode? (bytes : List UInt8) : Option String := String.fromUTF8? ⟨bytes.toArray⟩

/-- Reading accepts exactly what writing produces. -/
theorem decode?_eq_some_iff {bytes : List UInt8} {s : String} :
    decode? bytes = some s ↔ bytes = encode s := by
  unfold decode? String.fromUTF8? encode
  constructor
  · intro h
    split at h
    · cases h; rfl
    · cases h
  · rintro rfl
    have hb : (⟨s.toUTF8.data.toList.toArray⟩ : ByteArray) = s.toByteArray := rfl
    rw [hb, dif_pos s.isValidUTF8]
    rfl

@[simp] theorem decode?_encode (s : String) : decode? (encode s) = some s :=
  decode?_eq_some_iff.mpr rfl

/-- For a first byte, the admissible values of the second byte and the number of bytes
after the first; `none` if no sequence of several bytes starts so. -/
def sequenceShape (b : UInt8) : Option (UInt8 × UInt8 × Nat) :=
  if 0xc2 ≤ b && b ≤ 0xdf then some (0x80, 0xbf, 1)
  else if b == 0xe0 then some (0xa0, 0xbf, 2)
  else if b == 0xed then some (0x80, 0x9f, 2)
  else if 0xe1 ≤ b && b ≤ 0xef then some (0x80, 0xbf, 2)
  else if b == 0xf0 then some (0x90, 0xbf, 3)
  else if 0xf1 ≤ b && b ≤ 0xf3 then some (0x80, 0xbf, 3)
  else if b == 0xf4 then some (0x80, 0x8f, 3)
  else none

/-- How many of the bytes begin a sequence of this shape, up to the sequence's length. -/
def continuationRun (low high : UInt8) : Nat → List UInt8 → Nat
  | 0, _ => 0
  | _ + 1, [] => 0
  | n + 1, b :: rest => if low ≤ b && b ≤ high then continuationRun 0x80 0xbf n rest + 1 else 0

/-- Length of the first sequence, cut short where it stops being UTF-8, and whether it is
complete. -/
def firstSequence (b : UInt8) (rest : List UInt8) : Nat × Bool :=
  if b < 0x80 then (1, true)
  else match sequenceShape b with
    | none => (1, false)
    | some (low, high, n) =>
      let run := continuationRun low high n rest
      (run + 1, run == n)

/-- The text of these bytes, with a replacement character for each maximal part of a
sequence that is broken off. -/
def decodeLossy : List UInt8 → String
  | [] => ""
  | b :: rest =>
    let (size, complete) := firstSequence b rest
    let part := if complete then (decode? (b :: rest.take (size - 1))).getD "\ufffd" else "\ufffd"
    part ++ decodeLossy (rest.drop (size - 1))
termination_by bytes => bytes.length
decreasing_by simp only [List.length_cons, List.length_drop]; omega

/-- A readable form of any bytes. -/
def display (bytes : List UInt8) : String := (decode? bytes).getD (decodeLossy bytes)

@[simp] theorem display_encode (s : String) : display (encode s) = s := by simp [display]

end AdTemplates.Text.Utf8
