import AdTemplates.Proofs.Text.Utf8
import Mathlib.Algebra.Group.Nat.Defs

/-! UTF-8 keeps the order of texts. The bytes of a character are below those of a later one
whatever follows them, so texts in the order of their characters are in the order of their
bytes. -/
namespace AdTemplates.Text.Utf8

variable {c d : Char} {k m n : Nat} {first second : List UInt8}

/-- The last bytes of a sequence: the last digits of the number to the base 64. -/
def continuation : Nat → Nat → List UInt8
  | 0, _ => []
  | k + 1, n => UInt8.ofNat (n / 64 ^ k % 64 + 128) :: continuation k n

/-- The first byte and how many follow it, by the size of the number. -/
inductive Shape (n : Nat) : Nat → Nat → Prop where
  | one (h : n < 0x80) : Shape n 0 0
  | two (hlow : 0x80 ≤ n) (h : n < 0x800) : Shape n 0xc0 1
  | three (hlow : 0x800 ≤ n) (h : n < 0x10000) : Shape n 0xe0 2
  | four (hlow : 0x10000 ≤ n) (h : n < 0x110000) : Shape n 0xf0 3

theorem exists_shape (c : Char) : ∃ base k, Shape c.toNat base k ∧
    String.utf8EncodeChar c = UInt8.ofNat (c.toNat / 64 ^ k + base) :: continuation k c.toNat := by
  have hbound : c.toNat < 0x110000 := by
    rcases c.valid with h | h
    · exact Nat.lt_trans h (by decide)
    · exact h.2
  unfold String.utf8EncodeChar
  rw [Char.toNat] at hbound ⊢
  generalize c.val.toNat = n at hbound
  simp only
  split
  · refine ⟨0, 0, .one (by omega), ?_⟩
    rw [Nat.pow_zero, Nat.div_one]
    rfl
  · split
    · refine ⟨0xc0, 1, .two (by omega) (by omega), ?_⟩
      rw [show n / 64 % 32 = n / 64 ^ 1 by omega]
      simp [continuation]
    · split
      · refine ⟨0xe0, 2, .three (by omega) (by omega), ?_⟩
        rw [show n / 4096 % 16 = n / 64 ^ 2 by omega]
        simp [continuation]
      · refine ⟨0xf0, 3, .four (by omega) hbound, ?_⟩
        rw [show n / 262144 % 8 = n / 64 ^ 3 by omega]
        simp [continuation]

theorem ofNat_cons_lt (hn : n < 256) (h : m < n ∨ m = n ∧ first < second) :
    UInt8.ofNat m :: first < UInt8.ofNat n :: second := by
  rw [List.cons_lt_cons_iff]
  rcases h with h | ⟨rfl, h⟩
  · refine .inl (UInt8.lt_iff_toNat_lt.mpr ?_)
    rw [UInt8.toNat_ofNat', UInt8.toNat_ofNat']
    omega
  · exact .inr ⟨rfl, h⟩

/-- Where the leading digits of two numbers agree the others decide. -/
theorem continuation_append_lt (h : m < n) (hlead : m / 64 ^ k = n / 64 ^ k)
    (first second : List UInt8) :
    continuation k m ++ first < continuation k n ++ second := by
  induction k with
  | zero =>
    rw [Nat.pow_zero, Nat.div_one, Nat.div_one] at hlead
    omega
  | succ k ih =>
    refine ofNat_cons_lt (by omega) ?_
    have hle : m / 64 ^ k ≤ n / 64 ^ k := Nat.div_le_div_right (Nat.le_of_lt h)
    rw [Nat.pow_succ, ← Nat.div_div_eq_div_mul, ← Nat.div_div_eq_div_mul] at hlead
    rcases Nat.lt_or_eq_of_le hle with hlt | heq
    · exact .inl (by omega)
    · exact .inr ⟨by rw [heq], ih heq⟩

/-- A larger number has a larger first byte, or the same one and as many bytes behind it. -/
theorem Shape.lead_lt {base other j : Nat} (hm : Shape m base j) (hn : Shape n other k)
    (h : m < n) : n / 64 ^ k + other < 256 ∧ (m / 64 ^ j + base < n / 64 ^ k + other ∨
      m / 64 ^ j + base = n / 64 ^ k + other ∧ j = k ∧ m / 64 ^ j = n / 64 ^ j) := by
  cases hm <;> cases hn <;> omega

theorem utf8EncodeChar_append_lt (h : c < d) (first second : List UInt8) :
    String.utf8EncodeChar c ++ first < String.utf8EncodeChar d ++ second := by
  have hlt : c.toNat < d.toNat := UInt32.lt_iff_toNat_lt.mp (Char.lt_def.mp h)
  obtain ⟨base, j, hshape, hc⟩ := exists_shape c
  obtain ⟨other, k, hshape', hd⟩ := exists_shape d
  obtain ⟨hbound, hlead⟩ := hshape.lead_lt hshape' hlt
  rw [hc, hd]
  refine ofNat_cons_lt hbound (hlead.imp_right ?_)
  rintro ⟨hsame, rfl, hdigits⟩
  exact ⟨hsame, continuation_append_lt hlt hdigits first second⟩

theorem flatMap_utf8EncodeChar_lt {cs ds : List Char} (h : cs < ds) :
    cs.flatMap String.utf8EncodeChar < ds.flatMap String.utf8EncodeChar := by
  induction h with
  | @nil d ds =>
    obtain ⟨b, rest, hd⟩ := List.exists_cons_of_ne_nil (String.utf8EncodeChar_ne_nil (c := d))
    rw [List.flatMap_nil, List.flatMap_cons, hd, List.cons_append]
    exact List.nil_lt_cons b _
  | cons h ih =>
    rw [List.flatMap_cons, List.flatMap_cons]
    exact List.append_left_lt ih
  | rel h =>
    rw [List.flatMap_cons, List.flatMap_cons]
    exact utf8EncodeChar_append_lt h _ _

theorem encode_lt_encode {s t : String} (h : s < t) : encode s < encode t := by
  rw [encode_eq_flatMap, encode_eq_flatMap]
  exact flatMap_utf8EncodeChar_lt (String.lt_iff.mp h)

end AdTemplates.Text.Utf8
