import AdTemplates.Proofs.Text.Lines
import AdTemplates.Text.Utf8

/-! Line ends in UTF-8. The bytes of a newline and of a carriage return occur in the bytes
of these two characters only, so bytes can be split into lines before they are read. -/
namespace AdTemplates.Text.Utf8

theorem encode_eq_flatMap (s : String) : encode s = s.toList.flatMap String.utf8EncodeChar := by
  have hbytes : s.toByteArray = (s.toList.flatMap String.utf8EncodeChar).toByteArray := by
    rw [← String.utf8Encode_toList]
    rfl
  rw [encode, String.toUTF8_eq_toByteArray, hbytes, List.data_toByteArray]

@[simp] theorem encode_ofList (cs : List Char) :
    encode (String.ofList cs) = cs.flatMap String.utf8EncodeChar := by
  rw [encode_eq_flatMap, String.toList_ofList]

theorem encode_append (s t : String) : encode (s ++ t) = encode s ++ encode t := by
  simp only [encode_eq_flatMap, String.toList_append, List.flatMap_append]

/-- A byte below 128 stands for the character of its number and for no other. -/
theorem toNat_of_mem_utf8EncodeChar {b : UInt8} {c : Char} (hb : b.toNat < 128)
    (hmem : b ∈ String.utf8EncodeChar c) : c.toNat = b.toNat := by
  -- In a sequence of several bytes every byte has its top bit set.
  have hlow (n : Nat) (hn : b = UInt8.ofNat n) : b.toNat = n % 256 := by
    rw [hn, UInt8.toNat_ofNat']
  rw [String.utf8EncodeChar] at hmem
  split at hmem
  · rename_i hsmall
    have hn := hlow _ (List.mem_singleton.mp hmem)
    rw [hn, Nat.mod_eq_of_lt (by omega)]
    rfl
  · exfalso
    split at hmem
    · simp only [List.mem_cons, List.not_mem_nil, or_false] at hmem
      rcases hmem with h | h <;> have hn := hlow _ h <;> omega
    · split at hmem
      · simp only [List.mem_cons, List.not_mem_nil, or_false] at hmem
        rcases hmem with h | h | h <;> have hn := hlow _ h <;> omega
      · simp only [List.mem_cons, List.not_mem_nil, or_false] at hmem
        rcases hmem with h | h | h | h <;> have hn := hlow _ h <;> omega

theorem eq_of_mem_utf8EncodeChar {c d : Char} {b : UInt8} (hd : d.toNat < 128)
    (hb : b = UInt8.ofNat d.toNat) (hmem : b ∈ String.utf8EncodeChar c) : c = d := by
  have hnumber : b.toNat = d.toNat := by
    rw [hb, UInt8.toNat_ofNat', Nat.mod_eq_of_lt (by omega)]
  have hc := toNat_of_mem_utf8EncodeChar (hnumber ▸ hd) hmem
  exact Char.toNat_inj.mp (hc.trans hnumber)

/-- Where no character is below a number of this range, no byte is. -/
theorem le_of_mem_utf8EncodeChars {n : Nat} (hn : n ≤ 128) {cs : List Char}
    (h : ∀ c ∈ cs, n ≤ c.toNat) {b : UInt8} (hb : b ∈ cs.flatMap String.utf8EncodeChar) :
    n ≤ b.toNat := by
  obtain ⟨c, hc, hmem⟩ := List.mem_flatMap.mp hb
  by_cases hlow : b.toNat < 128
  · exact toNat_of_mem_utf8EncodeChar hlow hmem ▸ h c hc
  · omega

theorem newline_notMem_encode {cs : List Char} (h : '\n' ∉ cs) :
    (0x0a : UInt8) ∉ cs.flatMap String.utf8EncodeChar := by
  intro hmem
  obtain ⟨c, hc, hbyte⟩ := List.mem_flatMap.mp hmem
  have hnewline : c = '\n' := eq_of_mem_utf8EncodeChar (by decide) rfl hbyte
  exact h (hnewline ▸ hc)

theorem chomp_encode (cs : List Char) :
    chomp 0x0d (cs.flatMap String.utf8EncodeChar) =
      (chomp '\r' cs).flatMap String.utf8EncodeChar := by
  rcases List.eq_nil_or_concat cs with rfl | ⟨init, c, rfl⟩
  · rfl
  · rw [List.concat_eq_append, chomp_append_singleton, List.flatMap_append]
    by_cases hc : c = '\r'
    · have hbytes : ['\r'].flatMap String.utf8EncodeChar = [0x0d] := rfl
      rw [if_pos hc, hc, hbytes, chomp_append_singleton, if_pos rfl]
    · -- The last byte of any other character is no carriage return.
      obtain ⟨front, last, hlast⟩ :=
        (List.eq_nil_or_concat (String.utf8EncodeChar c)).resolve_left String.utf8EncodeChar_ne_nil
      have hbyte : last ≠ 0x0d := by
        intro hbyte
        refine hc (eq_of_mem_utf8EncodeChar (by decide) rfl (b := 0x0d) ?_)
        rw [hlast, hbyte, List.concat_eq_append]
        exact List.mem_append_right front List.mem_cons_self
      have hsingle : [c].flatMap String.utf8EncodeChar = front ++ [last] := by
        rw [List.flatMap_singleton, hlast, List.concat_eq_append]
      rw [if_neg hc, List.flatMap_append, hsingle, ← List.append_assoc, chomp_append_singleton,
        if_neg hbyte]

/-- A carriage return at the end does not decide what is UTF-8. -/
theorem decode?_append_return (bytes : List UInt8) :
    decode? (bytes ++ [0x0d]) = (decode? bytes).map (· ++ "\r") := by
  cases hbytes : decode? bytes with
  | some s =>
    rw [Option.map_some, decode?_eq_some_iff, encode_append, ← decode?_eq_some_iff.mp hbytes]
    rfl
  | none =>
    rw [Option.map_none, Option.eq_none_iff_forall_ne_some]
    intro t ht
    have hencode : bytes ++ [0x0d] = t.toList.flatMap String.utf8EncodeChar :=
      (decode?_eq_some_iff.mp ht).trans (encode_eq_flatMap t)
    have hfront := chomp_encode t.toList
    rw [← hencode, chomp_append_singleton, if_pos rfl, ← encode_ofList] at hfront
    rw [hfront, decode?_encode] at hbytes
    cases hbytes

/-- The lines of the bytes are the bytes of the lines. -/
theorem splitLines_encode (s : String) :
    splitLines 0x0a 0x0d (encode s) = (lines s).map encode := by
  have hchars (cs : List Char) : splitLines 0x0a 0x0d (cs.flatMap String.utf8EncodeChar) =
      (splitLines '\n' '\r' cs).map (List.flatMap String.utf8EncodeChar) := by
    induction cs using lineInduction '\n' with
    | last w hw =>
      by_cases hne : w = []
      · rw [hne]
        rfl
      · have hbytes : w.flatMap String.utf8EncodeChar ≠ [] := by
          obtain ⟨c, rest, rfl⟩ := List.exists_cons_of_ne_nil hne
          rw [List.flatMap_cons]
          exact List.append_ne_nil_of_left_ne_nil String.utf8EncodeChar_ne_nil _
        rw [splitLines_of_notMem hw hne,
          splitLines_of_notMem (newline_notMem_encode hw) hbytes, List.map_singleton]
    | line w rest hw ih =>
      have hbytes : (w ++ '\n' :: rest).flatMap String.utf8EncodeChar =
          w.flatMap String.utf8EncodeChar ++ 0x0a :: rest.flatMap String.utf8EncodeChar := by
        rw [List.flatMap_append, List.flatMap_cons]
        rfl
      rw [hbytes, splitLines_append_newline (newline_notMem_encode hw),
        splitLines_append_newline hw, ih, chomp_encode, List.map_cons]
  rw [encode_eq_flatMap, hchars, lines, List.map_map]
  exact List.map_congr_left fun cs _ => (encode_ofList cs).symm

/-- Bytes of which every line is UTF-8 are UTF-8. -/
theorem exists_encode_of_splitOn (bytes : List UInt8)
    (h : ∀ line ∈ bytes.splitOn 0x0a, ∃ s, line = encode s) : ∃ s, bytes = encode s := by
  induction bytes using lineInduction (0x0a : UInt8) with
  | last w hw =>
    rw [splitOn_of_notMem hw] at h
    exact h w List.mem_cons_self
  | line w rest hw ih =>
    rw [splitOn_append_newline hw] at h
    obtain ⟨s, hs⟩ := h w List.mem_cons_self
    obtain ⟨t, ht⟩ := ih fun line hline => h line (List.mem_cons_of_mem _ hline)
    refine ⟨s ++ "\n" ++ t, ?_⟩
    rw [encode_append, encode_append, hs, ht, List.append_assoc]
    rfl

end AdTemplates.Text.Utf8
