import AdTemplates.Text.UpperCase

/-! Upper case is final. No character that begins an upper-case form is changed by upper case
any further, so a word that has been capitalized stays as it is. The tables are compared as
sets of code points, each set as one number. -/
namespace AdTemplates.Text

variable {n m : Nat} {c : Char}

/-! ### Sets of code points -/

/-- The number whose binary digits say which code points are given. -/
def mask (points : List Nat) : Nat := points.foldr (fun n set => set ||| 1 <<< n) 0

theorem testBit_mask (points : List Nat) : (mask points).testBit n = true ↔ n ∈ points := by
  induction points with
  | nil => simp [mask]
  | cons m more ih =>
    rw [mask, List.foldr_cons, ← mask, Nat.testBit_or, Bool.or_eq_true, ih,
      Nat.one_shiftLeft, Nat.testBit_two_pow, decide_eq_true_eq, List.mem_cons, or_comm, eq_comm]

theorem notMem_of_mask {points others : List Nat} (h : mask points &&& mask others = 0)
    (hn : n ∈ points) : n ∉ others := by
  intro hother
  have hboth : (mask points &&& mask others).testBit n = true := by
    rw [Nat.testBit_and, (testBit_mask points).mpr hn, (testBit_mask others).mpr hother]
    rfl
  rw [h, Nat.zero_testBit] at hboth
  exact Bool.false_ne_true hboth

namespace CaseRange

variable {r : CaseRange}

/-- The code points of a range. -/
def points (r : CaseRange) : List Nat :=
  (List.range ((r.last - r.first) / r.step + 1)).map (r.first + r.step * ·)

/-- The code points of their partners. -/
def partners (r : CaseRange) : List Nat := r.points.map fun n : Nat => (n + r.offset).toNat

theorem mem_points_of_partner? (h : r.partner? n = some m) :
    n ∈ r.points ∧ (n + r.offset).toNat = m := by
  unfold partner? at h
  split at h
  · rename_i hn
    obtain ⟨hfirst, hlast, hstep⟩ := hn
    refine ⟨List.mem_map.mpr ⟨(n - r.first) / r.step, ?_, ?_⟩, Option.some.inj h⟩
    · have hle : (n - r.first) / r.step ≤ (r.last - r.first) / r.step :=
        Nat.div_le_div_right (Nat.sub_le_sub_right hlast r.first)
      exact List.mem_range.mpr (Nat.lt_succ_of_le hle)
    · rw [Nat.mul_div_cancel' (Nat.dvd_of_mod_eq_zero hstep), Nat.add_sub_cancel' hfirst]
  · cases h

end CaseRange

/-! ### What upper case changes, and into what -/

/-- The code points that upper case changes. -/
def changed : List Nat := upperRanges.flatMap CaseRange.points ++ upperExpansions.map Prod.fst

/-- The code points that the upper case of those begins with. -/
def initials : List Nat :=
  upperRanges.flatMap CaseRange.partners ++ upperExpansions.map (·.2.headD 0)

theorem mask_initials : mask initials &&& mask changed = 0 := by decide +kernel

theorem isValidChar_of_mem_initials : ∀ n ∈ initials, n < 0xd800 ∨ 0xdfff < n ∧ n < 0x110000 := by
  decide +kernel

theorem upperExpansions_ne_nil : ∀ e ∈ upperExpansions, e.2 ≠ [] := by decide +kernel

/-- The small letters of ASCII are the first of all ranges. -/
theorem toUpper_ascii : ∀ n < 128, (Char.ofNat n).toUpper = Char.ofNat n ∨
    n ∈ CaseRange.points ⟨0x61, 0x7a, 1, -32⟩ := by
  decide +kernel

theorem upper_toUpper_ascii : ∀ n < 128,
    upper (Char.ofNat n).toUpper = [(Char.ofNat n).toUpper] := by
  decide +kernel

theorem toNat_ofNat_of_mem_initials (h : n ∈ initials) : (Char.ofNat n).toNat = n := by
  have hvalid : n.isValidChar := (isValidChar_of_mem_initials n h).imp_left id
  rw [Char.ofNat, dif_pos hvalid]
  rfl

theorem mapCase_of_notMem_changed (h : c.toNat ∉ changed) :
    mapCase upperRanges upperExpansions c = [c] := by
  rw [changed, List.mem_append, not_or] at h
  have hexpansion : upperExpansions.lookup c.toNat = none :=
    List.lookup_eq_none_iff.mpr fun e he =>
      bne_iff_ne.mpr fun heq => h.2 (List.mem_map.mpr ⟨e, he, heq.symm⟩)
  have hrange : upperRanges.findSome? (·.partner? c.toNat) = none := by
    refine List.findSome?_eq_none_iff.mpr fun r hr => ?_
    cases hpartner : r.partner? c.toNat with
    | none => rfl
    | some n =>
      exact absurd (List.mem_flatMap.mpr ⟨r, hr, (CaseRange.mem_points_of_partner? hpartner).1⟩) h.1
  rw [mapCase, hexpansion, hrange]

/-- Upper case leaves a character alone, or begins with one of its initials. -/
theorem mapCase_cases (c : Char) :
    mapCase upperRanges upperExpansions c = [c] ∨
      ∃ n ∈ initials, ∃ more, mapCase upperRanges upperExpansions c = Char.ofNat n :: more := by
  unfold mapCase
  split
  · rename_i image himage
    obtain ⟨before, after, heq, -⟩ := List.lookup_eq_some_iff.mp himage
    have hmem : (c.toNat, image) ∈ upperExpansions := by simp [heq]
    obtain ⟨n, more, rfl⟩ := List.exists_cons_of_ne_nil (upperExpansions_ne_nil _ hmem)
    exact .inr ⟨n, List.mem_append_right _ (List.mem_map.mpr ⟨_, hmem, rfl⟩), _, rfl⟩
  · split
    · rename_i n hn
      obtain ⟨r, hr, hpartner⟩ := List.exists_of_findSome?_eq_some hn
      obtain ⟨hpoint, hpartner⟩ := CaseRange.mem_points_of_partner? hpartner
      have hmem : n ∈ r.partners := List.mem_map.mpr ⟨c.toNat, hpoint, hpartner⟩
      exact .inr ⟨n, List.mem_append_left _ (List.mem_flatMap.mpr ⟨r, hr, hmem⟩), [], rfl⟩
    · exact .inl rfl

/-! ### Capitalized words -/

theorem upper_of_notMem_changed (h : c.toNat ∉ changed) : upper c = [c] := by
  unfold upper
  split
  · rename_i hascii
    have hsmall := toUpper_ascii c.toNat hascii
    rw [Char.ofNat_toNat] at hsmall
    rcases hsmall with hsame | hmem
    · rw [hsame]
    · have hchanged : c.toNat ∈ changed :=
        List.mem_append_left _ (List.mem_flatMap.mpr ⟨_, List.mem_cons_self, hmem⟩)
      exact absurd hchanged h
  · exact mapCase_of_notMem_changed h

/-- The first character of an upper-case form is its own upper case. -/
theorem exists_upper (c : Char) :
    ∃ first more, upper c = first :: more ∧ upper first = [first] := by
  by_cases hascii : c.toNat < 0x80
  · have hfinal := upper_toUpper_ascii c.toNat hascii
    rw [Char.ofNat_toNat] at hfinal
    exact ⟨c.toUpper, [], if_pos hascii, hfinal⟩
  · have hupper : upper c = mapCase upperRanges upperExpansions c := if_neg hascii
    rw [hupper]
    rcases mapCase_cases c with hsame | ⟨n, hn, more, hmore⟩
    · exact ⟨c, [], hsame, hupper.trans hsame⟩
    · refine ⟨Char.ofNat n, more, hmore, upper_of_notMem_changed ?_⟩
      rw [toNat_ofNat_of_mem_initials hn]
      exact notMem_of_mask mask_initials hn

theorem toList_capitalizeFirst (word : String) :
    (capitalizeFirst word).toList = (word.toList.take 1).flatMap upper ++ word.toList.drop 1 := by
  rw [capitalizeFirst]
  cases word.toList with
  | nil => rfl
  | cons c rest => simp

theorem capitalizeFirst_capitalizeFirst (word : String) :
    capitalizeFirst (capitalizeFirst word) = capitalizeFirst word := by
  rw [← String.toList_inj, toList_capitalizeFirst, toList_capitalizeFirst]
  cases word.toList with
  | nil => rfl
  | cons c rest =>
    obtain ⟨first, more, hc, hfirst⟩ := exists_upper c
    simp [hc, hfirst]

end AdTemplates.Text
