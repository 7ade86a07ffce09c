import AdTemplates.Proofs.Combinations.Walk
import Mathlib.Data.List.Basic

/-! Reading on in the enumeration. A reading takes the first records that are to be kept and
stops right behind the last of them; consuming some advertisements moves a cursor along such
a reading, and the longer calls are made of single ones. -/
namespace AdTemplates.Combinations

section Reading

variable {all : List Record} {keep : Record → Bool} {wanted : Option Nat} {p q s : Nat}
variable {r : Record} {taken more : List Record}

theorem extract_append_extract (hpq : p ≤ q) (hqs : q ≤ s) :
    all.extract p q ++ all.extract q s = all.extract p s := by
  have hdrop : all.drop q = (all.drop p).drop (q - p) := by
    rw [List.drop_drop, Nat.add_sub_cancel' hpq]
  rw [List.extract, List.extract, hdrop, ← List.take_add]
  congr 1
  omega

theorem extract_append_drop (hpq : p ≤ q) : all.extract p q ++ all.drop q = all.drop p := by
  have hdrop : all.drop q = (all.drop p).drop (q - p) := by
    rw [List.drop_drop, Nat.add_sub_cancel' hpq]
  rw [List.extract, hdrop, List.take_append_drop]

theorem take_append_extract (hpq : p ≤ q) : all.take p ++ all.extract p q = all.take q := by
  rw [List.extract, ← List.take_add, Nat.add_sub_cancel' hpq]

theorem extract_self : all.extract p p = [] := by
  rw [List.extract, Nat.sub_self, List.take_zero]

/-- The first so many records, or all of them if no number is given. -/
def firstOf (wanted : Option Nat) (records : List Record) : List Record :=
  match wanted with
  | some n => records.take n
  | none => records

theorem firstOf_nil : firstOf wanted [] = [] := by
  cases wanted with
  | none => rfl
  | some n => exact List.take_nil

theorem firstOf_cons : firstOf (wanted.map (· + 1)) (r :: taken) = r :: firstOf wanted taken := by
  cases wanted <;> rfl

/-- How many records in front of a place are not kept. -/
def rejected (all : List Record) (keep : Record → Bool) (p : Nat) : Nat :=
  ((all.take p).filter (!keep ·)).length

theorem rejected_add (hpq : p ≤ q) :
    rejected all keep p + ((all.extract p q).filter (!keep ·)).length = rejected all keep q := by
  rw [rejected, rejected, ← take_append_extract hpq, List.filter_append, List.length_append]

/-- From place `p` on, the first records that are kept are taken, as many as are wanted and
there are. The reading stops at place `q`, right behind the last of them, or at the end if
there were fewer. -/
structure Reads (all : List Record) (keep : Record → Bool) (wanted : Option Nat) (p : Nat)
    (taken : List Record) (q : Nat) : Prop where
  le : p ≤ q
  le_length : q ≤ all.length
  first : taken = firstOf wanted ((all.drop p).filter keep)
  passed : (all.extract p q).filter keep = taken
  stop : wanted = some taken.length → ∀ r ∈ (all.extract p q).getLast?, keep r = true
  ended : wanted ≠ some taken.length → q = all.length

theorem Reads.filter_drop (h : Reads all keep wanted p taken q) :
    (all.drop p).filter keep = taken ++ (all.drop q).filter keep := by
  rw [← extract_append_drop h.le, List.filter_append, h.passed]

/-- Where no record to keep is found any more, every reading that wants one ends. -/
theorem Reads.nothing (h : Reads all keep (some 1) p [] q) (hw : wanted ≠ some 0) :
    Reads all keep wanted p [] q := by
  have hend : q = all.length := h.ended (by simp)
  have hrest : (all.drop p).filter keep = [] := by
    rw [h.filter_drop, hend, List.drop_length]
    rfl
  exact {
    le := h.le
    le_length := h.le_length
    first := by rw [hrest, firstOf_nil]
    passed := h.passed
    stop := fun he => absurd he hw
    ended := fun _ => hend }

/-- A record, and then more records, are one reading. -/
theorem Reads.cons (h : Reads all keep (some 1) p [r] q) (hmore : Reads all keep wanted q more s) :
    Reads all keep (wanted.map (· + 1)) p (r :: more) s := by
  have hpassed : all.extract p s = all.extract p q ++ all.extract q s :=
    (extract_append_extract h.le hmore.le).symm
  have hwanted : wanted.map (· + 1) = some (r :: more).length ↔ wanted = some more.length := by
    cases wanted <;> simp
  exact {
    le := Nat.le_trans h.le hmore.le
    le_length := hmore.le_length
    first := by
      rw [h.filter_drop, List.singleton_append, firstOf_cons, ← hmore.first]
    passed := by
      rw [hpassed, List.filter_append, h.passed, hmore.passed, List.singleton_append]
    stop := by
      intro he last hlast
      rw [hpassed, List.getLast?_append] at hlast
      -- The last record passed is one of the later reading, unless that has not moved.
      cases hlater : (all.extract q s).getLast? with
      | none =>
        rw [hlater, Option.none_or] at hlast
        exact h.stop rfl last hlast
      | some found =>
        rw [hlater, Option.some_or] at hlast
        exact hmore.stop (hwanted.mp he) last (hlater ▸ hlast)
    ended := fun he => hmore.ended fun hw => he (hwanted.mpr hw) }

end Reading

variable {c d e : Combinations} {wanted : Option Nat} {r : Record} {taken more : List Record}

/-- Of what a call passes, what it returns is kept, and the rest is not. -/
theorem Takes.filter_passed {result : Option Record} {left : List Record}
    (h : Takes c result d left) :
    (left ++ result.toList).filter c.options.keeps = result.toList ∧
      (left ++ result.toList).filter (!c.options.keeps ·) = left := by
  have hleft : left.filter c.options.keeps = [] :=
    List.filter_eq_nil_iff.mpr fun a ha => by rw [h.left_out a ha]; decide
  have hresult : result.toList.filter c.options.keeps = result.toList :=
    List.filter_eq_self.mpr fun a ha => h.kept a (Option.mem_toList.mp ha)
  have hleft' : left.filter (!c.options.keeps ·) = left :=
    List.filter_eq_self.mpr fun a ha => by rw [h.left_out a ha]; rfl
  have hresult' : result.toList.filter (!c.options.keeps ·) = [] :=
    List.filter_eq_nil_iff.mpr fun a ha => by
      rw [h.kept a (Option.mem_toList.mp ha)]; decide
  rw [List.filter_append, List.filter_append, hleft, hresult, hleft', hresult']
  exact ⟨List.nil_append _, List.append_nil _⟩

theorem Takes.filter_ahead {result : Option Record} {left : List Record}
    (h : Takes c result d left) :
    c.ahead.filter c.options.keeps = result.toList ++ d.ahead.filter c.options.keeps := by
  rw [h.ahead, List.filter_append, h.filter_passed.1]

/-- What consuming some records makes of a cursor. -/
structure Consumes (c : Combinations) (wanted : Option Nat) (taken : List Record)
    (d : Combinations) : Prop where
  wellPlaced : d.WellPlaced
  input : d.input = c.input
  reads : Reads c.all c.options.keeps wanted c.offset taken d.offset
  skipped : d.skipped =
    c.skipped + ((c.all.extract c.offset d.offset).filter (!c.options.keeps ·)).length

theorem WellPlaced.consumes_nothing (h : c.WellPlaced) : Consumes c (some 0) [] c where
  wellPlaced := h
  input := rfl
  reads := {
    le := Nat.le_refl _
    le_length := length_all c ▸ h.offset_le
    first := rfl
    passed := by rw [extract_self, List.filter_nil]
    stop := fun _ r hr => by
      rw [extract_self] at hr
      cases hr
    ended := fun hw => absurd rfl hw }
  skipped := by rw [extract_self, List.filter_nil, List.length_nil, Nat.add_zero]

theorem Consumes.cons (h : Consumes c (some 1) [r] d) (hmore : Consumes d wanted more e) :
    Consumes c (wanted.map (· + 1)) (r :: more) e := by
  have hreads := hmore.reads
  have hskipped := hmore.skipped
  rw [all_congr h.input, options_congr h.input] at hreads hskipped
  exact {
    wellPlaced := hmore.wellPlaced
    input := hmore.input.trans h.input
    reads := h.reads.cons hreads
    skipped := by
      rw [hskipped, h.skipped, ← extract_append_extract h.reads.le hreads.le, List.filter_append,
        List.length_append, Nat.add_assoc] }

theorem Consumes.nothing (h : Consumes c (some 1) [] d) (hw : wanted ≠ some 0) :
    Consumes c wanted [] d where
  wellPlaced := h.wellPlaced
  input := h.input
  reads := h.reads.nothing hw
  skipped := h.skipped

/-- What lies between a cursor and the next one is what a call has left out, and then what
it has returned. -/
theorem Takes.extract_eq {result : Option Record} {left : List Record} (hc : c.WellPlaced)
    (h : Takes c result d left) :
    c.offset ≤ d.offset ∧ c.all.extract c.offset d.offset = left ++ result.toList := by
  have hle : c.offset ≤ d.offset := by
    have hlength := congrArg List.length h.ahead
    have hc := hc.offset_le
    have hd := h.wellPlaced.offset_le
    rw [List.length_append, length_ahead, length_ahead, size_congr h.input] at hlength
    rw [size_congr h.input] at hd
    omega
  have hahead : d.ahead = c.all.drop d.offset := by
    rw [Combinations.ahead, all_congr h.input]
  have hsplit : c.all.extract c.offset d.offset ++ d.ahead = left ++ result.toList ++ d.ahead := by
    rw [← h.ahead, hahead, extract_append_drop hle, Combinations.ahead]
  exact ⟨hle, List.append_cancel_right hsplit⟩

/-- A call stops behind the advertisement that it returns, however many have been left out
in front of it and whatever follows. -/
theorem Takes.reads {result : Option Record} {left : List Record} (hc : c.WellPlaced)
    (h : Takes c result d left) :
    Reads c.all c.options.keeps (some 1) c.offset result.toList d.offset := by
  obtain ⟨hle, hpassed⟩ := h.extract_eq hc
  have hahead : (c.all.drop c.offset).filter c.options.keeps =
      result.toList ++ d.ahead.filter c.options.keeps := h.filter_ahead
  have hlength : d.offset ≤ c.all.length := by
    rw [length_all, ← size_congr h.input]
    exact h.wellPlaced.offset_le
  exact {
    le := hle
    le_length := hlength
    first := by
      rw [hahead]
      cases result with
      | none => rw [h.wellPlaced.ahead_of_exhausted (h.ended rfl)]; rfl
      | some r => rfl
    passed := by rw [hpassed, h.filter_passed.1]
    stop := by
      cases result with
      | none => exact nofun
      | some r =>
        intro _ last hlast
        rw [hpassed, Option.toList_some, List.getLast?_concat] at hlast
        exact h.kept last hlast
    ended := by
      cases result with
      | none =>
        intro _
        rw [h.wellPlaced.offset_of_exhausted (h.ended rfl), size_congr h.input, length_all]
      | some r => exact fun hw => absurd rfl hw }

theorem WellPlaced.consumes_next (h : c.WellPlaced) :
    Consumes c (some 1) c.next.1.toList c.next.2 := by
  obtain ⟨left, ht⟩ := h.next
  exact {
    wellPlaced := ht.wellPlaced
    input := ht.input
    reads := ht.reads h
    skipped := by rw [(ht.extract_eq h).2, ht.filter_passed.2, ht.skipped] }

/-! The longer calls are made of single ones. -/

theorem WellPlaced.consumes_take (h : c.WellPlaced) (n : Nat) :
    Consumes c (some n) (Combinations.take n c).1 (Combinations.take n c).2 := by
  induction n generalizing c with
  | zero => exact h.consumes_nothing
  | succ n ih =>
    have hnext := h.consumes_next
    rw [Combinations.take]
    split
    · rename_i d hd
      rw [hd] at hnext
      exact hnext.nothing (by simp)
    · rename_i r d hd
      rw [hd] at hnext
      exact hnext.cons (ih hnext.wellPlaced)

theorem WellPlaced.consumes_nth (h : c.WellPlaced) (n : Nat) :
    ∃ taken, Consumes c (some (n + 1)) taken (Combinations.nth n c).2 ∧
      (Combinations.nth n c).1 = taken[n]? := by
  induction n generalizing c with
  | zero => exact ⟨c.next.1.toList, h.consumes_next, by
    rw [Combinations.nth]
    cases c.next.1 <;> rfl⟩
  | succ n ih =>
    have hnext := h.consumes_next
    rw [Combinations.nth]
    split
    · rename_i d hd
      rw [hd] at hnext
      exact ⟨[], hnext.nothing (by simp), rfl⟩
    · rename_i r d hd
      rw [hd] at hnext
      obtain ⟨taken, htaken, hresult⟩ := ih hnext.wellPlaced
      exact ⟨r :: taken, hnext.cons htaken, hresult⟩

end AdTemplates.Combinations
