import AdTemplates.Section
import AdTemplates.Proofs.Template.Dependence
import Mathlib.Data.List.Basic

/-! The shape of a marker as a pattern. The pattern is tied to both ends of a line and asks for
one pair of brackets around a text without brackets. In such a line a placeholder can only be
the whole line, so the lines that look like markers are the bracketed names without the four
that are placeholders. -/
namespace AdTemplates

/-- Patterns over the characters of a text. The two anchors take no character. -/
inductive Pattern where
  | atStart
  | atEnd
  | one (accepts : Char → Bool)
  | many (accepts : Char → Bool)
  | seq (first second : Pattern)

namespace Pattern

/-- What a pattern takes of a text, given what stands before and behind it. An anchor holds
only at its end of the whole text, and a run has at least one character. -/
def Matches : Pattern → List Char → List Char → List Char → Prop
  | .atStart, before, found, _ => before = [] ∧ found = []
  | .atEnd, _, found, after => found = [] ∧ after = []
  | .one accepts, _, found, _ => ∃ c, found = [c] ∧ accepts c = true
  | .many accepts, _, found, _ => found ≠ [] ∧ found.all accepts = true
  | .seq first second, before, found, after =>
    ∃ front back, found = front ++ back ∧ first.Matches before front (back ++ after) ∧
      second.Matches (before ++ front) back after

/-- A pattern is searched for anywhere in a text. -/
def FoundIn (p : Pattern) (text : List Char) : Prop :=
  ∃ before found after, text = before ++ (found ++ after) ∧ p.Matches before found after

end Pattern

namespace Section

open Template (Placeholder)

variable {cs name : List Char}

/-- From the start to the end of a line: a bracket, a run of other characters, a bracket. -/
def markerPattern : Pattern :=
  .seq .atStart
    (.seq (.one (· == '['))
      (.seq (.many fun c => c != '[' && c != ']') (.seq (.one (· == ']')) .atEnd)))

/-- A name that can stand in brackets. -/
structure IsPlain (name : List Char) : Prop where
  ne_nil : name ≠ []
  open_notMem : '[' ∉ name
  close_notMem : ']' ∉ name

theorem isPlain_iff :
    IsPlain name ↔ name ≠ [] ∧ (name.all fun c => c != '[' && c != ']') = true := by
  simp only [List.all_eq_true, Bool.and_eq_true, bne_iff_ne]
  constructor
  · rintro ⟨hne, hopen, hclose⟩
    exact ⟨hne, fun c hc => ⟨fun h => hopen (h ▸ hc), fun h => hclose (h ▸ hc)⟩⟩
  · rintro ⟨hne, hall⟩
    exact ⟨hne, fun h => (hall _ h).1 rfl, fun h => (hall _ h).2 rfl⟩

theorem isBracketed_iff :
    isBracketed cs = true ↔ ∃ name, cs = '[' :: (name ++ [']']) ∧ IsPlain name := by
  unfold isBracketed
  split
  · rename_i rest
    simp only [Bool.and_eq_true, beq_iff_eq, Bool.not_eq_true', List.isEmpty_eq_false_iff]
    constructor
    · rintro ⟨⟨hlast, hne⟩, hall⟩
      refine ⟨rest.dropLast, ?_, isPlain_iff.mpr ⟨hne, hall⟩⟩
      rw [List.dropLast_append_getLast? _ hlast]
    · rintro ⟨name, heq, hname⟩
      obtain rfl : rest = name ++ [']'] := (List.cons.inj heq).2
      obtain ⟨hne, hall⟩ := isPlain_iff.mp hname
      rw [List.dropLast_concat]
      exact ⟨⟨List.getLast?_concat, hne⟩, hall⟩
  · rename_i hopen
    refine iff_of_false Bool.false_ne_true ?_
    rintro ⟨name, heq, _⟩
    exact hopen _ heq

/-- The anchors leave no room before the first bracket or behind the last one. -/
theorem foundIn_markerPattern_iff :
    markerPattern.FoundIn cs ↔ ∃ name, cs = '[' :: (name ++ [']']) ∧ IsPlain name := by
  constructor
  · rintro ⟨_, _, _, rfl, _, _, rfl, ⟨rfl, rfl⟩, _, _, rfl, ⟨first, rfl, hfirst⟩, name, _, rfl,
      hname, _, _, rfl, ⟨last, rfl, hlast⟩, rfl, rfl⟩
    obtain rfl : first = '[' := beq_iff_eq.mp hfirst
    obtain rfl : last = ']' := beq_iff_eq.mp hlast
    refine ⟨name, ?_, isPlain_iff.mpr hname⟩
    simp only [List.nil_append, List.append_nil, List.singleton_append]
  · rintro ⟨name, rfl, hname⟩
    refine ⟨[], '[' :: (name ++ [']']), [], ?_, [], _, rfl, ⟨rfl, rfl⟩, ['['], name ++ [']'], rfl,
      ⟨'[', rfl, rfl⟩, name, [']'], rfl, isPlain_iff.mp hname, [']'], [], rfl, ⟨']', rfl, rfl⟩,
      rfl, rfl⟩
    rw [List.nil_append, List.append_nil]

theorem isBracketed_toList_iff {line : String} :
    isBracketed line.toList = true ↔
      ∃ name : String, line = "[" ++ name ++ "]" ∧ IsPlain name.toList := by
  have htext (name : String) : ("[" ++ name ++ "]").toList = '[' :: (name.toList ++ [']']) := by
    rw [String.toList_append, String.toList_append]
    rfl
  rw [isBracketed_iff]
  constructor
  · rintro ⟨name, hline, hname⟩
    refine ⟨String.ofList name, ?_, ?_⟩
    · rw [← String.toList_inj, htext, String.toList_ofList, hline]
    · rwa [String.toList_ofList]
  · rintro ⟨name, rfl, hname⟩
    exact ⟨name.toList, htext name, hname⟩

/-! ### Placeholders in brackets -/

theorem exists_word (p : Placeholder) : ∃ word, p.spelling = '[' :: (word ++ [']']) := by
  obtain ⟨casing, spelledOut⟩ := p
  cases casing <;> cases spelledOut
  · exact ⟨['k'], rfl⟩
  · exact ⟨['k', 'e', 'y'], rfl⟩
  · exact ⟨['K'], rfl⟩
  · exact ⟨['K', 'e', 'y'], rfl⟩

/-- The only bracket that opens in a bracketed name is the first one, and the only one that
closes is the last. -/
theorem spelling_infix_bracketed_iff (p : Placeholder) (h : IsPlain name) :
    p.spelling <:+: '[' :: (name ++ [']']) ↔ p.spelling = '[' :: (name ++ [']']) := by
  obtain ⟨word, hp⟩ := exists_word p
  constructor
  · intro hinfix
    rw [hp] at hinfix ⊢
    rcases List.infix_cons_iff.mp hinfix with ⟨rest, hrest⟩ | hinside
    · rw [List.cons_append, List.append_assoc, List.singleton_append] at hrest
      have htail := (List.cons.inj hrest).2.symm
      rw [((List.append_cons_inj_of_notMem h.close_notMem List.not_mem_nil).mp htail).1]
    · have hopen : '[' ∈ name ++ [']'] := hinside.subset List.mem_cons_self
      rcases List.mem_append.mp hopen with hname | hlast
      · exact absurd hname h.open_notMem
      · exact absurd (List.mem_singleton.mp hlast) (by decide)
  · intro heq
    rw [heq]

theorem hasPlaceholders_iff_of_isBracketed {line : String} (h : isBracketed line.toList = true) :
    (Template.parse line).hasPlaceholders = true ↔ line ∈ Placeholder.texts := by
  obtain ⟨name, hline, hname⟩ := isBracketed_iff.mp h
  calc (Template.parse line).hasPlaceholders = true
      ↔ ∃ p : Placeholder, p.spelling = line.toList := by
        rw [Template.hasPlaceholders_parse, hline]
        exact exists_congr fun p => spelling_infix_bracketed_iff p hname
    _ ↔ ∃ text ∈ Placeholder.texts, text.toList = line.toList :=
        Placeholder.exists_spelling_iff (· = line.toList)
    _ ↔ line ∈ Placeholder.texts := by
        simp only [String.toList_inj, exists_eq_right]

theorem bracketed_mem_texts_iff (name : String) :
    "[" ++ name ++ "]" ∈ Placeholder.texts ↔ name ∈ ["k", "key", "K", "Key"] := by
  have htexts : Placeholder.texts = ["k", "key", "K", "Key"].map ("[" ++ · ++ "]") := by decide
  have hinj : Function.Injective ("[" ++ · ++ "]") := by
    intro first second heq
    rw [← String.toList_inj] at heq ⊢
    simpa only [String.toList_append, List.append_cancel_left_eq,
      List.append_cancel_right_eq] using heq
  rw [htexts]
  exact List.mem_map_of_injective hinj

theorem looksLikeMarker_iff_exists (line : String) :
    looksLikeMarker line = true ↔
      ∃ name : String, line = "[" ++ name ++ "]" ∧ IsPlain name.toList ∧
        name ∉ ["k", "key", "K", "Key"] := by
  rw [looksLikeMarker, Bool.and_eq_true, Bool.not_eq_true']
  constructor
  · rintro ⟨hshape, hplaceholder⟩
    obtain ⟨name, rfl, hname⟩ := isBracketed_toList_iff.mp hshape
    refine ⟨name, rfl, hname, ?_⟩
    rw [← bracketed_mem_texts_iff, ← hasPlaceholders_iff_of_isBracketed hshape, hplaceholder]
    exact Bool.false_ne_true
  · rintro ⟨name, rfl, hname, hword⟩
    have hshape := isBracketed_toList_iff.mpr ⟨name, rfl, hname⟩
    refine ⟨hshape, ?_⟩
    rw [← Bool.not_eq_true, hasPlaceholders_iff_of_isBracketed hshape, bracketed_mem_texts_iff]
    exact hword

/-- A line looks like a marker iff it is a bracketed name, not empty and without brackets in it,
and the name is none of the four words that make placeholders. The shape is that of a pattern
which is tied to both ends of the line. Of the lines of this shape the placeholder test takes
out just the four that are placeholders; every marker has the shape and stays. -/
theorem looksLikeMarker_iff (line : String) :
    (looksLikeMarker line = true ↔
      ∃ name : String, line = "[" ++ name ++ "]" ∧ name ≠ "" ∧ '[' ∉ name.toList ∧
        ']' ∉ name.toList ∧ name ∉ ["k", "key", "K", "Key"]) ∧
    (isBracketed line.toList = true ↔ markerPattern.FoundIn line.toList) ∧
    (markerPattern.FoundIn line.toList ∧ (Template.parse line).hasPlaceholders = true ↔
      line ∈ ["[k]", "[key]", "[K]", "[Key]"]) ∧
    ∀ s : Section, markerPattern.FoundIn s.marker.toList ∧ looksLikeMarker s.marker = true := by
  have hpattern (text : List Char) : isBracketed text = true ↔ markerPattern.FoundIn text :=
    isBracketed_iff.trans foundIn_markerPattern_iff.symm
  refine ⟨?_, hpattern _, ?_, ?_⟩
  · rw [looksLikeMarker_iff_exists]
    refine exists_congr fun name => and_congr_right fun _ => ?_
    constructor
    · rintro ⟨hname, hword⟩
      exact ⟨fun hempty => hname.ne_nil (String.toList_eq_nil_iff.mpr hempty),
        hname.open_notMem, hname.close_notMem, hword⟩
    · rintro ⟨hne, hopen, hclose, hword⟩
      exact ⟨⟨fun hnil => hne (String.toList_eq_nil_iff.mp hnil), hopen, hclose⟩, hword⟩
  · rw [← hpattern]
    constructor
    · rintro ⟨hshape, hplaceholder⟩
      exact (hasPlaceholders_iff_of_isBracketed hshape).mp hplaceholder
    · intro hmem
      have hshape : ∀ text ∈ Placeholder.texts, isBracketed text.toList = true := by decide
      exact ⟨hshape line hmem, (hasPlaceholders_iff_of_isBracketed (hshape line hmem)).mpr hmem⟩
  · intro s
    rw [← hpattern]
    cases s <;> decide

end Section
end AdTemplates
