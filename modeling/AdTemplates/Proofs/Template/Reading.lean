import AdTemplates.Template.Basic
import Mathlib.Data.List.Infix

/-! How a template is read from its beginning. A placeholder that stands there is a segment
of its own; any other character is put in front of the segments of the rest. No placeholder
reaches over the beginning of another one, so each of them parts what stands before it from
what stands after it. -/
namespace AdTemplates.Template

variable {c : Char} {cs rest before after : List Char} {p q : Placeholder}

/-- A placeholder has a bracket at its beginning and nowhere else. -/
theorem Placeholder.exists_spelling (p : Placeholder) :
    ∃ inner, p.spelling = '[' :: inner ∧ '[' ∉ inner := by
  obtain ⟨casing, spelledOut⟩ := p
  cases casing <;> cases spelledOut <;> exact ⟨_, rfl, by decide⟩

theorem Placeholder.spelling_ne_nil (p : Placeholder) : p.spelling ≠ [] := by
  obtain ⟨inner, hp, _⟩ := p.exists_spelling
  rw [hp]
  exact List.cons_ne_nil _ _

/-- No placeholder is the beginning of another one. -/
theorem Placeholder.unique (hp : p.spelling <+: cs) (hq : q.spelling <+: cs) : p = q := by
  have hspelling : ∀ p q : Placeholder, p.spelling <+: q.spelling → p = q := by
    rintro ⟨_ | _, _ | _⟩ ⟨_ | _, _ | _⟩ <;> decide
  rcases List.prefix_or_prefix_of_prefix hp hq with h | h
  · exact hspelling p q h
  · exact (hspelling q p h).symm

/-- A placeholder that does not stand at the beginning of a text does not stand there with a
further placeholder behind the text either. -/
theorem Placeholder.not_prefix_append (hne : cs ≠ []) (h : ¬ q.spelling <+: cs) :
    ¬ q.spelling <+: cs ++ (p.spelling ++ after) := by
  rintro ⟨more, hmore⟩
  rcases List.append_eq_append_iff.mp hmore with ⟨between, hcs, _⟩ | ⟨inner, hq, hp⟩
  · exact h ⟨between, hcs.symm⟩
  · obtain ⟨tail, hspelling, htail⟩ := q.exists_spelling
    obtain ⟨other, hother, _⟩ := p.exists_spelling
    obtain ⟨first, others, rfl⟩ := List.exists_cons_of_ne_nil hne
    -- What reaches into the further placeholder would be a second bracket of the first.
    cases inner with
    | nil =>
      rw [List.append_nil] at hq
      exact h (hq ▸ List.prefix_refl _)
    | cons d inner =>
      rw [hother, List.cons_append, List.cons_append, List.cons.injEq] at hp
      rw [hspelling, List.cons_append, List.cons.injEq] at hq
      rw [hq.2, ← hp.1] at htail
      exact htail (List.mem_append_right others List.mem_cons_self)

/-- A text is read from its beginning: there is nothing left, or a placeholder stands there,
or any other character. -/
theorem readInduction {motive : List Char → Prop} (nil : motive [])
    (placeholder : ∀ (p : Placeholder) rest, motive rest → motive (p.spelling ++ rest))
    (character : ∀ c rest, (∀ p : Placeholder, ¬ p.spelling <+: c :: rest) → motive rest →
      motive (c :: rest))
    (cs : List Char) : motive cs := by
  cases cs with
  | nil => exact nil
  | cons c rest =>
    by_cases hp : ∃ p : Placeholder, p.spelling <+: c :: rest
    · obtain ⟨p, after, hafter⟩ := hp
      rw [← hafter]
      exact placeholder p after (readInduction nil placeholder character after)
    · exact character c rest (not_exists.mp hp) (readInduction nil placeholder character rest)
termination_by cs.length
decreasing_by
  · have hlength := congrArg List.length hafter
    have hpos := List.length_pos_iff.mpr p.spelling_ne_nil
    rw [List.length_append, List.length_cons] at hlength
    rw [List.length_cons]
    omega
  · exact Nat.lt_succ_self _

/-! ### Tokens -/

theorem scan_spelling (p : Placeholder) (rest : List Char) :
    Token.scan (p.spelling ++ rest) = .placeholder p :: Token.scan rest := by
  obtain ⟨casing, spelledOut⟩ := p
  cases casing <;> cases spelledOut <;> rfl

theorem scan_character (h : ∀ p : Placeholder, ¬ p.spelling <+: c :: rest) :
    Token.scan (c :: rest) =
      if c = '[' then .openBracket :: Token.scan rest else Token.consText c (Token.scan rest) := by
  rw [Token.scan.eq_def]
  split
  · rename_i heq
    cases heq
  · rename_i heq
    exact absurd ⟨_, heq.symm⟩ (h ⟨.asIs, false⟩)
  · rename_i heq
    exact absurd ⟨_, heq.symm⟩ (h ⟨.asIs, true⟩)
  · rename_i heq
    exact absurd ⟨_, heq.symm⟩ (h ⟨.capitalized, false⟩)
  · rename_i heq
    exact absurd ⟨_, heq.symm⟩ (h ⟨.capitalized, true⟩)
  · rename_i heq
    cases heq
    rfl
  · rename_i hbracket heq
    cases heq
    rw [if_neg hbracket]

/-! ### Segments -/

/-- The segments that a text is read as. -/
def readChars (cs : List Char) : List Segment := segmentsOf (Token.scan cs)

theorem consSegment_consSegment (a b : String) (segments : List Segment) :
    consSegment (.literal a) (consSegment (.literal b) segments) =
      consSegment (.literal (a ++ b)) segments := by
  cases segments with
  | nil => rfl
  | cons s more =>
    cases s with
    | literal text => simp only [consSegment, String.append_assoc]
    | keyword casing => rfl

/-- A keyword keeps what stands behind it from growing into what stands before it. -/
theorem consSegment_append (s : Segment) (segments : List Segment) (casing : Casing)
    (more : List Segment) :
    consSegment s (segments ++ .keyword casing :: more) =
      consSegment s segments ++ .keyword casing :: more := by
  cases s with
  | keyword other => rfl
  | literal text =>
    cases segments with
    | nil => rfl
    | cons next others => cases next <;> rfl

theorem segmentsOf_consText (c : Char) (tokens : List Token) :
    segmentsOf (Token.consText c tokens) =
      consSegment (.literal (String.ofList [c])) (segmentsOf tokens) := by
  cases tokens with
  | nil => rfl
  | cons t more =>
    cases t with
    | placeholder p => rfl
    | openBracket => rfl
    | text run =>
      have hrun : String.ofList (c :: run) = String.ofList [c] ++ String.ofList run := by
        rw [← String.ofList_append, List.singleton_append]
      calc segmentsOf (.text (c :: run) :: more)
          = consSegment (.literal (String.ofList [c] ++ String.ofList run)) (segmentsOf more) := by
            rw [← hrun]
            rfl
        _ = consSegment (.literal (String.ofList [c])) (segmentsOf (.text run :: more)) :=
            (consSegment_consSegment _ _ _).symm

theorem readChars_spelling (p : Placeholder) (rest : List Char) :
    readChars (p.spelling ++ rest) = .keyword p.casing :: readChars rest := by
  rw [readChars, scan_spelling]
  rfl

theorem readChars_character (h : ∀ p : Placeholder, ¬ p.spelling <+: c :: rest) :
    readChars (c :: rest) = consSegment (.literal (String.ofList [c])) (readChars rest) := by
  rw [readChars, scan_character h]
  by_cases hc : c = '['
  · rw [if_pos hc, hc]
    rfl
  · rw [if_neg hc, segmentsOf_consText]
    rfl

/-- A placeholder parts the segments before it from those after it, whatever brackets stand
around it. -/
theorem readChars_append_spelling (before : List Char) (p : Placeholder) (after : List Char) :
    readChars (before ++ (p.spelling ++ after)) =
      readChars before ++ .keyword p.casing :: readChars after := by
  induction before using readInduction with
  | nil => exact readChars_spelling p after
  | placeholder q rest ih =>
    rw [List.append_assoc, readChars_spelling, ih, readChars_spelling, List.cons_append]
  | character c rest hnone ih =>
    have hnone' : ∀ q : Placeholder, ¬ q.spelling <+: c :: (rest ++ (p.spelling ++ after)) :=
      fun q => Placeholder.not_prefix_append (List.cons_ne_nil c rest) (hnone q)
    rw [List.cons_append, readChars_character hnone', ih, readChars_character hnone,
      consSegment_append]

end AdTemplates.Template
