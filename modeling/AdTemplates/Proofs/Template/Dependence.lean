import AdTemplates.Proofs.Template.Printing
import AdTemplates.Proofs.Template.Substitution

/-! How a template depends on the keyword. It has a placeholder just where one of the four is
written in its text. Without one every keyword gives the text itself; with one, a keyword that
is inserted as it is makes the text longer than the empty keyword does. -/
namespace AdTemplates.Template

variable {cs : List Char} {keyword : String}

/-- The placeholders as they are written. -/
def Placeholder.texts : List String := ["[k]", "[key]", "[K]", "[Key]"]

theorem Placeholder.exists_spelling_iff (holds : List Char → Prop) :
    (∃ p : Placeholder, holds p.spelling) ↔ ∃ text ∈ texts, holds text.toList := by
  constructor
  · rintro ⟨⟨casing, spelledOut⟩, hp⟩
    cases casing <;> cases spelledOut
    · exact ⟨"[k]", by decide, hp⟩
    · exact ⟨"[key]", by decide, hp⟩
    · exact ⟨"[K]", by decide, hp⟩
    · exact ⟨"[Key]", by decide, hp⟩
  · simp only [texts, List.mem_cons, List.not_mem_nil, or_false]
    rintro ⟨text, rfl | rfl | rfl | rfl, htext⟩
    · exact ⟨⟨.asIs, false⟩, htext⟩
    · exact ⟨⟨.asIs, true⟩, htext⟩
    · exact ⟨⟨.capitalized, false⟩, htext⟩
    · exact ⟨⟨.capitalized, true⟩, htext⟩

/-! ### Placeholders in the text -/

theorem hasPlaceholders_consSegment (text : String) (segments : List Segment) :
    hasPlaceholders ⟨consSegment (.literal text) segments⟩ = hasPlaceholders ⟨segments⟩ := by
  cases segments with
  | nil => rfl
  | cons next more => cases next <;> rfl

/-- Reading from the left never steps over the beginning of a placeholder. -/
theorem hasPlaceholders_readChars (cs : List Char) :
    hasPlaceholders ⟨readChars cs⟩ = true ↔ ∃ p : Placeholder, p.spelling <:+: cs := by
  induction cs using readInduction with
  | nil =>
    refine iff_of_false (by decide) ?_
    rintro ⟨p, hp⟩
    exact p.spelling_ne_nil (List.infix_nil.mp hp)
  | placeholder p rest _ =>
    rw [readChars_spelling]
    exact iff_of_true rfl ⟨p, (List.prefix_append _ _).isInfix⟩
  | character c rest hnone ih =>
    rw [readChars_character hnone, hasPlaceholders_consSegment, ih]
    constructor
    · rintro ⟨p, hp⟩
      exact ⟨p, List.infix_cons hp⟩
    · rintro ⟨p, hp⟩
      exact ⟨p, (List.infix_cons_iff.mp hp).resolve_left (hnone p)⟩

theorem hasPlaceholders_parse (source : String) :
    (parse source).hasPlaceholders = true ↔ ∃ p : Placeholder, p.spelling <:+: source.toList :=
  hasPlaceholders_readChars source.toList

/-! ### The keyword in the rendered text -/

theorem render_parse_of_plain {source : String} (h : (parse source).hasPlaceholders = false)
    (keyword : String) : (parse source).render keyword = source := by
  have hplain (p : Placeholder) : ¬ p.spelling <:+: source.toList := fun hp =>
    Bool.false_ne_true (h.symm.trans ((hasPlaceholders_parse source).mpr ⟨p, hp⟩))
  by_cases hempty : source = ""
  · rw [hempty]
    rfl
  · have hne : source.toList ≠ [] := fun hnil => hempty (String.toList_eq_nil_iff.mp hnil)
    have hparse : parse source = ⟨[.literal source]⟩ := by
      rw [show parse source = ⟨readChars source.toList⟩ from rfl, readChars_of_plain hne hplain,
        String.ofList_toList]
    rw [hparse]
    exact String.append_empty

/-- How often a template inserts the keyword. -/
def insertions (segments : List Segment) : Nat := segments.countP (!·.isLiteral)

theorem insertions_pos_iff (segments : List Segment) :
    0 < insertions segments ↔ hasPlaceholders ⟨segments⟩ = true := by
  rw [insertions, List.countP_pos_iff, hasPlaceholders, List.any_eq_true]
  refine exists_congr fun s => and_congr_right fun _ => ?_
  cases s <;> exact Iff.rfl

/-- A keyword that capitalizing leaves alone is inserted as it is by every placeholder, so each
of them makes the text longer by the length of the keyword. -/
theorem length_render (h : Text.capitalizeFirst keyword = keyword) (segments : List Segment) :
    (render ⟨segments⟩ keyword).length =
      (render ⟨segments⟩ "").length + insertions segments * keyword.length := by
  have happly (casing : Casing) : casing.apply keyword = keyword := by
    cases casing with
    | asIs => rfl
    | capitalized => exact h
  have hempty (casing : Casing) : casing.apply "" = "" := by cases casing <;> rfl
  induction segments with
  | nil => simp [render, insertions]
  | cons s more ih =>
    have hrender (w : String) : render ⟨s :: more⟩ w = s.render w ++ render ⟨more⟩ w := rfl
    rw [hrender, hrender, String.length_append, String.length_append, ih]
    cases s with
    | literal text =>
      have hcount : insertions (.literal text :: more) = insertions more :=
        List.countP_cons_of_neg (by exact Bool.false_ne_true)
      rw [hcount, Segment.render, Segment.render, Nat.add_assoc]
    | keyword casing =>
      have hcount : insertions (.keyword casing :: more) = insertions more + 1 :=
        List.countP_cons_of_pos rfl
      rw [hcount, Segment.render, Segment.render, happly, hempty, Nat.succ_mul]
      simp only [String.length_empty]
      omega

theorem render_ne_render {t : Template} (h : t.hasPlaceholders = true) :
    t.render "" ≠ t.render "1" := by
  obtain ⟨segments⟩ := t
  intro heq
  have huncased : Text.capitalizeFirst "1" = "1" := by decide
  have hlength := length_render huncased segments
  have hpos := (insertions_pos_iff segments).mpr h
  rw [← heq, show "1".length = 1 from rfl] at hlength
  omega

/-- A template has placeholders iff one of the four is written somewhere in its text, and iff
two keywords are rendered differently; it has none iff every keyword gives its text. -/
theorem hasPlaceholders_iff (source : String) :
    ((parse source).hasPlaceholders = true ↔
      ∃ text ∈ ["[k]", "[key]", "[K]", "[Key]"], text.toList <:+: source.toList) ∧
    ((parse source).hasPlaceholders = true ↔
      ∃ first second, (parse source).render first ≠ (parse source).render second) ∧
    ((parse source).hasPlaceholders = false ↔
      ∀ keyword, (parse source).render keyword = source) := by
  have hconstant : (parse source).hasPlaceholders = false ↔
      ∀ keyword, (parse source).render keyword = source := by
    refine ⟨render_parse_of_plain, fun hsame => ?_⟩
    rw [← Bool.not_eq_true]
    exact fun h => render_ne_render h ((hsame "").trans (hsame "1").symm)
  refine ⟨?_, ?_, hconstant⟩
  · rw [hasPlaceholders_parse]
    exact Placeholder.exists_spelling_iff (· <:+: source.toList)
  · constructor
    · intro h
      exact ⟨"", "1", render_ne_render h⟩
    · rintro ⟨first, second, hne⟩
      rw [← Bool.not_eq_false]
      intro hplain
      exact hne ((hconstant.mp hplain first).trans (hconstant.mp hplain second).symm)

end AdTemplates.Template
