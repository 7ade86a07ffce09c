import AdTemplates.Proofs.Template.Reading

/-! Substitution as one pass over a template. From the left, each placeholder is replaced by
the keyword and passed over, and every other character is copied. What has been inserted is
never looked at again. -/
namespace AdTemplates.Template

/-- The placeholders, by what they insert. -/
def Placeholder.all : List Placeholder :=
  [⟨.asIs, false⟩, ⟨.asIs, true⟩, ⟨.capitalized, false⟩, ⟨.capitalized, true⟩]

/-- The placeholder that a text begins with. -/
def Placeholder.leading? (cs : List Char) : Option Placeholder :=
  all.find? (·.spelling.isPrefixOf cs)

/-- What stands in the place of a placeholder: the keyword, or the keyword with its first
character in upper case, which may be several characters, and the rest as it is. -/
def insertion (keyword : List Char) : Casing → List Char
  | .asIs => keyword
  | .capitalized => (keyword.take 1).flatMap Text.upper ++ keyword.drop 1

/-- One pass over a template from the left. -/
def replace (keyword : List Char) : List Char → List Char
  | [] => []
  | c :: rest =>
    match Placeholder.leading? (c :: rest) with
    | some p =>
      insertion keyword p.casing ++ replace keyword ((c :: rest).drop p.spelling.length)
    | none => c :: replace keyword rest
termination_by cs => cs.length
decreasing_by
  · have hpos := List.length_pos_iff.mpr p.spelling_ne_nil
    rw [List.length_drop, List.length_cons]
    omega
  · exact Nat.lt_succ_self _

variable {c : Char} {cs rest : List Char} {p : Placeholder}

theorem Placeholder.mem_all (p : Placeholder) : p ∈ all := by
  obtain ⟨casing, spelledOut⟩ := p
  cases casing <;> cases spelledOut <;> decide

theorem Placeholder.leading?_eq_none_iff :
    leading? cs = none ↔ ∀ p : Placeholder, ¬ p.spelling <+: cs := by
  simp only [leading?, List.find?_eq_none, List.isPrefixOf_iff_prefix]
  exact ⟨fun h p => h p p.mem_all, fun h p _ => h p⟩

/-- A text begins with one placeholder at most, so their order does not matter. -/
theorem Placeholder.leading?_spelling (p : Placeholder) (rest : List Char) :
    leading? (p.spelling ++ rest) = some p := by
  have hp : p.spelling <+: p.spelling ++ rest := List.prefix_append _ _
  cases hleading : leading? (p.spelling ++ rest) with
  | none => exact absurd hp (leading?_eq_none_iff.mp hleading p)
  | some q =>
    rw [leading?] at hleading
    have hq := List.find?_some hleading
    rw [unique (List.isPrefixOf_iff_prefix.mp hq) hp]

theorem replace_spelling (keyword : List Char) (p : Placeholder) (rest : List Char) :
    replace keyword (p.spelling ++ rest) = insertion keyword p.casing ++ replace keyword rest := by
  have hleading := Placeholder.leading?_spelling p rest
  have hdrop : (p.spelling ++ rest).drop p.spelling.length = rest := List.drop_left
  obtain ⟨inner, hp, _⟩ := p.exists_spelling
  rw [hp, List.cons_append] at hleading hdrop ⊢
  rw [replace, hleading]
  simp only [hp, hdrop]

theorem replace_character (keyword : List Char)
    (h : ∀ p : Placeholder, ¬ p.spelling <+: c :: rest) :
    replace keyword (c :: rest) = c :: replace keyword rest := by
  rw [replace, Placeholder.leading?_eq_none_iff.mpr h]

theorem apply_eq_insertion (casing : Casing) (keyword : String) :
    casing.apply keyword = String.ofList (insertion keyword.toList casing) := by
  cases casing with
  | asIs => exact String.ofList_toList.symm
  | capitalized =>
    rw [Casing.apply, Text.capitalizeFirst, insertion]
    cases keyword.toList with
    | nil => rfl
    | cons c rest => simp

/-! ### Rendering -/

theorem render_consSegment (keyword : String) (s : Segment) (segments : List Segment) :
    render ⟨consSegment s segments⟩ keyword = s.render keyword ++ render ⟨segments⟩ keyword := by
  cases s with
  | keyword casing => rfl
  | literal text =>
    cases segments with
    | nil => rfl
    | cons next more =>
      cases next with
      | keyword casing => rfl
      | literal other => exact String.append_assoc

theorem render_append (keyword : String) (segments more : List Segment) :
    render ⟨segments ++ more⟩ keyword = render ⟨segments⟩ keyword ++ render ⟨more⟩ keyword := by
  induction segments with
  | nil => exact String.empty_append.symm
  | cons s segments ih =>
    calc render ⟨s :: segments ++ more⟩ keyword
        = s.render keyword ++ render ⟨segments ++ more⟩ keyword := rfl
      _ = s.render keyword ++ render ⟨segments⟩ keyword ++ render ⟨more⟩ keyword := by
          rw [ih, String.append_assoc]

theorem render_readChars (keyword : String) (cs : List Char) :
    render ⟨readChars cs⟩ keyword = String.ofList (replace keyword.toList cs) := by
  induction cs using readInduction with
  | nil =>
    rw [replace]
    rfl
  | placeholder p rest ih =>
    calc render ⟨readChars (p.spelling ++ rest)⟩ keyword
        = p.casing.apply keyword ++ render ⟨readChars rest⟩ keyword := by
          rw [readChars_spelling]
          rfl
      _ = String.ofList (replace keyword.toList (p.spelling ++ rest)) := by
          rw [ih, apply_eq_insertion, ← String.ofList_append, replace_spelling]
  | character c rest hnone ih =>
    rw [readChars_character hnone, render_consSegment, ih, replace_character _ hnone,
      Segment.render, ← String.ofList_append, List.singleton_append]

/-- A template with a keyword in its placeholders is what one pass over it makes of it. Around
a placeholder the keyword stands between what becomes of the text before it and of the text
after it, so it is not read again, whatever it holds or completes there. -/
theorem substitute_eq_replace (keyword : String) :
    (∀ template, substitute template keyword =
      String.ofList (replace keyword.toList template.toList)) ∧
    ∀ (before : String) (p : Placeholder) (after : String),
      substitute (before ++ String.ofList p.spelling ++ after) keyword =
        substitute before keyword ++ String.ofList (insertion keyword.toList p.casing) ++
          substitute after keyword := by
  refine ⟨fun template => render_readChars keyword template.toList, ?_⟩
  intro before p after
  have hchars : (before ++ String.ofList p.spelling ++ after).toList =
      before.toList ++ (p.spelling ++ after.toList) := by
    rw [String.toList_append, String.toList_append, String.toList_ofList, List.append_assoc]
  calc substitute (before ++ String.ofList p.spelling ++ after) keyword
      = render ⟨readChars (before.toList ++ (p.spelling ++ after.toList))⟩ keyword := by
        rw [← hchars]
        rfl
    _ = substitute before keyword ++
          (p.casing.apply keyword ++ substitute after keyword) := by
        rw [readChars_append_spelling, render_append]
        rfl
    _ = _ := by rw [apply_eq_insertion, String.append_assoc]

/-- A keyword that completes a placeholder with the brackets around it. -/
example : substitute "[[k]] [k[K]" "k" = "[k] [kK" := by
  decide

end AdTemplates.Template
