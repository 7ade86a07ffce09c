import AdTemplates.Proofs.Text.Capital
import AdTemplates.Template.Basic

/-! Placeholders and the case of the keyword. A capitalized keyword stays as it is when it is
capitalized again, so every placeholder inserts it as the capitalizing ones insert the keyword. -/
namespace AdTemplates.Template

variable {keyword : String}

/-- A segment with its placeholder, if it is one, taken for another. -/
def Segment.recased (f : Casing → Casing) : Segment → Segment
  | .literal text => .literal text
  | .keyword casing => .keyword (f casing)

/-- A template with each placeholder taken for another. -/
def recased (f : Casing → Casing) (t : Template) : Template := ⟨t.segments.map (·.recased f)⟩

theorem render_recased {f : Casing → Casing} {other : String}
    (h : ∀ casing, (f casing).apply keyword = casing.apply other) (t : Template) :
    (t.recased f).render keyword = t.render other := by
  obtain ⟨segments⟩ := t
  induction segments with
  | nil => rfl
  | cons s more ih =>
    have hsegment : (s.recased f).render keyword = s.render other := by
      cases s with
      | literal text => rfl
      | keyword casing => exact h casing
    calc (recased f ⟨s :: more⟩).render keyword
        = (s.recased f).render keyword ++ (recased f ⟨more⟩).render keyword := rfl
      _ = s.render other ++ render ⟨more⟩ other := by rw [hsegment, ih]

theorem apply_capitalizeFirst (casing : Casing) (keyword : String) :
    casing.apply (Text.capitalizeFirst keyword) = Text.capitalizeFirst keyword := by
  cases casing with
  | asIs => rfl
  | capitalized => exact Text.capitalizeFirst_capitalizeFirst keyword

/-- Capitalizing turns the first character of a keyword into its full upper case, keeps the
rest, and changes nothing when it is done again. With a capitalized keyword every placeholder
is as good as a capitalizing one, and the two kinds of placeholders can be taken for each other
just for the keywords that capitalizing leaves alone. -/
theorem substitute_capitalizeFirst (keyword : String) :
    (Text.capitalizeFirst keyword).toList =
      (keyword.toList.take 1).flatMap Text.upper ++ keyword.toList.drop 1 ∧
    Text.capitalizeFirst (Text.capitalizeFirst keyword) = Text.capitalizeFirst keyword ∧
    (∀ template, substitute template (Text.capitalizeFirst keyword) =
      ((parse template).recased fun _ => .capitalized).render keyword) ∧
    ((∀ template f, ((parse template).recased f).render keyword = substitute template keyword) ↔
      Text.capitalizeFirst keyword = keyword) := by
  refine ⟨Text.toList_capitalizeFirst keyword, Text.capitalizeFirst_capitalizeFirst keyword,
    fun template => ?_, ?_, ?_⟩
  · have hcapital (casing : Casing) :
        Casing.capitalized.apply keyword = casing.apply (Text.capitalizeFirst keyword) :=
      (apply_capitalizeFirst casing keyword).symm
    exact (render_recased hcapital _).symm
  · intro hsame
    have hplaceholder := hsame "[k]" fun _ => .capitalized
    have hrender (casing : Casing) : render ⟨[.keyword casing]⟩ keyword = casing.apply keyword :=
      String.append_empty
    have hparse : parse "[k]" = ⟨[.keyword .asIs]⟩ := by decide
    rw [substitute, hparse] at hplaceholder
    exact (hrender .capitalized).symm.trans (hplaceholder.trans (hrender .asIs))
  · intro hfixed template f
    have hplain (casing : Casing) : casing.apply keyword = keyword := by
      have hcapital := apply_capitalizeFirst casing keyword
      rwa [hfixed] at hcapital
    exact render_recased (fun casing => (hplain (f casing)).trans (hplain casing).symm) _

/-- A ligature of three letters. -/
example : Text.capitalizeFirst "ﬃ1" = "FFI1" := by decide

end AdTemplates.Template
