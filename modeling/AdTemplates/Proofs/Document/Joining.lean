import AdTemplates.Proofs.Document.Strictness

/-! Texts that are joined by a newline. The marker that the second text begins with closes
whatever section the first one has left open, so each text adds its own content; a line of the
second text that is refused is only counted further. -/
namespace AdTemplates.Document

open Text (trim)

/-- One document behind the other, section by section. -/
def append (d d' : Document) : Document :=
  ⟨d.keywords ++ d'.keywords, d.titles ++ d'.titles, d.texts ++ d'.texts⟩

instance : Append Document := ⟨append⟩

/-- Nothing but blank lines stands in front of the first marker of a text. -/
def BeginsWithMarker (source : String) : Prop :=
  ∀ line ∈ (Text.lines source).find? (trim · ≠ ""), ∃ s : Section, trim line = s.marker

variable {lines before more : List String} {e : MalformedSection} {d d' : Document}
variable {strict : Bool} {first second source : String}

/-! ### The lines that count -/

theorem content_append (d d' : Document) (s : Section) :
    (d ++ d').content s = d.content s ++ d'.content s := by
  cases s <;> rfl

theorem contentLines_append (first second : String) :
    contentLines (first ++ "\n" ++ second) = contentLines first ++ contentLines second := by
  obtain ⟨blank, hblank, hlines⟩ := Text.exists_map_trim_lines first
  have hnone : (blank.map trim).filter (· ≠ "") = [] := by
    rw [List.filter_eq_nil_iff]
    intro line hline
    obtain ⟨raw, hraw, rfl⟩ := List.mem_map.mp hline
    rw [hblank raw hraw]
    decide
  rw [contentLines, contentLines, contentLines, Text.lines_append, List.map_append, hlines,
    List.map_append, List.filter_append, List.filter_append, hnone, List.append_nil]

/-- A text of which some line counts, if it begins with a marker, has that as its first. -/
theorem BeginsWithMarker.contentLines (h : BeginsWithMarker source) :
    contentLines source = [] ∨
      ∃ (s : Section) (more : List String), contentLines source = s.marker :: more := by
  have hhead : (Document.contentLines source).head? =
      ((Text.lines source).find? (trim · ≠ "")).map trim := by
    rw [Document.contentLines, List.head?_filter, List.find?_map]
    rfl
  cases hlines : Document.contentLines source with
  | nil => exact .inl rfl
  | cons line more =>
    rw [hlines, List.head?_cons] at hhead
    obtain ⟨raw, hraw, htrim⟩ := Option.map_eq_some_iff.mp hhead.symm
    obtain ⟨s, hs⟩ := h raw hraw
    exact .inr ⟨s, more, by rw [← htrim, hs]⟩

/-- What has been read before stays in front of what a line adds. -/
theorem absorb_append (active : Option Section) (d d' : Document) (line : String) :
    absorb (active, d ++ d') line =
      ((absorb (active, d') line).1, d ++ (absorb (active, d') line).2) := by
  have hpush (s : Section) : (d ++ d').push s line = d ++ d'.push s line := by
    apply ext_content
    intro other
    rw [content_push, content_append, content_append, content_push, List.append_assoc]
  unfold absorb
  cases Section.ofMarker? line with
  | some opened => rfl
  | none =>
    cases active with
    | none => rfl
    | some s => exact congrArg (Prod.mk (some s)) (hpush s)

theorem foldl_absorb_append (active : Option Section) (d d' : Document) (lines : List String) :
    lines.foldl absorb (active, d ++ d') =
      ((lines.foldl absorb (active, d')).1, d ++ (lines.foldl absorb (active, d')).2) := by
  induction lines generalizing active d' with
  | nil => rfl
  | cons line more ih => rw [List.foldl_cons, List.foldl_cons, absorb_append, ih]

theorem append_empty (d : Document) : d ++ empty = d := by
  apply ext_content
  intro s
  rw [content_append]
  cases s <;> exact List.append_nil _

/-- Behind a marker it does not matter which section was open before it. -/
theorem foldl_absorb_of_beginsWithMarker (h : BeginsWithMarker source) (active : Option Section)
    (d : Document) :
    ((contentLines source).foldl absorb (active, d)).2 =
      d ++ ((contentLines source).foldl absorb (none, empty)).2 := by
  rcases h.contentLines with hnone | ⟨s, more, hmore⟩
  · rw [hnone]
    exact (append_empty d).symm
  · rw [hmore, List.foldl_cons, List.foldl_cons, absorb_marker, absorb_marker]
    calc (more.foldl absorb (some s, d)).2
        = (more.foldl absorb (some s, d ++ empty)).2 := by rw [append_empty]
      _ = d ++ (more.foldl absorb (some s, empty)).2 := by rw [foldl_absorb_append]

theorem parse_append_of_ok (h : BeginsWithMarker second) (hd : parse strict first = .ok d)
    (hd' : parse strict second = .ok d') :
    parse strict (first ++ "\n" ++ second) = .ok (d ++ d') := by
  rw [parse_eq_ok_iff] at hd hd' ⊢
  obtain ⟨hfirst, rfl⟩ := hd
  obtain ⟨hsecond, rfl⟩ := hd'
  rw [contentLines_append, List.foldl_append]
  refine ⟨fun hs line hline => ?_, (foldl_absorb_of_beginsWithMarker h _ _).symm⟩
  rcases List.mem_append.mp hline with hline | hline
  · exact hfirst hs line hline
  · exact hsecond hs line hline

/-! ### The first line that is refused -/

theorem firstMalformedLine_map_trim :
    FirstMalformedLine (lines.map trim) e ↔ FirstMalformedLine lines e := by
  have hline (i : Nat) : (lines.map trim).getD i "" = trim (lines.getD i "") :=
    List.getD_map lines "" trim
  simp only [FirstMalformedLine, trimmedAt, List.length_map, hline, isMalformed_trim,
    Text.trim_trim]

theorem FirstMalformedLine.append (h : FirstMalformedLine lines e) (more : List String) :
    FirstMalformedLine (lines ++ more) e := by
  obtain ⟨i, hi, hmalformed, rfl, hearlier⟩ := h
  have hgetD (j : Nat) (hj : j < lines.length) : (lines ++ more).getD j "" = lines.getD j "" :=
    List.getD_append _ _ _ _ hj
  refine ⟨i, ?_, (hgetD i hi).symm ▸ hmalformed, ?_, fun j hj => ?_⟩
  · rw [List.length_append]
    exact Nat.lt_add_right _ hi
  · rw [trimmedAt_append hi]
  · rw [hgetD j (Nat.lt_trans hj hi)]
    exact hearlier j hj

/-- Lines in front that are not refused are counted. -/
theorem FirstMalformedLine.append_left (h : FirstMalformedLine lines e)
    (hbefore : ∀ raw ∈ before, ¬ IsMalformed raw) :
    FirstMalformedLine (before ++ lines) ⟨e.line + before.length, e.marker⟩ := by
  obtain ⟨i, hi, hmalformed, rfl, hearlier⟩ := h
  have hgetD (j : Nat) : (before ++ lines).getD (before.length + j) "" = lines.getD j "" := by
    rw [List.getD_append_right _ _ _ _ (Nat.le_add_right _ _), Nat.add_sub_cancel_left]
  refine ⟨before.length + i, ?_, (hgetD i).symm ▸ hmalformed, ?_, fun j hj => ?_⟩
  · rw [List.length_append]
    exact Nat.add_lt_add_left hi _
  · have hnumber : i + 1 + before.length = before.length + i + 1 := by omega
    rw [trimmedAt, trimmedAt, hgetD, ← hnumber]
  · rcases Nat.lt_or_ge j before.length with hj' | hj'
    · rw [List.getD_append _ _ _ _ hj', List.getD_eq_getElem _ _ hj']
      exact hbefore _ (List.getElem_mem hj')
    · obtain ⟨k, rfl⟩ := Nat.exists_eq_add_of_le hj'
      rw [hgetD]
      exact hearlier k (Nat.lt_of_add_lt_add_left hj)

theorem parse_append_of_error (he : parse strict first = .error e) (second : String) :
    parse strict (first ++ "\n" ++ second) = .error e := by
  cases strict with
  | false =>
    obtain ⟨d, hd, -⟩ := parse_lenient first
    rw [hd] at he
    cases he
  | true =>
    obtain ⟨blank, -, hlines⟩ := Text.exists_map_trim_lines first
    have hfirst := (parse_eq_error_iff.mp he).append blank
    rw [← firstMalformedLine_map_trim, ← hlines, firstMalformedLine_map_trim] at hfirst
    rw [parse_eq_error_iff, Text.lines_append]
    exact hfirst.append _

theorem parse_append_of_error_right (hd : parse strict first = .ok d)
    (he : parse strict second = .error e) :
    parse strict (first ++ "\n" ++ second) =
      .error ⟨e.line + (first.toList.count '\n' + 1), e.marker⟩ := by
  cases strict with
  | false =>
    obtain ⟨d', hd', -⟩ := parse_lenient second
    rw [hd'] at he
    cases he
  | true =>
    obtain ⟨blank, hblank, hlines⟩ := Text.exists_map_trim_lines first
    have hfirst : ∀ raw ∈ Text.lines (first ++ "\n"), ¬ IsMalformed raw := by
      intro raw hraw hmalformed
      have hmem : trim raw ∈ (Text.lines first ++ blank).map trim :=
        hlines ▸ List.mem_map_of_mem hraw
      obtain ⟨other, hother, htrim⟩ := List.mem_map.mp hmem
      have hmalformed : IsMalformed other := by
        rw [← isMalformed_trim, htrim, isMalformed_trim]
        exact hmalformed
      rcases List.mem_append.mp hother with hother | hother
      · obtain ⟨e', he'⟩ := exists_parse_eq_error_iff.mpr ⟨other, hother, hmalformed⟩
        rw [hd] at he'
        cases he'
      · rw [hblank other hother] at hmalformed
        exact hmalformed.ne_empty (by decide)
    rw [parse_eq_error_iff, Text.lines_append, ← Text.length_lines_append_newline]
    exact (parse_eq_error_iff.mp he).append_left hfirst

/-- Reading two texts joined by a newline, of which the second begins with a marker or is
blank, is reading one after the other. The sections of the first are continued by those of the
second. A text that is refused is refused for the same line as before, and a line of the second
text is counted from the beginning of the first. -/
theorem parse_append (strict : Bool) (first second : String) (h : BeginsWithMarker second) :
    parse strict (first ++ "\n" ++ second) =
      match parse strict first, parse strict second with
      | .ok d, .ok d' =>
        .ok ⟨d.keywords ++ d'.keywords, d.titles ++ d'.titles, d.texts ++ d'.texts⟩
      | .ok _, .error e => .error ⟨e.line + (first.toList.count '\n' + 1), e.marker⟩
      | .error e, _ => .error e := by
  cases hfirst : parse strict first with
  | error e => exact parse_append_of_error hfirst second
  | ok d =>
    cases hsecond : parse strict second with
    | error e => exact parse_append_of_error_right hfirst hsecond
    | ok d' => exact parse_append_of_ok h hfirst hsecond

/-- The first text leaves a section open and ends in a carriage return; the second begins with
a blank line. -/
theorem parse_append_open :
    BeginsWithMarker " \n[Ключи]\nк\n[x]" ∧
      parse false ("[Тексты]\na\r" ++ "\n" ++ " \n[Ключи]\nк\n[x]") =
        .ok ⟨["к", "[x]"], [], ["a"]⟩ ∧
      parse true ("[Тексты]\na\r" ++ "\n" ++ " \n[Ключи]\nк\n[x]") = .error ⟨6, "[x]"⟩ := by
  have h : BeginsWithMarker " \n[Ключи]\nк\n[x]" := by
    intro line hline
    have hfind : (Text.lines " \n[Ключи]\nк\n[x]").find? (trim · ≠ "") = some "[Ключи]" := by
      decide
    rw [hfind, Option.mem_some_iff] at hline
    exact ⟨.keywords, hline ▸ by decide⟩
  refine ⟨h, ?_, ?_⟩
  · rw [parse_append false _ _ h]
    decide
  · rw [parse_append true _ _ h]
    decide

end AdTemplates.Document
