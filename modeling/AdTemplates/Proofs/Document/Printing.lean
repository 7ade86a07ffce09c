import AdTemplates.Proofs.Document.Content

/-! Printing documents and reading them back. Blocks of lines under the markers of their
sections can be laid out in many ways, with blanks around each line and with blank lines
between them; reading gives the same document for all. Whatever is read can be printed. -/
namespace AdTemplates

namespace Text

/-- Blanks that may stand around a line. -/
def IsPadding (pad : List Char) : Prop := ∀ c ∈ pad, isBlank c = true ∧ c ≠ '\n'

/-- What ends a line. -/
def IsLineEnd (ending : List Char) : Prop := ending = ['\n'] ∨ ending = ['\r', '\n']

theorem IsPadding.isBlank {pad : List Char} (h : IsPadding pad) :
    ∀ c ∈ pad, Text.isBlank c = true := fun c hc => (h c hc).1

theorem IsPadding.newline_notMem {pad : List Char} (h : IsPadding pad) : '\n' ∉ pad :=
  fun hmem => (h '\n' hmem).2 rfl

/-- A row and its line end are one line of the text. -/
theorem splitLines_row {row ending : List Char} (hrow : '\n' ∉ row) (hending : IsLineEnd ending)
    (rest : List Char) :
    ∃ line, trimChars line = trimChars row ∧
      splitLines '\n' '\r' (row ++ ending ++ rest) = line :: splitLines '\n' '\r' rest := by
  rcases hending with rfl | rfl
  · refine ⟨chomp '\r' row, trimChars_chomp row, ?_⟩
    rw [List.append_assoc]
    exact splitLines_append_newline hrow rest
  · refine ⟨row, rfl, ?_⟩
    have hnewline : '\n' ∉ row ++ ['\r'] := by simpa using hrow
    have hline : chomp '\r' (row ++ ['\r']) = row := by
      rw [chomp_append_singleton, if_pos rfl]
    have hsplit : splitLines '\n' '\r' (row ++ ['\r'] ++ '\n' :: rest) =
        chomp '\r' (row ++ ['\r']) :: splitLines '\n' '\r' rest :=
      splitLines_append_newline hnewline rest
    rw [hline] at hsplit
    simpa using hsplit

end Text

namespace Document

open Text (trim trimChars splitLines IsPadding IsLineEnd)

/-- A line that a section can hold. -/
structure Admissible (line : String) : Prop where
  ne_empty : line ≠ ""
  trimmed : trim line = line
  newline_notMem : '\n' ∉ line.toList
  ne_marker : ∀ s : Section, line ≠ s.marker

instance (line : String) : Decidable (Admissible line) :=
  decidable_of_iff (line ≠ "" ∧ trim line = line ∧ '\n' ∉ line.toList ∧
      ∀ s : Section, line ≠ s.marker)
    ⟨fun ⟨hempty, htrim, hnewline, hmarker⟩ => ⟨hempty, htrim, hnewline, hmarker⟩,
      fun h => ⟨h.ne_empty, h.trimmed, h.newline_notMem, h.ne_marker⟩⟩

/-- One row of a layout: a blank one, or a line between blanks. -/
inductive SpellsRow : List String → List Char → Prop where
  | blank {pad : List Char} : IsPadding pad → SpellsRow [] pad
  | line (line : String) {before after : List Char} : IsPadding before → IsPadding after →
      SpellsRow [line] (before ++ line.toList ++ after)

/-- A layout of lines: rows that each end in a line end, which the last may lack. -/
inductive Spells : List String → List Char → Prop where
  | last {lines : List String} {row : List Char} : SpellsRow lines row → Spells lines row
  | more {lines others : List String} {row ending rest : List Char} :
      SpellsRow lines row → IsLineEnd ending → Spells others rest →
      Spells (lines ++ others) (row ++ ending ++ rest)

/-- Lines under the marker of a section. -/
structure Block where
  heading : Section
  lines : List String

/-- The lines of blocks, each block under its marker. -/
def printedLines (blocks : List Block) : List String :=
  blocks.flatMap fun b => b.heading.marker :: b.lines

/-- The lines of all blocks of a section, in their order. -/
def linesUnder (blocks : List Block) (s : Section) : List String :=
  (blocks.filter (·.heading = s)).flatMap (·.lines)

/-- The document that blocks make up. -/
def ofBlocks (blocks : List Block) : Document :=
  ⟨linesUnder blocks .keywords, linesUnder blocks .titles, linesUnder blocks .texts⟩

/-- One block for each section. -/
def blocks (d : Document) : List Block :=
  [⟨.keywords, d.keywords⟩, ⟨.titles, d.titles⟩, ⟨.texts, d.texts⟩]

/-- A text that spells a document. -/
def print (d : Document) : String :=
  String.ofList ((printedLines d.blocks).flatMap fun line => line.toList ++ ['\n'])

variable {lines : List String} {text row : List Char} {bs : List Block} {s : Section}

/-! ### From a layout to its lines -/

/-- The row of a line without newline has none, and its trimmed text is that of the line. -/
theorem SpellsRow.content (h : SpellsRow lines row) (hlines : ∀ line ∈ lines, '\n' ∉ line.toList) :
    '\n' ∉ row ∧
      [String.ofList (trimChars row)].filter (· ≠ "") = (lines.map trim).filter (· ≠ "") := by
  cases h with
  | blank hpad =>
    have htrim : trimChars (row ++ []) = trimChars [] :=
      Text.trimChars_blank_append hpad.isBlank []
    rw [List.append_nil] at htrim
    rw [htrim]
    exact ⟨hpad.newline_notMem, rfl⟩
  | line line hbefore hafter =>
    rw [Text.trimChars_append_blank hafter.isBlank,
      Text.trimChars_blank_append hbefore.isBlank]
    refine ⟨?_, rfl⟩
    simp only [List.mem_append, not_or]
    exact ⟨⟨hbefore.newline_notMem, hlines line List.mem_cons_self⟩,
      hafter.newline_notMem⟩

/-- Blanks, blank rows and the choice of line ends leave no trace. The induction is on the
rows of the layout. -/
theorem Spells.content (h : Spells lines text) (hlines : ∀ line ∈ lines, '\n' ∉ line.toList) :
    ((splitLines '\n' '\r' text).map (String.ofList ∘ trimChars)).filter (· ≠ "") =
      (lines.map trim).filter (· ≠ "") := by
  induction h with
  | last hrow =>
    obtain ⟨hnewline, hcontent⟩ := hrow.content hlines
    rw [← hcontent]
    rename_i row
    by_cases hempty : row = []
    · rw [hempty]
      rfl
    · rw [Text.splitLines_of_notMem hnewline hempty]
      rfl
  | more hrow hending _ ih =>
    rename_i row _ rest _
    obtain ⟨hnewline, hcontent⟩ :=
      hrow.content fun line hline => hlines line (List.mem_append_left _ hline)
    obtain ⟨line, htrim, hsplit⟩ := Text.splitLines_row hnewline hending rest
    have hrest := ih fun line hline => hlines line (List.mem_append_right _ hline)
    rw [hsplit, List.map_append, List.filter_append, ← hcontent, ← hrest, ← htrim,
      ← List.filter_append]
    rfl

theorem contentLines_of_spells {source : String} (h : Spells lines source.toList)
    (hlines : ∀ line ∈ lines, '\n' ∉ line.toList) :
    contentLines source = (lines.map trim).filter (· ≠ "") := by
  have htrim : trim ∘ String.ofList = String.ofList ∘ trimChars :=
    funext fun cs => congrArg (fun cs => String.ofList (trimChars cs)) String.toList_ofList
  rw [contentLines, Text.lines, List.map_map, htrim, h.content hlines]

/-! ### From lines to the document -/

theorem ext_content {d d' : Document} (h : ∀ s, d.content s = d'.content s) : d = d' := by
  obtain ⟨keywords, titles, texts⟩ := d
  obtain ⟨keywords', titles', texts'⟩ := d'
  have hk : keywords = keywords' := h .keywords
  have ht : titles = titles' := h .titles
  have hx : texts = texts' := h .texts
  rw [hk, ht, hx]

theorem content_ofBlocks (bs : List Block) (s : Section) :
    (ofBlocks bs).content s = linesUnder bs s := by
  cases s <;> rfl

theorem ofBlocks_blocks (d : Document) : ofBlocks d.blocks = d := by
  apply ext_content
  intro s
  rw [content_ofBlocks]
  cases s <;> simp [linesUnder, blocks, content]

theorem linesUnder_cons (b : Block) (bs : List Block) (s : Section) :
    linesUnder (b :: bs) s = (if s = b.heading then b.lines else []) ++ linesUnder bs s := by
  rw [linesUnder, List.filter_cons]
  by_cases hs : b.heading = s
  · simp [hs, linesUnder]
  · simp [hs, Ne.symm hs, linesUnder]

/-- Lines before the first marker are dropped. -/
theorem foldl_absorb_of_none (h : ∀ line ∈ lines, ∀ s : Section, line ≠ s.marker)
    (d : Document) : lines.foldl absorb (none, d) = (none, d) := by
  induction lines with
  | nil => rfl
  | cons line more ih =>
    rw [List.forall_mem_cons] at h
    rw [List.foldl_cons, absorb_of_ne_marker h.1]
    exact ih h.2

/-- Lines without markers are added to the current section. -/
theorem content_foldl_absorb (h : ∀ line ∈ lines, ∀ s : Section, line ≠ s.marker)
    (d : Document) (other : Section) :
    (lines.foldl absorb (some s, d)).2.content other =
      d.content other ++ (if other = s then lines else []) := by
  induction lines generalizing d with
  | nil => simp
  | cons line more ih =>
    rw [List.forall_mem_cons] at h
    rw [List.foldl_cons, absorb_of_ne_marker h.1, ih h.2, content_push, List.append_assoc]
    split <;> rfl

/-- Blocks are added one after the other, each to its section. -/
theorem content_foldl_printedLines
    (h : ∀ b ∈ bs, ∀ line ∈ b.lines, ∀ s : Section, line ≠ s.marker)
    (state : Option Section × Document) (s : Section) :
    ((printedLines bs).foldl absorb state).2.content s =
      state.2.content s ++ linesUnder bs s := by
  induction bs generalizing state with
  | nil => simp [printedLines, linesUnder]
  | cons b bs ih =>
    rw [List.forall_mem_cons] at h
    have hprinted : printedLines (b :: bs) =
        b.heading.marker :: b.lines ++ printedLines bs := List.flatMap_cons
    rw [hprinted, List.foldl_append, List.foldl_cons, absorb_marker, ih h.2,
      content_foldl_absorb h.1, linesUnder_cons, List.append_assoc]

theorem trim_marker (s : Section) : trim s.marker = s.marker := by
  cases s <;> decide

theorem newline_notMem_marker (s : Section) : '\n' ∉ s.marker.toList := by
  cases s <;> decide

/-- Each printed line is a marker or a line of a block. -/
theorem mem_printedLines {line : String} (h : line ∈ printedLines bs) :
    (∃ s : Section, line = s.marker) ∨ ∃ b ∈ bs, line ∈ b.lines := by
  obtain ⟨b, hb, hline⟩ := List.mem_flatMap.mp h
  rcases List.mem_cons.mp hline with rfl | hline
  · exact .inl ⟨b.heading, rfl⟩
  · exact .inr ⟨b, hb, hline⟩

/-- Printed lines of admissible content count as they are. -/
theorem content_printedLines (h : ∀ b ∈ bs, ∀ line ∈ b.lines, Admissible line) :
    ((printedLines bs).map trim).filter (· ≠ "") = printedLines bs := by
  have htrim : ∀ line ∈ printedLines bs, trim line = line ∧ line ≠ "" := by
    intro line hline
    rcases mem_printedLines hline with ⟨s, rfl⟩ | ⟨b, hb, hline⟩
    · exact ⟨trim_marker s, s.marker_ne_empty⟩
    · exact ⟨(h b hb line hline).trimmed, (h b hb line hline).ne_empty⟩
  have hmap : (printedLines bs).map trim = printedLines bs := by
    rw [List.map_congr_left fun line hline => (htrim line hline).1, List.map_id']
  rw [hmap]
  exact List.filter_eq_self.mpr fun line hline => decide_eq_true (htrim line hline).2

theorem newline_notMem_printedLines (h : ∀ b ∈ bs, ∀ line ∈ b.lines, Admissible line) :
    ∀ line ∈ printedLines bs, '\n' ∉ line.toList := by
  intro line hline
  rcases mem_printedLines hline with ⟨s, rfl⟩ | ⟨b, hb, hline⟩
  · exact newline_notMem_marker s
  · exact (h b hb line hline).newline_notMem

/-- However blocks are laid out behind lines without markers, they are read as what they
make up, by strict reading too if no line is malformed. -/
theorem parse_of_spells {strict : Bool} {preamble : List String} {source : String}
    (hpreamble : ∀ line ∈ preamble, '\n' ∉ line.toList ∧ ∀ s : Section, trim line ≠ s.marker)
    (hbs : ∀ b ∈ bs, ∀ line ∈ b.lines, Admissible line)
    (hstrict : strict = true → ∀ line ∈ preamble ++ printedLines bs, ¬ IsMalformed line)
    (h : Spells (preamble ++ printedLines bs) source.toList) :
    parse strict source = .ok (ofBlocks bs) := by
  have hnewline : ∀ line ∈ preamble ++ printedLines bs, '\n' ∉ line.toList := by
    intro line hline
    rcases List.mem_append.mp hline with hline | hline
    · exact (hpreamble line hline).1
    · exact newline_notMem_printedLines hbs line hline
  have hcontent := contentLines_of_spells h hnewline
  have hfirst : ∀ line ∈ (preamble.map trim).filter (· ≠ ""), ∀ s : Section, line ≠ s.marker := by
    intro line hline
    obtain ⟨raw, hraw, rfl⟩ := List.mem_map.mp (List.mem_filter.mp hline).1
    exact (hpreamble raw hraw).2
  rw [parse_eq_ok_iff]
  constructor
  · intro hs line hline hmalformed
    rw [hcontent] at hline
    obtain ⟨raw, hraw, rfl⟩ := List.mem_map.mp (List.mem_filter.mp hline).1
    exact hstrict hs raw hraw (isMalformed_trim.mp hmalformed)
  · apply ext_content
    intro s
    rw [hcontent, List.map_append, List.filter_append, content_printedLines hbs,
      List.foldl_append, foldl_absorb_of_none hfirst,
      content_foldl_printedLines fun b hb line hline => (hbs b hb line hline).ne_marker,
      content_ofBlocks]
    cases s <;> rfl

/-! ### From a document back to its text -/

/-- Printing lays lines out without blanks. -/
theorem spells_print (d : Document) : Spells (printedLines d.blocks) d.print.toList := by
  have hnone : IsPadding [] := fun c hc => absurd hc List.not_mem_nil
  rw [print, String.toList_ofList]
  induction printedLines d.blocks with
  | nil => exact .last (.blank hnone)
  | cons line more ih =>
    have hrow : SpellsRow [line] ([] ++ line.toList ++ []) := .line line hnone hnone
    have hall := Spells.more hrow (.inl rfl) ih
    simpa using hall

theorem newline_notMem_lines {source line : String} (h : line ∈ Text.lines source) :
    '\n' ∉ line.toList := by
  obtain ⟨cs, hcs, rfl⟩ := List.mem_map.mp h
  rw [String.toList_ofList]
  exact Text.newline_notMem_of_mem_splitLines hcs

/-- Every line of a document that has been read is a trimmed line of the text, and one that
a section can hold. -/
theorem admissible_of_parse {strict : Bool} {source : String} {d : Document}
    (h : parse strict source = .ok d) {line : String} (hline : line ∈ d.content s) :
    Admissible line ∧ ∃ raw ∈ Text.lines source, line = trim raw := by
  rw [content_of_parse h] at hline
  obtain ⟨i, hi, rfl⟩ := List.mem_map.mp hline
  obtain ⟨⟨hblank, hmarker⟩, _⟩ := mem_placesOf.mp hi
  have hlength : i < (Text.lines source).length :=
    List.mem_range.mp (List.mem_filter.mp hi).1
  have hraw : (Text.lines source).getD i "" ∈ Text.lines source := by
    rw [List.getD_eq_getElem _ _ hlength]
    exact List.getElem_mem hlength
  refine ⟨⟨hblank, Text.trim_trim _, ?_, hmarker⟩, _, hraw, rfl⟩
  rw [trimmedAt, Text.toList_trim]
  exact fun hnewline => newline_notMem_lines hraw (Text.mem_of_mem_trimChars hnewline)

/-- What strict reading has accepted holds no malformed line. -/
theorem not_isMalformed_of_parse {source : String} {d : Document}
    (h : parse true source = .ok d) {line : String} (hline : line ∈ d.content s) :
    ¬ IsMalformed line := by
  obtain ⟨hadmissible, raw, hraw, rfl⟩ := admissible_of_parse h hline
  refine (parse_eq_ok_iff.mp h).1 rfl (trim raw) ?_
  exact List.mem_filter.mpr ⟨List.mem_map_of_mem hraw, decide_eq_true hadmissible.ne_empty⟩

theorem mem_content_of_mem_blocks {d : Document} {b : Block} (hb : b ∈ d.blocks) {line : String}
    (hline : line ∈ b.lines) : ∃ s, line ∈ d.content s := by
  simp only [blocks, List.mem_cons, List.not_mem_nil, or_false] at hb
  rcases hb with rfl | rfl | rfl
  · exact ⟨.keywords, hline⟩
  · exact ⟨.titles, hline⟩
  · exact ⟨.texts, hline⟩

/-- A document that has been read comes back from its printed form, under the strictness that
it was read with and without. -/
theorem parse_print_of_parse {strict mode : Bool} {source : String} {d : Document}
    (h : parse strict source = .ok d) (hmode : mode = true → strict = true) :
    parse mode d.print = .ok d := by
  have hadmissible : ∀ b ∈ d.blocks, ∀ line ∈ b.lines, Admissible line := by
    intro b hb line hline
    obtain ⟨s, hs⟩ := mem_content_of_mem_blocks hb hline
    exact (admissible_of_parse h hs).1
  have hstrict : mode = true → ∀ line ∈ [] ++ printedLines d.blocks, ¬ IsMalformed line := by
    intro hm line hline hmalformed
    rcases mem_printedLines hline with ⟨s, rfl⟩ | ⟨b, hb, hline⟩
    · exact hmalformed.2 s (trim_marker s)
    · obtain ⟨s, hs⟩ := mem_content_of_mem_blocks hb hline
      exact not_isMalformed_of_parse (hmode hm ▸ h) hs hmalformed
  have hparse := parse_of_spells (fun line hline => absurd hline List.not_mem_nil) hadmissible
    hstrict (spells_print d)
  rwa [ofBlocks_blocks] at hparse

/-- Blocks of admissible lines, in any order and laid out in any way behind lines without
markers, are read as the document that they make up. Conversely, whatever text a document
was read from, its lines are admissible, and its printed form is read as the same document
again. -/
theorem parse_spelled_and_printed :
    (∀ (preamble : List String) (bs : List Block) (source : String),
      (∀ line ∈ preamble, '\n' ∉ line.toList ∧ ∀ s : Section, trim line ≠ s.marker) →
      (∀ b ∈ bs, ∀ line ∈ b.lines, Admissible line) →
      Spells (preamble ++ printedLines bs) source.toList →
      parse false source = .ok (ofBlocks bs)) ∧
    (∀ (strict : Bool) (source : String) (d : Document), parse strict source = .ok d →
      (∀ s, ∀ line ∈ d.content s, Admissible line) ∧
      Spells (printedLines d.blocks) d.print.toList ∧
      parse false d.print = .ok d ∧ parse strict d.print = .ok d) := by
  constructor
  · intro preamble bs source hpreamble hbs h
    exact parse_of_spells hpreamble hbs nofun h
  · intro strict source d h
    exact ⟨fun s line hline => (admissible_of_parse h hline).1, spells_print d,
      parse_print_of_parse h nofun, parse_print_of_parse h id⟩

/-- A text and a keyword, in this order. -/
def turnedBlocks : List Block := [⟨.texts, ["a\rb"]⟩, ⟨.keywords, ["к"]⟩]

/-- These blocks behind a line without marker, with blanks and both kinds of line ends, and
without a line end at the end. -/
def turnedLayout : List Char :=
  "[x".toList ++ ['\n'] ++ (['\u00a0'] ++ Section.texts.marker.toList ++ ['\t'] ++
    ['\r', '\n'] ++ ([' '] ++ ['\n'] ++ (['\r'] ++ "a\rb".toList ++ [' '] ++ ['\r', '\n'] ++
    (Section.keywords.marker.toList ++ ['\n'] ++ ("к".toList ++ ['\u2028'])))))

theorem parse_spelled_and_printed_turned :
    Spells (["[x"] ++ printedLines turnedBlocks) (String.ofList turnedLayout).toList ∧
      parse false (String.ofList turnedLayout) = .ok ⟨["к"], [], ["a\rb"]⟩ ∧
      parse false (print ⟨["к"], [], ["a\rb"]⟩) = .ok ⟨["к"], [], ["a\rb"]⟩ := by
  have hpad (pad : List Char) (h : pad.all (fun c => Text.isBlank c && c != '\n') = true) :
      IsPadding pad := by
    intro c hc
    simpa using List.all_eq_true.mp h c hc
  have hlayout : Spells (["[x"] ++ printedLines turnedBlocks)
      (String.ofList turnedLayout).toList := by
    rw [String.toList_ofList]
    have hfirst := SpellsRow.line "[x" (hpad [] (by decide)) (hpad [] (by decide))
    have hx := SpellsRow.line Section.texts.marker (hpad ['\u00a0'] (by decide))
      (hpad ['\t'] (by decide))
    have hblank := SpellsRow.blank (hpad [' '] (by decide))
    have htext := SpellsRow.line "a\rb" (hpad ['\r'] (by decide)) (hpad [' '] (by decide))
    have hk := SpellsRow.line Section.keywords.marker (hpad [] (by decide)) (hpad [] (by decide))
    have hlast := SpellsRow.line "к" (hpad [] (by decide)) (hpad ['\u2028'] (by decide))
    have hall := Spells.more hfirst (.inl rfl) (.more hx (.inr rfl) (.more hblank (.inl rfl)
      (.more htext (.inr rfl) (.more hk (.inl rfl) (.last hlast)))))
    simpa [printedLines, turnedBlocks, turnedLayout] using hall
  have hparse : parse false (String.ofList turnedLayout) = .ok (ofBlocks turnedBlocks) :=
    parse_spelled_and_printed.1 ["[x"] turnedBlocks _ (by decide) (by decide) hlayout
  have hdocument : ofBlocks turnedBlocks = ⟨["к"], [], ["a\rb"]⟩ := by decide
  rw [hdocument] at hparse
  exact ⟨hlayout, hparse, (parse_spelled_and_printed.2 false _ _ hparse).2.2.1⟩

end Document
end AdTemplates
