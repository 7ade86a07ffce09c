import AdTemplates.Proofs.Format.Rows
import AdTemplates.Proofs.Text.Scan
import AdTemplates.Proofs.Text.Utf8

/-! Delimited rows as a table that can be read. A reader goes through the text character by
character and knows of quotes, delimiters and line feeds only. On what the writer leaves it
finds one row of two fields for each advertisement, and quotes where a field needs them. -/
namespace AdTemplates.Format.Delimited

open Text (scan scan_nil scan_cons scan_append)

/-- A field that was read, and whether it stood in quotes. -/
structure Cell where
  text : String
  quoted : Bool
  deriving DecidableEq, Repr

/-- How far a field has been read. After a second quote the field is closed, unless a third
one follows at once. -/
inductive Progress where
  | bare (held : List Char)
  | quoted (held : List Char)
  | closed (held : List Char)
  deriving DecidableEq, Repr

namespace Progress

/-- The field, if it may end here. -/
def cell? : Progress → Option Cell
  | .bare held => some ⟨.ofList held, false⟩
  | .quoted _ => none
  | .closed held => some ⟨.ofList held, true⟩

/-- Takes a character of the field. A bare field holds no quote and no carriage return, and
only a quote continues a closed one. -/
def add? (c : Char) : Progress → Option Progress
  | .bare held =>
    if c = '"' then if held = [] then some (.quoted []) else none
    else if c = '\r' then none
    else some (.bare (held ++ [c]))
  | .quoted held => some (if c = '"' then .closed held else .quoted (held ++ [c]))
  | .closed held => if c = '"' then some (.quoted (held ++ ['"'])) else none

end Progress

/-- What has been read of a table: its complete rows, the complete fields of the row after
them, and the field after these. -/
structure Reader where
  rows : List (List Cell) := []
  row : List Cell := []
  field : Progress := .bare []
  deriving DecidableEq, Repr

namespace Reader

/-- Reads a character. Outside quotes the delimiter ends a field and a line feed ends a
row. -/
def step (delimiter : Char) (r : Reader) (c : Char) : Option Reader :=
  let continued := (r.field.add? c).map fun p => { r with field := p }
  match r.field.cell? with
  | none => continued
  | some cell =>
    if c = delimiter then some { r with row := r.row ++ [cell], field := .bare [] }
    else if c = '\n' then some { rows := r.rows ++ [r.row ++ [cell]] }
    else continued

/-- The rows, if the text may end here. The last row needs no line feed. -/
def finish (r : Reader) : Option (List (List Cell)) :=
  if r.row = [] ∧ r.field = .bare [] then some r.rows
  else r.field.cell?.map fun cell => r.rows ++ [r.row ++ [cell]]

end Reader

/-- The rows of a table, if these bytes are one. -/
def readTable? (delimiter : Char) (bytes : List UInt8) : Option (List (List Cell)) := do
  let text ← Text.Utf8.decode? bytes
  let r ← scan (Reader.step delimiter) {} text.toList
  r.finish

/-- A character that a field holds in quotes only. -/
def IsSpecial (delimiter c : Char) : Prop := c = delimiter ∨ c = '"' ∨ c = '\r' ∨ c = '\n'

instance (delimiter : Char) : DecidablePred (IsSpecial delimiter) :=
  fun c => inferInstanceAs (Decidable (c = delimiter ∨ c = '"' ∨ c = '\r' ∨ c = '\n'))

/-- A field with this text, out of quotes if it can be. -/
def cell (delimiter : Char) (s : String) : Cell :=
  ⟨s, s.toList.any fun c => decide (IsSpecial delimiter c)⟩

theorem needsQuotes_eq (delimiter : Char) (s : List Char) :
    needsQuotes delimiter s = s.any fun c => decide (IsSpecial delimiter c) := by
  have hchar (c : Char) : (c == delimiter || c == '"' || c == '\r' || c == '\n') =
      decide (IsSpecial delimiter c) := by
    rw [Bool.eq_iff_iff, decide_eq_true_iff]
    simp only [IsSpecial, Bool.or_eq_true, beq_iff_eq, or_assoc]
  exact congrArg s.any (funext hchar)

namespace Reader

variable {delimiter : Char} {r : Reader}

theorem step_delimiter {cell : Cell} (h : r.field.cell? = some cell) :
    r.step delimiter delimiter = some { r with row := r.row ++ [cell], field := .bare [] } := by
  simp only [step, h, if_pos]

theorem step_newline {cell : Cell} (h : r.field.cell? = some cell) (hd : delimiter ≠ '\n') :
    r.step delimiter '\n' = some { rows := r.rows ++ [r.row ++ [cell]] } := by
  simp only [step, h, if_neg hd.symm, if_pos]

/-- A quote belongs to the field even where the field could end. -/
theorem step_quote (hd : delimiter ≠ '"') :
    r.step delimiter '"' = (r.field.add? '"').map fun p => { r with field := p } := by
  unfold step
  cases r.field.cell? with
  | none => rfl
  | some cell =>
    simp only [if_neg hd.symm]
    rfl

theorem step_bare {held : List Char} {c : Char} (hc : ¬ IsSpecial delimiter c) :
    step delimiter { r with field := .bare held } c =
      some { r with field := .bare (held ++ [c]) } := by
  simp only [IsSpecial, not_or] at hc
  obtain ⟨hdelimiter, hquote, hreturn, hnewline⟩ := hc
  simp only [step, Progress.cell?, Progress.add?, if_neg hdelimiter, if_neg hnewline,
    if_neg hquote, if_neg hreturn, Option.map_some]

theorem step_quoted {held : List Char} {c : Char} (hc : c ≠ '"') :
    step delimiter { r with field := .quoted held } c =
      some { r with field := .quoted (held ++ [c]) } := by
  simp only [step, Progress.cell?, Progress.add?, if_neg hc, Option.map_some]

theorem scan_bare {s : List Char} (held : List Char) (h : ∀ c ∈ s, ¬ IsSpecial delimiter c) :
    scan (step delimiter) { r with field := .bare held } s =
      some { r with field := .bare (held ++ s) } := by
  induction s generalizing held with
  | nil => rw [List.append_nil, scan_nil]
  | cons c s ih =>
    rw [List.forall_mem_cons] at h
    rw [scan_cons s (step_bare h.1), ih _ h.2, List.append_assoc, List.singleton_append]

theorem scan_doubleQuotes (hd : delimiter ≠ '"') (s held : List Char) :
    scan (step delimiter) { r with field := .quoted held } (doubleQuotes s) =
      some { r with field := .quoted (held ++ s) } := by
  induction s generalizing held with
  | nil =>
    rw [List.append_nil]
    rfl
  | cons c s ih =>
    have hrest := ih (held ++ [c])
    rw [List.append_assoc, List.singleton_append] at hrest
    rw [doubleQuotes, List.flatMap_cons, ← doubleQuotes]
    split
    · -- The first of the two quotes closes the field and the second opens it again.
      rename_i hc
      subst hc
      rw [List.cons_append, scan_cons _ (step_quote hd), List.cons_append,
        scan_cons _ (step_quote hd), List.nil_append]
      exact hrest
    · rename_i hc
      rw [List.singleton_append, scan_cons _ (step_quoted hc)]
      exact hrest

/-- What the writer makes of a text is read up to where the field may end. -/
theorem scan_field (hd : delimiter ≠ '"') (hr : r.field = .bare []) (s : String) :
    ∃ p : Progress, p.cell? = some (cell delimiter s) ∧
      scan (step delimiter) r (Delimited.field delimiter s.toList) =
        some { r with field := p } := by
  have hfresh : r = { r with field := .bare [] } := by rw [← hr]
  have hcell : cell delimiter s = ⟨s, needsQuotes delimiter s.toList⟩ := by
    rw [cell, needsQuotes_eq]
  cases hquotes : needsQuotes delimiter s.toList with
  | true =>
    refine ⟨.closed s.toList, ?_, ?_⟩
    · rw [hcell, hquotes, Progress.cell?, String.ofList_toList]
    · have hinside : scan (step delimiter) r ('"' :: doubleQuotes s.toList) =
          some { r with field := .quoted s.toList } := by
        rw [hfresh, scan_cons _ (step_quote hd)]
        exact scan_doubleQuotes hd s.toList []
      rw [Delimited.field, if_pos hquotes, scan_append _ hinside, scan_cons _ (step_quote hd)]
      rfl
  | false =>
    refine ⟨.bare s.toList, ?_, ?_⟩
    · rw [hcell, hquotes, Progress.cell?, String.ofList_toList]
    · have hbare : ∀ c ∈ s.toList, ¬ IsSpecial delimiter c := by
        intro c hc hspecial
        rw [needsQuotes_eq, List.any_eq_false] at hquotes
        exact hquotes c hc (decide_eq_true hspecial)
      rw [Delimited.field, hquotes, if_neg Bool.false_ne_true, hfresh]
      exact scan_bare [] hbare

end Reader

/-- The row of an advertisement as it is read back: title and text, and nothing else. -/
def cells (delimiter : Char) (r : Record) : List Cell :=
  [cell delimiter r.title, cell delimiter r.text]

variable {delimiter : Char}

theorem row_eq (r : Record) : row delimiter r =
    Delimited.field delimiter r.title.toList ++
      delimiter :: Delimited.field delimiter r.text.toList ++ ['\n'] := by
  simp [row, joined, fields, List.intercalate]

theorem scan_row (hquote : delimiter ≠ '"') (hnewline : delimiter ≠ '\n')
    (rows : List (List Cell)) (r : Record) :
    scan (Reader.step delimiter) { rows } (row delimiter r) =
      some { rows := rows ++ [cells delimiter r] } := by
  obtain ⟨title, htitle, hscanTitle⟩ := Reader.scan_field (r := { rows }) hquote rfl r.title
  obtain ⟨text, htext, hscanText⟩ :=
    Reader.scan_field (r := { rows, row := [cell delimiter r.title] }) hquote rfl r.text
  rw [row_eq, List.append_assoc, scan_append _ hscanTitle, List.cons_append,
    scan_cons _ (Reader.step_delimiter htitle)]
  change scan (Reader.step delimiter) { rows, row := [cell delimiter r.title] } _ = _
  rw [scan_append _ hscanText, scan_cons _ (Reader.step_newline htext hnewline)]
  rfl

theorem scan_rows (hquote : delimiter ≠ '"') (hnewline : delimiter ≠ '\n')
    (rows : List (List Cell)) (records : List Record) :
    scan (Reader.step delimiter) { rows } (records.flatMap (row delimiter)) =
      some { rows := rows ++ records.map (cells delimiter) } := by
  induction records generalizing rows with
  | nil => rw [List.flatMap_nil, List.map_nil, List.append_nil, scan_nil]
  | cons r records ih =>
    rw [List.flatMap_cons, scan_append _ (scan_row hquote hnewline rows r), ih,
      List.append_assoc, List.map_cons, List.singleton_append]

theorem readTable?_rowBytes (hquote : delimiter ≠ '"') (hnewline : delimiter ≠ '\n')
    (records : List Record) :
    readTable? delimiter (records.flatMap (rowBytes delimiter)) =
      some (records.map (cells delimiter)) := by
  have htext : records.flatMap (rowBytes delimiter) =
      Text.Utf8.encode (.ofList (records.flatMap (row delimiter))) := by
    rw [Text.Utf8.encode_ofList, List.flatMap_assoc]
    exact congrArg (records.flatMap ·) (funext fun r => Text.Utf8.encode_ofList (row delimiter r))
  rw [readTable?, htext, Text.Utf8.decode?_encode]
  change (scan (Reader.step delimiter) {} (String.ofList _).toList).bind Reader.finish = _
  rw [String.toList_ofList, scan_rows hquote hnewline, List.nil_append]
  rfl

/-- Both formatters write a table that holds the advertisements' titles and texts, row by row
and in quotes only where they need them. -/
theorem readTable_write (records : List Record) (s : Sink) (h : s.capacity = none) :
    (∃ bytes, csv.write records s = .ok (records.length, { s with written := s.written ++ bytes }) ∧
      readTable? ',' bytes = some (records.map fun r => [cell ',' r.title, cell ',' r.text])) ∧
    ∃ bytes, tsv.write records s = .ok (records.length, { s with written := s.written ++ bytes }) ∧
      readTable? '\t' bytes = some (records.map fun r => [cell '\t' r.title, cell '\t' r.text]) :=
  ⟨⟨_, Builtin.write_unlimited .csv records h,
      readTable?_rowBytes (by decide) (by decide) records⟩,
    ⟨_, Builtin.write_unlimited .tsv records h,
      readTable?_rowBytes (by decide) (by decide) records⟩⟩

/-- A title that ends in a quote, with a delimiter of one table, and an empty text; then a
line break and a delimiter of the other table. -/
theorem readTable_write_awkward :
    let records : List Record := [⟨"k", "one, \"two\"", ""⟩, ⟨"k", "\r\n", "a\tb"⟩]
    ({} : Sink).capacity = none ∧
    (∃ bytes, csv.write records {} = .ok (2, { written := bytes }) ∧
      readTable? ',' bytes =
        some [[⟨"one, \"two\"", true⟩, ⟨"", false⟩], [⟨"\r\n", true⟩, ⟨"a\tb", false⟩]]) ∧
    ∃ bytes, tsv.write records {} = .ok (2, { written := bytes }) ∧
      readTable? '\t' bytes =
        some [[⟨"one, \"two\"", true⟩, ⟨"", false⟩], [⟨"\r\n", true⟩, ⟨"a\tb", true⟩]] :=
  ⟨rfl, readTable_write [⟨"k", "one, \"two\"", ""⟩, ⟨"k", "\r\n", "a\tb"⟩] {} rfl⟩

end AdTemplates.Format.Delimited
