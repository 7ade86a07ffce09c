import AdTemplates.Proofs.Format.Rows
import AdTemplates.Proofs.Json.Value
import AdTemplates.Proofs.Text.Utf8
import Mathlib.Data.List.Forall2

/-! JSON lines as text that can be read. A reader of JSON gets every string back from its
escapes, so from each line the advertisement; and no line holds a control character, so the
line feeds between the lines are all that there are. -/
namespace AdTemplates.Format.JsonLines

open Json (Lexer Token Writes hexValue? unescape? textOf?_map_toNat parse? read?)
open Text (scan scan_cons scan_append)

theorem hexValue?_hexDigit (n : Nat) : hexValue? (hexDigit n) = some (n % 16) := by
  have hdigits : ∀ d < 16, hexValue? (Nat.digitChar d) = some d := by decide
  exact hdigits (n % 16) (Nat.mod_lt n (by decide))

/-- A character is written by a short escape, by its number or as it is. -/
theorem escapeChar_cases (c : Char) :
    (∃ d, unescape? d = some c ∧ d ≠ 'u' ∧ 0x20 ≤ d.toNat ∧ escapeChar c = ['\\', d]) ∨
    (c.toNat < 0x20 ∧
      escapeChar c = ['\\', 'u', '0', '0', hexDigit (c.toNat / 16), hexDigit c.toNat]) ∨
    (c ≠ '"' ∧ c ≠ '\\' ∧ 0x20 ≤ c.toNat ∧ escapeChar c = [c]) := by
  by_cases hshort : c = '"' ∨ c = '\\' ∨ c = '\x08' ∨ c = '\x0c' ∨ c = '\n' ∨ c = '\r' ∨ c = '\t'
  · left
    rcases hshort with rfl | rfl | rfl | rfl | rfl | rfl | rfl
    · exact ⟨'"', by decide⟩
    · exact ⟨'\\', by decide⟩
    · exact ⟨'b', by decide⟩
    · exact ⟨'f', by decide⟩
    · exact ⟨'n', by decide⟩
    · exact ⟨'r', by decide⟩
    · exact ⟨'t', by decide⟩
  · right
    simp only [not_or] at hshort
    obtain ⟨hquote, hbackslash, hb, hf, hn, hr, ht⟩ := hshort
    rw [escapeChar, if_neg hquote, if_neg hbackslash, if_neg hb, if_neg hf, if_neg hn, if_neg hr,
      if_neg ht]
    by_cases hcontrol : c.toNat < 0x20
    · exact .inl ⟨hcontrol, if_pos hcontrol⟩
    · exact .inr ⟨hquote, hbackslash, Nat.le_of_not_lt hcontrol, if_neg hcontrol⟩

/-- Every character is read back from its written form. -/
theorem scan_escapeChar (tokens : List Token) (held : List Nat) (c : Char) :
    scan Lexer.step ⟨tokens, .string held⟩ (escapeChar c) =
      some ⟨tokens, .string (held ++ [c.toNat])⟩ := by
  rcases escapeChar_cases c with ⟨d, hd, hu, _, heq⟩ | ⟨hcontrol, heq⟩ |
    ⟨hquote, hbackslash, hcontrol, heq⟩
  · rw [heq, Lexer.scan_escape hu hd]
  · have hzero : hexValue? '0' = some 0 := rfl
    have hnumber : [0, 0, c.toNat / 16 % 16, c.toNat % 16].foldl (16 * · + ·) 0 = c.toNat := by
      simp only [List.foldl_cons, List.foldl_nil]
      omega
    rw [heq, Lexer.scan_digits hzero hzero (hexValue?_hexDigit _) (hexValue?_hexDigit _), hnumber]
  · rw [heq, scan_cons [] (Lexer.step_character hquote hbackslash (Nat.not_lt.mpr hcontrol)),
      Text.scan_nil]

theorem scan_escaped (tokens : List Token) (held : List Nat) (s : List Char) :
    scan Lexer.step ⟨tokens, .string held⟩ (s.flatMap escapeChar) =
      some ⟨tokens, .string (held ++ s.map Char.toNat)⟩ := by
  induction s generalizing held with
  | nil => rw [List.flatMap_nil, List.map_nil, List.append_nil, Text.scan_nil]
  | cons c s ih =>
    rw [List.flatMap_cons, scan_append _ (scan_escapeChar tokens held c), ih, List.append_assoc,
      List.map_cons, List.singleton_append]

theorem writes_string (s : String) : Writes (string s.toList) [.string s] := fun before => by
  have hopen : Lexer.step ⟨before, .between⟩ '"' = some ⟨before, .string []⟩ := rfl
  have hclose : Lexer.step ⟨before, .string (s.toList.map Char.toNat)⟩ '"' =
      some ⟨before ++ [.string s], .between⟩ := by
    rw [Lexer.step_closing (textOf?_map_toNat s.toList), String.ofList_toList]
  rw [string, List.cons_append, scan_cons _ hopen, scan_append _ (scan_escaped before [] s.toList),
    List.nil_append, scan_cons [] hclose, Text.scan_nil]

theorem writes_member (name value : String) :
    Writes (member name value) [.string name, .colon, .string value] :=
  (writes_string name).append ((writes_string value).cons fun _ => rfl)

theorem writes_object (r : Record) :
    Writes (object r) [.openObject,
      .string "keyword", .colon, .string r.keyword, .comma,
      .string "title", .colon, .string r.title, .comma,
      .string "text", .colon, .string r.text, .closeObject] :=
  ((((writes_member "keyword" r.keyword).cons fun _ => rfl).append
    ((writes_member "title" r.title).cons fun _ => rfl)).append
    ((writes_member "text" r.text).cons fun _ => rfl)).append
    (Writes.nil.cons fun _ => rfl)

theorem parse?_object (r : Record) :
    parse? (object r) = some (.object
      [("keyword", .string r.keyword), ("title", .string r.title), ("text", .string r.text)]) := by
  rw [parse?, (writes_object r).tokens?_eq]
  rfl

/-- That a text holds no control character, U+0000 to U+001F. -/
def NoControls (cs : List Char) : Prop := ∀ c ∈ cs, 0x20 ≤ c.toNat

namespace NoControls

variable {cs ds : List Char}

theorem append (hcs : NoControls cs) (hds : NoControls ds) : NoControls (cs ++ ds) :=
  List.forall_mem_append.mpr ⟨hcs, hds⟩

theorem cons {c : Char} (hc : 0x20 ≤ c.toNat) (hcs : NoControls cs) : NoControls (c :: cs) :=
  List.forall_mem_cons.mpr ⟨hc, hcs⟩

theorem nil : NoControls [] := List.forall_mem_nil _

end NoControls

theorem le_hexDigit (n : Nat) : 0x20 ≤ (hexDigit n).toNat := by
  have hdigits : ∀ d < 16, 0x20 ≤ (Nat.digitChar d).toNat := by decide
  exact hdigits (n % 16) (Nat.mod_lt n (by decide))

theorem noControls_escapeChar (c : Char) : NoControls (escapeChar c) := by
  rcases escapeChar_cases c with ⟨d, _, _, hd, heq⟩ | ⟨_, heq⟩ | ⟨_, _, hc, heq⟩
  · rw [heq]
    exact .cons (by decide) (.cons hd .nil)
  · have hopening : NoControls ['\\', 'u', '0', '0'] :=
      .cons (by decide) (.cons (by decide) (.cons (by decide) (.cons (by decide) .nil)))
    have hdigits : NoControls [hexDigit (c.toNat / 16), hexDigit c.toNat] :=
      .cons (le_hexDigit _) (.cons (le_hexDigit _) .nil)
    rw [heq]
    exact hopening.append hdigits
  · rw [heq]
    exact .cons hc .nil

theorem noControls_string (s : List Char) : NoControls (string s) := by
  have hescaped : NoControls (s.flatMap escapeChar) := by
    intro d hd
    obtain ⟨c, _, hmem⟩ := List.mem_flatMap.mp hd
    exact noControls_escapeChar c d hmem
  exact (hescaped.cons (by decide)).append (.cons (by decide) .nil)

theorem noControls_member (name value : String) : NoControls (member name value) :=
  (noControls_string name.toList).append ((noControls_string value.toList).cons (by decide))

theorem noControls_object (r : Record) : NoControls (object r) :=
  ((((noControls_member "keyword" r.keyword).cons (by decide)).append
    ((noControls_member "title" r.title).cons (by decide))).append
    ((noControls_member "text" r.text).cons (by decide))).append
    (.cons (by decide) .nil)

/-- The line of an advertisement, without its end. -/
def line (r : Record) : List UInt8 := Text.Utf8.encode (String.ofList (object r))

theorem rowBytes_eq (r : Record) : rowBytes r = line r ++ [0x0a] := by
  rw [rowBytes, line, Text.Utf8.encode_ofList, Text.Utf8.encode_ofList, List.flatMap_append]
  rfl

theorem le_of_mem_line {r : Record} {b : UInt8} (h : b ∈ line r) : 0x20 ≤ b := by
  rw [line, Text.Utf8.encode_ofList] at h
  exact Text.Utf8.le_of_mem_utf8EncodeChars (by decide) (noControls_object r) h

theorem read?_line (r : Record) :
    read? (line r) = some (.object
      [("keyword", .string r.keyword), ("title", .string r.title), ("text", .string r.text)]) := by
  rw [read?, line, Text.Utf8.decode?_encode, Option.bind_some, String.toList_ofList, parse?_object]

theorem line_ne_nil (r : Record) : line r ≠ [] := by
  intro h
  have hread := read?_line r
  rw [h] at hread
  cases hread

/-- Every row is a line, and nothing follows the last line end. -/
theorem splitOn_rowBytes (records : List Record) :
    (records.flatMap rowBytes).splitOn 0x0a = records.map line ++ [[]] := by
  induction records with
  | nil => rfl
  | cons r records ih =>
    have hnewline : (0x0a : UInt8) ∉ line r := fun h => absurd (le_of_mem_line h) (by decide)
    rw [List.flatMap_cons, rowBytes_eq, List.append_assoc, List.singleton_append,
      Text.splitOn_append_newline hnewline, ih, List.map_cons, List.cons_append]

/-- What is written falls into one line for each advertisement, none with a control character
(U+0000 to U+001F), and as JSON each line is an object with the advertisement's keyword,
title and text. -/
theorem read_lines_write (records : List Record) (s : Sink) (h : s.capacity = none) :
    ∃ (bytes : List UInt8) (lines : List (List UInt8)),
      jsonl.write records s = .ok (records.length, { s with written := s.written ++ bytes }) ∧
      bytes.splitOn 0x0a = lines ++ [[]] ∧
      List.Forall₂ (fun r line => line ≠ [] ∧ (∀ b ∈ line, 0x20 ≤ b) ∧
        read? line = some (.object [("keyword", .string r.keyword), ("title", .string r.title),
          ("text", .string r.text)])) records lines := by
  refine ⟨records.flatMap rowBytes, records.map line, Builtin.write_unlimited .jsonl records h,
    splitOn_rowBytes records, ?_⟩
  rw [List.forall₂_map_right_iff, List.forall₂_same]
  exact fun r _ => ⟨line_ne_nil r, fun b hb => le_of_mem_line hb, read?_line r⟩

/-- Quotes, backslashes, line breaks, a control character without a short escape, and
characters of two and four bytes. -/
theorem read_lines_write_escapes :
    let r : Record := ⟨"\"k\"", "a\\b\r\n", "\x01é😀"⟩
    ({} : Sink).capacity = none ∧
    ∃ bytes line, jsonl.write [r] {} = .ok (1, { written := bytes }) ∧
      bytes.splitOn 0x0a = [line, []] ∧ line ≠ [] ∧ (∀ b ∈ line, 0x20 ≤ b) ∧
      read? line = some (.object [("keyword", .string "\"k\""), ("title", .string "a\\b\r\n"),
        ("text", .string "\x01é😀")]) := by
  obtain ⟨bytes, lines, hwrite, hsplit, hlines⟩ :=
    read_lines_write [⟨"\"k\"", "a\\b\r\n", "\x01é😀"⟩] {} rfl
  obtain ⟨line, _, hline, hrest, rfl⟩ := List.forall₂_cons_left_iff.mp hlines
  obtain rfl := List.forall₂_nil_left_iff.mp hrest
  exact ⟨rfl, bytes, line, hwrite, hsplit, hline⟩

end AdTemplates.Format.JsonLines
