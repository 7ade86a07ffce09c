import AdTemplates.Proofs.Text.Scan

/-! The tokens of a JSON text. Strings are read as they are meant, with their escapes
undone; all other text between punctuation is left as words. -/
namespace AdTemplates.Json

open Text (scan scan_cons scan_append)

/-- A part of a JSON text. -/
inductive Token where
  | openObject
  | closeObject
  | openArray
  | closeArray
  | comma
  | colon
  | string (s : String)
  | word (literal : List Char)
  deriving DecidableEq, Repr

/-- The token of a character that is one by itself. -/
def Token.ofChar? (c : Char) : Option Token :=
  if c = '\x7b' then some .openObject
  else if c = '\x7d' then some .closeObject
  else if c = '[' then some .openArray
  else if c = ']' then some .closeArray
  else if c = ',' then some .comma
  else if c = ':' then some .colon
  else none

/-- Whether a character may stand between tokens. -/
def isSpace (c : Char) : Bool := c = ' ' || c = '\t' || c = '\n' || c = '\r'

/-- The value of a hexadecimal digit. -/
def hexValue? (c : Char) : Option Nat :=
  if '0' ≤ c ∧ c ≤ '9' then some (c.toNat - '0'.toNat)
  else if 'a' ≤ c ∧ c ≤ 'f' then some (c.toNat - 'a'.toNat + 10)
  else if 'A' ≤ c ∧ c ≤ 'F' then some (c.toNat - 'A'.toNat + 10)
  else none

/-- What a backslash and this character stand for. -/
def unescape? (c : Char) : Option Char :=
  if c = '"' ∨ c = '\\' ∨ c = '/' then some c
  else if c = 'b' then some '\x08'
  else if c = 'f' then some '\x0c'
  else if c = 'n' then some '\n'
  else if c = 'r' then some '\r'
  else if c = 't' then some '\t'
  else none

/-- The character of a number. -/
def charOf? (n : Nat) : Option Char := if n.isValidChar then some (Char.ofNat n) else none

/-- The text of these numbers. Numbers of characters stand for themselves, and others come
in pairs of a high and a low surrogate. -/
def textOf? : List Nat → Option (List Char)
  | [] => some []
  | n :: rest =>
    match charOf? n with
    | some c => (textOf? rest).map (c :: ·)
    | none =>
      match rest with
      | [] => none
      | low :: rest =>
        if 0xd800 ≤ n ∧ n < 0xdc00 ∧ 0xdc00 ≤ low ∧ low < 0xe000 then
          (textOf? rest).map (Char.ofNat (0x10000 + (n - 0xd800) * 0x400 + (low - 0xdc00)) :: ·)
        else none

/-- Where a lexer is: between tokens, in a word, in a string, after a backslash in it, or
among the four digits of an escape. A string is held by the numbers of its characters. -/
inductive Place where
  | between
  | word (held : List Char)
  | string (held : List Nat)
  | escape (held : List Nat)
  | digits (held : List Nat) (count value : Nat)
  deriving DecidableEq, Repr

/-- The tokens that have been read, and where the reading is. -/
structure Lexer where
  tokens : List Token := []
  place : Place := .between
  deriving DecidableEq, Repr

namespace Lexer

/-- Reads a character after these tokens. -/
def start (tokens : List Token) (c : Char) : Lexer :=
  if isSpace c then ⟨tokens, .between⟩
  else if c = '"' then ⟨tokens, .string []⟩
  else match Token.ofChar? c with
    | some t => ⟨tokens ++ [t], .between⟩
    | none => ⟨tokens, .word [c]⟩

/-- Reads a character. A string holds no raw control character. -/
def step (l : Lexer) (c : Char) : Option Lexer :=
  match l.place with
  | .between => some (start l.tokens c)
  | .word held =>
    if isSpace c || c = '"' || (Token.ofChar? c).isSome then
      some (start (l.tokens ++ [.word held]) c)
    else some ⟨l.tokens, .word (held ++ [c])⟩
  | .string held =>
    if c = '"' then (textOf? held).map fun s => ⟨l.tokens ++ [.string (.ofList s)], .between⟩
    else if c = '\\' then some ⟨l.tokens, .escape held⟩
    else if c.toNat < 0x20 then none
    else some ⟨l.tokens, .string (held ++ [c.toNat])⟩
  | .escape held =>
    if c = 'u' then some ⟨l.tokens, .digits held 0 0⟩
    else (unescape? c).map fun e => ⟨l.tokens, .string (held ++ [e.toNat])⟩
  | .digits held count value =>
    (hexValue? c).map fun v =>
      if count < 3 then ⟨l.tokens, .digits held (count + 1) (16 * value + v)⟩
      else ⟨l.tokens, .string (held ++ [16 * value + v])⟩

/-- The tokens, if the text may end here. -/
def finish (l : Lexer) : Option (List Token) :=
  match l.place with
  | .between => some l.tokens
  | .word held => some (l.tokens ++ [.word held])
  | _ => none

end Lexer

/-- The tokens of a text. -/
def tokens? (text : List Char) : Option (List Token) :=
  (scan Lexer.step {} text).bind Lexer.finish

theorem charOf?_toNat (c : Char) : charOf? c.toNat = some c := by
  have hvalid : c.toNat.isValidChar := c.valid
  rw [charOf?, if_pos hvalid, Char.ofNat_toNat]

theorem textOf?_cons {n : Nat} {c : Char} (rest : List Nat) (h : charOf? n = some c) :
    textOf? (n :: rest) = (textOf? rest).map (c :: ·) := by
  rw [textOf?.eq_def]
  simp only [h]

/-- Characters that are held by their numbers are the text. -/
theorem textOf?_map_toNat (s : List Char) : textOf? (s.map Char.toNat) = some s := by
  induction s with
  | nil => rfl
  | cons c s ih =>
    rw [List.map_cons, textOf?_cons _ (charOf?_toNat c), ih, Option.map_some]

namespace Lexer

variable {tokens : List Token} {held : List Nat}

theorem step_character {c : Char} (hquote : c ≠ '"') (hbackslash : c ≠ '\\')
    (hcontrol : ¬ c.toNat < 0x20) :
    step ⟨tokens, .string held⟩ c = some ⟨tokens, .string (held ++ [c.toNat])⟩ := by
  simp only [step, if_neg hquote, if_neg hbackslash, if_neg hcontrol]

/-- A backslash and a character after it. -/
theorem scan_escape {c e : Char} (hc : c ≠ 'u') (h : unescape? c = some e) :
    scan step ⟨tokens, .string held⟩ ['\\', c] =
      some ⟨tokens, .string (held ++ [e.toNat])⟩ := by
  have hstep : step ⟨tokens, .escape held⟩ c = some ⟨tokens, .string (held ++ [e.toNat])⟩ := by
    simp only [step, if_neg hc, h, Option.map_some]
  have hbackslash : step ⟨tokens, .string held⟩ '\\' = some ⟨tokens, .escape held⟩ := rfl
  rw [scan_cons [c] hbackslash, scan_cons [] hstep, Text.scan_nil]

theorem step_digit {c : Char} {v count value : Nat} (h : hexValue? c = some v)
    (hcount : count < 3) :
    step ⟨tokens, .digits held count value⟩ c =
      some ⟨tokens, .digits held (count + 1) (16 * value + v)⟩ := by
  simp only [step, h, Option.map_some, if_pos hcount]

theorem step_lastDigit {c : Char} {v value : Nat} (h : hexValue? c = some v) :
    step ⟨tokens, .digits held 3 value⟩ c =
      some ⟨tokens, .string (held ++ [16 * value + v])⟩ := by
  simp only [step, h, Option.map_some, if_neg (Nat.lt_irrefl 3)]

/-- A character by its number in hexadecimal. -/
theorem scan_digits {a b c d : Char} {w x y z : Nat} (ha : hexValue? a = some w)
    (hb : hexValue? b = some x) (hc : hexValue? c = some y) (hd : hexValue? d = some z) :
    scan step ⟨tokens, .string held⟩ ['\\', 'u', a, b, c, d] =
      some ⟨tokens, .string (held ++ [[w, x, y, z].foldl (16 * · + ·) 0])⟩ := by
  have hbackslash : step ⟨tokens, .string held⟩ '\\' = some ⟨tokens, .escape held⟩ := rfl
  have hu : step ⟨tokens, .escape held⟩ 'u' = some ⟨tokens, .digits held 0 0⟩ := rfl
  rw [scan_cons _ hbackslash, scan_cons _ hu, scan_cons _ (step_digit ha (by decide)),
    scan_cons _ (step_digit hb (by decide)), scan_cons _ (step_digit hc (by decide)),
    scan_cons _ (step_lastDigit hd)]
  rfl

theorem step_closing {s : List Char} (h : textOf? held = some s) :
    step ⟨tokens, .string held⟩ '"' = some ⟨tokens ++ [.string (.ofList s)], .between⟩ := by
  simp only [step, if_pos, h, Option.map_some]

end Lexer

/-- Between tokens this text is read as these tokens. -/
def Writes (text : List Char) (tokens : List Token) : Prop :=
  ∀ before : List Token,
    scan Lexer.step ⟨before, .between⟩ text = some ⟨before ++ tokens, .between⟩

namespace Writes

variable {text rest : List Char} {tokens more : List Token}

theorem nil : Writes [] [] := fun before => by rw [Text.scan_nil, List.append_nil]

theorem append (h : Writes text tokens) (hrest : Writes rest more) :
    Writes (text ++ rest) (tokens ++ more) := fun before => by
  rw [scan_append rest (h before), hrest, List.append_assoc]

/-- A character that is a token by itself. -/
theorem cons {c : Char} {t : Token}
    (hc : ∀ before, Lexer.start before c = ⟨before ++ [t], .between⟩)
    (h : Writes text tokens) : Writes (c :: text) (t :: tokens) := fun before => by
  have hstep : Lexer.step ⟨before, .between⟩ c = some ⟨before ++ [t], .between⟩ :=
    congrArg some (hc before)
  rw [scan_cons text hstep, h, List.append_assoc, List.singleton_append]

theorem tokens?_eq (h : Writes text tokens) : tokens? text = some tokens := by
  have hscan : scan Lexer.step {} text = some ⟨tokens, .between⟩ := h []
  rw [tokens?, hscan]
  rfl

end Writes
end AdTemplates.Json
