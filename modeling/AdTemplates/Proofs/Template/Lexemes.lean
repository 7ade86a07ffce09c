import AdTemplates.Proofs.Template.Dependence

/-! The tokens of a template as pieces cut out of its text. One behind the other, counted in
bytes, they cover it from its beginning to its end. At each place a token is longer than
anything else that could be read there as a token, so it is known by how it is written and by
what stands behind it, and a text has no other pieces of this kind. -/
namespace AdTemplates.Template

/-- What a token stands for in a template. -/
inductive Kind where
  | keyword
  | capitalizedKeyword
  | openBracket
  | text
  deriving DecidableEq, Repr

/-- A piece of a text, with the byte offsets of its first byte and of the byte after it. -/
@[ext] structure Lexeme where
  kind : Kind
  slice : String
  start : Nat
  stop : Nat
  deriving DecidableEq, Repr

def Token.kind : Token → Kind
  | .placeholder ⟨.asIs, _⟩ => .keyword
  | .placeholder ⟨.capitalized, _⟩ => .capitalizedKeyword
  | .openBracket => .openBracket
  | .text _ => .text

def Token.Span.lexeme (s : Token.Span) : Lexeme :=
  ⟨s.token.kind, String.ofList s.token.slice, s.start, s.stop⟩

/-- The tokens of a text as pieces of it. -/
def lexemes (source : String) : List Lexeme := (Token.spans source).map Token.Span.lexeme

namespace Kind

/-- What a token can be written with. -/
def Writes : Kind → String → Prop
  | keyword, slice => slice = "[k]" ∨ slice = "[key]"
  | capitalizedKeyword, slice => slice = "[K]" ∨ slice = "[Key]"
  | openBracket, slice => slice = "["
  | text, slice => slice ≠ "" ∧ '[' ∉ slice.toList

/-- What can stand behind a token. With it a bracket of its own begins no placeholder, and a
text goes on up to the next bracket or the end. -/
def EndsBefore : Kind → String → Prop
  | openBracket, after => ∀ p ∈ Placeholder.texts, ¬ p.toList <+: '[' :: after.toList
  | text, after => after = "" ∨ after.toList.head? = some '['
  | _, _ => True

end Kind

namespace Lexeme

/-- The piece of a text between what stands before and what stands behind it. It begins and
ends between two characters. -/
structure CutFrom (l : Lexeme) (source before after : String) : Prop where
  source_eq : source = before ++ l.slice ++ after
  start_eq : l.start = before.utf8ByteSize
  stop_eq : l.stop = (before ++ l.slice).utf8ByteSize

/-- A piece that is written as a token is and ends where that token ends. -/
def StandsIn (l : Lexeme) (source : String) : Prop :=
  ∃ before after, l.CutFrom source before after ∧ l.kind.Writes l.slice ∧ l.kind.EndsBefore after

/-- Whatever else can be read as a token where a piece begins is shorter. -/
def IsLongest (l : Lexeme) (source : String) : Prop :=
  ∀ before after, l.CutFrom source before after →
    ∀ (kind : Kind) (other rest : String), other ++ rest = l.slice ++ after → kind.Writes other →
      other.length < l.slice.length ∨ kind = l.kind ∧ other = l.slice

end Lexeme

/-- Pieces one behind the other, from one byte to another. -/
def Contiguous : Nat → List Lexeme → Nat → Prop
  | start, [], stop => start = stop
  | start, l :: more, stop => l.start = start ∧ Contiguous l.stop more stop

/-- Pieces that make up a text and are tokens where they stand. -/
structure Tiles (source : String) (pieces : List Lexeme) : Prop where
  contiguous : Contiguous 0 pieces source.utf8ByteSize
  standsIn : ∀ l ∈ pieces, l.StandsIn source

variable {source slice other after rest : String} {kind : Kind} {l m : Lexeme}

namespace Kind

/-- A token is written with a placeholder, with a bracket, or with neither in it. -/
theorem Writes.cases (h : kind.Writes slice) :
    (∃ p : Placeholder, slice.toList = p.spelling ∧ kind = (Token.placeholder p).kind) ∨
      (kind = .openBracket ∧ slice.toList = ['[']) ∨
      (kind = .text ∧ slice.toList ≠ [] ∧ '[' ∉ slice.toList) := by
  cases kind with
  | keyword =>
    rcases h with rfl | rfl
    · exact .inl ⟨⟨.asIs, false⟩, rfl, rfl⟩
    · exact .inl ⟨⟨.asIs, true⟩, rfl, rfl⟩
  | capitalizedKeyword =>
    rcases h with rfl | rfl
    · exact .inl ⟨⟨.capitalized, false⟩, rfl, rfl⟩
    · exact .inl ⟨⟨.capitalized, true⟩, rfl, rfl⟩
  | openBracket => exact .inr (.inl ⟨rfl, by rw [h]; rfl⟩)
  | text => exact .inr (.inr ⟨rfl, fun hnil => h.1 (String.toList_eq_nil_iff.mp hnil), h.2⟩)

theorem writes_placeholder (p : Placeholder) :
    (Token.placeholder p).kind.Writes (String.ofList p.spelling) := by
  obtain ⟨_ | _, _ | _⟩ := p
  · exact .inl rfl
  · exact .inr rfl
  · exact .inl rfl
  · exact .inr rfl

theorem endsBefore_placeholder (p : Placeholder) (after : String) :
    (Token.placeholder p).kind.EndsBefore after := by
  obtain ⟨_ | _, _⟩ := p <;> exact trivial

theorem endsBefore_openBracket_iff :
    Kind.openBracket.EndsBefore after ↔
      ∀ p : Placeholder, ¬ p.spelling <+: '[' :: after.toList := by
  have h := Placeholder.exists_spelling_iff (· <+: '[' :: after.toList)
  rw [← not_exists, h, EndsBefore]
  simp only [not_exists, not_and]

theorem Writes.ne_nil (h : kind.Writes slice) : slice.toList ≠ [] := by
  rcases h.cases with ⟨p, hslice, _⟩ | ⟨_, hslice⟩ | ⟨_, hne, _⟩
  · rw [hslice]
    exact p.spelling_ne_nil
  · rw [hslice]
    exact List.cons_ne_nil _ _
  · exact hne

theorem Writes.head?_eq_iff (h : kind.Writes slice) :
    slice.toList.head? = some '[' ↔ kind ≠ .text := by
  rcases h.cases with ⟨p, hslice, hkind⟩ | ⟨hkind, hslice⟩ | ⟨hkind, _, hplain⟩
  · obtain ⟨inner, hp, _⟩ := p.exists_spelling
    rw [hslice, hp, hkind]
    obtain ⟨_ | _, _ | _⟩ := p <;> exact iff_of_true rfl (by decide)
  · rw [hslice, hkind]
    exact iff_of_true rfl (by decide)
  · exact iff_of_false (fun hhead => hplain (List.mem_of_mem_head? hhead)) (not_not.mpr hkind)

/-- A text that goes on up to the next bracket or the end is the longest one. -/
theorem shorter_or_eq_of_text (h : Kind.text.EndsBefore after) (hother : '[' ∉ other.toList)
    (heq : other ++ rest = slice ++ after) : other.length < slice.length ∨ other = slice := by
  have hlists : slice.toList ++ after.toList = other.toList ++ rest.toList := by
    rw [← String.toList_append, ← String.toList_append, heq]
  rcases List.append_eq_append_iff.mp hlists with ⟨more, hmore, hafter⟩ | ⟨more, hmore, _⟩
  · cases more with
    | nil =>
      rw [List.append_nil] at hmore
      exact .inr (String.toList_inj.mp hmore)
    | cons c more =>
      -- What the other piece holds beyond this one would begin with a bracket.
      rcases h with hnil | hbracket
      · rw [hnil] at hafter
        cases hafter
      · rw [hafter, List.cons_append, List.head?_cons, Option.some.injEq] at hbracket
        rw [hmore, hbracket] at hother
        exact absurd (List.mem_append_right _ List.mem_cons_self) hother
  · cases more with
    | nil =>
      rw [List.append_nil] at hmore
      exact .inr (String.toList_inj.mp hmore.symm)
    | cons c more =>
      refine .inl ?_
      rw [← String.length_toList, ← String.length_toList, hmore, List.length_append,
        List.length_cons]
      omega

/-- A placeholder is longer than its bracket, and a bracket of its own begins none. -/
theorem shorter_or_eq_of_bracket {k : Kind} (h : kind.Writes slice) (hends : kind.EndsBefore after)
    (hother : k.Writes other) (hkind : kind ≠ .text) (hk : k ≠ .text)
    (heq : other ++ rest = slice ++ after) :
    other.length < slice.length ∨ k = kind ∧ other = slice := by
  have hlists : other.toList ++ rest.toList = slice.toList ++ after.toList := by
    rw [← String.toList_append, ← String.toList_append, heq]
  rcases h.cases with ⟨p, hslice, hp⟩ | ⟨rfl, hslice⟩ | ⟨htext, _⟩
  · rcases hother.cases with ⟨q, hq, hkq⟩ | ⟨_, hq⟩ | ⟨htext, _⟩
    · have hbegins : q.spelling <+: slice.toList ++ after.toList :=
        ⟨rest.toList, by rw [← hlists, hq]⟩
      obtain rfl := Placeholder.unique hbegins ⟨after.toList, by rw [hslice]⟩
      exact .inr ⟨hkq.trans hp.symm, String.toList_inj.mp (hq.trans hslice.symm)⟩
    · refine .inl ?_
      rw [← String.length_toList, ← String.length_toList, hq, hslice]
      obtain ⟨_ | _, _ | _⟩ := p <;> decide
    · exact absurd htext hk
  · rcases hother.cases with ⟨q, hq, _⟩ | ⟨rfl, hq⟩ | ⟨htext, _⟩
    · rw [hslice, hq] at hlists
      exact absurd ⟨rest.toList, hlists⟩ (endsBefore_openBracket_iff.mp hends q)
    · exact .inr ⟨rfl, String.toList_inj.mp (hq.trans hslice.symm)⟩
    · exact absurd htext hk
  · exact absurd htext hkind

theorem Writes.shorter_or_eq {k : Kind} (h : kind.Writes slice) (hends : kind.EndsBefore after)
    (hother : k.Writes other) (heq : other ++ rest = slice ++ after) :
    other.length < slice.length ∨ k = kind ∧ other = slice := by
  have hhead : other.toList.head? = slice.toList.head? := by
    rw [← List.head?_append_of_ne_nil _ hother.ne_nil, ← List.head?_append_of_ne_nil _ h.ne_nil,
      ← String.toList_append, ← String.toList_append, heq]
  have hsame : k ≠ .text ↔ kind ≠ .text := by
    rw [← hother.head?_eq_iff, ← h.head?_eq_iff, hhead]
  by_cases hkind : kind = .text
  · have hk : k = .text := not_not.mp fun hk => hsame.mp hk hkind
    subst hkind hk
    exact (shorter_or_eq_of_text hends hother.2 heq).imp_right (⟨rfl, ·⟩)
  · exact shorter_or_eq_of_bracket h hends hother hkind (hsame.mpr hkind) heq

end Kind

/-! ### Pieces at one place -/

namespace Lexeme

theorem CutFrom.eq_of_start {before more : String} (h : l.CutFrom source before after)
    (hm : m.CutFrom source more rest) (hstart : l.start = m.start) :
    before = more ∧ l.slice ++ after = m.slice ++ rest := by
  have hsource : before ++ (l.slice ++ after) = more ++ (m.slice ++ rest) := by
    rw [← String.append_assoc, ← String.append_assoc, ← h.source_eq, hm.source_eq]
  have hsize : before.utf8ByteSize = more.utf8ByteSize := by rw [← h.start_eq, hstart, hm.start_eq]
  have hbytes := congrArg String.toByteArray hsource
  rw [String.toByteArray_append, String.toByteArray_append] at hbytes
  obtain rfl : before = more :=
    String.toByteArray_inj.mp (ByteArray.append_inj_left hbytes hsize)
  exact ⟨rfl, (String.append_right_inj before).mp hsource⟩

theorem StandsIn.isLongest (h : l.StandsIn source) : l.IsLongest source := by
  obtain ⟨before, after, hcut, hwrites, hends⟩ := h
  intro before' after' hcut' kind other rest heq hother
  obtain ⟨_, hslice⟩ := hcut.eq_of_start hcut' rfl
  exact hwrites.shorter_or_eq hends hother (heq.trans hslice.symm)

/-- Each of two tokens at one place is the longest. -/
theorem StandsIn.unique (h : l.StandsIn source) (hm : m.StandsIn source)
    (hstart : l.start = m.start) : l = m := by
  obtain ⟨before, after, hcut, hwrites, hends⟩ := h
  obtain ⟨_, rest, hcut', hwrites', hends'⟩ := hm
  obtain ⟨rfl, heq⟩ := hcut.eq_of_start hcut' hstart
  have hsame : m.kind = l.kind ∧ m.slice = l.slice := by
    rcases hwrites.shorter_or_eq hends hwrites' heq.symm with hlt | hsame
    · rcases hwrites'.shorter_or_eq hends' hwrites heq with hgt | hsame
      · exact absurd hlt (Nat.lt_asymm hgt)
      · exact ⟨hsame.1.symm, hsame.2.symm⟩
    · exact hsame
  have hstop : l.stop = m.stop := by rw [hcut.stop_eq, hcut'.stop_eq, hsame.2]
  exact Lexeme.ext hsame.1.symm hsame.2.symm hstart hstop

theorem StandsIn.start_lt (h : l.StandsIn source) : l.start < source.utf8ByteSize := by
  obtain ⟨before, after, hcut, hwrites, _⟩ := h
  have hslice : l.slice.utf8ByteSize ≠ 0 := fun hzero =>
    hwrites.ne_nil (String.toList_eq_nil_iff.mpr (String.utf8ByteSize_eq_zero_iff.mp hzero))
  rw [hcut.start_eq, hcut.source_eq, String.utf8ByteSize_append, String.utf8ByteSize_append]
  omega

end Lexeme

theorem Contiguous.unique {pieces others : List Lexeme} {start : Nat}
    (h : Contiguous start pieces source.utf8ByteSize) (hstands : ∀ l ∈ pieces, l.StandsIn source)
    (hothers : Contiguous start others source.utf8ByteSize)
    (hstands' : ∀ l ∈ others, l.StandsIn source) : pieces = others := by
  induction pieces generalizing start others with
  | nil =>
    cases others with
    | nil => rfl
    | cons m more =>
      have hlt := (hstands' m List.mem_cons_self).start_lt
      rw [hothers.1, show start = source.utf8ByteSize from h] at hlt
      exact absurd hlt (Nat.lt_irrefl _)
  | cons l pieces ih =>
    cases others with
    | nil =>
      have hlt := (hstands l List.mem_cons_self).start_lt
      rw [h.1, show start = source.utf8ByteSize from hothers] at hlt
      exact absurd hlt (Nat.lt_irrefl _)
    | cons m more =>
      rw [List.forall_mem_cons] at hstands hstands'
      obtain rfl := hstands.1.unique hstands'.1 (h.1.trans hothers.1.symm)
      rw [ih h.2 hstands.2 hothers.2 hstands'.2]

/-! ### The tokens of a text -/

/-- Tokens that are written, and end, as they should and make up a text. -/
inductive Tiled : List Token → List Char → Prop where
  | nil : Tiled [] []
  | cons (t : Token) {more : List Token} {rest : List Char}
      (hwrites : t.kind.Writes (String.ofList t.slice))
      (hends : t.kind.EndsBefore (String.ofList rest)) (h : Tiled more rest) :
      Tiled (t :: more) (t.slice ++ rest)

theorem Tiled.consText {c : Char} {tokens : List Token} {cs : List Char} (h : Tiled tokens cs)
    (hc : c ≠ '[') : Tiled (Token.consText c tokens) (c :: cs) := by
  have hwrites (run : List Char) (hrun : '[' ∉ run) :
      Kind.text.Writes (String.ofList (c :: run)) := by
    refine ⟨fun hempty => ?_, ?_⟩
    · have hnil := congrArg String.toList hempty
      rw [String.toList_ofList] at hnil
      cases hnil
    · rw [String.toList_ofList, List.mem_cons, not_or]
      exact ⟨hc.symm, hrun⟩
  -- In front of what begins with a bracket the character is a text of its own.
  have halone (hhead : cs = [] ∨ cs.head? = some '[') : Tiled (.text [c] :: tokens) (c :: cs) := by
    refine .cons (.text [c]) (hwrites [] List.not_mem_nil) ?_ h
    rcases hhead with rfl | hhead
    · exact .inl rfl
    · exact .inr (by rw [String.toList_ofList, hhead])
  cases h with
  | nil => exact halone (.inl rfl)
  | cons t hslice hends h =>
    cases t with
    | placeholder p =>
      obtain ⟨inner, hp, _⟩ := p.exists_spelling
      exact halone (.inr (by rw [Token.slice, hp]; rfl))
    | openBracket => exact halone (.inr rfl)
    | text run =>
      have hrun := hslice.2
      rw [Token.slice, String.toList_ofList] at hrun
      exact .cons (.text (c :: run)) (hwrites run hrun) hends h

theorem tiled_scan (cs : List Char) : Tiled (Token.scan cs) cs := by
  induction cs using readInduction with
  | nil => exact .nil
  | placeholder p rest ih =>
    rw [scan_spelling]
    exact .cons (.placeholder p) (Kind.writes_placeholder p) (Kind.endsBefore_placeholder p _) ih
  | character c rest hnone ih =>
    rw [scan_character hnone]
    split
    · rename_i hc
      subst hc
      have hends : Kind.openBracket.EndsBefore (String.ofList rest) := by
        rw [Kind.endsBefore_openBracket_iff, String.toList_ofList]
        exact hnone
      exact .cons .openBracket rfl hends ih
    · rename_i hc
      exact ih.consText hc

theorem byteLength_eq (cs : List Char) : Token.byteLength cs = (String.ofList cs).utf8ByteSize := by
  induction cs with
  | nil => rfl
  | cons c cs ih =>
    have hsingle : String.ofList (c :: cs) = String.singleton c ++ String.ofList cs := by
      rw [String.singleton_eq_ofList, ← String.ofList_append, List.singleton_append]
    rw [hsingle, String.utf8ByteSize_append, String.utf8ByteSize_singleton, ← ih]
    rfl

theorem Tiled.standsIn {tokens : List Token} {cs : List Char} (h : Tiled tokens cs)
    (before : String) (hsource : source = before ++ String.ofList cs) :
    Contiguous before.utf8ByteSize
        ((Token.spansFrom before.utf8ByteSize tokens).map Token.Span.lexeme)
        source.utf8ByteSize ∧
      ∀ l ∈ (Token.spansFrom before.utf8ByteSize tokens).map Token.Span.lexeme,
        l.StandsIn source := by
  induction h generalizing before with
  | nil =>
    rw [hsource]
    exact ⟨congrArg String.utf8ByteSize String.append_empty.symm,
      fun l hl => absurd hl List.not_mem_nil⟩
  | @cons t more rest hwrites hends h ih =>
    rw [String.ofList_append, ← String.append_assoc] at hsource
    have hstop : before.utf8ByteSize + Token.byteLength t.slice =
        (before ++ String.ofList t.slice).utf8ByteSize := by
      rw [byteLength_eq, String.utf8ByteSize_append]
    obtain ⟨hcontiguous, hstands⟩ := ih _ hsource
    rw [Token.spansFrom, hstop]
    exact ⟨⟨rfl, hcontiguous⟩, List.forall_mem_cons.mpr
      ⟨⟨before, String.ofList rest, ⟨hsource, rfl, rfl⟩, hwrites, hends⟩, hstands⟩⟩

theorem tiles_lexemes (source : String) : Tiles source (lexemes source) := by
  have hsource : source = "" ++ String.ofList source.toList := by
    rw [String.empty_append, String.ofList_toList]
  obtain ⟨hcontiguous, hstands⟩ := (tiled_scan source.toList).standsIn "" hsource
  exact ⟨hcontiguous, hstands⟩

/-- The tokens of a text are the only pieces that cover it from its first byte to its end, one
behind the other, and are each written and ended as a token is. Each of them is the longest
that can be read as a token where it begins. -/
theorem lexemes_eq_iff_tiles (source : String) :
    (∀ pieces, lexemes source = pieces ↔ Tiles source pieces) ∧
      ∀ l ∈ lexemes source, l.IsLongest source := by
  obtain ⟨hcontiguous, hstands⟩ := tiles_lexemes source
  refine ⟨fun pieces => ⟨?_, ?_⟩, fun l hl => (hstands l hl).isLongest⟩
  · rintro rfl
    exact ⟨hcontiguous, hstands⟩
  · intro h
    exact hcontiguous.unique hstands h.contiguous h.standsIn

/-- A half-open placeholder in front of a whole one, and text of several bytes a character. -/
example : lexemes "[ke[k]ж" =
    [⟨.openBracket, "[", 0, 1⟩, ⟨.text, "ke", 1, 3⟩, ⟨.keyword, "[k]", 3, 6⟩,
      ⟨.text, "ж", 6, 8⟩] := by
  decide

end AdTemplates.Template
