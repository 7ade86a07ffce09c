import AdTemplates.Proofs.Template.Reading
import Mathlib.Data.List.Chain

/-! A template as the text that it was read from. Printed one after the other, with either
spelling for each keyword, the segments of a template are its text; and segments that are
merged as far as they can be and hide no placeholder come back from every such text. -/
namespace AdTemplates.Template

/-- Segments printed one after the other. A keyword may be printed as either placeholder that
inserts it in its way. -/
inductive Spells : List Segment → List Char → Prop where
  | nil : Spells [] []
  | literal (text : String) {more : List Segment} {rest : List Char} (h : Spells more rest) :
      Spells (.literal text :: more) (text.toList ++ rest)
  | keyword (p : Placeholder) {more : List Segment} {rest : List Char} (h : Spells more rest) :
      Spells (.keyword p.casing :: more) (p.spelling ++ rest)

def Segment.isLiteral : Segment → Bool
  | .literal _ => true
  | .keyword _ => false

/-- Segments in which nothing is left to merge, to drop or to insert. -/
structure Canonical (segments : List Segment) : Prop where
  ne_empty : ∀ text, .literal text ∈ segments → text ≠ ""
  apart : segments.IsChain fun a b => ¬ (a.isLiteral = true ∧ b.isLiteral = true)
  plain : ∀ text, .literal text ∈ segments → ∀ p : Placeholder, ¬ p.spelling <:+: text.toList

variable {c : Char} {rest : List Char} {segments more : List Segment} {text : String}

theorem canonical_nil : Canonical [] where
  ne_empty _ h := absurd h List.not_mem_nil
  apart := .nil
  plain _ h := absurd h List.not_mem_nil

theorem canonical_cons_keyword {casing : Casing} :
    Canonical (.keyword casing :: more) ↔ Canonical more := by
  have hmem (text : String) :
      Segment.literal text ∈ .keyword casing :: more ↔ .literal text ∈ more :=
    ⟨fun h => (List.mem_cons.mp h).resolve_left nofun, List.mem_cons_of_mem _⟩
  constructor
  · intro h
    exact {
      ne_empty := fun text htext => h.ne_empty text ((hmem text).mpr htext)
      apart := (List.isChain_cons.mp h.apart).2
      plain := fun text htext => h.plain text ((hmem text).mpr htext) }
  · intro h
    exact {
      ne_empty := fun text htext => h.ne_empty text ((hmem text).mp htext)
      apart := List.isChain_cons.mpr ⟨fun next _ hboth => Bool.noConfusion hboth.1, h.apart⟩
      plain := fun text htext => h.plain text ((hmem text).mp htext) }

theorem canonical_cons_literal :
    Canonical (.literal text :: more) ↔
      text ≠ "" ∧ (∀ p : Placeholder, ¬ p.spelling <:+: text.toList) ∧
        (∀ next ∈ more.head?, next.isLiteral = false) ∧ Canonical more := by
  constructor
  · intro h
    obtain ⟨hnext, hmore⟩ := List.isChain_cons.mp h.apart
    exact ⟨h.ne_empty text List.mem_cons_self, h.plain text List.mem_cons_self,
      fun next hhead => Bool.eq_false_iff.mpr fun hliteral => hnext next hhead ⟨rfl, hliteral⟩, {
        ne_empty := fun other hother => h.ne_empty other (List.mem_cons_of_mem _ hother)
        apart := hmore
        plain := fun other hother => h.plain other (List.mem_cons_of_mem _ hother) }⟩
  · rintro ⟨hempty, hplain, hnext, hmore⟩
    refine ⟨?_, ?_, ?_⟩
    · intro other hother
      rcases List.mem_cons.mp hother with heq | hother
      · cases heq
        exact hempty
      · exact hmore.ne_empty other hother
    · refine List.isChain_cons.mpr ⟨fun next hhead hboth => ?_, hmore.apart⟩
      rw [hnext next hhead] at hboth
      cases hboth.2
    · intro other hother
      rcases List.mem_cons.mp hother with heq | hother
      · cases heq
        exact hplain
      · exact hmore.plain other hother

/-! ### From a text to its segments -/

theorem Spells.consSegment (h : Spells segments rest) :
    Spells (consSegment (.literal (String.ofList [c])) segments) (c :: rest) := by
  have hsingle : c :: rest = (String.ofList [c]).toList ++ rest := by
    rw [String.toList_ofList, List.singleton_append]
  rw [hsingle]
  cases h with
  | nil => exact .literal _ .nil
  | keyword p h => exact .literal _ (.keyword p h)
  | literal text h =>
    rw [← List.append_assoc, ← String.toList_append]
    exact .literal _ h

theorem spells_readChars (cs : List Char) : Spells (readChars cs) cs := by
  induction cs using readInduction with
  | nil => exact .nil
  | placeholder p rest ih =>
    rw [readChars_spelling]
    exact .keyword p ih
  | character c rest hnone ih =>
    rw [readChars_character hnone]
    exact ih.consSegment

/-- A character that begins no placeholder hides none when it is put in front of a literal. -/
private theorem plain_cons (text : String)
    (hnone : ∀ p : Placeholder, ¬ p.spelling <+: c :: rest)
    (htext : text.toList <+: rest) (hplain : ∀ p : Placeholder, ¬ p.spelling <:+: text.toList)
    (p : Placeholder) : ¬ p.spelling <:+: (String.ofList [c] ++ text).toList := by
  rw [String.toList_append, String.toList_ofList, List.singleton_append, List.infix_cons_iff]
  rintro (hbegins | hinside)
  · exact hnone p (hbegins.trans (List.cons_prefix_cons.mpr ⟨rfl, htext⟩))
  · exact hplain p hinside

theorem Canonical.consSegment (h : Canonical segments) (hspells : Spells segments rest)
    (hnone : ∀ p : Placeholder, ¬ p.spelling <+: c :: rest) :
    Canonical (consSegment (.literal (String.ofList [c])) segments) := by
  have hsingle (text : String) : String.ofList [c] ++ text ≠ "" := by
    simp [← String.toList_inj]
  -- In front of anything but a literal the character is a literal of its own.
  have halone (hhead : ∀ next ∈ segments.head?, next.isLiteral = false) :
      Canonical (.literal (String.ofList [c]) :: segments) := by
    have hnothing : ∀ p : Placeholder, ¬ p.spelling <:+: "".toList :=
      fun p hp => p.spelling_ne_nil (List.infix_nil.mp hp)
    have hplain := plain_cons "" hnone List.nil_prefix hnothing
    have hempty := hsingle ""
    rw [String.append_empty] at hplain hempty
    exact canonical_cons_literal.mpr ⟨hempty, hplain, hhead, h⟩
  cases hspells with
  | nil => exact halone fun next hnext => by cases hnext
  | keyword p _ => exact halone fun next hnext => by cases hnext; rfl
  | literal text _ =>
    obtain ⟨_, hplain, hhead, hmore⟩ := canonical_cons_literal.mp h
    exact canonical_cons_literal.mpr
      ⟨hsingle text, plain_cons text hnone (List.prefix_append _ _) hplain, hhead, hmore⟩

theorem canonical_readChars (cs : List Char) : Canonical (readChars cs) := by
  induction cs using readInduction with
  | nil => exact canonical_nil
  | placeholder p rest ih =>
    rw [readChars_spelling]
    exact canonical_cons_keyword.mpr ih
  | character c rest hnone ih =>
    rw [readChars_character hnone]
    exact ih.consSegment (spells_readChars rest) hnone

/-! ### From segments to their text -/

/-- A text that holds no placeholder is one literal. -/
theorem readChars_of_plain {cs : List Char} (hne : cs ≠ [])
    (hplain : ∀ p : Placeholder, ¬ p.spelling <:+: cs) :
    readChars cs = [.literal (String.ofList cs)] := by
  induction cs with
  | nil => exact absurd rfl hne
  | cons c cs ih =>
    have hnone (p : Placeholder) : ¬ p.spelling <+: c :: cs := fun h => hplain p h.isInfix
    rw [readChars_character hnone]
    cases cs with
    | nil => rfl
    | cons d cs =>
      rw [ih (List.cons_ne_nil d cs) fun p h => hplain p (List.infix_cons_iff.mpr (.inr h)),
        Template.consSegment, ← String.ofList_append, List.singleton_append]

theorem readChars_of_spells {cs : List Char} (h : Spells segments cs)
    (hcanonical : Canonical segments) : readChars cs = segments := by
  induction h with
  | nil => rfl
  | keyword p h ih => rw [readChars_spelling, ih (canonical_cons_keyword.mp hcanonical)]
  | literal text h ih =>
    obtain ⟨hempty, hplain, hhead, hmore⟩ := canonical_cons_literal.mp hcanonical
    have hne : text.toList ≠ [] := fun hnil => hempty (String.toList_eq_nil_iff.mp hnil)
    have htext : readChars text.toList = [.literal text] := by
      rw [readChars_of_plain hne hplain, String.ofList_toList]
    have hrest := ih hmore
    cases h with
    | nil => rw [List.append_nil, htext]
    | literal other _ => exact absurd (hhead _ rfl) Bool.noConfusion
    | keyword p _ =>
      rw [readChars_spelling] at hrest
      rw [readChars_append_spelling, htext, List.singleton_append, hrest]

/-- A text is read as the canonical segments that it spells. So the segments of every text are
canonical and spell it, and canonical segments come back from each of their spellings. -/
theorem parse_eq_iff_spells (source : String) (segments : List Segment) :
    parse source = ⟨segments⟩ ↔ Canonical segments ∧ Spells segments source.toList := by
  rw [show parse source = ⟨readChars source.toList⟩ from rfl, mk.injEq]
  constructor
  · rintro rfl
    exact ⟨canonical_readChars _, spells_readChars _⟩
  · rintro ⟨hcanonical, hspells⟩
    exact readChars_of_spells hspells hcanonical

/-- Brackets of their own around and inside placeholders. -/
example : parse "[[K]] [ke[key]" =
    ⟨[.literal "[", .keyword .capitalized, .literal "] [ke", .keyword .asIs]⟩ := by
  decide

end AdTemplates.Template
