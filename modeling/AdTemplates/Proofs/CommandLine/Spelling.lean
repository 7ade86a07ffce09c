import AdTemplates.CommandLine.Arguments
import Mathlib.Data.List.TakeWhile

/-! What spells an item of a command line. A path is a word of its own. An option has a long name,
most have a letter, letters may share a hyphen, and a value follows in the same word or in the next
one. Whatever the spelling, reading the words does what adding the items one by one does. -/
namespace AdTemplates.CommandLine

open Text.Utf8 (encode)

/-- What can be asked for on a command line. -/
inductive Item where
  | path (p : Path)
  | flag (f : Flag)
  | setting (s : Setting) (value : Word)
  deriving DecidableEq, Repr

/-- What can stand for a path or a value in a word of its own. -/
def IsValue (v : Word) : Prop := v ≠ [] ∧ v.head? ≠ some hyphen

instance (v : Word) : Decidable (IsValue v) := inferInstanceAs (Decidable (_ ∧ _))

def Item.IsProper : Item → Prop
  | .path p => IsValue p.bytes
  | .flag _ => True
  | .setting _ value => IsValue value

/-- The letter of a flag, if it has one. -/
def Flag.letter? : Flag → Option Char
  | .skipLong => some 's'
  | .verbose => some 'v'
  | .strict | .listFormats => none

def Setting.letter : Setting → Char
  | .format => 'f'
  | .config => 'c'

/-- A name as the word of a long option. -/
def longWord (name : String) : Word := hyphen :: hyphen :: encode name

/-- Letters behind one hyphen, and the words that come after it for them. The last letter may be
that of an option with a value, which stands right behind it, behind an equals sign or in the next
word. -/
inductive Cluster : List Item → Word → List Word → Prop where
  | nil : Cluster [] [] []
  | flag {f : Flag} {c : Char} {items : List Item} {letters : Word} {after : List Word}
      (hletter : f.letter? = some c) (more : Cluster items letters after) :
      Cluster (.flag f :: items) (c.toUInt8 :: letters) after
  | apart (s : Setting) {v : Word} (hv : IsValue v) :
      Cluster [.setting s v] [s.letter.toUInt8] [v]
  | equals (s : Setting) {v : Word} (hv : IsValue v) :
      Cluster [.setting s v] (s.letter.toUInt8 :: CommandLine.equals :: v) []
  | attached (s : Setting) {v : Word} (hv : IsValue v)
      (hequals : v.head? ≠ some CommandLine.equals) :
      Cluster [.setting s v] (s.letter.toUInt8 :: v) []

/-- The words that spell items, in this order. -/
inductive Spells : List Item → List Word → Prop where
  | nil : Spells [] []
  | path {p : Path} {items : List Item} {words : List Word} (hp : IsValue p.bytes)
      (more : Spells items words) : Spells (.path p :: items) (p.bytes :: words)
  | flag (f : Flag) {items : List Item} {words : List Word} (more : Spells items words) :
      Spells (.flag f :: items) (longWord f.name :: words)
  | apart (s : Setting) {v : Word} {items : List Item} {words : List Word} (hv : IsValue v)
      (more : Spells items words) :
      Spells (.setting s v :: items) (longWord s.name :: v :: words)
  | equals (s : Setting) {v : Word} {items : List Item} {words : List Word} (hv : IsValue v)
      (more : Spells items words) :
      Spells (.setting s v :: items) ((longWord s.name ++ CommandLine.equals :: v) :: words)
  | letters {first items : List Item} {c : UInt8} {letters : Word}
      {after words : List Word} (hfirst : Cluster first (c :: letters) after)
      (more : Spells items words) :
      Spells (first ++ items) ((hyphen :: c :: letters) :: (after ++ words))

theorem Cluster.isProper {items : List Item} {letters : Word} {after : List Word}
    (h : Cluster items letters after) : ∀ item ∈ items, item.IsProper := by
  induction h with
  | nil => exact List.forall_mem_nil _
  | flag _ _ ih => exact List.forall_mem_cons.mpr ⟨trivial, ih⟩
  | apart _ hv | equals _ hv | attached _ hv => exact List.forall_mem_singleton.mpr hv

theorem Spells.isProper {items : List Item} {words : List Word} (h : Spells items words) :
    ∀ item ∈ items, item.IsProper := by
  induction h with
  | nil => exact List.forall_mem_nil _
  | path hp _ ih => exact List.forall_mem_cons.mpr ⟨hp, ih⟩
  | flag _ _ ih => exact List.forall_mem_cons.mpr ⟨trivial, ih⟩
  | apart _ hv _ ih | equals _ hv _ ih => exact List.forall_mem_cons.mpr ⟨hv, ih⟩
  | letters hfirst _ ih => exact List.forall_mem_append.mpr ⟨hfirst.isProper, ih⟩

section Shapes

variable {v : Word}

theorem shape_value (h : IsValue v) : Shape.ofWord v = .plain v := by
  obtain ⟨hne, hhead⟩ := h
  cases v with
  | nil => exact absurd rfl hne
  | cons first rest =>
    have hfirst : first ≠ hyphen := fun heq => hhead (congrArg some heq)
    cases rest with
    | nil => rfl
    | cons second rest => exact if_pos hfirst

theorem shape_letters {c : UInt8} (hc : c ≠ hyphen) (letters : Word) :
    Shape.ofWord (hyphen :: c :: letters) = .short (c :: letters) := by
  rw [Shape.ofWord, if_neg (not_not_intro rfl), if_pos hc]

/-- The name of a long option is neither empty nor does it contain an equals sign. -/
def IsLongName (name : String) : Prop := encode name ≠ [] ∧ (encode name).all (· != equals) = true

theorem Flag.isLongName (f : Flag) : IsLongName f.name := by
  cases f <;> exact ⟨by decide, by decide⟩

theorem Setting.isLongName (s : Setting) : IsLongName s.name := by
  cases s <;> exact ⟨by decide, by decide⟩

theorem shape_longWord {name : String} (h : IsLongName name) :
    Shape.ofWord (longWord name) = .long (encode name) none := by
  rw [longWord, Shape.ofWord, if_neg (not_not_intro rfl), if_neg (not_not_intro rfl), if_neg h.1,
    Shape.ofLong, List.dropWhile_eq_nil_iff.mpr (List.all_eq_true.mp h.2)]

theorem shape_equals {name : String} (h : IsLongName name) (v : Word) :
    Shape.ofWord (longWord name ++ equals :: v) = .long (encode name) (some v) := by
  have hname : ∀ b ∈ encode name, (b != equals) = true := List.all_eq_true.mp h.2
  have hdrop : (encode name ++ equals :: v).dropWhile (· != equals) = equals :: v := by
    rw [List.dropWhile_append_of_pos hname, List.dropWhile_cons_of_neg (by simp)]
  have htake : (encode name ++ equals :: v).takeWhile (· != equals) = encode name := by
    rw [List.takeWhile_append_of_pos hname, List.takeWhile_cons_of_neg (by simp), List.append_nil]
  rw [longWord, List.cons_append, List.cons_append, Shape.ofWord, if_neg (not_not_intro rfl),
    if_neg (not_not_intro rfl), if_neg (by simp), Shape.ofLong, hdrop, htake]

theorem ofLong?_flag (f : Flag) : Switch.ofLong? (encode f.name) = some (.flag f) := by
  rw [Switch.ofLong?, Text.Utf8.decode?_encode]
  cases f <;> rfl

theorem ofLong?_setting (s : Setting) : Switch.ofLong? (encode s.name) = some (.setting s) := by
  rw [Switch.ofLong?, Text.Utf8.decode?_encode]
  cases s <;> rfl

theorem ofShort?_letter (s : Setting) : Switch.ofShort? s.letter.toUInt8 = some (.setting s) := by
  cases s <;> rfl

theorem ofShort?_of_letter? {f : Flag} {c : Char} (h : f.letter? = some c) :
    Switch.ofShort? c.toUInt8 = some (.flag f) := by
  cases f <;> cases h <;> rfl

theorem Cluster.first_ne {items : List Item} {c : UInt8} {letters : Word} {after : List Word}
    (h : Cluster items (c :: letters) after) : c ≠ hyphen := by
  cases h with
  | @flag f _ _ _ _ hletter =>
    cases f <;> cases hletter <;> decide
  | apart s | equals s | attached s => cases s <;> decide

end Shapes

namespace Arguments

variable {a : Arguments} {items : List Item} {words rest : List Word}

/-- Adds an item to what has been read. -/
def add (a : Arguments) : Item → Except Stop Arguments
  | .path p => a.addPath p
  | .flag f => a.raise f
  | .setting s value => a.give s value

section Steps

variable {v : Word}

theorem readFrom_path {p : Path} (hp : IsValue p.bytes) :
    a.readFrom none (p.bytes :: rest) = a.addPath p >>= fun b => b.readFrom none rest := by
  conv => lhs; unfold readFrom
  simp only [shape_value hp]
  cases a.addPath p <;> rfl

theorem readFrom_awaited (s : Setting) (hv : IsValue v) :
    a.readFrom (some s) (v :: rest) = a.give s v >>= fun b => b.readFrom none rest := by
  conv => lhs; unfold readFrom
  simp only [shape_value hv]
  cases a.give s v <;> rfl

theorem readFrom_short {word letters : Word} (h : Shape.ofWord word = .short letters) :
    a.readFrom none (word :: rest) =
      a.readLetters letters >>= fun b => b.1.readFrom b.2 rest := by
  conv => lhs; unfold readFrom
  simp only [h]
  cases a.readLetters letters <;> rfl

theorem readFrom_long {word name : Word} {attached : Option Word}
    (h : Shape.ofWord word = .long name attached) :
    a.readFrom none (word :: rest) =
      a.readLong word name attached >>= fun b => b.1.readFrom b.2 rest := by
  conv => lhs; unfold readFrom
  simp only [h]
  cases a.readLong word name attached <;> rfl

theorem readLetters_flag {f : Flag} {c : Char} (h : f.letter? = some c) (letters : Word) :
    a.readLetters (c.toUInt8 :: letters) = a.raise f >>= fun b => b.readLetters letters := by
  simp only [readLetters, ofShort?_of_letter? h]
  cases a.raise f <;> rfl

theorem readLetters_apart (s : Setting) : a.readLetters [s.letter.toUInt8] = .ok (a, some s) := by
  rw [readLetters, ofShort?_letter]

theorem readLetters_equals (s : Setting) (v : Word) :
    a.readLetters (s.letter.toUInt8 :: equals :: v) = a.give s v >>= fun b => .ok (b, none) := by
  rw [readLetters, ofShort?_letter]
  simp only [if_true]
  cases a.give s v <;> rfl

theorem readLetters_attached (s : Setting) (hv : IsValue v) (h : v.head? ≠ some equals) :
    a.readLetters (s.letter.toUInt8 :: v) = a.give s v >>= fun b => .ok (b, none) := by
  rw [readLetters, ofShort?_letter]
  cases v with
  | nil => exact absurd rfl hv.1
  | cons first value =>
    have hfirst : first ≠ equals := fun heq => h (congrArg some heq)
    simp only [if_neg hfirst]
    cases a.give s (first :: value) <;> rfl

theorem readLong_flag (f : Flag) (word : Word) :
    a.readLong word (encode f.name) none = a.raise f >>= fun b => .ok (b, none) := by
  unfold readLong
  simp only [ofLong?_flag]
  cases a.raise f <;> rfl

theorem readLong_apart (s : Setting) (word : Word) :
    a.readLong word (encode s.name) none = .ok (a, some s) := by
  unfold readLong
  simp only [ofLong?_setting]

theorem readLong_equals (s : Setting) (word v : Word) :
    a.readLong word (encode s.name) (some v) = a.give s v >>= fun b => .ok (b, none) := by
  unfold readLong
  simp only [ofLong?_setting]
  cases a.give s v <;> rfl

end Steps

/-- Letters behind a hyphen are read as what they stand for, one by one. -/
theorem readLetters_of_cluster {letters : Word} {after : List Word}
    (h : Cluster items letters after) (a : Arguments) (rest : List Word) :
    (a.readLetters letters >>= fun b => b.1.readFrom b.2 (after ++ rest)) =
      items.foldlM add a >>= fun b => b.readFrom none rest := by
  induction h generalizing a with
  | nil => rfl
  | flag hletter more ih =>
    rw [readLetters_flag hletter, List.foldlM_cons, bind_assoc, bind_assoc]
    exact bind_congr ih
  | apart s hv =>
    rw [readLetters_apart, List.foldlM_cons, bind_assoc]
    exact readFrom_awaited s hv
  | equals s hv =>
    rw [readLetters_equals, List.foldlM_cons, bind_assoc, bind_assoc]
    rfl
  | attached s hv hequals =>
    rw [readLetters_attached s hv hequals, List.foldlM_cons, bind_assoc, bind_assoc]
    rfl

/-- Words are read as what they spell, item by item. -/
theorem readFrom_of_spells (h : Spells items words) (a : Arguments) :
    a.readFrom none words = items.foldlM add a := by
  induction h generalizing a with
  | nil => rfl
  | path hp more ih =>
    rw [readFrom_path hp, List.foldlM_cons]
    exact bind_congr ih
  | flag f more ih =>
    rw [readFrom_long (shape_longWord f.isLongName), readLong_flag, List.foldlM_cons, bind_assoc]
    exact bind_congr ih
  | apart s hv more ih =>
    rw [readFrom_long (shape_longWord s.isLongName), readLong_apart, List.foldlM_cons]
    exact (readFrom_awaited s hv).trans (bind_congr ih)
  | equals s hv more ih =>
    rw [readFrom_long (shape_equals s.isLongName _), readLong_equals, List.foldlM_cons, bind_assoc]
    exact bind_congr ih
  | letters hfirst more ih =>
    rw [readFrom_short (shape_letters hfirst.first_ne _), readLetters_of_cluster hfirst,
      List.foldlM_append]
    exact bind_congr ih

theorem read_of_spells (h : Spells items words) : read words = items.foldlM add {} :=
  readFrom_of_spells h {}

end Arguments

end AdTemplates.CommandLine
