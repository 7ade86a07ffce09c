import AdTemplates.Number.Binary64

/-! Nodes of YAML documents. Plain scalars become numbers, booleans or nothing where their
text or tag says so, and texts otherwise; keys of a mapping differ from one another. -/
namespace AdTemplates.Yaml

/-- A tag with its handle resolved. -/
structure Tag where
  handle : String
  suffix : String
  deriving DecidableEq, Repr

/-- `invalid` stands for a scalar that does not fit its tag. A real number is kept as it was
written. -/
inductive Node where
  | null
  | invalid
  | boolean (b : Bool)
  | integer (n : Int)
  | real (text : String)
  | string (text : String)
  | sequence (items : List Node)
  | mapping (entries : List (Node × Node))
  deriving Repr

namespace Node

mutual
/-- Whether two nodes are the same. The order of entries counts. -/
def same : Node → Node → Bool
  | .null, .null => true
  | .invalid, .invalid => true
  | .boolean b, .boolean b' => b == b'
  | .integer n, .integer n' => n == n'
  | .real text, .real text' => text == text'
  | .string text, .string text' => text == text'
  | .sequence items, .sequence items' => sameItems items items'
  | .mapping entries, .mapping entries' => sameEntries entries entries'
  | _, _ => false

def sameItems : List Node → List Node → Bool
  | [], [] => true
  | v :: more, v' :: more' => same v v' && sameItems more more'
  | _, _ => false

def sameEntries : List (Node × Node) → List (Node × Node) → Bool
  | [], [] => true
  | (key, v) :: more, (key', v') :: more' => same key key' && same v v' && sameEntries more more'
  | _, _ => false
end

mutual
theorem same_iff : (v w : Node) → (same v w = true ↔ v = w)
  | .null, w | .invalid, w | .boolean _, w | .integer _, w | .real _, w | .string _, w => by
    cases w <;> simp [same]
  | .sequence items, w => by
    cases w <;> simp [same, sameItems_iff items]
  | .mapping entries, w => by
    cases w <;> simp [same, sameEntries_iff entries]

theorem sameItems_iff :
    (items others : List Node) → (sameItems items others = true ↔ items = others)
  | [], others => by
    cases others <;> simp [sameItems]
  | v :: more, others => by
    cases others <;> simp [sameItems, same_iff v, sameItems_iff more]

theorem sameEntries_iff :
    (entries others : List (Node × Node)) → (sameEntries entries others = true ↔ entries = others)
  | [], others => by
    cases others <;> simp [sameEntries]
  | (key, v) :: more, others => by
    cases others <;>
      simp [sameEntries, same_iff key, same_iff v, sameEntries_iff more, Prod.ext_iff]
end

instance : BEq Node := ⟨same⟩

instance : LawfulBEq Node where
  eq_of_beq h := (same_iff _ _).mp h
  rfl := (same_iff _ _).mpr rfl

/-- Whether a plain text is a real number: the words for infinity and the like, or any
decimal literal. -/
def isReal (text : String) : Bool :=
  [".inf", ".Inf", ".INF", "+.inf", "+.Inf", "+.INF", "-.inf", "-.Inf", "-.INF", ".nan", "NaN",
    ".NAN"].contains text || (Number.Binary64.read? text.toList).isSome

/-- The integer that a plain text is: hexadecimal, octal or decimal. -/
def integer? (cs : List Char) : Option Int :=
  let marked :=
    match cs with
    | '0' :: 'x' :: digits => Number.int64? 16 digits
    | '0' :: 'o' :: digits => Number.int64? 8 digits
    | '+' :: digits => Number.int64? 10 digits
    | _ => none
  marked.or (Number.int64? 10 cs)

/-- The meaning of a plain scalar without a tag. -/
def ofPlain (text : String) : Node :=
  if text = "~" ∨ text = "null" then .null
  else if text = "true" then .boolean true
  else if text = "false" then .boolean false
  else match integer? text.toList with
    | some n => .integer n
    | none => if isReal text then .real text else .string text

/-- The meaning of a plain scalar with a tag. -/
def ofTagged (tag : Tag) (text : String) : Node :=
  if tag.handle ≠ "tag:yaml.org,2002:" then .string text
  else match tag.suffix with
    | "bool" =>
      if text = "true" then .boolean true
      else if text = "false" then .boolean false
      else .invalid
    | "int" => ((Number.int64? 10 text.toList).map Node.integer).getD .invalid
    | "float" => if isReal text then .real text else .invalid
    | "null" => if text = "~" ∨ text = "null" then .null else .invalid
    | _ => .string text

def ofScalar (plain : Bool) (text : String) : Option Tag → Node
  | some tag => if plain then ofTagged tag text else .string text
  | none => if plain then ofPlain text else .string text

/-- Pairs up keys and values that stand in turn. An invalid node is no key, and what comes
next takes its place; a key without a value is dropped. -/
def pairs : List Node → List (Node × Node)
  | [] => []
  | .invalid :: more => pairs more
  | [_] => []
  | key :: value :: more => (key, value) :: pairs more

/-- Whether no key occurs twice. -/
def keysDiffer : List (Node × Node) → Bool
  | [] => true
  | (key, _) :: more => !(more.any (·.1 == key)) && keysDiffer more

theorem keysDiffer_iff {entries : List (Node × Node)} :
    keysDiffer entries = true ↔ (entries.map Prod.fst).Nodup := by
  induction entries with
  | nil => simp [keysDiffer]
  | cons e more ih =>
    obtain ⟨key, v⟩ := e
    rw [keysDiffer, List.map_cons, List.nodup_cons, Bool.and_eq_true, ih]
    refine and_congr_left fun _ => ?_
    simp only [Bool.not_eq_true', List.any_eq_false, beq_iff_eq, List.mem_map, not_exists, not_and]

/-- The mapping of keys and values that stand in turn. -/
def ofPairs? (nodes : List Node) : Option Node :=
  if keysDiffer (pairs nodes) then some (.mapping (pairs nodes)) else none

end Node
end AdTemplates.Yaml
