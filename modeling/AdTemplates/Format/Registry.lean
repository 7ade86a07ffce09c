import AdTemplates.Format.Delimited
import AdTemplates.Format.JsonLines

/-! The formatters that are known by name, in the order of their names. Registering a
formatter replaces the one of the same name. -/
namespace AdTemplates.Format

/-- Formatters in ascending order of their names, each name once. -/
structure Registry where
  formatters : List Formatter

namespace Registry

/-- No formatter at all. -/
def empty : Registry := ⟨[]⟩

/-- Puts a formatter at its place among sorted ones. -/
def insertSorted (f : Formatter) : List Formatter → List Formatter
  | [] => [f]
  | g :: more =>
    if f.name = g.name then f :: more
    else if f.name < g.name then f :: g :: more
    else g :: insertSorted f more

/-- Makes a formatter known under its name. -/
def register (r : Registry) (f : Formatter) : Registry := ⟨insertSorted f r.formatters⟩

/-- The formatter of a name. -/
def get? (r : Registry) (name : String) : Option Formatter :=
  r.formatters.find? (·.name = name)

private theorem find?_insertSorted (f : Formatter) (name : String) (formatters : List Formatter) :
    (insertSorted f formatters).find? (·.name = name) =
      if f.name = name then some f else formatters.find? (·.name = name) := by
  induction formatters with
  | nil => by_cases h : f.name = name <;> simp [insertSorted, h]
  | cons g more ih =>
    unfold insertSorted
    split
    · rename_i hg
      by_cases h : f.name = name
      · simp [h]
      · simp [h, hg ▸ h]
    · split
      · by_cases h : f.name = name <;> simp [h]
      · rename_i hg _
        by_cases hn : g.name = name
        · have : f.name ≠ name := fun h => hg (h.trans hn.symm)
          simp [hn, this]
        · simp [hn, ih]

/-- A name that has just been registered belongs to its formatter, and every other name to
the one that it had. -/
theorem get?_register (r : Registry) (f : Formatter) (name : String) :
    (r.register f).get? name = if f.name = name then some f else r.get? name :=
  find?_insertSorted f name r.formatters

/-- The names of all formatters, in ascending order. -/
def names (r : Registry) : List String := r.formatters.map (·.name)

/-- Comma- and tab-separated rows and JSON lines. -/
def defaults : Registry :=
  ((empty.register Delimited.csv).register Delimited.tsv).register JsonLines.jsonl

/-- Writes advertisements by the formatter of a name. -/
def write (r : Registry) (name : String) (records : List Record) (sink : Sink) :
    Except Error (Nat × Sink) :=
  match r.get? name with
  | none => .error (.formatNotFound name)
  | some f => f.write records sink

end Registry
end AdTemplates.Format
