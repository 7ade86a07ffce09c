/-! Splitting into lines, for any alphabet with a newline and a carriage return.
A line ends at a newline, which may follow a carriage return; what stands after the
last newline is a line of its own unless it is empty. -/
namespace AdTemplates.Text

variable {α : Type} [DecidableEq α]

/-- Puts a symbol in front of the first line. -/
def consFirst (a : α) : List (List α) → List (List α)
  | [] => [[a]]
  | line :: more => (a :: line) :: more

/-- The lines of a text. A carriage return belongs to the line end only when a
newline follows it directly. -/
def splitLines (newline ret : α) : List α → List (List α)
  | [] => []
  | [a] => if a = newline then [[]] else [[a]]
  | a :: b :: rest =>
    if a = newline then [] :: splitLines newline ret (b :: rest)
    else if a = ret ∧ b = newline then [] :: splitLines newline ret rest
    else consFirst a (splitLines newline ret (b :: rest))

/-- The lines of a string. -/
def lines (s : String) : List String :=
  (splitLines '\n' '\r' s.toList).map String.ofList

end AdTemplates.Text
