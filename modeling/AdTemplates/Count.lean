/-! Counts as reports show them: natural numbers with a largest value, at which sums and
products stay. -/
namespace AdTemplates.Count

/-- The largest count. -/
def max : Nat := Nat.pow 2 64 - 1

/-- A sum, or the largest count if the sum is beyond it. -/
def add (a b : Nat) : Nat := min (a + b) max

/-- A product, or the largest count if the product is beyond it. -/
def mul (a b : Nat) : Nat := min (a * b) max

/-- The number of combinations of so many keywords, titles and texts. -/
def product (keywords titles texts : Nat) : Nat := mul (mul keywords titles) texts

end AdTemplates.Count
