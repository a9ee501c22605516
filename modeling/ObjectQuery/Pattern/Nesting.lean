/-!
How deep the parts of a pattern lie in one another. Parts that stand side by side make one level
more than the deepest of them, and a part that stands alone makes none.
-/
namespace ObjectQuery.Pattern

/-- Parts side by side: how many, and how deep the deepest is. -/
structure Row where
  count : Nat := 0
  deepest : Nat := 0
  deriving DecidableEq, Repr

namespace Row

def add (r : Row) (depth : Nat) : Row := ⟨r.count + 1, max r.deepest depth⟩

def depth (r : Row) : Nat := if r.count ≤ 1 then r.deepest else r.deepest + 1

end Row

end ObjectQuery.Pattern
