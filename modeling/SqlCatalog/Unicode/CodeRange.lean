/-!
# Ranges of code points

Properties of characters are stored as closed ranges of code points.
-/

namespace SqlCatalog.Unicode

/-- A closed range of code points. -/
structure CodeRange where
  /-- The least code point of the range. -/
  first : Nat
  /-- The greatest code point of the range. -/
  last : Nat
deriving DecidableEq, Repr

/-- Whether a code point lies in the range. -/
def CodeRange.contains (range : CodeRange) (code : Nat) : Bool :=
  range.first ≤ code && code ≤ range.last

end SqlCatalog.Unicode
