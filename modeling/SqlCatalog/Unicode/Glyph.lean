import SqlCatalog.Unicode.GlyphTable

/-!
# Characters that show themselves

A character with a glyph of its own can be quoted in a message as it is.  Any
other would vanish, or change the look of its neighbours, and has to be spelled
out by its code point.
-/

namespace SqlCatalog.Unicode

/-- Whether a character shows something of its own where it stands. -/
def hasGlyph (char : Char) : Bool :=
  !glyphlessRanges.any fun range => range.contains char.toNat

example : hasGlyph 'é' = true ∧ hasGlyph '\u0301' = false := by
  decide +kernel

example : hasGlyph ' ' = true ∧ hasGlyph '\u00a0' = false := by
  decide +kernel

end SqlCatalog.Unicode
