import SqlCatalog.Unicode.CodeRange

/-!
# The Unicode property White_Space

The property as a table of closed ranges of code points, stable since
Unicode 6.3.  It is wider than the blanks that separate tokens, which are
plain ASCII: a token may consist of White_Space characters although the
scanner took it for a word.
-/

namespace SqlCatalog.Unicode

/-- The code points with the property White_Space, ascending and apart. -/
def whiteSpaceRanges : List CodeRange :=
  [⟨0x0009, 0x000D⟩, ⟨0x0020, 0x0020⟩, ⟨0x0085, 0x0085⟩, ⟨0x00A0, 0x00A0⟩,
    ⟨0x1680, 0x1680⟩, ⟨0x2000, 0x200A⟩, ⟨0x2028, 0x2029⟩, ⟨0x202F, 0x202F⟩,
    ⟨0x205F, 0x205F⟩, ⟨0x3000, 0x3000⟩]

/-- Whether a character has the property White_Space. -/
def isWhiteSpace (char : Char) : Bool :=
  whiteSpaceRanges.any fun range => range.contains char.toNat

example : isWhiteSpace '\u200b' = false := by decide

end SqlCatalog.Unicode
