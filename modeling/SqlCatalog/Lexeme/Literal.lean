import SqlCatalog.Lexeme.Scan

/-!
# The grammar of literals

What stands between the marks of a literal is a sequence of pieces: a
character on its own, a doubled mark, or a backslash with the character it
takes along.  The grammar is stated on the pieces, apart from the reader that
looks for the closing mark.
-/

namespace SqlCatalog.Literal

/-- A piece of the text between two marks. -/
inductive Piece where
  /-- A character that stands for itself. -/
  | plain (char : Char)
  /-- A doubled mark. -/
  | doubled
  /-- A backslash and the character that it takes along. -/
  | escaped (char : Char)
deriving DecidableEq, Repr

namespace Piece

/-- Whether a piece may stand between the marks of a delimiter. -/
def Allowed (delimiter : Delimiter) : Piece → Prop
  | plain char =>
    char ≠ delimiter.mark ∧ (delimiter.escapes = true → char ≠ '\\')
  | doubled => True
  | escaped _ => delimiter.escapes = true

/-- How a piece is written. -/
def written (delimiter : Delimiter) : Piece → List Char
  | plain char => [char]
  | doubled => [delimiter.mark, delimiter.mark]
  | escaped char => ['\\', char]

/-- What a piece stands for; a backslash is kept. -/
def value (delimiter : Delimiter) : Piece → List Char
  | plain char => [char]
  | doubled => [delimiter.mark]
  | escaped char => ['\\', char]

end Piece

/-- The text of a sequence of pieces. -/
def written (delimiter : Delimiter) (pieces : List Piece) : List Char :=
  pieces.flatMap (Piece.written delimiter)

/-- The value of a sequence of pieces. -/
def value (delimiter : Delimiter) (pieces : List Piece) : List Char :=
  pieces.flatMap (Piece.value delimiter)

end SqlCatalog.Literal
