/-!
# Columns

What is kept of a column definition.  A text is empty when its clause is
absent.
-/

namespace SqlCatalog

/-- A column of a table. -/
structure Column where
  /-- The name, without quotes. -/
  name : String
  /-- The declared type. -/
  dataType : String := ""
  /-- The default: a literal's value, an expression or a keyword. -/
  defaultValue : String := ""
  /-- The comment. -/
  comment : String := ""
  /-- Whether the column is declared never to be null. -/
  notNull : Bool := false
  /-- Whether the column is numbered automatically. -/
  autoIncrement : Bool := false
  /-- The character set. -/
  charset : String := ""
  /-- The collation. -/
  collation : String := ""
deriving DecidableEq, Repr

namespace Column

/-- Whether a default value is known. -/
def hasDefault (column : Column) : Bool :=
  !column.defaultValue.isEmpty

/-- Whether the column may be null. -/
def isNullable (column : Column) : Bool :=
  !column.notNull

end Column

end SqlCatalog
