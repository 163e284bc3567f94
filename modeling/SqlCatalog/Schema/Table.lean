import SqlCatalog.Schema.Column

/-!
# Tables

What is kept of a table definition.  The name of a table may carry the name of
its database in front, divided by a dot; the first dot is taken for the
divider.
-/

namespace SqlCatalog

/-- A table with its options and columns. -/
structure Table where
  /-- The name, without quotes and with its qualifier. -/
  name : String
  /-- The comment. -/
  comment : String := ""
  /-- The storage engine. -/
  engine : String := ""
  /-- The default character set. -/
  charset : String := ""
  /-- The default collation. -/
  collation : String := ""
  /-- The columns in the order of their definition. -/
  columns : List Column := []
deriving DecidableEq, Repr

namespace Table

/-- The first column with the given name. -/
def column? (table : Table) (name : String) : Option Column :=
  table.columns.find? fun column => column.name == name

/-- The names of the columns, in order. -/
def columnNames (table : Table) : List String :=
  table.columns.map Column.name

/-- The part of the name before its first dot. -/
def qualifier? (table : Table) : Option String :=
  if table.name.toList.contains '.' then
    some (String.ofList (table.name.toList.takeWhile (· != '.')))
  else none

/-- The part of the name behind its first dot, or the whole name. -/
def unqualifiedName (table : Table) : String :=
  if table.name.toList.contains '.' then
    String.ofList (table.name.toList.dropWhile (· != '.')).tail
  else table.name

end Table

end SqlCatalog
