import SqlCatalog.Schema.Table
import SqlCatalog.Token.Quoting

/-!
# Tables as SQL

The definition of a table as SQL text.  Names stand in backticks, comments and
defaults in apostrophes, and what is empty is left out.
-/

namespace SqlCatalog

/-- A key with its value, nothing if the value is empty. -/
def bareClause (key value : String) : String :=
  if value.isEmpty then "" else key ++ value

/-- A key with its value as a literal, nothing if the value is empty. -/
def literalClause (key value : String) : String :=
  if value.isEmpty then "" else key ++ Token.quote .apostrophe value

/-- A keyword, nothing if it does not apply. -/
def flagClause (keyword : String) (applies : Bool) : String :=
  if applies then keyword else ""

/-- The definition of a column. -/
def Column.render (column : Column) : String :=
  Token.quote .backtick column.name ++ " " ++ column.dataType ++
    bareClause " CHARACTER SET " column.charset ++
    bareClause " COLLATE " column.collation ++
    flagClause " NOT NULL" column.notNull ++
    flagClause " AUTO_INCREMENT" column.autoIncrement ++
    literalClause " DEFAULT " column.defaultValue ++
    literalClause " COMMENT " column.comment

namespace Table

/-- The definition of a table. -/
def render (table : Table) : String :=
  "CREATE TABLE " ++ Token.quote .backtick table.name ++ " (" ++
    ", ".intercalate (table.columns.map Column.render) ++ ")" ++
    bareClause " ENGINE=" table.engine ++
    bareClause " CHARSET=" table.charset ++
    bareClause " COLLATE=" table.collation ++
    literalClause " COMMENT=" table.comment

/-- The definitions of several tables, divided by semicolons. -/
def renderAll (tables : List Table) : String :=
  ";".intercalate (tables.map render)

end Table

end SqlCatalog
