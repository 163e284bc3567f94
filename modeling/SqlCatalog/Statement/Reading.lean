import SqlCatalog.Fragment.Columns
import SqlCatalog.Fragment.Split
import SqlCatalog.Statement.Clauses

/-!
# What a statement is read as

A statement defines a table, fails to do so, or has nothing to do with tables.
A table that is defined keeps the fragments of its body: each of them can be
at fault without harm to the others.
-/

namespace SqlCatalog.Statement

/-- What a statement is read as. -/
inductive Reading where
  /-- The statement defines no table. -/
  | unrelated
  /-- The statement defines a table in a faulty way. -/
  | invalid (fault : Fault)
  /-- The statement defines a table with these fragments in its body. -/
  | definition (header : Table) (fragments : List (List Token))
deriving DecidableEq, Repr

/-- The table of a header with the columns that fragments define. -/
def withColumns (header : Table) (fragments : List (List Token)) : Table :=
  { header with columns := Fragment.columns fragments }

/-- Reads a statement. -/
def read (statement : List Token) : Reading :=
  match clauses statement with
  | .error fault => .invalid fault
  | .ok none => .unrelated
  | .ok (some found) => .definition found.table (Fragment.split found.body)

end SqlCatalog.Statement
