import SqlCatalog.Extraction.Diagnostic
import SqlCatalog.Schema.Table

/-!
# Extractions

The result of reading a text: the tables that its statements define, and what
had to be left out of them.
-/

namespace SqlCatalog

/-- Tables, and what was left out of them. -/
structure Extraction where
  /-- The tables in the order of their definition. -/
  tables : List Table
  /-- What was left out, in order. -/
  diagnostics : List Diagnostic
deriving DecidableEq, Repr

namespace Extraction

/-- Whether nothing was left out. -/
def isClean (extraction : Extraction) : Bool :=
  extraction.diagnostics.isEmpty

/-- Whether the table and all its columns have names. -/
def isNamed (table : Table) : Bool :=
  !table.name.isEmpty && table.columns.all fun column => !column.name.isEmpty

/--
Whether an extraction keeps its promises: everything has a name, an open token
is reported at most once and last, and nothing else is reported outside of
statements.
-/
def isConsistent (extraction : Extraction) : Bool :=
  extraction.tables.all isNamed &&
    (extraction.diagnostics.dropLast.all fun diagnostic =>
      !diagnostic.fault.isUnterminated) &&
    (extraction.diagnostics.all fun diagnostic =>
      diagnostic.location != .input || diagnostic.fault.isUnterminated)

end Extraction

end SqlCatalog
