import SqlCatalog.Extraction.Basic
import SqlCatalog.Statement.Reading

/-!
# Reports

A report records the outcome of every statement of a text.  Tables and
diagnostics are two views of it, which together make up the extraction.
-/

namespace SqlCatalog

/-- The outcome of one statement. -/
inductive Outcome where
  /-- The statement was not read, since it holds an open token. -/
  | unterminated (token : Unterminated)
  /-- The statement was read. -/
  | read (reading : Statement.Reading)
deriving DecidableEq, Repr

namespace Outcome

/-- The table that a statement defines. -/
def table? : Outcome → Option Table
  | read (.definition header fragments) =>
    some (Statement.withColumns header fragments)
  | _ => none

/-- What was left out of the statement with the given number. -/
def diagnostics (statement : Nat) : Outcome → List Diagnostic
  | unterminated token => [⟨.statement statement, .unterminated token⟩]
  | read .unrelated => []
  | read (.invalid fault) => [⟨.statement statement, fault⟩]
  | read (.definition _ fragments) =>
    (Fragment.faults fragments).map fun (fragment, fault) =>
      ⟨.column statement fragment, fault⟩

end Outcome

/-- The record of an extraction. -/
structure Report where
  /-- The number of tokens of the text. -/
  tokenCount : Nat
  /-- The number of canonical tokens, if there were tokens enough. -/
  canonicalCount : Option Nat
  /-- The outcomes of the statements, in order. -/
  outcomes : List Outcome
  /-- An open token that belongs to no statement. -/
  dangling : Option Unterminated
deriving DecidableEq, Repr

namespace Report

/-- The tables that were found, in order. -/
def tables (report : Report) : List Table :=
  report.outcomes.filterMap Outcome.table?

/-- What was left out, in order; what belongs to no statement comes last. -/
def diagnostics (report : Report) : List Diagnostic :=
  (report.outcomes.zipIdx.flatMap fun (outcome, statement) =>
      outcome.diagnostics statement) ++
    (report.dangling.map fun token =>
      Diagnostic.mk .input (.unterminated token)).toList

/-- The tables that were found, and what was left out. -/
def extraction (report : Report) : Extraction where
  tables := report.tables
  diagnostics := report.diagnostics

end Report

end SqlCatalog
