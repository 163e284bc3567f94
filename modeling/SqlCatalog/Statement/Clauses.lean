import SqlCatalog.Bracket
import SqlCatalog.Schema.Table
import SqlCatalog.Statement.Header
import SqlCatalog.Statement.Options
import SqlCatalog.Token.Canonical

/-!
# Table definitions cut into clauses

A table definition is a header, a body in parentheses and options.  Faults are
looked for in this order: no body, a body that is never closed, a header
without a name, a malformed comment.
-/

namespace SqlCatalog.Statement

/-- The three parts of a table definition, each without outer blanks. -/
structure Spans where
  /-- The tokens before the body. -/
  header : List Token
  /-- The tokens between the outermost parentheses. -/
  body : List Token
  /-- The tokens behind the body. -/
  options : List Token
deriving DecidableEq, Repr

/-- Cuts a statement at its first parenthesis and the close of that. -/
def spans (statement : List Token) : Except Fault Spans :=
  match position? "(" statement with
  | none => .error .missingBody
  | some start =>
    match Bracket.closing statement start with
    | .error fault => .error fault
    | .ok close =>
      .ok
        { header := Token.trim (statement.take start)
          body := Token.trim ((statement.take close).drop (start + 1))
          options := Token.trim (statement.drop (close + 1)) }

/-- A table without its columns, and the body that defines them. -/
structure Clauses where
  /-- The table with name, comment and options. -/
  table : Table
  /-- The tokens that define the columns. -/
  body : List Token
deriving DecidableEq, Repr

/-- Reads header and options; the body is kept as it is. -/
def Spans.clauses (spans : Spans) : Except Fault Clauses := do
  let name ← tableName spans.header
  let comment ← tableComment spans.options
  return {
    table := {
      name
      comment
      engine := tableEngine spans.options
      charset := tableCharset spans.options
      collation := tableCollation spans.options }
    body := spans.body }

/-- The clauses of a table definition, none for any other statement. -/
def clauses (statement : List Token) : Except Fault (Option Clauses) :=
  if isCreateTable statement then do
    let parts ← spans statement
    let read ← parts.clauses
    return some read
  else .ok none

end SqlCatalog.Statement
