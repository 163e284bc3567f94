import SqlCatalog.Lexeme.Basic

/-!
# Faults of table definitions

The reasons for which a statement or a column definition is left out.  A
statement that defines no table, and a fragment that defines no column, is not
at fault.
-/

namespace SqlCatalog

/-- Why a statement or a column definition is left out. -/
inductive Fault where
  /-- A literal or comment of the statement is never closed. -/
  | unterminated (token : Unterminated)
  /-- The parenthesis at the given index is never closed. -/
  | unclosedParenthesis (index : Nat)
  /-- The definition has no parenthesized body. -/
  | missingBody
  /-- The header names no table in a known form. -/
  | unrecognizedName
  /-- The comment option is written in no known form. -/
  | malformedComment
  /-- The name of the column is empty. -/
  | emptyColumnName
  /-- The column definition ends after its name. -/
  | bareColumnName (tokens : Nat)
deriving DecidableEq, Repr

namespace Fault

/-- What complaints about a table definition start with. -/
def definitionProblem (problem : String) : String :=
  "Invalid sql create statement: " ++ problem

/-- The wording of the fault. -/
def message : Fault → String
  | unterminated token => "Lexer error: " ++ token.message
  | unclosedParenthesis index =>
    "Unbalanced parentheses: '(' at token " ++ index.repr ++ " is never closed"
  | missingBody => definitionProblem "missing column definitions"
  | unrecognizedName => definitionProblem "unrecognized table name"
  | malformedComment => definitionProblem "malformed table comment"
  | emptyColumnName => definitionProblem "empty column name"
  | bareColumnName tokens =>
    definitionProblem
      ("column definition has " ++ tokens.repr ++ " token(s)")

/-- Whether the fault is an open literal or comment. -/
def isUnterminated : Fault → Bool
  | unterminated _ => true
  | _ => false

end Fault

end SqlCatalog
