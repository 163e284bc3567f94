import SqlCatalog.Extraction.Report
import SqlCatalog.Statement.Split

/-!
# Extraction

An extractor reads a text of SQL statements and yields the tables that they
define along with what was left out.  It never fails.  An open literal or
comment spoils the statement that holds it, which can only be the last one;
if no statement holds it, it is reported on its own.
-/

namespace SqlCatalog

/-- An extractor and its setting. -/
structure Extractor where
  /-- The number of tokens below which a text is taken to hold nothing. -/
  minTokens : Nat := 10
deriving DecidableEq, Repr

namespace Extractor

/--
The number of the statement that holds the last token, none if that token
stands behind the last statement.
-/
def lastStatement? (tokens : List Token) : Option Nat :=
  if (Token.trim (Statement.tail tokens)).isEmpty then none
  else
    match (Statement.split tokens).length with
    | 0 => none
    | before + 1 => some before

/-- The outcome of a statement, given the number of the spoiled one. -/
def outcome (broken : Option (Nat × Unterminated)) (statement : List Token)
    (number : Nat) : Outcome :=
  match broken with
  | some (place, token) =>
    if number = place then .unterminated token
    else .read (Statement.read statement)
  | none => .read (Statement.read statement)

/-- Reads a text and records the outcome of every statement. -/
def report (extractor : Extractor) (sql : String) : Report :=
  let lexed := tokenize sql
  let tokens := Token.normalize extractor.minTokens lexed.tokens
  let broken := lexed.fault.bind fun token =>
    (lastStatement? tokens).map fun place => (place, token)
  { tokenCount := lexed.tokens.length
    canonicalCount :=
      if lexed.tokens.length < extractor.minTokens then none
      else some tokens.length
    outcomes :=
      (Statement.split tokens).zipIdx.map fun (statement, number) =>
        outcome broken statement number
    dangling := if broken.isSome then none else lexed.fault }

/-- The tables of a text, and what was left out. -/
def extract (extractor : Extractor) (sql : String) : Extraction :=
  (extractor.report sql).extraction

/-- The extraction of a text if it keeps its promises. -/
def checked? (extractor : Extractor) (sql : String) : Option Extraction :=
  let extraction := extractor.extract sql
  if extraction.isConsistent then some extraction else none

end Extractor

end SqlCatalog
