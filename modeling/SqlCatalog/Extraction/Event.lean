import SqlCatalog.Extraction.Report
import SqlCatalog.Json.Basic

/-!
# The log of an extraction

Reading a text leaves a log: the count of tokens, one event for each statement
and one for each column that was left out, in the order of the text.  Like
tables and diagnostics, the log is a view of the report.
-/

namespace SqlCatalog

/-- The weight of an event. -/
inductive Level where
  | trace
  | debug
  | warn
deriving DecidableEq, Repr

/-- The name of a level in a log. -/
def Level.display : Level → String
  | trace => "TRACE"
  | debug => "DEBUG"
  | warn => "WARN"

/-- An event of an extraction. -/
inductive Event where
  /-- The tokens were brought into canonical form. -/
  | normalized (tokens canonical : Nat)
  /-- A statement holds an open token. -/
  | unterminatedStatement (statement : Nat) (token : Unterminated)
  /-- An open token stands behind the last statement. -/
  | unterminatedInput (token : Unterminated)
  /-- A statement defines no table. -/
  | unrelatedStatement (statement : Nat)
  /-- A statement defines a table in a faulty way. -/
  | invalidStatement (statement : Nat) (fault : Fault)
  /-- A fragment defines a column in a faulty way. -/
  | invalidColumn (statement fragment : Nat) (table : String) (fault : Fault)
  /-- A table was found. -/
  | parsedTable (statement : Nat) (table : String) (columns : Nat)
deriving DecidableEq, Repr

namespace Event

/-- The weight of an event. -/
def level : Event → Level
  | normalized .. => .trace
  | unterminatedStatement .. => .warn
  | unterminatedInput .. => .warn
  | unrelatedStatement .. => .debug
  | invalidStatement .. => .warn
  | invalidColumn .. => .warn
  | parsedTable .. => .debug

/-- The wording of an event. -/
def message : Event → String
  | normalized .. => "normalized tokens"
  | unterminatedStatement .. => "skipping unterminated statement"
  | unterminatedInput .. => "unterminated token after the last statement"
  | unrelatedStatement .. => "skipping statement that is not CREATE TABLE"
  | invalidStatement .. => "skipping invalid statement"
  | invalidColumn .. => "skipping invalid column"
  | parsedTable .. => "parsed table"

/-- The details of an event. -/
def fields : Event → List (String × Json)
  | normalized tokens canonical =>
    [("raw", .integer tokens), ("normalized", .integer canonical)]
  | unterminatedStatement statement token =>
    [("statement", .integer statement), ("error", .string token.message)]
  | unterminatedInput token => [("error", .string token.message)]
  | unrelatedStatement statement => [("statement", .integer statement)]
  | invalidStatement statement fault =>
    [("statement", .integer statement), ("error", .string fault.message)]
  | invalidColumn statement fragment table fault =>
    [("statement", .integer statement), ("fragment", .integer fragment),
      ("table", .string table), ("error", .string fault.message)]
  | parsedTable statement table columns =>
    [("statement", .integer statement), ("table", .string table),
      ("columns", .integer columns)]

end Event

/-- The events of the statement with the given number. -/
def Outcome.events (statement : Nat) : Outcome → List Event
  | unterminated token => [.unterminatedStatement statement token]
  | read .unrelated => [.unrelatedStatement statement]
  | read (.invalid fault) => [.invalidStatement statement fault]
  | read (.definition header fragments) =>
    ((Fragment.faults fragments).map fun (fragment, fault) =>
        Event.invalidColumn statement fragment header.name fault) ++
      [.parsedTable statement header.name (Fragment.columns fragments).length]

/-- The log of an extraction, in order. -/
def Report.events (report : Report) : List Event :=
  (report.canonicalCount.map fun canonical =>
      Event.normalized report.tokenCount canonical).toList ++
    (report.outcomes.zipIdx.flatMap fun (outcome, statement) =>
      outcome.events statement) ++
    (report.dangling.map Event.unterminatedInput).toList

end SqlCatalog
