import SqlCatalog.Fault

/-!
# Diagnostics

A diagnostic tells what was left out and why.  Statements are counted from
zero among those that are not empty, fragments from zero within their body.
-/

namespace SqlCatalog

/-- The place of something that was left out. -/
inductive Location where
  /-- Outside of every statement. -/
  | input
  /-- A statement. -/
  | statement (number : Nat)
  /-- A fragment of a statement's body. -/
  | column (statement fragment : Nat)
deriving DecidableEq, Repr

/-- The wording of a place. -/
def Location.display : Location → String
  | input => "input"
  | statement number => "statement " ++ number.repr
  | column number fragment =>
    "statement " ++ number.repr ++ ", fragment " ++ fragment.repr

/-- Something that was left out. -/
structure Diagnostic where
  /-- Where it stands. -/
  location : Location
  /-- What is wrong with it. -/
  fault : Fault
deriving DecidableEq, Repr

/-- The wording of a diagnostic. -/
def Diagnostic.display (diagnostic : Diagnostic) : String :=
  diagnostic.location.display ++ ": " ++ diagnostic.fault.message

end SqlCatalog
