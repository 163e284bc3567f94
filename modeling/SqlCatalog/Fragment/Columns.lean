import SqlCatalog.Fragment.Column

/-!
# Columns and faults of a list of fragments

Every fragment defines a column, is at fault or is of no interest.  Columns
keep the order of the fragments; faults are reported with the place of their
fragment, counted from zero over all fragments.
-/

namespace SqlCatalog.Fragment

/-- The column that a fragment defines, none if it is at fault. -/
def column? (fragment : List Token) : Option Column :=
  match column fragment with
  | .ok found => found
  | .error _ => none

/-- The fault of a fragment. -/
def fault? (fragment : List Token) : Option Fault :=
  match column fragment with
  | .ok _ => none
  | .error fault => some fault

/-- The columns that the fragments define. -/
def columns (fragments : List (List Token)) : List Column :=
  fragments.filterMap column?

/-- The fragments at fault by their places. -/
def faults (fragments : List (List Token)) : List (Nat × Fault) :=
  fragments.zipIdx.filterMap fun (fragment, place) =>
    (fault? fragment).map fun fault => (place, fault)

end SqlCatalog.Fragment
