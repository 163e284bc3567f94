import SqlCatalog.Bracket
import SqlCatalog.Token.Canonical

/-!
# Fragments of a body

The body of a table definition is a list of fragments, each of which defines a
column or a constraint.  Only commas outside of parentheses divide them.
Fragments keep their place even if they hold nothing; just a last one that
holds nothing is dropped.
-/

namespace SqlCatalog.Fragment

/--
The tokens before the first dividing comma, and the later pieces, of a
sequence whose excess of parentheses so far is `depth`.
-/
def cut (depth : Int) : List Token → List Token × List (List Token)
  | [] => ([], [])
  | token :: rest =>
    let later := cut (depth + Bracket.weight token) rest
    if token = "," ∧ depth = 0 then ([], later.1 :: later.2)
    else (token :: later.1, later.2)

/-- The pieces between dividing commas, of which there is at least one. -/
def pieces (body : List Token) : List (List Token) :=
  (cut 0 body).1 :: (cut 0 body).2

/-- The list without its last fragment if that one holds nothing. -/
def dropEmptyLast (fragments : List (List Token)) : List (List Token) :=
  if fragments.getLast? = some [] then fragments.dropLast else fragments

/-- The fragments of a body. -/
def split (body : List Token) : List (List Token) :=
  dropEmptyLast ((pieces body).map Token.trim)

example :
    split ["a", "(", ",", ")", ",", " ", ",", " "] =
      [["a", "(", ",", ")"], []] := by
  decide

end SqlCatalog.Fragment
