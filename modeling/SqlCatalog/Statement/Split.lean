import SqlCatalog.Lexeme.Cursor
import SqlCatalog.Token.Canonical

/-!
# Statements of a token sequence

Semicolons end statements wherever they stand, parentheses included, since a
semicolon inside quotes is never a token of its own.  Statements that hold
nothing but a blank are dropped.
-/

namespace SqlCatalog.Statement

/-- The tokens before the first semicolon, and the later chunks. -/
def cut : List Token → List Token × List (List Token)
  | [] => ([], [])
  | token :: rest =>
    let later := cut rest
    if token = ";" then ([], later.1 :: later.2)
    else (token :: later.1, later.2)

/-- The chunks between semicolons, of which there is at least one. -/
def chunks (tokens : List Token) : List (List Token) :=
  (cut tokens).1 :: (cut tokens).2

/-- The statements of a canonical token sequence. -/
def split (tokens : List Token) : List (List Token) :=
  ((chunks tokens).map Token.trim).filter fun statement => !statement.isEmpty

/-- The tokens behind the last semicolon. -/
def tail (tokens : List Token) : List Token :=
  (tokens.reverse.takeWhile (· != ";")).reverse

/-- The canonical tokens of a text, taken for a single statement. -/
def ofText (sql : String) : List Token :=
  Token.trim (Token.normalize 0 (tokenize sql).tokens)

@[simp]
theorem chunks_nil : chunks [] = [[]] := rfl

/-- Chunks joined by semicolons split where they were joined. -/
theorem chunks_append_semicolon (front back : List Token) :
    chunks (front ++ ";" :: back) = chunks front ++ chunks back := by
  induction front with
  | nil => rfl
  | cons token rest hypothesis =>
    simp only [chunks, List.cons_append, List.cons.injEq] at hypothesis ⊢
    rw [cut, cut]
    by_cases semicolon : token = ";"
    · simp [semicolon, hypothesis.1, hypothesis.2]
    · simp [semicolon, hypothesis.1, hypothesis.2]

/-- Statements on both sides of a semicolon are found independently. -/
theorem split_append_semicolon (front back : List Token) :
    split (front ++ ";" :: back) = split front ++ split back := by
  simp [split, chunks_append_semicolon]

end SqlCatalog.Statement
