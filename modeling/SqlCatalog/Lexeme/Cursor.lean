import SqlCatalog.Lexeme.Scan
import SqlCatalog.Token.Basic

/-!
# Reading a text as tokens

A text is the concatenation of its lexemes.  A cursor stands at a token
boundary inside a text; it hands out one token at a time or all that are left.
Reading never fails: an open literal or comment runs to the end of the text
and is remembered as a complaint.
-/

namespace SqlCatalog

/-- The lexemes of a text, in order. -/
def lexemes : List Char → List Lexeme
  | [] => []
  | first :: rest =>
    (scan first rest).lexeme :: lexemes (scan first rest).rest
termination_by text => text.length
decreasing_by exact scan_rest_length_lt first rest

/-- The text of a lexeme as a token. -/
def Lexeme.token (lexeme : Lexeme) : Token :=
  String.ofList lexeme.text

/-- Tokens that were read, and the complaint about an open one. -/
structure Lexed where
  /-- The tokens in order. -/
  tokens : List Token
  /-- The literal or comment that was never closed. -/
  fault : Option Unterminated
deriving DecidableEq, Repr

/-- A place between two tokens of a text. -/
structure Cursor where
  /-- The text that is still to be read. -/
  rest : List Char
  /-- The number of bytes read so far. -/
  position : Nat
  /-- The literal or comment met so far that was never closed. -/
  fault : Option Unterminated
deriving DecidableEq, Repr

namespace Cursor

/-- The cursor at the start of a text. -/
def start (sql : String) : Cursor where
  rest := sql.toList
  position := 0
  fault := none

/-- The next token and the cursor behind it. -/
def next? (cursor : Cursor) : Option (Token × Cursor) :=
  match cursor.rest with
  | [] => none
  | first :: rest =>
    let scanned := scan first rest
    some (scanned.lexeme.token,
      { rest := scanned.rest
        position := cursor.position + byteLength scanned.lexeme.text
        fault := scanned.lexeme.fault? cursor.position <|> cursor.fault })

/-- All the tokens that are left. -/
def drain (cursor : Cursor) : Lexed where
  tokens := (lexemes cursor.rest).map Lexeme.token
  fault :=
    Lexeme.lastFault? cursor.position (lexemes cursor.rest) <|> cursor.fault

end Cursor

/-- The tokens of a text. -/
def tokenize (sql : String) : Lexed :=
  (Cursor.start sql).drain

@[simp]
theorem lexemes_nil : lexemes [] = [] := by
  rw [lexemes]

theorem lexemes_cons (first : Char) (rest : List Char) :
    lexemes (first :: rest) =
      (scan first rest).lexeme :: lexemes (scan first rest).rest := by
  rw [lexemes]

/-- The lexemes of a text give back the text. -/
theorem lexemes_flatMap_text (text : List Char) :
    (lexemes text).flatMap Lexeme.text = text := by
  fun_induction lexemes text with
  | case1 => rfl
  | case2 first rest hypothesis =>
    rw [List.flatMap_cons, hypothesis]
    exact scan_append first rest

/-- A text has no empty lexemes. -/
theorem text_ne_nil_of_mem_lexemes {text : List Char} {lexeme : Lexeme}
    (member : lexeme ∈ lexemes text) :
    lexeme.text ≠ [] := by
  fun_induction lexemes text with
  | case1 => cases member
  | case2 first rest hypothesis =>
    cases member with
    | head => exact scan_text_ne_nil first rest
    | tail _ later => exact hypothesis later

/-- At the end of the text nothing is left and the complaint is final. -/
theorem Cursor.drain_of_next?_none {cursor : Cursor}
    (finished : cursor.next? = none) :
    cursor.drain = ⟨[], cursor.fault⟩ := by
  rcases cursor with ⟨rest, position, fault⟩
  cases rest with
  | nil => simp [drain, Lexeme.lastFault?]
  | cons first rest => simp [next?] at finished

/-- Taking one token leaves exactly the tokens behind it. -/
theorem Cursor.drain_of_next?_some {cursor later : Cursor} {token : Token}
    (step : cursor.next? = some (token, later)) :
    cursor.drain = ⟨token :: later.drain.tokens, later.drain.fault⟩ := by
  rcases cursor with ⟨rest, position, fault⟩
  cases rest with
  | nil => simp [next?] at step
  | cons first rest =>
    simp only [next?, Option.some.injEq, Prod.mk.injEq] at step
    obtain ⟨rfl, rfl⟩ := step
    simp [drain, lexemes_cons, Lexeme.lastFault?, Option.or_assoc]

end SqlCatalog
