import SqlCatalog.Token.Delimiter

/-!
# Lexemes

A lexeme is a piece of text together with the class under which it was read.
Literals and block comments can be left open by the end of the text, and the
class records whether they were closed.  Positions count the bytes of the
UTF-8 encoding, so the length of a lexeme is measured in bytes.
-/

namespace SqlCatalog

/-- The blanks that separate tokens. -/
def isSeparator (char : Char) : Bool :=
  [' ', '\t', '\n', '\x0c', '\r'].contains char

/-- The characters of words: letters, digits, two signs and all but ASCII. -/
def isWordChar (char : Char) : Bool :=
  char.isAlphanum || char == '_' || char == '$' || 0x80 ≤ char.toNat

/-- The length of the UTF-8 encoding of a text. -/
def byteLength : List Char → Nat
  | [] => 0
  | char :: text => char.utf8Size + byteLength text

@[simp]
theorem byteLength_nil : byteLength [] = 0 := rfl

@[simp]
theorem byteLength_cons (char : Char) (text : List Char) :
    byteLength (char :: text) = char.utf8Size + byteLength text := rfl

@[simp]
theorem byteLength_append (front back : List Char) :
    byteLength (front ++ back) = byteLength front + byteLength back := by
  induction front with
  | nil => simp
  | cons char front hypothesis => simp [hypothesis, Nat.add_assoc]

/-- A literal or block comment that the text never closes, by position. -/
inductive Unterminated where
  | literal (position : Nat)
  | comment (position : Nat)
deriving DecidableEq, Repr

namespace Unterminated

/-- The byte offset at which the open token starts. -/
def position : Unterminated → Nat
  | literal position => position
  | comment position => position

/-- The wording of the complaint. -/
def message : Unterminated → String
  | literal position =>
    "Unterminated string literal starting at position " ++ position.repr
  | comment position =>
    "Unterminated block comment starting at position " ++ position.repr

end Unterminated

/-- The class of a lexeme. -/
inductive Lexeme.Kind where
  | literal (delimiter : Delimiter) (closed : Bool)
  | lineComment
  | blockComment (closed : Bool)
  | blank
  | word
  | symbol
deriving DecidableEq, Repr

/-- A piece of text with the class under which it was read. -/
structure Lexeme where
  /-- The class. -/
  kind : Lexeme.Kind
  /-- The piece of text. -/
  text : List Char
deriving DecidableEq, Repr

namespace Lexeme

/-- The complaint about a lexeme that starts at the given position. -/
def fault? (position : Nat) (lexeme : Lexeme) : Option Unterminated :=
  match lexeme.kind with
  | .literal _ false => some (.literal position)
  | .blockComment false => some (.comment position)
  | _ => none

/--
The last complaint about the lexemes of a text that starts at the given
position.
-/
def lastFault? : Nat → List Lexeme → Option Unterminated
  | _, [] => none
  | position, lexeme :: rest =>
    lastFault? (position + byteLength lexeme.text) rest <|>
      lexeme.fault? position

end Lexeme

end SqlCatalog
