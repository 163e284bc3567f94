import SqlCatalog.Token.Delimiter
import SqlCatalog.Unicode.WhiteSpace

/-!
# Tokens

A token is a piece of SQL text.  Its class is read off the text itself: a
quoted token starts with a delimiter, a comment with one of the three comment
openings, and a blank consists of White_Space.  The canonical blank, a single
space, stands for any run of blanks and comments in a normalized sequence.
-/

namespace SqlCatalog

/-- A piece of SQL text. -/
abbrev Token := String

namespace Token

/-- The canonical blank. -/
def blank : Token := " "

/-- The delimiter that the token starts with, if any. -/
def delimiter? (token : Token) : Option Delimiter :=
  token.toList.head?.bind Delimiter.ofMark?

/-- Whether the token is a literal or an identifier in quotes. -/
def isQuoted (token : Token) : Bool :=
  token.delimiter?.isSome

/-- The openings of comments: two for lines and one for blocks. -/
def commentOpenings : List (List Char) :=
  [['#'], ['-', '-'], ['/', '*']]

/-- Whether the token is a comment. -/
def isComment (token : Token) : Bool :=
  commentOpenings.any fun opening => opening.isPrefixOf token.toList

/-- Whether the token consists of White_Space and is not empty. -/
def isBlank (token : Token) : Bool :=
  !token.toList.isEmpty && token.toList.all Unicode.isWhiteSpace

example : isQuoted "\x60a\x60" = true := by decide

example : isComment "-- a" = true ∧ isComment "- a" = false := by decide

example : isBlank "\u00a0" = true ∧ isBlank "" = false := by decide

end Token

end SqlCatalog
