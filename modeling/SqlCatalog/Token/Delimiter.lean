/-!
# Delimiters of quoted tokens

Apostrophes and quotation marks enclose literals, backticks enclose
identifiers.  Inside all three a doubled mark stands for the mark itself; a
backslash takes the next character with it only in literals.
-/

namespace SqlCatalog

/-- The mark that opens and closes a quoted token. -/
inductive Delimiter where
  | apostrophe
  | quotation
  | backtick
deriving DecidableEq, Repr

namespace Delimiter

/-- The character of the delimiter. -/
def mark : Delimiter → Char
  | apostrophe => '\x27'
  | quotation => '\x22'
  | backtick => '\x60'

/-- The delimiter with the given mark, if there is one. -/
def ofMark? (char : Char) : Option Delimiter :=
  if char = '\x27' then some apostrophe
  else if char = '\x22' then some quotation
  else if char = '\x60' then some backtick
  else none

/-- Whether a backslash takes the next character with it. -/
def escapes : Delimiter → Bool
  | apostrophe => true
  | quotation => true
  | backtick => false

@[simp]
theorem ofMark?_mark (delimiter : Delimiter) :
    ofMark? delimiter.mark = some delimiter := by
  cases delimiter <;> decide

/-- Exactly the mark of a delimiter is read as that delimiter. -/
theorem ofMark?_eq_some_iff {char : Char} {delimiter : Delimiter} :
    ofMark? char = some delimiter ↔ char = delimiter.mark := by
  constructor
  · intro found
    unfold ofMark? at found
    split at found
    · cases found; assumption
    · split at found
      · cases found; assumption
      · split at found
        · cases found; assumption
        · cases found
  · rintro rfl
    exact ofMark?_mark delimiter

/-- No mark is a backslash, so escapes and closing marks never compete. -/
theorem mark_ne_backslash (delimiter : Delimiter) :
    delimiter.mark ≠ '\\' := by
  cases delimiter <;> decide

end Delimiter

end SqlCatalog
