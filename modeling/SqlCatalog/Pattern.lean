import SqlCatalog.Token.Basic

/-!
# Patterns

A pattern describes the first tokens of a sequence, one element a token;
whatever follows is not looked at.
-/

namespace SqlCatalog

/-- The alphabets of bare names. -/
inductive Alphabet where
  /-- Upper-case letters, digits and the underscore. -/
  | identifier
  /-- The same and the dollar sign. -/
  | optionValue
deriving DecidableEq, Repr

namespace Alphabet

/-- Whether a character belongs to the alphabet. -/
def allows (alphabet : Alphabet) (char : Char) : Bool :=
  char.isUpper || char.isDigit || char == '_' ||
    (alphabet == optionValue && char == '$')

/-- Whether a token is a name: not empty and over the alphabet. -/
def spells (alphabet : Alphabet) (token : Token) : Bool :=
  !token.toList.isEmpty && token.toList.all alphabet.allows

end Alphabet

/-- A demand on one token. -/
inductive Element where
  /-- The token is this one. -/
  | exactly (token : Token)
  /-- The token is quoted. -/
  | quoted
  /-- The token is a bare name. -/
  | name (alphabet : Alphabet)
deriving DecidableEq, Repr

namespace Element

/-- The demand for the canonical blank. -/
def blank : Element :=
  exactly Token.blank

/-- Whether a token meets the demand. -/
def accepts : Element → Token → Bool
  | exactly expected, token => token == expected
  | quoted, token => token.isQuoted
  | name alphabet, token => alphabet.spells token

end Element

/-- Demands on the first tokens of a sequence. -/
abbrev Pattern := List Element

namespace Pattern

/-- Whether the first tokens of a sequence meet the demands. -/
def fits : Pattern → List Token → Bool
  | [], _ => true
  | _ :: _, [] => false
  | element :: pattern, token :: tokens =>
    element.accepts token && fits pattern tokens

/-- The index of the first token from which on the pattern fits. -/
def find? (pattern : Pattern) : List Token → Option Nat
  | [] => none
  | token :: tokens =>
    if pattern.fits (token :: tokens) then some 0
    else (find? pattern tokens).map (· + 1)

@[simp]
theorem fits_nil (tokens : List Token) : fits [] tokens = true := by
  cases tokens <;> rfl

@[simp]
theorem fits_cons_nil (element : Element) (pattern : Pattern) :
    fits (element :: pattern) [] = false := rfl

@[simp]
theorem fits_cons_cons (element : Element) (pattern : Pattern)
    (token : Token) (tokens : List Token) :
    fits (element :: pattern) (token :: tokens) =
      (element.accepts token && fits pattern tokens) := rfl

/-- A sequence that a pattern fits is at least as long as the pattern. -/
theorem length_le_of_fits {pattern : Pattern} {tokens : List Token}
    (fit : pattern.fits tokens = true) :
    pattern.length ≤ tokens.length := by
  induction pattern generalizing tokens with
  | nil => exact Nat.zero_le _
  | cons element pattern hypothesis =>
    cases tokens with
    | nil => simp at fit
    | cons token tokens =>
      rw [fits_cons_cons, Bool.and_eq_true] at fit
      exact Nat.succ_le_succ (hypothesis fit.2)

end Pattern

/-- The index of the first occurrence of a token. -/
def position? (keyword : Token) (tokens : List Token) : Option Nat :=
  tokens.findIdx? (· == keyword)

end SqlCatalog
