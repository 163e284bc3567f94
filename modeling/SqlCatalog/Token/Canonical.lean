import SqlCatalog.Token.Basic
import SqlCatalog.Unicode.Uppercase

/-!
# Canonical tokens

Keywords are compared in upper case and layout is compared as a single blank,
so a token sequence is first brought into canonical form: quoted tokens stay
as they are, blanks and comments become the canonical blank, everything else
is written in upper case, and no two blanks stand side by side.
-/

namespace SqlCatalog.Token

/-- The token in upper case. -/
def upper (token : Token) : Token :=
  String.ofList (Unicode.upper token.toList)

/-- The canonical spelling of a token. -/
def canonical (token : Token) : Token :=
  if token.isQuoted then token
  else if token.isComment || token.isBlank then blank
  else token.upper

/-- The sequence with every run of canonical blanks shortened to one. -/
def squeeze : List Token → List Token
  | [] => []
  | [token] => [token]
  | token :: next :: rest =>
    if token = blank ∧ next = blank then squeeze (next :: rest)
    else token :: squeeze (next :: rest)

/--
The canonical form of a token sequence.  A sequence of fewer than `minTokens`
tokens is taken to hold nothing at all.
-/
def normalize (minTokens : Nat) (tokens : List Token) : List Token :=
  if tokens.length < minTokens then [] else squeeze (tokens.map canonical)

/-- The sequence without one canonical blank at its start. -/
def trimStart : List Token → List Token
  | [] => []
  | token :: rest => if token = blank then rest else token :: rest

/-- The sequence without one canonical blank at its end. -/
def trimEnd (tokens : List Token) : List Token :=
  if tokens.getLast? = some blank then tokens.dropLast else tokens

/-- The sequence without one canonical blank on either side. -/
def trim (tokens : List Token) : List Token :=
  trimEnd (trimStart tokens)

@[simp]
theorem squeeze_nil : squeeze [] = [] := rfl

theorem squeeze_cons_of_ne {token : Token} (other : token ≠ blank)
    (rest : List Token) :
    squeeze (token :: rest) = token :: squeeze rest := by
  cases rest with
  | nil => rfl
  | cons next rest => simp [squeeze, other]

@[simp]
theorem normalize_zero (tokens : List Token) :
    normalize 0 tokens = squeeze (tokens.map canonical) := by
  simp [normalize]

theorem normalize_of_le {minTokens : Nat} {tokens : List Token}
    (enough : minTokens ≤ tokens.length) :
    normalize minTokens tokens = squeeze (tokens.map canonical) := by
  simp [normalize, Nat.not_lt.mpr enough]

@[simp]
theorem trim_nil : trim [] = [] := rfl

end SqlCatalog.Token
