import SqlCatalog.Token.Basic

/-!
# Quoting

A quoted token writes its value between two marks and every mark inside
twice.  Reading a token back drops the marks and reads a doubled mark as a
single one; backslashes are kept as they stand.
-/

namespace SqlCatalog

/-- The text with every mark written twice. -/
def double (mark : Char) : List Char → List Char
  | [] => []
  | char :: rest =>
    if char = mark then mark :: mark :: double mark rest
    else char :: double mark rest

/-- The text with every doubled mark, from left to right, read as one. -/
def collapse (mark : Char) : List Char → List Char
  | [] => []
  | [char] => [char]
  | char :: next :: rest =>
    if char = mark ∧ next = mark then mark :: collapse mark rest
    else char :: collapse mark (next :: rest)

namespace Token

/-- The token that writes a value between the marks of a delimiter. -/
def quote (delimiter : Delimiter) (value : String) : Token :=
  String.ofList
    (delimiter.mark :: (double delimiter.mark value.toList ++ [delimiter.mark]))

/--
The value of a token.  Its first character is taken for the mark; a token that
does not end in a second one has the empty value.
-/
def unquote (token : Token) : String :=
  match token.toList with
  | [] => ""
  | mark :: rest =>
    if rest.getLast? = some mark then
      String.ofList (collapse mark rest.dropLast)
    else ""

end Token

theorem collapse_cons_of_ne {mark char : Char} (other : char ≠ mark)
    (rest : List Char) :
    collapse mark (char :: rest) = char :: collapse mark rest := by
  cases rest with
  | nil => rfl
  | cons next rest => simp [collapse, other]

@[simp]
theorem collapse_double (mark : Char) (text : List Char) :
    collapse mark (double mark text) = text := by
  induction text with
  | nil => rfl
  | cons char rest hypothesis =>
    by_cases same : char = mark
    · subst same
      simp [double, collapse, hypothesis]
    · simp [double, same, collapse_cons_of_ne, hypothesis]

/-- Reading back what was written gives the value, whatever it holds. -/
@[simp]
theorem Token.unquote_quote (delimiter : Delimiter) (value : String) :
    (Token.quote delimiter value).unquote = value := by
  simp [Token.quote, Token.unquote]

@[simp]
theorem Token.isQuoted_quote (delimiter : Delimiter) (value : String) :
    (Token.quote delimiter value).isQuoted = true := by
  simp [Token.quote, Token.isQuoted, Token.delimiter?]

theorem ne_of_isQuoted
    {token bare : Token}
    (quoted : token.isQuoted = true)
    (unquoted : bare.isQuoted = false) :
    token ≠ bare := by
  rintro rfl
  rw [quoted] at unquoted
  cases unquoted

theorem not_mem_of_isQuoted
    {token : Token} {words : List Token}
    (quoted : token.isQuoted = true)
    (unquoted : ∀ word ∈ words, word.isQuoted = false) :
    token ∉ words := by
  intro member
  exact ne_of_isQuoted quoted (unquoted token member) rfl

end SqlCatalog
