import SqlCatalog.Fault
import SqlCatalog.Pattern
import SqlCatalog.Token.Quoting

/-!
# The options of a table definition

The options stand behind the body.  Options with a bare value are looked up
one by one: the first occurrence of the key that is followed by a value counts
and others are passed over.  The comment is treated more strictly: the last
occurrence of its key counts, and it has to be well-formed.
-/

namespace SqlCatalog.Statement

/-- A form of the comment option and the index of the literal in it. -/
structure CommentForm where
  /-- The tokens of the option. -/
  pattern : Pattern
  /-- The index of the literal. -/
  position : Nat
deriving DecidableEq, Repr

/-- The forms of the comment option in the order in which they are tried. -/
def commentForms : List CommentForm :=
  [⟨[.exactly "COMMENT", .exactly "=", .quoted], 2⟩,
    ⟨[.exactly "COMMENT", .blank, .exactly "=", .quoted], 3⟩,
    ⟨[.exactly "COMMENT", .blank, .exactly "=", .blank, .quoted], 4⟩,
    ⟨[.exactly "COMMENT", .exactly "=", .blank, .quoted], 3⟩,
    ⟨[.exactly "COMMENT", .blank, .quoted], 2⟩]

/--
The tokens from the last `COMMENT` on that leaves room for the shortest form
of the option.
-/
def lastComment? : List Token → Option (List Token)
  | [] => none
  | token :: rest =>
    match lastComment? rest with
    | some later => some later
    | none =>
      if token = "COMMENT" ∧ 2 ≤ rest.length then some (token :: rest)
      else none

/-- The comment among the options, empty if there is none. -/
def tableComment (options : List Token) : Except Fault String :=
  match lastComment? options with
  | none => .ok ""
  | some tokens =>
    match commentForms.find? fun form => form.pattern.fits tokens with
    | none => .error .malformedComment
    | some form =>
      match tokens[form.position]? with
      | none => .error .malformedComment
      | some literal => .ok literal.unquote

/-- The forms in which a value follows a key, in the order of trial. -/
def valueForms : List Pattern :=
  [[.exactly "=", .name .optionValue],
    [.blank, .exactly "=", .name .optionValue],
    [.exactly "=", .blank, .name .optionValue],
    [.blank, .exactly "=", .blank, .name .optionValue],
    [.blank, .name .optionValue]]

/-- The value at the start of the tokens behind a key. -/
def leadingValue? (tokens : List Token) : Option Token :=
  match valueForms.find? fun form => form.fits tokens with
  | none => none
  | some form => tokens[form.length - 1]?

/-- The value of the first occurrence of a key that has one. -/
def optionValue? (key : Pattern) : List Token → Option Token
  | [] => none
  | token :: rest =>
    match
      if key.fits (token :: rest) then
        leadingValue? ((token :: rest).drop key.length)
      else none
    with
    | some value => some value
    | none => optionValue? key rest

/-- The value of an option, empty if there is none. -/
def optionValue (key : Pattern) (options : List Token) : String :=
  (optionValue? key options).getD ""

/-- The storage engine among the options. -/
def tableEngine (options : List Token) : String :=
  optionValue [.exactly "ENGINE"] options

/-- The character set among the options; its short key is tried first. -/
def tableCharset (options : List Token) : String :=
  let short := optionValue [.exactly "CHARSET"] options
  if short.isEmpty then
    optionValue [.exactly "CHARACTER", .blank, .exactly "SET"] options
  else short

/-- The collation among the options. -/
def tableCollation (options : List Token) : String :=
  optionValue [.exactly "COLLATE"] options

end SqlCatalog.Statement
