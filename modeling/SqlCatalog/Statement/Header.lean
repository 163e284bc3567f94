import SqlCatalog.Fault
import SqlCatalog.Pattern
import SqlCatalog.Token.Quoting

/-!
# The header of a table definition

The header is what stands before the body.  It starts with the two keywords
that make a statement a table definition and names the table in one of four
forms: with or without a clause for tables that exist already, and with or
without the name of a database.
-/

namespace SqlCatalog.Statement

/-- What every table definition starts with. -/
def createTable : Pattern :=
  [.exactly "CREATE", .blank, .exactly "TABLE", .blank]

/-- The clause for tables that exist already. -/
def ifNotExists : Pattern :=
  [.exactly "IF", .blank, .exactly "NOT", .blank, .exactly "EXISTS", .blank]

/-- A form of the header and the indices of the identifiers in it. -/
structure NameForm where
  /-- The tokens of the header. -/
  pattern : Pattern
  /-- The indices of the identifiers. -/
  positions : List Nat
deriving DecidableEq, Repr

/-- The identifiers' values in a header, if all of them are present. -/
def NameForm.parts? (form : NameForm) (header : List Token) :
    Option (List String) :=
  form.positions.mapM fun position => header[position]?.map Token.unquote

/-- The forms of the header in the order in which they are tried. -/
def nameForms : List NameForm :=
  [⟨createTable ++ [.quoted, .exactly ".", .quoted], [4, 6]⟩,
    ⟨createTable ++ [.quoted], [4]⟩,
    ⟨createTable ++ ifNotExists ++ [.quoted, .exactly ".", .quoted], [10, 12]⟩,
    ⟨createTable ++ ifNotExists ++ [.quoted], [10]⟩]

/-- Whether a statement defines a table. -/
def isCreateTable (statement : List Token) : Bool :=
  createTable.fits statement

/-- The name in a header, with the database in front if it is given. -/
def tableName (header : List Token) : Except Fault String :=
  match nameForms.find? fun form => form.pattern.fits header with
  | none => .error .unrecognizedName
  | some form =>
    match form.parts? header with
    | none => .error .unrecognizedName
    | some parts =>
      if parts.any String.isEmpty then .error .unrecognizedName
      else .ok (".".intercalate parts)

/-- Every index of a form is that of an element of its pattern. -/
theorem position_lt_length {form : NameForm} (member : form ∈ nameForms)
    {position : Nat} (listed : position ∈ form.positions) :
    position < form.pattern.length := by
  have bounds :
      ∀ form ∈ nameForms, ∀ position ∈ form.positions,
        position < form.pattern.length := by
    decide
  exact bounds form member position listed

/-- A header that a form fits has all the identifiers of the form. -/
theorem NameForm.parts?_isSome {form : NameForm} (member : form ∈ nameForms)
    {header : List Token} (fit : form.pattern.fits header = true) :
    (form.parts? header).isSome = true := by
  have enough := Pattern.length_le_of_fits fit
  have inside :
      ∀ position ∈ form.positions,
        (header[position]?.map Token.unquote).isSome = true := by
    intro position listed
    have bound := Nat.lt_of_lt_of_le (position_lt_length member listed) enough
    simp [bound]
  unfold parts?
  generalize form.positions = positions at inside
  induction positions with
  | nil => rfl
  | cons position positions hypothesis =>
    obtain ⟨part, found⟩ :=
      Option.isSome_iff_exists.mp (inside position List.mem_cons_self)
    obtain ⟨parts, others⟩ :=
      Option.isSome_iff_exists.mp
        (hypothesis fun later listed =>
          inside later (List.mem_cons_of_mem position listed))
    simp [List.mapM_cons, found, others]

example :
    tableName ["CREATE", " ", "TABLE", " ", "\x60a\x60", ".", "\x60b\x60"] =
      .ok "a.b" := by
  rfl

end SqlCatalog.Statement
