import SqlCatalog.Proofs.Lexing.Plain
import SqlCatalog.Schema.Render

/-!
# Definitions as token sequences

The text of a definition is that of a token sequence, which is plain and is
therefore what the text is read as.  The sequence exists for tables whose bare
parts can be written without quotes: the declared type is a word with numbers
in parentheses, and character sets, collations and engines are words.  Names,
comments and defaults stand in quotes and are free, but for the backslash that
a literal would take for an escape.
-/

namespace SqlCatalog

/-! ## Tables that can be rendered -/

/-- A declared type: a word, arguments in parentheses, and a sign. -/
structure DataType where
  /-- The word that names the type. -/
  word : String
  /-- The arguments, if there are parentheses. -/
  arguments : Option (List String) := none
  /-- Whether the type is one of numbers without a sign. -/
  isUnsigned : Bool := false
deriving DecidableEq, Repr

namespace DataType

/-- The type as it is declared. -/
def text (declared : DataType) : String :=
  declared.word ++
    (match declared.arguments with
      | none => ""
      | some values => "(" ++ ",".intercalate values ++ ")") ++
    flagClause " UNSIGNED" declared.isUnsigned

/-- The word is a name in upper case, and the arguments are numbers. -/
structure IsWritten (declared : DataType) : Prop where
  /-- The word consists of upper-case letters, digits and underscores. -/
  word : Alphabet.identifier.spells declared.word = true
  /-- The arguments consist of digits. -/
  arguments : ∀ values ∈ declared.arguments, ∀ value ∈ values,
    value ≠ "" ∧ ∀ char ∈ value.toList, char.isDigit = true

end DataType

/-- The keys by which the clauses of a column are looked up. -/
def columnKeys : List Token :=
  ["CHARSET", "COLLATE", "AUTO_INCREMENT", "DEFAULT", "COMMENT"]

/-- The keys by which the options of a table are looked up. -/
def tableKeys : List Token :=
  ["ENGINE", "CHARSET", "COLLATE", "COMMENT"]

/-- A value that is absent, or a word that is none of the given keys. -/
def IsBareValue (keys : List Token) (value : String) : Prop :=
  value = "" ∨ Alphabet.optionValue.spells value = true ∧ value ∉ keys

/--
A column that can be told from its definition.  A word in the place of a type
or value is not to be mistaken for the key of another clause.
-/
structure Column.IsRenderable (column : Column) : Prop where
  name : column.name ≠ ""
  dataType : ∃ declared : DataType, declared.IsWritten ∧
    declared.word ∉ columnKeys ∧ column.dataType = declared.text
  charset : IsBareValue (columnKeys.erase "CHARSET") column.charset
  collation : IsBareValue (columnKeys.erase "COLLATE") column.collation
  defaultValue : '\\' ∉ column.defaultValue.toList
  comment : '\\' ∉ column.comment.toList

/-- A table that can be told from its definition. -/
structure Table.IsRenderable (table : Table) : Prop where
  name : table.name ≠ ""
  columns : ∀ column ∈ table.columns, column.IsRenderable
  engine : IsBareValue (tableKeys.erase "ENGINE") table.engine
  charset : IsBareValue (tableKeys.erase "CHARSET") table.charset
  collation : IsBareValue (tableKeys.erase "COLLATE") table.collation
  comment : '\\' ∉ table.comment.toList

/-! ## The tokens of a definition -/

/-- A key with a token for its value, nothing if the value is empty. -/
def valueTokens (key : List Token) (value : String) (token : Token) :
    List Token :=
  if value.isEmpty then [] else key ++ [token]

/-- A keyword, nothing if it does not apply. -/
def flagTokens (keyword : List Token) (applies : Bool) : List Token :=
  if applies then keyword else []

/-- The tokens of the arguments of a type. -/
def DataType.argumentTokens (declared : DataType) : List Token :=
  match declared.arguments with
  | none => []
  | some values =>
    "(" :: ([","].intercalate (values.map fun value => [value]) ++ [")"])

/-- The tokens of a type without the sign. -/
def DataType.stem (declared : DataType) : List Token :=
  declared.word :: declared.argumentTokens

namespace Column

/-- The clause that names the character set. -/
def charsetTokens (column : Column) : List Token :=
  valueTokens [" ", "CHARACTER", " ", "SET", " "] column.charset column.charset

/-- The clause that names the collation. -/
def collationTokens (column : Column) : List Token :=
  valueTokens [" ", "COLLATE", " "] column.collation column.collation

/-- The clause that forbids null. -/
def notNullTokens (column : Column) : List Token :=
  flagTokens [" ", "NOT", " ", "NULL"] column.notNull

/-- The clause that asks for numbers. -/
def autoIncrementTokens (column : Column) : List Token :=
  flagTokens [" ", "AUTO_INCREMENT"] column.autoIncrement

/-- The clause with the default value. -/
def defaultTokens (column : Column) : List Token :=
  valueTokens [" ", "DEFAULT", " "] column.defaultValue
    (Token.quote .apostrophe column.defaultValue)

/-- The clause with the comment. -/
def commentTokens (column : Column) : List Token :=
  valueTokens [" ", "COMMENT", " "] column.comment
    (Token.quote .apostrophe column.comment)

/-- The clauses behind the type. -/
def clauseTokens (column : Column) : List Token :=
  column.charsetTokens ++ (column.collationTokens ++ (column.notNullTokens ++
    (column.autoIncrementTokens ++
      (column.defaultTokens ++ column.commentTokens))))

/-- The name and the type. -/
def headTokens (column : Column) (declared : DataType) : List Token :=
  Token.quote .backtick column.name :: " " ::
    (declared.stem ++ flagTokens [" ", "UNSIGNED"] declared.isUnsigned)

/-- The tokens of a column whose type is declared in the given way. -/
def tokens (column : Column) (declared : DataType) : List Token :=
  column.headTokens declared ++ column.clauseTokens

end Column

namespace Table

/-- The option with the storage engine. -/
def engineTokens (table : Table) : List Token :=
  valueTokens [" ", "ENGINE", "="] table.engine table.engine

/-- The option with the character set. -/
def charsetTokens (table : Table) : List Token :=
  valueTokens [" ", "CHARSET", "="] table.charset table.charset

/-- The option with the collation. -/
def collationTokens (table : Table) : List Token :=
  valueTokens [" ", "COLLATE", "="] table.collation table.collation

/-- The option with the comment. -/
def commentTokens (table : Table) : List Token :=
  valueTokens [" ", "COMMENT", "="] table.comment
    (Token.quote .apostrophe table.comment)

/-- The options behind the body. -/
def optionTokens (table : Table) : List Token :=
  table.engineTokens ++ (table.charsetTokens ++
    (table.collationTokens ++ table.commentTokens))

end Table

/-! ## The text of the tokens -/

theorem join_intercalate (separator : List Token) (parts : List (List Token)) :
    String.join (separator.intercalate parts) =
      (String.join separator).intercalate (parts.map String.join) := by
  induction parts with
  | nil => simp
  | cons part later hypothesis =>
      cases later with
      | nil => simp
      | cons next later =>
          rw [List.intercalate_cons_cons, String.join_append,
            String.join_append, hypothesis]
          simp [String.intercalate_cons_cons]

theorem join_valueTokens_bare (key : List Token) (value : String) :
    String.join (valueTokens key value value) =
      bareClause (String.join key) value := by
  unfold valueTokens bareClause
  split
  · rfl
  · simp

theorem join_valueTokens_literal (key : List Token) (value : String) :
    String.join (valueTokens key value (Token.quote .apostrophe value)) =
      literalClause (String.join key) value := by
  unfold valueTokens literalClause
  split
  · rfl
  · simp

theorem join_flagTokens (keyword : List Token) (applies : Bool) :
    String.join (flagTokens keyword applies) =
      flagClause (String.join keyword) applies := by
  unfold flagTokens flagClause
  split <;> rfl

theorem DataType.join_stem (declared : DataType) :
    String.join
        (declared.stem ++ flagTokens [" ", "UNSIGNED"] declared.isUnsigned) =
      declared.text := by
  have arguments (values : List String) :
      String.join ([","].intercalate (values.map fun value => [value])) =
        ",".intercalate values := by
    rw [join_intercalate, List.map_map]
    have single : (String.join ∘ fun value : String => [value]) = id := by
      funext value
      simp
    rw [single, List.map_id]
    rfl
  have sign : String.join [" ", "UNSIGNED"] = " UNSIGNED" := rfl
  rw [String.join_append, join_flagTokens, sign, DataType.text, DataType.stem,
    DataType.argumentTokens, String.join_cons]
  cases declared.arguments with
  | none => simp
  | some values => simp [arguments, String.append_assoc]

theorem Column.join_tokens
    {column : Column} {declared : DataType}
    (same : column.dataType = declared.text) :
    String.join (column.tokens declared) = column.render := by
  rw [tokens, headTokens, String.join_append, String.join_cons, String.join_cons,
    declared.join_stem, ← same, render]
  simp only [clauseTokens, charsetTokens, collationTokens, notNullTokens,
    autoIncrementTokens, defaultTokens, commentTokens, String.join_append,
    join_flagTokens, join_valueTokens_bare, join_valueTokens_literal,
    String.append_assoc]
  rfl

theorem Table.join_optionTokens (table : Table) :
    String.join table.optionTokens =
      bareClause " ENGINE=" table.engine ++
        (bareClause " CHARSET=" table.charset ++
        (bareClause " COLLATE=" table.collation ++
        literalClause " COMMENT=" table.comment)) := by
  simp only [optionTokens, engineTokens, charsetTokens, collationTokens,
    commentTokens, String.join_append, join_valueTokens_bare,
    join_valueTokens_literal]
  rfl

/-! ## Definitions are plain -/

/-- A key of fixed tokens, up to the place where its value stands. -/
def IsKey (key : List Token) : Prop :=
  key.all isPlainKey = true ∧ key.IsChain Token.adjoins ∧
    key.head? = some Token.blank ∧
    ∀ last ∈ key.getLast?, last = Token.blank ∨ last ∈ punctuation

instance (key : List Token) : Decidable (IsKey key) :=
  inferInstanceAs (Decidable (_ ∧ _ ∧ _ ∧ _))

theorem isTail_valueTokens
    {key : List Token} {value : String} {token : Token}
    (isKey : IsKey key)
    (plain : value ≠ "" → token.IsPlain ∧ token ≠ Token.blank) :
    IsTail (valueTokens key value token) := by
  rcases isKey with ⟨keys, chain, start, ends⟩
  unfold valueTokens
  split
  case isTrue => exact isTail_nil
  case isFalse filled =>
    have plain := plain (by simpa using filled)
    have single : IsPlainSequence [token] :=
      ⟨by simpa using plain.1, .singleton token⟩
    refine ⟨?_, ?_, ?_⟩
    · rw [isPlainSequence_append_iff]
      refine ⟨isPlainSequence_of_keys keys chain, single, ?_⟩
      intro last final first next
      obtain rfl : token = first := by simpa using next
      unfold Token.adjoins
      split
      case isTrue => exact plain.2
      case isFalse solid => exact Or.inl ((ends last final).resolve_left solid)
    · intro first next
      rw [List.head?_append, start] at next
      exact Or.inl (by simpa using next.symm)
    · simpa using plain.2

theorem isTail_flagTokens
    {keyword : List Token}
    (keys : keyword.all isPlainKey = true)
    (chain : keyword.IsChain Token.adjoins)
    (start : keyword.head? = some Token.blank)
    (last : keyword.getLast? ≠ some Token.blank)
    (applies : Bool) :
    IsTail (flagTokens keyword applies) := by
  unfold flagTokens
  split
  · refine ⟨isPlainSequence_of_keys keys chain, ?_, last⟩
    intro first next
    rw [start] at next
    exact Or.inl (by simpa using next.symm)
  · exact isTail_nil

theorem IsBareValue.isPlain
    {keys : List Token} {value : String}
    (bare : IsBareValue keys value)
    (filled : value ≠ "") :
    Token.IsPlain value ∧ value ≠ Token.blank := by
  rcases bare with empty | ⟨spelled, -⟩
  · exact absurd empty filled
  · exact ⟨.word spelled, (Alphabet.ne_of_spells spelled).1⟩

theorem isPlain_quote
    {delimiter : Delimiter} {value : String}
    (readable : delimiter.escapes = true → '\\' ∉ value.toList) :
    Token.IsPlain (Token.quote delimiter value) ∧
      Token.quote delimiter value ≠ Token.blank := by
  constructor
  · exact .quote readable
  · exact ne_of_isQuoted (Token.isQuoted_quote delimiter value) (by decide)

/-- Numbers are spelled like names. -/
theorem spells_of_digits
    {value : String}
    (filled : value ≠ "")
    (digits : ∀ char ∈ value.toList, char.isDigit = true) :
    Alphabet.optionValue.spells value = true := by
  simp only [Alphabet.spells, Bool.and_eq_true, List.all_eq_true]
  constructor
  · simpa using filled
  · intro char member
    simp [Alphabet.allows, digits char member]

/-- Any plain sequence can stand behind an opening parenthesis. -/
theorem isPlainSequence_open
    {tokens : List Token}
    (sequence : IsPlainSequence tokens) :
    IsPlainSequence ("(" :: tokens) := by
  rw [← List.singleton_append, isPlainSequence_append_iff]
  refine ⟨isPlainSequence_of_keys (by decide) (by decide), sequence, ?_⟩
  intro opening final first _
  obtain rfl : "(" = opening := by simpa using final
  exact Or.inl (by decide)

theorem isTail_close : IsTail [")"] where
  toIsPlainSequence := isPlainSequence_of_keys (by decide) (by decide)
  start := by decide
  last := by decide

theorem DataType.IsWritten.isTail_argumentTokens
    {declared : DataType}
    (written : declared.IsWritten) :
    IsTail declared.argumentTokens := by
  unfold argumentTokens
  split
  case h_1 => exact isTail_nil
  case h_2 values found =>
    have inside :
        IsPlainSequence
          ([","].intercalate (values.map fun value => [value]) ++ [")"]) := by
      cases values with
      | nil => simpa using isTail_close.toIsPlainSequence
      | cons value values =>
          have phrase :
              IsPhrase ([","].intercalate
                ((value :: values).map fun value => [value])) := by
            apply IsPhrase.intercalate
            · decide
            · exact isPlainSequence_of_keys (by decide) (by decide)
            · decide
            · simp
            · intro part member
              rcases List.mem_map.mp member with ⟨other, listed, rfl⟩
              rcases written.arguments _ found other listed with ⟨filled, digits⟩
              have spelled := spells_of_digits filled digits
              exact isPhrase_singleton
                ⟨.word spelled, (Alphabet.ne_of_spells spelled).1⟩
          exact (phrase.append isTail_close).toIsPlainSequence
    refine ⟨isPlainSequence_open inside, ?_, ?_⟩
    · intro first next
      obtain rfl : "(" = first := by simpa using next
      exact Or.inr (by decide)
    · rw [← List.cons_append, List.getLast?_concat]
      decide

theorem DataType.IsWritten.spells
    {declared : DataType}
    (written : declared.IsWritten) :
    Alphabet.optionValue.spells declared.word = true := by
  have spelled := written.word
  simp only [Alphabet.spells, Bool.and_eq_true, List.all_eq_true] at spelled ⊢
  refine ⟨spelled.1, ?_⟩
  intro char member
  have allowed := spelled.2 char member
  simp_all [Alphabet.allows]

theorem Column.IsRenderable.isTail_clauseTokens
    {column : Column}
    (renderable : column.IsRenderable) :
    IsTail column.clauseTokens := by
  unfold Column.clauseTokens
  apply IsTail.append (isTail_valueTokens (by decide) renderable.charset.isPlain)
  apply IsTail.append (isTail_valueTokens (by decide) renderable.collation.isPlain)
  apply IsTail.append
    (isTail_flagTokens (by decide) (by decide) (by decide) (by decide) _)
  apply IsTail.append
    (isTail_flagTokens (by decide) (by decide) (by decide) (by decide) _)
  apply IsTail.append
  · apply isTail_valueTokens (by decide)
    exact fun _ => isPlain_quote fun _ => renderable.defaultValue
  · apply isTail_valueTokens (by decide)
    exact fun _ => isPlain_quote fun _ => renderable.comment

/-- The definition of a column is a phrase. -/
theorem Column.IsRenderable.isPhrase_tokens
    {column : Column} {declared : DataType}
    (renderable : column.IsRenderable)
    (written : declared.IsWritten) :
    IsPhrase (column.tokens declared) := by
  have name : IsPhrase [Token.quote .backtick column.name] :=
    isPhrase_singleton (isPlain_quote fun escapes => by cases escapes)
  have word : IsPhrase [declared.word] :=
    isPhrase_singleton ⟨.word written.spells, (Alphabet.ne_of_spells written.spells).1⟩
  have start := name.append word.isTail_blank_cons
  have sign : IsTail (flagTokens [" ", "UNSIGNED"] declared.isUnsigned) :=
    isTail_flagTokens (by decide) (by decide) (by decide) (by decide) _
  have phrase :=
    (start.append (written.isTail_argumentTokens.append sign)).append
      renderable.isTail_clauseTokens
  simpa [tokens, headTokens, DataType.stem, Token.blank] using phrase

theorem Table.IsRenderable.isTail_optionTokens
    {table : Table}
    (renderable : table.IsRenderable) :
    IsTail table.optionTokens := by
  unfold Table.optionTokens
  apply IsTail.append (isTail_valueTokens (by decide) renderable.engine.isPlain)
  apply IsTail.append (isTail_valueTokens (by decide) renderable.charset.isPlain)
  apply IsTail.append (isTail_valueTokens (by decide) renderable.collation.isPlain)
  apply isTail_valueTokens (by decide)
  exact fun _ => isPlain_quote fun _ => renderable.comment

end SqlCatalog
