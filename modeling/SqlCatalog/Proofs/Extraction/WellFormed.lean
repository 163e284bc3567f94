import SqlCatalog.Proofs.Extraction.Accounting
import SqlCatalog.Proofs.Fragment.Values
import SqlCatalog.Proofs.Lexing.LetterCase
import SqlCatalog.Proofs.Lexing.Plain
import SqlCatalog.Proofs.Statement.Parts
import SqlCatalog.Proofs.Token.Veil

/-!
# Well-formed extractions

Everything that is extracted has a name.  The options of a table are spelled
with few characters, since only such values are accepted.  The character set
and the collation of a column are taken as they stand, and it is the canonical
form of the text that makes them tokens in their own right: none of its tokens
is empty, no two blanks stand side by side, and fragments are trimmed.
-/

namespace SqlCatalog

/-! ## Canonical tokens -/

/-- A token does not vanish in canonical form. -/
theorem Token.canonical_ne_empty
    {token : Token}
    (filled : token ≠ "") :
    token.canonical ≠ "" := by
  rw [canonical]
  split
  case isTrue => exact filled
  case isFalse =>
    split
    case isTrue => decide
    case isFalse =>
      obtain ⟨first, body, text⟩ :=
        List.exists_cons_of_ne_nil (mt String.toList_eq_nil_iff.mp filled)
      intro empty
      have nothing := congrArg String.toList empty
      simp [upper, text, Unicode.upperChar_ne_nil] at nothing

theorem Extractor.isSpaced_canonical (extractor : Extractor) (sql : String) :
    Token.IsSpaced (extractor.canonical sql) := by
  rw [canonical, Token.normalize]
  split
  · exact .nil
  · exact Token.isSpaced_squeeze _

theorem Extractor.ne_empty_of_mem_canonical
    {extractor : Extractor} {sql : String} {token : Token}
    (member : token ∈ extractor.canonical sql) :
    token ≠ "" := by
  rw [canonical, Token.normalize] at member
  split at member
  · cases member
  · rw [Token.mem_squeeze_iff] at member
    obtain ⟨raw, read, rfl⟩ := List.mem_map.mp member
    rw [tokenize_tokens] at read
    obtain ⟨lexeme, listed, rfl⟩ := List.mem_map.mp read
    refine Token.canonical_ne_empty ?_
    rw [Lexeme.token, ← String.ofList_nil, Ne, String.ofList_inj]
    exact text_ne_nil_of_mem_lexemes listed

/-! ## Names and options of tables -/

namespace Statement

/-- Every form of the header names at least one identifier. -/
theorem tableName_ne_empty
    {header : List Token} {name : String}
    (naming : tableName header = .ok name) :
    name ≠ "" := by
  unfold tableName at naming
  split at naming
  case h_1 => cases naming
  case h_2 form found =>
    split at naming
    case h_1 => cases naming
    case h_2 parts read =>
      split at naming
      case isTrue => cases naming
      case isFalse filled =>
        cases naming
        have several : ∀ form ∈ nameForms, form.positions ≠ [] := by decide
        obtain ⟨first, others, positions⟩ :=
          List.exists_cons_of_ne_nil
            (several form (List.mem_of_find?_eq_some found))
        rw [NameForm.parts?, positions, List.mapM_cons] at read
        obtain ⟨part, -, read⟩ := Option.bind_eq_some_iff.mp read
        obtain ⟨later, -, read⟩ := Option.bind_eq_some_iff.mp read
        cases read
        have named : part ≠ "" := by
          rintro rfl
          exact filled rfl
        intro empty
        have nothing := congrArg String.toList empty
        rw [String.toList_intercalate, List.map_cons] at nothing
        cases later with
        | nil => exact named (by simpa using nothing)
        | cons second later =>
            rw [List.map_cons, List.intercalate_cons_cons] at nothing
            simp at nothing

/-- The characters that option values are spelled with. -/
def optionCharacters : List Char :=
  "ABCDEFGHIJKLMNOPQRSTUVWXYZ0123456789_$".toList

/-- The text is missing, or it is spelled with these characters. -/
def IsOptionText (text : String) : Prop :=
  ∀ char ∈ text.toList, char ∈ optionCharacters

theorem isOptionText_of_spells
    {token : Token}
    (spelled : Alphabet.optionValue.spells token = true) :
    IsOptionText token := by
  intro char member
  have allowed : Alphabet.optionValue.allows char = true := by
    rw [Alphabet.spells, Bool.and_eq_true, List.all_eq_true] at spelled
    exact spelled.2 char member
  have ascii := Alphabet.toNat_lt_of_allows allowed
  revert allowed
  exact of_toNat_lt (by decide) char ascii

/-- Every form of an option ends with its value. -/
theorem spells_of_leadingValue?
    {tokens : List Token} {value : Token}
    (found : leadingValue? tokens = some value) :
    Alphabet.optionValue.spells value = true := by
  unfold leadingValue? at found
  split at found
  case h_1 => cases found
  case h_2 form fitting =>
    have last :
        ∀ form ∈ valueForms,
          form[form.length - 1]? = some (.name .optionValue) := by
      decide
    have fit : form.fits tokens = true := by
      simpa using List.find?_some fitting
    obtain ⟨token, place, accepted⟩ :=
      Pattern.accepts_of_fits fit
        (last form (List.mem_of_find?_eq_some fitting))
    cases place.symm.trans found
    exact accepted

theorem isOptionText_optionValue (key : Pattern) (options : List Token) :
    IsOptionText (optionValue key options) := by
  have spelled :
      ∀ value ∈ optionValue? key options,
        Alphabet.optionValue.spells value = true := by
    induction options with
    | nil => simp [optionValue?]
    | cons token rest hypothesis =>
        intro value member
        rw [optionValue?, Option.mem_def] at member
        split at member
        case h_1 found here =>
          cases member
          split at here
          · exact spells_of_leadingValue? here
          · cases here
        case h_2 => exact hypothesis value member
  rw [optionValue]
  cases found : optionValue? key options with
  | none => simp [IsOptionText]
  | some value => exact isOptionText_of_spells (spelled value found)

end Statement

/-! ## Tables and columns -/

/-- A table has a name, and its options are spelled as such. -/
structure Table.IsWellFormed (table : Table) : Prop where
  /-- The table has a name. -/
  name : table.name ≠ ""
  /-- The storage engine. -/
  engine : Statement.IsOptionText table.engine
  /-- The character set. -/
  charset : Statement.IsOptionText table.charset
  /-- The collation. -/
  collation : Statement.IsOptionText table.collation

/--
A column has a name, and its character set and collation are tokens of the
fragment that defines it or missing.  They are missing only if their keys are.
-/
structure Column.IsWellFormed (fragment : List Token) (column : Column) :
    Prop where
  /-- The column has a name. -/
  name : column.name ≠ ""
  /-- The character set is a token. -/
  charset : Fragment.IsValueOf fragment column.charset
  /-- The character set has two keys. -/
  charsetAbsent :
    column.charset = "" ↔
      ¬["CHARACTER", " ", "SET", " "] <:+: fragment ∧
        ¬["CHARSET", " "] <:+: fragment
  /-- The collation is a token. -/
  collation : Fragment.IsValueOf fragment column.collation
  /-- The collation has one key. -/
  collationAbsent : column.collation = "" ↔ ¬["COLLATE", " "] <:+: fragment

theorem Fragment.isWellFormed_column
    {fragment : List Token} {found : Column}
    (read : column fragment = .ok (some found))
    (spaced : Token.IsSpaced fragment)
    (trimmed : Token.IsTrimmed fragment)
    (filled : ∀ token ∈ fragment, token ≠ "") :
    found.IsWellFormed fragment := by
  obtain ⟨first, rest, value, -, -, -, named, -, rfl⟩ := of_column_eq_some read
  have charset := charset_cases spaced trimmed filled
  have collation := behind_collation spaced trimmed
  exact ⟨named, charset.1, charset.2, collation.isValueOf filled,
    collation.eq_empty_iff filled⟩

theorem Statement.isWellFormed_table
    {statement : List Token} {found : Clauses}
    (read : clauses statement = .ok (some found)) :
    found.table.IsWellFormed := by
  obtain ⟨parts, name, comment, -, naming, -, rfl⟩ := of_clauses_eq_some read
  refine ⟨tableName_ne_empty naming, isOptionText_optionValue _ _, ?_,
    isOptionText_optionValue _ _⟩
  change IsOptionText (tableCharset parts.options)
  rw [tableCharset]
  split
  · exact isOptionText_optionValue _ _
  · exact isOptionText_optionValue _ _

/-- Bodies and their fragments are parts of the text in canonical form. -/
theorem fragment_infix_canonical
    {extractor : Extractor} {sql : String} {statement fragment : List Token}
    {found : Statement.Clauses}
    (listed : statement ∈ Statement.split (extractor.canonical sql))
    (read : Statement.clauses statement = .ok (some found))
    (inBody : fragment ∈ Fragment.split found.body) :
    fragment <:+: extractor.canonical sql ∧ Token.IsTrimmed fragment := by
  have spaced := extractor.isSpaced_canonical sql
  obtain ⟨parts, cutting, body⟩ := Statement.spans_of_clauses read
  obtain ⟨chunk, inText, rfl⟩ := Statement.exists_part_of_mem_split listed
  obtain ⟨_, inner, _, -, inside, -, rfl⟩ :=
    Statement.exists_parts_of_spans cutting
  obtain ⟨part, within, rfl⟩ := Fragment.exists_part_of_mem_split inBody
  rw [body] at within
  refine spaced.trim_part (within.trans ?_)
  exact (Token.infix_trim inner).trans
    (inside.trans ((Token.infix_trim chunk).trans inText))

/-! ## Whole texts -/

/--
Every table is well-formed and comes from a statement of the text, and so does
every column from a fragment of the body of that statement.
-/
theorem extract_isWellFormed (extractor : Extractor) (sql : String) :
    ∀ table ∈ (extractor.extract sql).tables,
      table.IsWellFormed ∧
      ∃ statement ∈ Statement.split (extractor.canonical sql),
        ∃ found, Statement.clauses statement = .ok (some found) ∧
          table = Statement.withColumns found.table
            (Fragment.split found.body) ∧
          ∀ column ∈ table.columns, ∃ fragment ∈ Fragment.split found.body,
            Fragment.column fragment = .ok (some column) ∧
              fragment <:+: extractor.canonical sql ∧
              column.IsWellFormed fragment := by
  intro table member
  obtain ⟨statement, listed, found, read, rfl⟩ :=
    exists_clauses_of_mem_tables member
  have header := Statement.isWellFormed_table read
  refine ⟨⟨header.name, header.engine, header.charset, header.collation⟩,
    statement, listed, found, read, rfl, ?_⟩
  intro column inTable
  obtain ⟨fragment, inBody, defined⟩ := Fragment.mem_columns_iff.mp inTable
  obtain ⟨inText, trimmed⟩ := fragment_infix_canonical listed read inBody
  refine ⟨fragment, inBody, defined, inText, ?_⟩
  exact Fragment.isWellFormed_column defined
    ((extractor.isSpaced_canonical sql).of_part inText) trimmed
    fun token inside =>
      Extractor.ne_empty_of_mem_canonical (inText.subset inside)

/--
A key in two parts, each with a comment behind it, and a collation in quotes;
an option in lower case.
-/
theorem extract_isWellFormed_column :
    let sql :=
      "CREATE TABLE 'a' ('b' TEXT CHARACTER -- c\nSET/**/ utf8 COLLATE ' ') engine=x1"
    let column : Column :=
      { name := "b", dataType := "TEXT", charset := "UTF8", collation := "' '" }
    let table : Table :=
      { name := "a", engine := "X1", columns := [column] }
    table ∈ ((Extractor.mk 10).extract sql).tables ∧ table.IsWellFormed ∧
      ∃ fragment, fragment <:+: (Extractor.mk 10).canonical sql ∧
        Fragment.column fragment = .ok (some column) ∧
        column.IsWellFormed fragment := by
  intro sql column table
  have member : table ∈ ((Extractor.mk 10).extract sql).tables := by
    decide +kernel
  obtain ⟨wellFormed, statement, -, found, -, -, columns⟩ :=
    extract_isWellFormed ⟨10⟩ sql table member
  obtain ⟨fragment, -, defined, inText, named⟩ :=
    columns column List.mem_cons_self
  exact ⟨member, wellFormed, fragment, inText, defined, named⟩

end SqlCatalog
