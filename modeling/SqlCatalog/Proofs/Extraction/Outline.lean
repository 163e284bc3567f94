import Mathlib.Data.List.Find
import SqlCatalog.Proofs.Extraction.Canonical
import SqlCatalog.Proofs.Token.Veil

/-!
# Outlines

The outline of a table is what remains of it when the values of quoted tokens
are hidden.  Every reader yields the same outline and the same faults for a
sequence and for the veiled sequence: it looks at a quoted value to copy it,
or to see whether it is empty.

Types, character sets and collations of columns are not part of the outline,
since they may hold quoted tokens as they stand.
-/

namespace SqlCatalog

open Extractor

/-- What of a column does not depend on quoted values. -/
structure Column.Outline where
  /-- Whether the column is declared never to be null. -/
  notNull : Bool
  /-- Whether the column is numbered automatically. -/
  autoIncrement : Bool
  /-- Whether a default value is known. -/
  hasDefault : Bool
deriving DecidableEq, Repr

def Column.outline (column : Column) : Column.Outline where
  notNull := column.notNull
  autoIncrement := column.autoIncrement
  hasDefault := column.hasDefault

/-- What of a table does not depend on quoted values. -/
structure Table.Outline where
  /-- The storage engine. -/
  engine : String
  /-- The default character set. -/
  charset : String
  /-- The default collation. -/
  collation : String
  /-- The outlines of the columns. -/
  columns : List Column.Outline
deriving DecidableEq, Repr

def Table.outline (table : Table) : Table.Outline where
  engine := table.engine
  charset := table.charset
  collation := table.collation
  columns := table.columns.map Column.outline

/-- The image of a result is a given one in the same way as the result. -/
theorem Except.map_eq_map_cases
    {Value Image : Type} {image : Value → Image} {left right : Except Fault Value}
    (same : left.map image = right.map image) :
    (∃ fault, left = .error fault ∧ right = .error fault) ∨
      ∃ first second,
        left = .ok first ∧ right = .ok second ∧ image first = image second := by
  cases left with
  | error fault =>
      cases right with
      | error other =>
          injection same with faults
          exact Or.inl ⟨fault, rfl, by rw [faults]⟩
      | ok second => cases same
  | ok first =>
      cases right with
      | error other => cases same
      | ok second =>
          injection same with images
          exact Or.inr ⟨first, second, rfl, rfl, images⟩

/-! ## Header and options -/

namespace Statement

theorem NameForm.parts?_veiled (form : NameForm) (header : List Token) :
    (form.parts? (header.map Token.veiled)).map (List.map String.isEmpty) =
      (form.parts? header).map (List.map String.isEmpty) := by
  unfold NameForm.parts?
  induction form.positions with
  | nil => rfl
  | cons position positions hypothesis =>
      rw [List.mapM_cons, List.mapM_cons]
      generalize positions.mapM (fun position =>
        header[position]?.map Token.unquote) = old at hypothesis ⊢
      generalize positions.mapM (fun position =>
        (header.map Token.veiled)[position]?.map Token.unquote) = new
        at hypothesis ⊢
      cases found : header[position]? with
      | none => simp [found]
      | some token => cases old <;> cases new <;> simp_all

theorem tableName_veiled (header : List Token) :
    (tableName (header.map Token.veiled)).map (fun _ => ()) =
      (tableName header).map fun _ => () := by
  have bare :
      ∀ form ∈ nameForms, form.pattern.all Element.isBare = true := by
    decide
  have forms :
      (nameForms.find? fun form => form.pattern.fits (header.map Token.veiled)) =
        nameForms.find? fun form => form.pattern.fits header :=
    List.find?_congr fun form member => Pattern.fits_veiled (bare form member) header
  rw [tableName, tableName, forms]
  cases nameForms.find? fun form => form.pattern.fits header with
  | none => rfl
  | some form =>
      have values := form.parts?_veiled header
      cases old : form.parts? header with
      | none =>
          rw [old, Option.map_none, Option.map_eq_none_iff] at values
          simp only [old, values]
      | some parts =>
          rw [old, Option.map_some, Option.map_eq_some_iff] at values
          rcases values with ⟨others, new, same⟩
          have empty : others.any String.isEmpty = parts.any String.isEmpty := by
            simpa using congrArg (List.any · id) same
          simp only [old, new, empty]
          split <;> rfl

theorem lastComment?_veiled (options : List Token) :
    lastComment? (options.map Token.veiled) =
      (lastComment? options).map (List.map Token.veiled) := by
  induction options with
  | nil => rfl
  | cons token rest hypothesis =>
      rw [List.map_cons, lastComment?, lastComment?, hypothesis]
      cases lastComment? rest with
      | some later => rfl
      | none =>
          simp only [Option.map_none, List.length_map,
            Token.veiled_eq_iff (show Token.isQuoted "COMMENT" = false by decide)]
          split <;> rfl

theorem tableComment_veiled (options : List Token) :
    (tableComment (options.map Token.veiled)).map (fun _ => ()) =
      (tableComment options).map fun _ => () := by
  have bare :
      ∀ form ∈ commentForms, form.pattern.all Element.isBare = true := by
    decide
  rw [tableComment, tableComment, lastComment?_veiled]
  cases lastComment? options with
  | none => rfl
  | some tokens =>
      have forms :
          (commentForms.find? fun form =>
              form.pattern.fits (tokens.map Token.veiled)) =
            commentForms.find? fun form => form.pattern.fits tokens :=
        List.find?_congr fun form member =>
          Pattern.fits_veiled (bare form member) tokens
      simp only [Option.map_some, forms]
      cases commentForms.find? fun form => form.pattern.fits tokens with
      | none => rfl
      | some form =>
          simp only [List.getElem?_map]
          cases tokens[form.position]? <;> rfl

-- The value itself is copied, and it stands without quotes.
theorem leadingValue?_veiled (tokens : List Token) :
    leadingValue? (tokens.map Token.veiled) = leadingValue? tokens := by
  have bare : ∀ form ∈ valueForms, form.all Element.isBare = true := by
    decide
  have last :
      ∀ form ∈ valueForms, form[form.length - 1]? = some (.name .optionValue) := by
    decide
  have forms :
      (valueForms.find? fun form => form.fits (tokens.map Token.veiled)) =
        valueForms.find? fun form => form.fits tokens :=
    List.find?_congr fun form member => Pattern.fits_veiled (bare form member) tokens
  rw [leadingValue?, leadingValue?, forms]
  cases found : valueForms.find? fun form => form.fits tokens with
  | none => rfl
  | some form =>
      have fit := List.find?_some (p := (Pattern.fits · tokens)) found
      have final := last form (List.mem_of_find?_eq_some found)
      rcases Pattern.accepts_of_fits fit final with ⟨value, here, spelled⟩
      have unquoted := Alphabet.isQuoted_of_spells spelled
      simp only [List.getElem?_map, here, Option.map_some,
        Token.veiled_of_isQuoted_eq_false unquoted]

theorem optionValue_veiled
    {key : Pattern}
    (bare : key.all Element.isBare = true)
    (options : List Token) :
    optionValue key (options.map Token.veiled) = optionValue key options := by
  have values : optionValue? key (options.map Token.veiled) = optionValue? key options := by
    induction options with
    | nil => rfl
    | cons token rest hypothesis =>
        have fit := Pattern.fits_veiled bare (token :: rest)
        have value :
            leadingValue? (((token :: rest).map Token.veiled).drop key.length) =
              leadingValue? ((token :: rest).drop key.length) := by
          rw [← List.map_drop, leadingValue?_veiled]
        rw [List.map_cons] at fit value ⊢
        rw [optionValue?, optionValue?, fit, value, hypothesis]
  rw [optionValue, optionValue, values]

/-- The parts of a statement behind the veil. -/
def Spans.veiled (spans : Spans) : Spans where
  header := spans.header.map Token.veiled
  body := spans.body.map Token.veiled
  options := spans.options.map Token.veiled

theorem spans_veiled (statement : List Token) :
    spans (statement.map Token.veiled) = (spans statement).map Spans.veiled := by
  rw [spans, spans, position?_veiled (by decide)]
  cases position? "(" statement with
  | none => rfl
  | some start =>
      simp only [Bracket.closing_veiled]
      cases Bracket.closing statement start with
      | error fault => rfl
      | ok close =>
          simp only [Except.map, Spans.veiled, ← List.map_take, ← List.map_drop,
            Token.trim_veiled]

/-- The outline of a table without columns, and its body behind the veil. -/
def Clauses.outline (clauses : Clauses) : Table.Outline × List Token :=
  (clauses.table.outline, clauses.body.map Token.veiled)

theorem Spans.clauses_veiled (spans : Spans) :
    spans.veiled.clauses.map Clauses.outline =
      spans.clauses.map Clauses.outline := by
  have option (key : Pattern) (bare : key.all Element.isBare = true) :
      optionValue key spans.veiled.options = optionValue key spans.options :=
    optionValue_veiled bare spans.options
  have engine : tableEngine spans.veiled.options = tableEngine spans.options :=
    option _ (by decide)
  have collation :
      tableCollation spans.veiled.options = tableCollation spans.options :=
    option _ (by decide)
  have charset :
      tableCharset spans.veiled.options = tableCharset spans.options := by
    rw [tableCharset, tableCharset, option _ (by decide), option _ (by decide)]
  have body : spans.veiled.body.map Token.veiled = spans.body.map Token.veiled := by
    simp [Spans.veiled]
  rw [Spans.clauses, Spans.clauses]
  rcases Except.map_eq_map_cases (tableName_veiled spans.header) with
    ⟨fault, new, old⟩ | ⟨name, other, new, old, -⟩
  · rw [old, show tableName spans.veiled.header = .error fault from new]
    rfl
  · rw [old, show tableName spans.veiled.header = .ok name from new]
    rcases Except.map_eq_map_cases (tableComment_veiled spans.options) with
      ⟨fault, new, old⟩ | ⟨comment, other, new, old, -⟩
    · rw [old, show tableComment spans.veiled.options = .error fault from new]
      rfl
    · rw [old, show tableComment spans.veiled.options = .ok comment from new]
      simp [Except.map, bind, Except.bind, pure, Except.pure, Clauses.outline,
        Table.outline, engine, charset, collation, body]

theorem clauses_veiled (statement : List Token) :
    (clauses (statement.map Token.veiled)).map (Option.map Clauses.outline) =
      (clauses statement).map (Option.map Clauses.outline) := by
  have create : isCreateTable (statement.map Token.veiled) = isCreateTable statement :=
    Pattern.fits_veiled (by decide) statement
  rw [clauses, clauses, create, spans_veiled]
  split
  · cases spans statement with
    | error fault => rfl
    | ok parts =>
        have same := parts.clauses_veiled
        rcases Except.map_eq_map_cases same with
          ⟨fault, new, old⟩ | ⟨first, second, new, old, outlines⟩
        · simp [Except.map, bind, Except.bind, new, old]
        · simp [Except.map, bind, Except.bind, pure, Except.pure, new, old, outlines]
  · rfl

end Statement

/-! ## Columns -/

namespace Fragment

theorem isEmpty_literalAt_veiled (tokens : List Token) (index : Nat) :
    (literalAt (tokens.map Token.veiled) index).isEmpty =
      (literalAt tokens index).isEmpty := by
  simp only [literalAt, List.getElem?_map]
  cases tokens[index]? with
  | none => rfl
  | some token => exact token.isEmpty_unquote_veiled

theorem isEmpty_join_veiled (tokens : List Token) :
    (String.join (tokens.map Token.veiled)).isEmpty =
      (String.join tokens).isEmpty := by
  rw [Bool.eq_iff_iff, String.isEmpty_iff, String.isEmpty_iff]
  induction tokens with
  | nil => rfl
  | cons token tokens hypothesis =>
      have empty := token.isEmpty_veiled
      rw [Bool.eq_iff_iff, String.isEmpty_iff, String.isEmpty_iff] at empty
      simp [String.append_eq_empty_iff, hypothesis, empty]

theorem defaultValue_veiled (fragment : List Token) :
    (defaultValue (fragment.map Token.veiled)).map String.isEmpty =
      (defaultValue fragment).map String.isEmpty := by
  simp only [defaultValue,
    dropWhile_ne_veiled (show Token.isQuoted "DEFAULT" = false by decide)]
  generalize fragment.dropWhile (· != "DEFAULT") = clause
  have literal :
      (defaultClause .quoted).fits (clause.map Token.veiled) =
        (defaultClause .quoted).fits clause :=
    Pattern.fits_veiled (by decide) clause
  have expression :
      (defaultClause (.exactly "(")).fits (clause.map Token.veiled) =
        (defaultClause (.exactly "(")).fits clause :=
    Pattern.fits_veiled (by decide) clause
  have keywords :
      (defaultKeywords.find? fun keyword =>
          (defaultClause (.exactly keyword)).fits (clause.map Token.veiled)) =
        defaultKeywords.find? fun keyword =>
          (defaultClause (.exactly keyword)).fits clause := by
    have bare :
        ∀ keyword ∈ defaultKeywords,
          (defaultClause (.exactly keyword)).all Element.isBare = true := by
      decide
    exact List.find?_congr fun keyword member =>
      Pattern.fits_veiled (bare keyword member) clause
  rw [literal, expression, keywords, Bracket.closing_veiled]
  split
  · exact congrArg Except.ok (isEmpty_literalAt_veiled clause 2)
  · split
    · cases Bracket.closing clause 2 with
      | error fault => rfl
      | ok close =>
          have empty := isEmpty_join_veiled ((clause.take close).drop 3)
          rw [List.map_drop, List.map_take] at empty
          exact congrArg Except.ok empty
    · rfl

theorem isAutoIncrement_veiled (fragment : List Token) :
    isAutoIncrement (fragment.map Token.veiled) = isAutoIncrement fragment := by
  have bare : Token.isQuoted "AUTO_INCREMENT" = false := by decide
  simp [isAutoIncrement, Token.veiled_eq_iff bare]

theorem column_veiled (fragment : List Token) :
    (column (fragment.map Token.veiled)).map (Option.map Column.outline) =
      (column fragment).map (Option.map Column.outline) := by
  cases fragment with
  | nil => rfl
  | cons first rest =>
      have notNull :
          isNotNull ((first :: rest).map Token.veiled) = isNotNull (first :: rest) := by
        rw [isNotNull, isNotNull, Pattern.find?_veiled (by decide)]
      have increment := isAutoIncrement_veiled (first :: rest)
      have value := defaultValue_veiled (first :: rest)
      rw [List.map_cons] at notNull increment value ⊢
      simp only [column, Token.isQuoted_veiled, List.isEmpty_map,
        Token.isEmpty_unquote_veiled, List.length_cons, List.length_map]
      split
      · rfl
      · split
        · rfl
        · split
          · rfl
          · rcases Except.map_eq_map_cases value with
              ⟨fault, new, old⟩ | ⟨left, right, new, old, empty⟩
            · rw [new, old]
              rfl
            · simp [new, old, Except.map, bind, Except.bind, pure, Except.pure,
                Column.outline, Column.hasDefault, notNull, increment, empty]

theorem column?_veiled (fragment : List Token) :
    (column? (fragment.map Token.veiled)).map Column.outline =
      (column? fragment).map Column.outline := by
  rcases Except.map_eq_map_cases (column_veiled fragment) with
    ⟨fault, new, old⟩ | ⟨left, right, new, old, same⟩
  · rw [column?, column?, new, old]
  · rw [column?, column?, new, old]
    exact same

theorem fault?_veiled (fragment : List Token) :
    fault? (fragment.map Token.veiled) = fault? fragment := by
  rcases Except.map_eq_map_cases (column_veiled fragment) with
    ⟨fault, new, old⟩ | ⟨left, right, new, old, same⟩
  · rw [fault?, fault?, new, old]
  · rw [fault?, fault?, new, old]

theorem columns_veiled (fragments : List (List Token)) :
    (columns (fragments.map (List.map Token.veiled))).map Column.outline =
      (columns fragments).map Column.outline := by
  simp only [columns, List.filterMap_map, List.map_filterMap]
  congr 1
  funext fragment
  exact column?_veiled fragment

theorem faults_veiled (fragments : List (List Token)) :
    faults (fragments.map (List.map Token.veiled)) = faults fragments := by
  simp only [faults, List.zipIdx_map, List.filterMap_map]
  congr 1
  funext entry
  obtain ⟨fragment, place⟩ := entry
  simp [fault?_veiled]

end Fragment

/-! ## Extractions -/

/-- Bodies that look alike behind the veil have the same outline. -/
theorem Fragment.split_eq_of_veiled
    {left right : List Token}
    (same : left.map Token.veiled = right.map Token.veiled) :
    (columns (split left)).map Column.outline =
        (columns (split right)).map Column.outline ∧
      faults (split left) = faults (split right) := by
  have fragments :
      (split left).map (List.map Token.veiled) =
        (split right).map (List.map Token.veiled) := by
    rw [← split_veiled, ← split_veiled, same]
  constructor
  · rw [← columns_veiled, fragments, columns_veiled]
  · rw [← faults_veiled, fragments, faults_veiled]

theorem outcome_read_veiled (statement : List Token) (number : Nat) :
    (Outcome.read (Statement.read (statement.map Token.veiled))).table?.map
          Table.outline =
        (Outcome.read (Statement.read statement)).table?.map Table.outline ∧
      (Outcome.read (Statement.read (statement.map Token.veiled))).diagnostics
          number =
        (Outcome.read (Statement.read statement)).diagnostics number := by
  rw [Statement.read, Statement.read]
  rcases Except.map_eq_map_cases (Statement.clauses_veiled statement) with
    ⟨fault, new, old⟩ | ⟨left, right, new, old, same⟩
  · rw [new, old]
    exact ⟨rfl, rfl⟩
  · rw [new, old]
    cases left with
    | none =>
        cases right with
        | none => exact ⟨rfl, rfl⟩
        | some right => cases same
    | some left =>
        cases right with
        | none => cases same
        | some right =>
            injection same with outlines
            injection outlines with table body
            injection table with engine charset collation
            have body := Fragment.split_eq_of_veiled body
            constructor
            · simp [Outcome.table?, Statement.withColumns, Table.outline,
                engine, charset, collation, body.1]
            · simp [Outcome.diagnostics, body.2]

theorem outcome_veiled
    (broken : Option (Nat × Unterminated)) (statement : List Token)
    (number : Nat) :
    (outcome broken (statement.map Token.veiled) number).table?.map
          Table.outline =
        (outcome broken statement number).table?.map Table.outline ∧
      (outcome broken (statement.map Token.veiled) number).diagnostics number =
        (outcome broken statement number).diagnostics number := by
  have read := outcome_read_veiled statement number
  unfold outcome
  split
  · split
    · exact ⟨rfl, rfl⟩
    · exact read
  · exact read

theorem lastStatement?_veiled (tokens : List Token) :
    lastStatement? (tokens.map Token.veiled) = lastStatement? tokens := by
  simp only [lastStatement?, Statement.tail_veiled, Token.trim_veiled,
    Statement.split_veiled, List.isEmpty_map, List.length_map]

/-- Behind the veil an extraction has the same outline. -/
theorem ofTokens_veiled (tokens : List Token) (fault : Option Unterminated) :
    (Extraction.ofTokens (tokens.map Token.veiled) fault).tables.map
          Table.outline =
        (Extraction.ofTokens tokens fault).tables.map Table.outline ∧
      (Extraction.ofTokens (tokens.map Token.veiled) fault).diagnostics =
        (Extraction.ofTokens tokens fault).diagnostics := by
  have broken :
      broken? (tokens.map Token.veiled) fault = broken? tokens fault := by
    rw [broken?, broken?, lastStatement?_veiled]
  constructor
  · simp only [Extraction.ofTokens, broken, Statement.split_veiled,
      List.zipIdx_map, List.filterMap_map, List.map_filterMap]
    congr 1
    funext entry
    obtain ⟨statement, number⟩ := entry
    exact (outcome_veiled _ statement number).1
  · simp only [Extraction.ofTokens, dangling?, broken, Statement.split_veiled,
      List.zipIdx_map, List.flatMap_map]
    congr 2
    funext entry
    obtain ⟨statement, number⟩ := entry
    exact (outcome_veiled _ statement number).2

end SqlCatalog
