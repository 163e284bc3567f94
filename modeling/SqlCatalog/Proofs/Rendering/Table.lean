import Mathlib.Data.List.Basic
import SqlCatalog.Proofs.Extraction.Canonical
import SqlCatalog.Proofs.Rendering.Column
import SqlCatalog.Proofs.Statement.Cutting
import SqlCatalog.Proofs.Statement.Options

/-!
# Reading the definition of a table

The definitions of tables, divided by semicolons, are read as the tables that
they define.  Nothing in a quoted name, comment or default is mistaken for
structure: a definition is cut at its tokens, and a quoted value is one token
whatever it holds.
-/

namespace SqlCatalog

/-! ## Options -/

theorem optionValue_valueTokens
    {key : Token} {front back : List Token} {value : String}
    (solid : key ≠ " ")
    (before : key ∉ front) (behind : key ∉ back)
    (spelled : value ≠ "" → Alphabet.optionValue.spells value = true) :
    Statement.optionValue [.exactly key]
        (front ++ (valueTokens [" ", key, "="] value value ++ back)) =
      value := by
  by_cases filled : value = ""
  · have absent : key ∉ front ++ back := by simp [before, behind]
    rw [filled, valueTokens_empty, List.nil_append]
    exact (Statement.HasValue.of_not_mem absent []).optionValue_eq
  · have whole :
        front ++ (valueTokens [" ", key, "="] value value ++ back) =
          (front ++ [" "]) ++ key :: "=" :: value :: back := by
      simp [valueTokens_of_ne filled]
    have absent : key ∉ front ++ [" "] := by simp [before, solid]
    have sign : ["="] ∈ Statement.signs := by decide
    have given :
        Statement.HasValue [key]
          ((front ++ [" "]) ++ key :: "=" :: value :: back) value :=
      .of_append absent sign (spelled filled) back
    rw [whole]
    exact given.optionValue_eq

theorem IsBareValue.spells
    {keys : List Token} {value : String}
    (bare : IsBareValue keys value)
    (filled : value ≠ "") :
    Alphabet.optionValue.spells value = true := by
  rcases bare with empty | ⟨spelled, -⟩
  · exact absurd empty filled
  · exact spelled

/-- No option makes up the long key of the character set. -/
theorem Table.misses_characterSet (table : Table) :
    Pattern.Misses [.exactly "CHARACTER", .blank, .exactly "SET"]
      table.optionTokens [] := by
  have comment : Avoids "SET" (table.commentTokens ++ []) :=
    (avoids_nil "SET").valueTokens_append (by decide) _ _ _
  have collation :
      Avoids "SET" (table.collationTokens ++ (table.commentTokens ++ [])) :=
    comment.valueTokens_append (by decide) _ _ _
  apply Pattern.Misses.append
  · apply misses_valueTokens (by decide)
    simp only [List.append_assoc]
    exact collation.valueTokens_append (by decide) _ _ _
  apply Pattern.Misses.append
  · apply misses_valueTokens (by decide)
    rwa [List.append_assoc]
  apply Pattern.Misses.append
  · exact misses_valueTokens (by decide) comment _ _
  · apply Pattern.misses_of_not_mem
    exact not_mem_valueTokens_quote (by decide) (by decide) _ _

namespace Table.IsRenderable

variable {table : Table}

/-- Every key stands in its own option only. -/
theorem absent_key
    (renderable : table.IsRenderable)
    {word : Token}
    (listed : word ∈ tableKeys) :
    (word ≠ "ENGINE" → word ∉ table.engineTokens) ∧
      (word ≠ "CHARSET" → word ∉ table.charsetTokens) ∧
      (word ≠ "COLLATE" → word ∉ table.collationTokens) ∧
      (word ≠ "COMMENT" → word ∉ table.commentTokens) := by
  have shape :
      ∀ word ∈ tableKeys, word.isQuoted = false ∧ word ≠ " " ∧ word ≠ "=" := by
    decide
  rcases shape word listed with ⟨unquoted, solid, sign⟩
  have absent {key : Token} {value : String}
      (bare : IsBareValue (tableKeys.erase key) value) (other : word ≠ key) :
      word ∉ valueTokens [" ", key, "="] value value := by
    apply bare.not_mem_valueTokens
    · exact (List.mem_erase_of_ne other).mpr listed
    · simp [solid, sign, other]
  refine ⟨absent renderable.engine, absent renderable.charset,
    absent renderable.collation, ?_⟩
  intro other
  apply not_mem_valueTokens_quote unquoted
  simp [solid, sign, other]

theorem tableEngine_optionTokens
    (renderable : table.IsRenderable) :
    Statement.tableEngine table.optionTokens = table.engine := by
  have listed : "ENGINE" ∈ tableKeys := by decide
  have whole :
      table.optionTokens =
        [] ++ (table.engineTokens ++
          (table.charsetTokens ++ table.collationTokens ++
            table.commentTokens)) := by
    simp [optionTokens]
  rw [whole]
  apply optionValue_valueTokens (by decide)
  · simp
  · simp [renderable.absent_key listed]
  · exact renderable.engine.spells

theorem tableCollation_optionTokens
    (renderable : table.IsRenderable) :
    Statement.tableCollation table.optionTokens = table.collation := by
  have listed : "COLLATE" ∈ tableKeys := by decide
  have whole :
      table.optionTokens =
        (table.engineTokens ++ table.charsetTokens) ++
          (table.collationTokens ++ table.commentTokens) := by
    simp [optionTokens]
  rw [whole]
  apply optionValue_valueTokens (by decide)
  · simp [renderable.absent_key listed]
  · simp [renderable.absent_key listed]
  · exact renderable.collation.spells

theorem tableCharset_optionTokens
    (renderable : table.IsRenderable) :
    Statement.tableCharset table.optionTokens = table.charset := by
  have listed : "CHARSET" ∈ tableKeys := by decide
  have short :
      Statement.optionValue [.exactly "CHARSET"] table.optionTokens =
        table.charset := by
    apply optionValue_valueTokens (by decide)
    · simp [renderable.absent_key listed]
    · simp [renderable.absent_key listed]
    · exact renderable.charset.spells
  rw [Statement.tableCharset, short]
  split
  case isTrue empty =>
    rw [Statement.optionValue_of_misses table.misses_characterSet]
    exact (String.isEmpty_iff.mp empty).symm
  case isFalse => rfl

theorem tableComment_optionTokens
    (renderable : table.IsRenderable) :
    Statement.tableComment table.optionTokens = .ok table.comment := by
  have listed : "COMMENT" ∈ tableKeys := by decide
  by_cases filled : table.comment = ""
  · have absent : "COMMENT" ∉ table.optionTokens := by
      simp [optionTokens, commentTokens, filled, renderable.absent_key listed]
    rw [filled]
    exact (Statement.HasComment.of_not_mem absent).tableComment_eq
  · have whole :
        table.optionTokens =
          (table.engineTokens ++ table.charsetTokens ++
            table.collationTokens ++ [" "]) ++
          "COMMENT" :: (["="] ++ [Token.quote .apostrophe table.comment]) := by
      simp [optionTokens, commentTokens, valueTokens_of_ne filled]
    have sign : ["="] ∈ Statement.signs := by decide
    have given :=
      Statement.HasComment.of_append
        (table.engineTokens ++ table.charsetTokens ++ table.collationTokens ++ [" "])
        sign (Token.isQuoted_quote .apostrophe table.comment) List.not_mem_nil
    rw [whole, given.tableComment_eq, Token.unquote_quote]

end Table.IsRenderable

/-! ## The parts of a statement -/

/-- The definitions of the columns of a table. -/
def Table.fragments (declare : Column → DataType) (table : Table) :
    List (List Token) :=
  table.columns.map fun column => column.tokens (declare column)

/-- The tokens of the definition of a table. -/
def Table.tokens (declare : Column → DataType) (table : Table) : List Token :=
  ["CREATE", " ", "TABLE", " ", Token.quote .backtick table.name, " "] ++
    "(" :: ([",", " "].intercalate (table.fragments declare) ++
      ")" :: table.optionTokens)

/-- Every renderable column has a declaration of its type. -/
theorem exists_declare :
    ∃ declare : Column → DataType,
      ∀ column : Column, column.IsRenderable →
        column.IsDeclared (declare column) := by
  have each (column : Column) :
      ∃ declared : DataType,
        column.IsRenderable → column.IsDeclared declared := by
    by_cases renderable : column.IsRenderable
    · rcases renderable.dataType with ⟨declared, written, free, same⟩
      exact ⟨declared, fun _ => ⟨renderable, written, free, same⟩⟩
    · exact ⟨⟨"", none, false⟩, fun other => absurd other renderable⟩
  exact Classical.skolem.mp each

/-- A blank in front of the options makes no difference to a lookup. -/
theorem Statement.clauses_blank_cons (header body options : List Token) :
    (Spans.mk header body (Token.blank :: options)).clauses =
      (Spans.mk header body options).clauses := by
  have option
      {keyword : Token} (solid : keyword ≠ Token.blank) (pattern : Pattern) :
      optionValue (.exactly keyword :: pattern) (Token.blank :: options) =
        optionValue (.exactly keyword :: pattern) options := by
    have absent : keyword ∉ [Token.blank] := by
      simpa using solid
    have passed := optionValue?_append
      (Pattern.misses_of_not_mem absent pattern options)
    rw [List.singleton_append] at passed
    rw [optionValue, optionValue, passed]
  have comment :
      tableComment (Token.blank :: options) = tableComment options := by
    have last : lastComment? (Token.blank :: options) = lastComment? options := by
      rw [lastComment?]
      cases lastComment? options <;> simp [Token.blank]
    rw [tableComment, tableComment, last]
  simp only [Spans.clauses, tableEngine, tableCharset, tableCollation, comment,
    option (show "ENGINE" ≠ Token.blank by decide),
    option (show "CHARSET" ≠ Token.blank by decide),
    option (show "CHARACTER" ≠ Token.blank by decide),
    option (show "COLLATE" ≠ Token.blank by decide)]

theorem Statement.tableName_quote
    {name : String}
    (filled : name ≠ "") :
    tableName ["CREATE", " ", "TABLE", " ", Token.quote .backtick name] =
      .ok name := by
  simp [tableName, nameForms, createTable, ifNotExists, Element.accepts,
    Element.blank, Token.blank, NameForm.parts?, filled]

namespace Table

/-- The options can be looked up with or without the blank in front. -/
theorem IsRenderable.clauses_trim
    {table : Table}
    (renderable : table.IsRenderable)
    (header body : List Token) :
    (Statement.Spans.mk header body
        (Token.trim table.optionTokens)).clauses =
      (Statement.Spans.mk header body table.optionTokens).clauses := by
  have tail := renderable.isTail_optionTokens
  have opens : ∀ token ∈ table.optionTokens.head?, token = Token.blank := by
    have comment :
        ∀ token ∈ (table.commentTokens ++ []).head?, token = Token.blank :=
      head?_valueTokens_append (by simp) _ _ _
    rw [List.append_nil] at comment
    apply head?_valueTokens_append
    apply head?_valueTokens_append
    apply head?_valueTokens_append
    exact comment
  generalize table.optionTokens = options at tail opens
  cases options with
  | nil => rfl
  | cons first rest =>
      obtain rfl := opens first rfl
      have last : rest.getLast? ≠ some Token.blank := by
        intro final
        apply tail.last
        rw [← List.singleton_append, List.getLast?_append, final]
        rfl
      rw [Token.trim_blank_cons last, Statement.clauses_blank_cons]

theorem IsRenderable.clauses_header
    {table : Table}
    (renderable : table.IsRenderable)
    (body : List Token) :
    (Statement.Spans.mk
        ["CREATE", " ", "TABLE", " ", Token.quote .backtick table.name] body
        table.optionTokens).clauses =
      .ok ⟨{ table with columns := [] }, body⟩ := by
  simp only [Statement.Spans.clauses, Statement.tableName_quote renderable.name,
    renderable.tableComment_optionTokens, renderable.tableEngine_optionTokens,
    renderable.tableCharset_optionTokens,
    renderable.tableCollation_optionTokens]
  rfl

end Table

/-! ## The body -/

/-- A blank behind each comma can be taken for the start of the next piece. -/
theorem intercalate_comma_blank (fragment : List Token) (later : List (List Token)) :
    [",", " "].intercalate (fragment :: later) =
      [","].intercalate (fragment :: later.map (" " :: ·)) := by
  induction later generalizing fragment with
  | nil => simp
  | cons next later hypothesis =>
      rw [List.map_cons, List.intercalate_cons_cons, List.intercalate_cons_cons,
        List.intercalate_cons_cons_left, ← hypothesis]
      simp

/-- Phrases that are pieces come back from a body of them. -/
theorem Fragment.split_intercalate
    {fragments : List (List Token)}
    (phrases : ∀ fragment ∈ fragments, IsPhrase fragment)
    (pieces : ∀ fragment ∈ fragments, IsPiece fragment) :
    split ([",", " "].intercalate fragments) = fragments := by
  cases fragments with
  | nil => rfl
  | cons fragment later =>
      have blank : IsPiece [" "] :=
        isPiece_of_not_mem (by decide) (by decide) (by decide)
      have found :
          Fragment.pieces ([",", " "].intercalate (fragment :: later)) =
            fragment :: later.map (" " :: ·) := by
        rw [intercalate_comma_blank]
        apply pieces_intercalate (by simp)
        intro other member
        rcases List.mem_cons.mp member with rfl | member
        · exact pieces other List.mem_cons_self
        · rcases List.mem_map.mp member with ⟨next, listed, rfl⟩
          exact blank.append (pieces next (List.mem_cons_of_mem _ listed))
      have trimmed :
          (fragment :: later.map (" " :: ·)).map Token.trim =
            fragment :: later := by
        have others :
            (later.map (" " :: ·)).map Token.trim = later.map id := by
          rw [List.map_map]
          apply List.map_congr_left
          intro next listed
          exact Token.trim_blank_cons
            (phrases next (List.mem_cons_of_mem _ listed)).last
        rw [List.map_cons, others, List.map_id,
          (phrases fragment List.mem_cons_self).trim_eq_self]
      have filled : (fragment :: later).getLast? ≠ some [] := by
        intro empty
        exact (phrases [] (List.mem_of_getLast? empty)).filled rfl
      rw [split, found, trimmed, dropEmptyLast, if_neg filled]

namespace Table

variable {table : Table} {declare : Column → DataType}

theorem isPhrase_fragments
    (declared : ∀ column ∈ table.columns, column.IsDeclared (declare column)) :
    ∀ fragment ∈ table.fragments declare, IsPhrase fragment := by
  intro fragment member
  rcases List.mem_map.mp member with ⟨column, listed, rfl⟩
  have given := declared column listed
  exact given.isPhrase_tokens given.written

theorem isPiece_fragments
    (declared : ∀ column ∈ table.columns, column.IsDeclared (declare column)) :
    ∀ fragment ∈ table.fragments declare, Fragment.IsPiece fragment := by
  intro fragment member
  rcases List.mem_map.mp member with ⟨column, listed, rfl⟩
  exact (declared column listed).isPiece_tokens

/-- The body of a definition is empty or a phrase. -/
theorem body_cases
    (declared : ∀ column ∈ table.columns, column.IsDeclared (declare column)) :
    [",", " "].intercalate (table.fragments declare) = [] ∨
      IsPhrase ([",", " "].intercalate (table.fragments declare)) := by
  by_cases empty : table.fragments declare = []
  · left
    rw [empty, List.intercalate_nil]
  · right
    apply IsPhrase.intercalate (by decide) _ (by decide) empty
      (isPhrase_fragments declared)
    exact isPlainSequence_of_keys (by decide) (by decide)

/-- The definition of a table is read as its header and its columns. -/
theorem IsRenderable.read_tokens
    (renderable : table.IsRenderable)
    (declared : ∀ column ∈ table.columns, column.IsDeclared (declare column)) :
    Statement.read (table.tokens declare) =
      .definition { table with columns := [] } (table.fragments declare) := by
  have pieces := isPiece_fragments declared
  have split := Fragment.split_intercalate (isPhrase_fragments declared) pieces
  have body :
      Token.trim ([",", " "].intercalate (table.fragments declare)) =
        [",", " "].intercalate (table.fragments declare) := by
    rcases body_cases declared with empty | phrase
    · rw [empty, Token.trim_nil]
    · exact phrase.trim_eq_self
  have header :
      Token.trim
          ["CREATE", " ", "TABLE", " ", Token.quote .backtick table.name, " "] =
        ["CREATE", " ", "TABLE", " ", Token.quote .backtick table.name] := by
    simp [Token.trim, Token.trimStart, Token.trimEnd, Token.blank]
  have noOpen :
      "(" ∉ ["CREATE", " ", "TABLE", " ", Token.quote .backtick table.name,
        " "] := by
    have name : "(" ≠ Token.quote .backtick table.name :=
      Ne.symm (ne_of_isQuoted (Token.isQuoted_quote _ _) (by decide))
    simp [name]
  have between : Bracket.Balanced [",", " "] :=
    Bracket.balanced_of_not_mem (by decide) (by decide)
  have balanced :=
    between.intercalate fun fragment member => (pieces fragment member).balanced
  have spans := Statement.spans_of_balanced noOpen balanced table.optionTokens
  rw [header, body] at spans
  have create : Statement.isCreateTable (table.tokens declare) = true := rfl
  have clauses :
      Statement.clauses (table.tokens declare) =
        .ok (some ⟨{ table with columns := [] },
          [",", " "].intercalate (table.fragments declare)⟩) := by
    rw [Statement.clauses, if_pos create, tokens, spans]
    simp only [bind, Except.bind, renderable.clauses_trim,
      renderable.clauses_header]
    rfl
  rw [Statement.read, clauses]
  simp only [split]

/-- The columns come back from their definitions, and none is at fault. -/
theorem columns_fragments
    (declared : ∀ column ∈ table.columns, column.IsDeclared (declare column)) :
    Fragment.columns (table.fragments declare) = table.columns ∧
      Fragment.faults (table.fragments declare) = [] := by
  constructor
  · rw [Fragment.columns, fragments, List.filterMap_map]
    have each :
        ∀ column ∈ table.columns,
          (Fragment.column? ∘ fun column => column.tokens (declare column)) column =
            some column := by
      intro column listed
      simp [Fragment.column?, (declared column listed).column_tokens]
    rw [List.filterMap_congr each, List.filterMap_some]
  · rw [Fragment.faults, List.filterMap_eq_nil_iff]
    rintro ⟨fragment, place⟩ member
    rcases List.mem_map.mp (List.fst_mem_of_mem_zipIdx member) with
      ⟨column, listed, same⟩
    obtain rfl : column.tokens (declare column) = fragment := same
    simp [Fragment.fault?, (declared column listed).column_tokens]

/-! ## The text of a definition -/

/-- The definition of a table is a phrase. -/
theorem IsRenderable.isPhrase_tokens
    (renderable : table.IsRenderable)
    (declared : ∀ column ∈ table.columns, column.IsDeclared (declare column)) :
    IsPhrase (table.tokens declare) := by
  have options : IsTail (")" :: table.optionTokens) :=
    isTail_close.append renderable.isTail_optionTokens
  have inside :
      IsPlainSequence ([",", " "].intercalate (table.fragments declare) ++
          ")" :: table.optionTokens) ∧
        ([",", " "].intercalate (table.fragments declare) ++
          ")" :: table.optionTokens).getLast? ≠ some Token.blank := by
    rcases body_cases declared with empty | phrase
    · rw [empty, List.nil_append]
      exact ⟨options.toIsPlainSequence, options.last⟩
    · have whole := phrase.append options
      exact ⟨whole.toIsPlainSequence, whole.last⟩
  have body :
      IsPhrase ("(" :: ([",", " "].intercalate (table.fragments declare) ++
        ")" :: table.optionTokens)) := by
    refine ⟨isPlainSequence_open inside.1, by simp, by simp [Token.blank], ?_⟩
    rw [← List.singleton_append, List.getLast?_append_of_ne_nil _ (by simp)]
    exact inside.2
  have name : IsPhrase [Token.quote .backtick table.name] :=
    isPhrase_singleton (isPlain_quote fun escapes => by cases escapes)
  have create : IsPhrase ["CREATE"] :=
    isPhrase_singleton ⟨.word (by decide), by decide⟩
  have keyword : IsPhrase ["TABLE"] :=
    isPhrase_singleton ⟨.word (by decide), by decide⟩
  have named := name.append body.isTail_blank_cons
  exact create.append (keyword.append named.isTail_blank_cons).isTail_blank_cons

theorem IsRenderable.semicolon_not_mem_optionTokens
    (renderable : table.IsRenderable) :
    ";" ∉ table.optionTokens := by
  have listed : ";" ∈ punctuation := by decide
  simp only [optionTokens, List.mem_append, not_or]
  refine ⟨?_, ?_, ?_, ?_⟩
  · exact renderable.engine.not_mem_of_punctuation listed (by decide)
  · exact renderable.charset.not_mem_of_punctuation listed (by decide)
  · exact renderable.collation.not_mem_of_punctuation listed (by decide)
  · exact not_mem_valueTokens_quote (by decide) (by decide) _ _

theorem IsRenderable.semicolon_not_mem_tokens
    (renderable : table.IsRenderable)
    (declared : ∀ column ∈ table.columns, column.IsDeclared (declare column)) :
    ";" ∉ table.tokens declare := by
  have name : ";" ≠ Token.quote .backtick table.name :=
    Ne.symm (ne_of_isQuoted (Token.isQuoted_quote _ _) (by decide))
  have body : ";" ∉ [",", " "].intercalate (table.fragments declare) := by
    intro member
    rcases mem_of_mem_intercalate member with between | ⟨fragment, listed, inside⟩
    · exact absurd between (by decide)
    · rcases List.mem_map.mp listed with ⟨column, given, rfl⟩
      exact (declared column given).semicolon_not_mem_tokens inside
  simp [tokens, name, body, renderable.semicolon_not_mem_optionTokens]

theorem join_tokens
    (declared : ∀ column ∈ table.columns, column.IsDeclared (declare column)) :
    String.join (table.tokens declare) = table.render := by
  have columns :
      (table.fragments declare).map String.join =
        table.columns.map Column.render := by
    rw [fragments, List.map_map]
    apply List.map_congr_left
    intro column listed
    exact Column.join_tokens (declared column listed).same
  have body :
      String.join ([",", " "].intercalate (table.fragments declare)) =
        ", ".intercalate (table.columns.map Column.render) := by
    have separator : String.join [",", " "] = ", " := rfl
    rw [join_intercalate, columns, separator]
  unfold render
  apply String.toList_inj.mp
  simp [tokens, body, join_optionTokens]

end Table

/-! ## Whole texts -/

/-- Statements that are all read as tables without faults. -/
theorem ofTokens_of_tables
    {tokens : List Token} {tables : List Table} {write : Table → List Token}
    (statements : Statement.split tokens = tables.map write)
    (each : ∀ table ∈ tables, ∃ header fragments,
      Statement.read (write table) = .definition header fragments ∧
        Statement.withColumns header fragments = table ∧
        Fragment.faults fragments = []) :
    Extraction.ofTokens tokens none =
      { tables := tables, diagnostics := [] } := by
  have outcomes (table : Table) (member : table ∈ tables) (number : Nat) :
      (Extractor.outcome none (write table) number).table? = some table ∧
        (Extractor.outcome none (write table) number).diagnostics number = [] := by
    rcases each table member with ⟨header, fragments, read, same, faults⟩
    simp [Extractor.outcome, read, Outcome.table?, Outcome.diagnostics, same, faults]
  simp only [Extraction.ofTokens, statements, Extractor.broken?,
    Extractor.dangling?, Option.bind_none, List.zipIdx_map, Extraction.mk.injEq]
  constructor
  · have found :
        ∀ entry ∈ tables.zipIdx,
          (Extractor.outcome none (write entry.1) entry.2).table? =
            some entry.1 := by
      rintro ⟨table, number⟩ member
      exact (outcomes table (List.fst_mem_of_mem_zipIdx member) number).1
    have entries :
        tables.zipIdx.filterMap
            (fun entry =>
              (Extractor.outcome none (write entry.1) entry.2).table?) =
          tables := by
      rw [List.filterMap_congr found, List.filterMap_eq_map', List.zipIdx_map_fst]
    rw [List.filterMap_map]
    exact entries
  · have clean :
        ∀ entry ∈ tables.zipIdx,
          (Extractor.outcome none (write entry.1) entry.2).diagnostics entry.2 =
            [] := by
      rintro ⟨table, number⟩ member
      exact (outcomes table (List.fst_mem_of_mem_zipIdx member) number).2
    rw [List.flatMap_map, List.append_eq_nil_iff, List.flatMap_eq_nil_iff]
    exact ⟨clean, rfl⟩

section Definitions

variable
    {tables : List Table} {declare : Column → DataType}
    (declared : ∀ table ∈ tables, ∀ column ∈ table.columns,
      column.IsDeclared (declare column))
include declared

/-- The text of several definitions is made of their tokens. -/
theorem renderAll_eq_join :
    Table.renderAll tables =
      String.join ([";"].intercalate (tables.map (Table.tokens declare))) := by
  rw [join_intercalate, List.map_map, Table.renderAll]
  congr 1
  apply List.map_congr_left
  intro table member
  exact (Table.join_tokens (declared table member)).symm

variable (renderable : ∀ table ∈ tables, table.IsRenderable)
include renderable

/-- Definitions with semicolons between them are read as they stand. -/
theorem isPlainSequence_definitions :
    IsPlainSequence ([";"].intercalate (tables.map (Table.tokens declare))) := by
  cases tables with
  | nil => exact isPlainSequence_nil
  | cons table later =>
      apply IsPhrase.toIsPlainSequence
      apply IsPhrase.intercalate (by decide) _ (by decide) (by simp)
      · intro part member
        rcases List.mem_map.mp member with ⟨other, listed, rfl⟩
        exact (renderable other listed).isPhrase_tokens (declared other listed)
      · exact isPlainSequence_of_keys (by decide) (by decide)

/-- Definitions are divided at the semicolons between them. -/
theorem split_definitions :
    Statement.split ([";"].intercalate (tables.map (Table.tokens declare))) =
      tables.map (Table.tokens declare) := by
  apply Statement.split_intercalate
  intro statement member
  rcases List.mem_map.mp member with ⟨table, listed, rfl⟩
  have phrase := (renderable table listed).isPhrase_tokens (declared table listed)
  exact ⟨(renderable table listed).semicolon_not_mem_tokens (declared table listed),
    phrase.trim_eq_self, phrase.filled⟩

end Definitions

/--
Extraction takes the definitions of renderable tables back to the tables, and
nothing is left out.
-/
theorem extract_renderAll
    (tables : List Table)
    (renderable : ∀ table ∈ tables, table.IsRenderable) :
    (Extractor.mk 0).extract (Table.renderAll tables) =
      { tables := tables, diagnostics := [] } := by
  rcases exists_declare with ⟨declare, declares⟩
  have declared :
      ∀ table ∈ tables, ∀ column ∈ table.columns,
        column.IsDeclared (declare column) := by
    intro table member column listed
    exact declares column ((renderable table member).columns column listed)
  have plain := isPlainSequence_definitions declared renderable
  rw [extract_eq_ofTokens, Extractor.canonical, renderAll_eq_join declared,
    plain.tokenize_join]
  simp only [plain.normalize_eq_self]
  apply ofTokens_of_tables (split_definitions declared renderable)
  intro table member
  have columns := Table.columns_fragments (declared table member)
  refine ⟨_, _, (renderable table member).read_tokens (declared table member), ?_,
    columns.2⟩
  rw [Statement.withColumns, columns.1]

/-- Tables whose names, defaults and comments look like structure. -/
def punctuatedTables : List Table :=
  [{ name := "a.\x60b", comment := "it's; /* (", engine := "ENGINE"
     charset := "UTF8MB4"
     columns :=
       [{ name := "\x60, é", dataType := "DECIMAL(10,2) UNSIGNED"
          defaultValue := "'); --", comment := "NOT NULL, #"
          autoIncrement := true, charset := "NOT", collation := "CHARACTER" },
        { name := ".", dataType := "CHARACTER", notNull := true }] },
   { name := ";" }]

theorem extract_renderAll_punctuated :
    (∀ table ∈ punctuatedTables, table.IsRenderable) ∧
      (Extractor.mk 0).extract (Table.renderAll punctuatedTables) =
        { tables := punctuatedTables, diagnostics := [] } := by
  have bare (keys : List Token) : IsBareValue keys "" := Or.inl rfl
  have decimal : DataType.IsWritten ⟨"DECIMAL", some ["10", "2"], true⟩ :=
    ⟨by decide, by simp⟩
  have character : DataType.IsWritten ⟨"CHARACTER", none, false⟩ :=
    ⟨by decide, by decide⟩
  have renderable : ∀ table ∈ punctuatedTables, table.IsRenderable := by
    simp only [punctuatedTables, List.forall_mem_cons]
    refine ⟨⟨by decide, ?_, Or.inr (by decide), Or.inr (by decide), bare _,
      by decide⟩, ⟨by decide, by simp, bare _, bare _, bare _, by decide⟩, by simp⟩
    simp only [List.forall_mem_cons]
    refine ⟨⟨by decide, ⟨_, decimal, by decide, by decide⟩, Or.inr (by decide),
      Or.inr (by decide), by decide, by decide⟩,
      ⟨by decide, ⟨_, character, by decide, by decide⟩, bare _, bare _,
        by decide, by decide⟩, by simp⟩
  exact ⟨renderable, extract_renderAll punctuatedTables renderable⟩

-- The keys have to be left out of the words: none of them comes back as a type
-- or an engine once the clauses that they are the keys of are there.
example :
    ∀ word ∈ columnKeys,
      ((Extractor.mk 0).extract (Table.renderAll
        [{ name := "a", columns := [{ name := "b", dataType := word
                                      collation := "C", defaultValue := "d"
                                      comment := "e" }] }])).tables ≠
        [{ name := "a", columns := [{ name := "b", dataType := word
                                      collation := "C", defaultValue := "d"
                                      comment := "e" }] }] := by
  decide +kernel

example :
    ∀ word ∈ tableKeys.erase "ENGINE",
      ((Extractor.mk 0).extract (Table.renderAll
        [{ name := "a", engine := word, charset := "C", collation := "D" }])).tables ≠
        [{ name := "a", engine := word, charset := "C", collation := "D" }] := by
  decide +kernel

end SqlCatalog
