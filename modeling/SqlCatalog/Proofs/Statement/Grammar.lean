import SqlCatalog.Proofs.Statement.Cutting
import SqlCatalog.Proofs.Statement.Faults
import SqlCatalog.Proofs.Statement.Options

/-!
# The grammar of table definitions

A table definition is a header, a body in parentheses and options.  The header
names the table by one identifier or by two with a dot between them.  This
module states the grammar without reference to the order in which forms are
tried, and shows that reading a statement follows it: every statement is read
in exactly one way, and among several faults the one that comes first in the
grammar is found.
-/

namespace SqlCatalog.Statement

/-! ## The header -/

/-- The keywords that every table definition starts with. -/
def createKeywords : List Token :=
  ["CREATE", " ", "TABLE", " "]

/-- The keywords for tables that exist already. -/
def ifNotExistsKeywords : List Token :=
  ["IF", " ", "NOT", " ", "EXISTS", " "]

/-- What may stand in front of the name. -/
def headerStarts : List (List Token) :=
  [createKeywords, createKeywords ++ ifNotExistsKeywords]

/-- The identifiers that a header uses, of which there are one or two. -/
inductive Identifies : List Token → List Token → Prop
  /-- The name of a database, a dot and the name of a table. -/
  | qualified {start rest : List Token} {database table : Token}
      (listed : start ∈ headerStarts)
      (quoted : database.isQuoted = true)
      (also : table.isQuoted = true) :
      Identifies (start ++ database :: "." :: table :: rest) [database, table]
  /-- The name of a table that no dot and second name follow. -/
  | plain {start rest : List Token} {table : Token}
      (listed : start ∈ headerStarts)
      (quoted : table.isQuoted = true)
      (alone : ∀ (other : Token) (more : List Token),
        rest = "." :: other :: more → other.isQuoted = false) :
      Identifies (start ++ table :: rest) [table]

/-- The name that identifiers make up. -/
def joinedName (identifiers : List Token) : String :=
  ".".intercalate (identifiers.map Token.unquote)

theorem isCreateTable_iff (tokens : List Token) :
    isCreateTable tokens = true ↔ createKeywords <+: tokens :=
  Pattern.fits_keys_iff createKeywords

theorem Identifies.createKeywords_prefix
    {header identifiers : List Token}
    (identifies : Identifies header identifiers) :
    createKeywords <+: header := by
  have starts : ∀ start ∈ headerStarts, createKeywords <+: start := by decide
  cases identifies with
  | qualified listed => exact (starts _ listed).trans (List.prefix_append _ _)
  | plain listed => exact (starts _ listed).trans (List.prefix_append _ _)

/-- No blank stands in front of the keywords. -/
theorem trim_of_create
    {header : List Token}
    (create : createKeywords <+: header) :
    Token.trim header = Token.trimEnd header := by
  obtain ⟨rest, rfl⟩ := create
  rfl

/-- A blank at the end of a header is no part of a name. -/
theorem Identifies.trimEnd
    {header identifiers : List Token}
    (identifies : Identifies header identifiers) :
    Identifies (Token.trimEnd header) identifiers := by
  cases identifies with
  | @qualified start rest database table listed quoted also =>
      have parts :=
        Token.trimEnd_append_cons (ne_of_isQuoted also (by decide))
          (start ++ [database, "."]) rest
      simp only [List.append_assoc, List.cons_append, List.nil_append] at parts
      rw [parts]
      exact .qualified listed quoted also
  | @plain start rest table listed quoted alone =>
      rw [Token.trimEnd_append_cons (ne_of_isQuoted quoted (by decide))]
      refine .plain listed quoted ?_
      intro other more inside
      obtain ⟨back, parts, -⟩ := Token.trimEnd_parts rest
      rw [inside] at parts
      exact alone other (more ++ back) parts

/-- The name in a header that uses given identifiers. -/
theorem Identifies.tableName_eq
    {header identifiers : List Token}
    (identifies : Identifies header identifiers) :
    tableName header =
      if "" ∈ identifiers.map Token.unquote then .error .unrecognizedName
      else .ok (joinedName identifiers) := by
  have word : Token.isQuoted "IF" = false := by decide
  cases identifies with
  | @qualified start rest database table listed quoted also =>
      simp only [headerStarts, List.mem_cons, List.not_mem_nil, or_false] at listed
      rcases listed with rfl | rfl <;>
        simp [tableName, nameForms, createTable, createKeywords, ifNotExists,
          ifNotExistsKeywords, Element.accepts, Element.blank, Token.blank,
          NameForm.parts?, word, quoted, also, joinedName]
  | @plain start rest table listed quoted alone =>
      have single : Pattern.fits [.exactly ".", .quoted] rest = false := by
        rw [← Bool.not_eq_true]
        intro fit
        obtain ⟨_, rfl, fit⟩ := (Pattern.fits_keys_append_iff ["."]).mp fit
        obtain ⟨other, more, rfl, found, -⟩ := Pattern.fits_quoted_cons_iff.mp fit
        rw [alone other more rfl] at found
        cases found
      simp only [headerStarts, List.mem_cons, List.not_mem_nil, or_false] at listed
      rcases listed with rfl | rfl <;>
        simp [tableName, nameForms, createTable, createKeywords, ifNotExists,
          ifNotExistsKeywords, Element.accepts, Element.blank, Token.blank,
          NameForm.parts?, word, quoted, single, joinedName]

/-- A header that a form fits uses identifiers. -/
theorem exists_identifies
    {form : NameForm} {header : List Token}
    (listed : form ∈ nameForms)
    (fit : form.pattern.fits header = true) :
    ∃ identifiers, Identifies header identifiers := by
  have starts :
      ∀ form ∈ nameForms, ∃ start ∈ headerStarts, ∃ tail,
        form.pattern = start.map Element.exactly ++ .quoted :: tail := by
    simp only [nameForms, List.forall_mem_cons]
    let guarded := createKeywords ++ ifNotExistsKeywords
    exact ⟨⟨createKeywords, by decide, _, rfl⟩,
      ⟨createKeywords, by decide, _, rfl⟩, ⟨guarded, by decide, _, rfl⟩,
      ⟨guarded, by decide, _, rfl⟩, by simp⟩
  obtain ⟨start, known, tail, pattern⟩ := starts form listed
  rw [pattern, Pattern.fits_keys_append_iff] at fit
  obtain ⟨behind, rfl, fit⟩ := fit
  obtain ⟨first, rest, rfl, quoted, -⟩ := Pattern.fits_quoted_cons_iff.mp fit
  by_cases alone :
      ∀ (other : Token) (more : List Token),
        rest = "." :: other :: more → other.isQuoted = false
  · exact ⟨_, .plain known quoted alone⟩
  · simp only [not_forall, Bool.not_eq_false] at alone
    obtain ⟨second, more, rfl, also⟩ := alone
    exact ⟨_, .qualified known quoted also⟩

/-- Without identifiers there is no name. -/
theorem tableName_trim_of_not_identifies
    {header : List Token}
    (create : createKeywords <+: header)
    (unnamed : ∀ identifiers, ¬Identifies header identifiers) :
    tableName (Token.trim header) = .error .unrecognizedName := by
  have absent :
      (nameForms.find? fun form =>
        form.pattern.fits (Token.trim header)) = none := by
    rw [List.find?_eq_none]
    intro form listed fit
    obtain ⟨back, parts, -⟩ := Token.trimEnd_parts header
    have whole := Pattern.fits_append fit back
    rw [trim_of_create create, ← parts] at whole
    obtain ⟨identifiers, identifies⟩ := exists_identifies listed whole
    exact unnamed identifiers identifies
  rw [tableName, absent]

/-! ## The whole statement -/

/-- The statement is a header, a balanced body in parentheses and options. -/
structure Divides (statement header body options : List Token) : Prop where
  /-- The three parts make up the statement. -/
  whole : statement = header ++ "(" :: (body ++ ")" :: options)
  /-- The body starts at the first parenthesis. -/
  noOpen : "(" ∉ header
  /-- The body ends at the partner of that. -/
  balanced : Bracket.Balanced body

/-- What a statement is read as, or the reason why it cannot be read. -/
inductive Reads : List Token → Except Fault (Option Clauses) → Prop
  /-- The keywords are missing, so no table is defined. -/
  | unrelated {statement : List Token}
      (other : ¬createKeywords <+: statement) :
      Reads statement (.ok none)
  /-- There is no parenthesis at which a body could start. -/
  | missingBody {statement : List Token}
      (create : createKeywords <+: statement)
      (noOpen : "(" ∉ statement) :
      Reads statement (.error .missingBody)
  /-- The first parenthesis has no partner. -/
  | unclosed {front rest : List Token}
      (create : createKeywords <+: front ++ "(" :: rest)
      (noOpen : "(" ∉ front)
      (unclosed : ¬Bracket.HasClose rest) :
      Reads (front ++ "(" :: rest)
        (.error (.unclosedParenthesis front.length))
  /-- No identifier stands where the table should be named. -/
  | unnamed {statement header body options : List Token}
      (create : createKeywords <+: statement)
      (divides : Divides statement header body options)
      (unnamed : ∀ identifiers, ¬Identifies header identifiers) :
      Reads statement (.error .unrecognizedName)
  /-- An identifier is empty. -/
  | emptyName {statement header body options identifiers : List Token}
      (divides : Divides statement header body options)
      (identifies : Identifies header identifiers)
      (empty : "" ∈ identifiers.map Token.unquote) :
      Reads statement (.error .unrecognizedName)
  /-- The last comment key with room for a literal has none behind it. -/
  | malformedComment {statement header body options identifiers : List Token}
      (divides : Divides statement header body options)
      (identifies : Identifies header identifiers)
      (filled : "" ∉ identifiers.map Token.unquote)
      (malformed : HasMalformedComment (Token.trim options)) :
      Reads statement (.error .malformedComment)
  /-- Header and options define the table. -/
  | definition {statement header body options identifiers : List Token}
      {comment engine charset collation : String}
      (divides : Divides statement header body options)
      (identifies : Identifies header identifiers)
      (filled : "" ∉ identifiers.map Token.unquote)
      (commented : HasComment (Token.trim options) comment)
      (stored : HasValue ["ENGINE"] (Token.trim options) engine)
      (encoded : HasCharset (Token.trim options) charset)
      (collated : HasValue ["COLLATE"] (Token.trim options) collation) :
      Reads statement (.ok (some
        { table :=
            { name := joinedName identifiers, comment, engine, charset, collation }
          body := Token.trim body }))

/-- A statement can be divided in one way only. -/
theorem Divides.unique
    {statement header body options front inside behind : List Token}
    (divides : Divides statement header body options)
    (other : Divides statement front inside behind) :
    header = front ∧ body = inside ∧ options = behind := by
  obtain ⟨rfl, noOpen, balanced⟩ := divides
  obtain ⟨parts, otherNoOpen, otherBalanced⟩ := other
  have start := position?_append noOpen (body ++ ")" :: options)
  rw [parts, position?_append otherNoOpen, Option.some.injEq] at start
  obtain ⟨rfl, opened⟩ := List.append_inj parts start.symm
  have rest := (List.cons.inj opened).2
  have close := Bracket.closing_of_balanced balanced header options
  rw [rest, Bracket.closing_of_balanced otherBalanced, Except.ok.injEq] at close
  obtain ⟨rfl, closed⟩ := List.append_inj rest (by omega)
  exact ⟨rfl, rfl, (List.cons.inj closed).2⟩

/-- A definition is read from its header and its options. -/
theorem Divides.clauses_eq
    {statement header body options : List Token}
    (divides : Divides statement header body options)
    (create : createKeywords <+: header) :
    clauses statement =
      (Spans.mk (Token.trimEnd header) (Token.trim body)
        (Token.trim options)).clauses.map some := by
  obtain ⟨rfl, noOpen, balanced⟩ := divides
  rw [clauses_of_balanced noOpen balanced,
    if_pos ((isCreateTable_iff header).mpr create), trim_of_create create]

/-- The keywords stand in front of the body. -/
theorem Divides.createKeywords_prefix
    {statement header body options : List Token}
    (divides : Divides statement header body options)
    (create : createKeywords <+: statement) :
    createKeywords <+: header := by
  rw [divides.whole, ← isCreateTable_iff, isCreateTable_append_open] at create
  rwa [← isCreateTable_iff]

theorem Reads.clauses_eq
    {statement : List Token} {result : Except Fault (Option Clauses)}
    (reads : Reads statement result) :
    clauses statement = result := by
  cases reads with
  | unrelated other =>
      rw [clauses, if_neg (other ∘ (isCreateTable_iff statement).mp)]
  | missingBody create noOpen =>
      rw [clauses, if_pos ((isCreateTable_iff statement).mpr create), spans,
        position?_of_not_mem noOpen]
      rfl
  | @unclosed front rest create noOpen unclosed =>
      rw [clauses, if_pos ((isCreateTable_iff _).mpr create)]
      simp only [spans, position?_append noOpen,
        Bracket.closing_of_not_hasClose unclosed]
      rfl
  | unnamed create divides unnamed =>
      have starts := divides.createKeywords_prefix create
      have name := tableName_trim_of_not_identifies starts unnamed
      rw [trim_of_create starts] at name
      rw [divides.clauses_eq starts, Spans.clauses, name]
      rfl
  | emptyName divides identifies empty =>
      have name := identifies.trimEnd.tableName_eq
      rw [if_pos empty] at name
      rw [divides.clauses_eq identifies.createKeywords_prefix, Spans.clauses, name]
      rfl
  | malformedComment divides identifies filled malformed =>
      have name := identifies.trimEnd.tableName_eq
      rw [if_neg filled] at name
      rw [divides.clauses_eq identifies.createKeywords_prefix, Spans.clauses, name,
        malformed.tableComment_eq]
      rfl
  | definition divides identifies filled commented stored encoded collated =>
      have name := identifies.trimEnd.tableName_eq
      rw [if_neg filled] at name
      have engine := stored.optionValue_eq
      have collation := collated.optionValue_eq
      simp only [List.map_cons, List.map_nil] at engine collation
      rw [divides.clauses_eq identifies.createKeywords_prefix, Spans.clauses, name,
        commented.tableComment_eq, encoded.tableCharset_eq, tableEngine, engine,
        tableCollation, collation]
      rfl

/-- A statement that can be divided is read in some way. -/
theorem Divides.exists_reads
    {statement header body options : List Token}
    (divides : Divides statement header body options)
    (create : createKeywords <+: statement) :
    ∃ result, Reads statement result := by
  by_cases named : ∃ identifiers, Identifies header identifiers
  case neg =>
    exact ⟨_, .unnamed create divides (not_exists.mp named)⟩
  case pos =>
    obtain ⟨identifiers, identifies⟩ := named
    by_cases filled : "" ∈ identifiers.map Token.unquote
    case pos => exact ⟨_, .emptyName divides identifies filled⟩
    case neg =>
      rcases comment_cases (Token.trim options) with
        ⟨comment, commented⟩ | malformed
      · obtain ⟨engine, stored⟩ := exists_hasValue ["ENGINE"] (Token.trim options)
        obtain ⟨charset, encoded⟩ := exists_hasCharset (Token.trim options)
        obtain ⟨collation, collated⟩ :=
          exists_hasValue ["COLLATE"] (Token.trim options)
        exact ⟨_, .definition divides identifies filled commented stored encoded
          collated⟩
      · exact ⟨_, .malformedComment divides identifies filled malformed⟩

/-- Every statement is read in some way. -/
theorem exists_reads (statement : List Token) :
    ∃ result, Reads statement result := by
  by_cases create : createKeywords <+: statement
  case neg => exact ⟨_, .unrelated create⟩
  case pos =>
    have cutting := isCut_spans statement
    generalize spans statement = found at cutting
    cases cutting with
    | missing noOpen => exact ⟨_, .missingBody create noOpen⟩
    | unclosed noOpen unclosed => exact ⟨_, .unclosed create noOpen unclosed⟩
    | whole noOpen balanced =>
        exact Divides.exists_reads ⟨rfl, noOpen, balanced⟩ create

/--
Reading a statement follows the grammar: it is read as the grammar says and in
no other way.  If the first parenthesis has a partner, the division into
header, body and options that the grammar speaks of exists and is unique.
-/
theorem clauses_follow_grammar (statement : List Token) :
    (∀ result, clauses statement = result ↔ Reads statement result) ∧
    ∀ header rest : List Token,
      statement = header ++ "(" :: rest → "(" ∉ header → Bracket.HasClose rest →
        ∃ body options, Divides statement header body options ∧
          ∀ front inside behind, Divides statement front inside behind →
            front = header ∧ inside = body ∧ behind = options := by
  constructor
  · intro result
    constructor
    · rintro rfl
      obtain ⟨result, reads⟩ := exists_reads statement
      rwa [reads.clauses_eq]
    · exact Reads.clauses_eq
  · rintro header rest rfl noOpen ⟨body, options, rfl, balanced⟩
    refine ⟨body, options, ⟨rfl, noOpen, balanced⟩, ?_⟩
    intro front inside behind other
    exact other.unique ⟨rfl, noOpen, balanced⟩

/--
A name with a database and an argument in the body.  The first comment and the
engine without a bare value are passed over.
-/
theorem clauses_follow_grammar_qualified :
    let header :=
      ["CREATE", " ", "TABLE", " ", "IF", " ", "NOT", " ", "EXISTS", " ",
        "'d'", ".", "'t'", " "]
    let body := [" ", "'a'", " ", "CHAR", "(", "1", ")"]
    let options :=
      [" ", "COMMENT", "=", "'x'", " ", "ENGINE", "=", "'y'", " ", "ENGINE",
        " ", "=", "Z", " ", "COMMENT", " ", "'last'"]
    let statement := header ++ "(" :: (body ++ ")" :: options)
    Reads statement (.ok (some
        { table := { name := "d.t", comment := "last", engine := "Z" }
          body := ["'a'", " ", "CHAR", "(", "1", ")"] })) ∧
      ∀ front inside behind, Divides statement front inside behind →
        front = header ∧ inside = body ∧ behind = options := by
  intro header body options statement
  obtain ⟨grammar, division⟩ := clauses_follow_grammar statement
  have balanced : Bracket.Balanced body := by
    have inner : Bracket.Balanced ["1"] :=
      Bracket.balanced_of_not_mem (by decide) (by decide)
    have named : Bracket.Balanced [" ", "'a'", " ", "CHAR"] :=
      Bracket.balanced_of_not_mem (by decide) (by decide)
    exact named.append inner.wrap
  obtain ⟨inside, behind, -, unique⟩ :=
    division header _ rfl (by decide) ⟨body, options, rfl, balanced⟩
  obtain ⟨-, rfl, rfl⟩ := unique header body options ⟨rfl, by decide, balanced⟩
  exact ⟨(grammar _).mp (by decide +kernel), unique⟩

end SqlCatalog.Statement
