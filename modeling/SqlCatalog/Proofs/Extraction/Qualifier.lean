import SqlCatalog.Proofs.Rendering.Table
import SqlCatalog.Proofs.Statement.Grammar

/-!
# Qualifiers

The name of a database and that of a table are joined by a dot when a
definition is read, and the joined name is divided again at its first dot.
Dividing undoes joining only if the first of the joined identifiers has no dot,
and quotes may enclose one.  A dot in the name of the database moves the divide
into that name, and a dot in a name without a database makes up a qualifier.
The divide never moves to the right: what stands behind the first dot is free.
-/

namespace SqlCatalog

/-! ## Dividing a name -/

namespace Table

variable {table : Table}

/-- A name is divided at its first dot. -/
theorem divide_at_first_dot
    {front back : String}
    (parts : table.name = front ++ "." ++ back)
    (first : '.' ∉ front.toList) :
    table.qualifier? = some front ∧ table.unqualifiedName = back := by
  have chars : table.name.toList = front.toList ++ '.' :: back.toList := by
    simp [parts]
  have passed : ∀ char ∈ front.toList, (char != '.') = true :=
    fun char member => bne_iff_ne.mpr (ne_of_mem_of_not_mem member first)
  simp [qualifier?, unqualifiedName, chars,
    List.takeWhile_append_of_pos passed, List.dropWhile_append_of_pos passed]

/-- A name without a dot is not divided. -/
theorem divide_without_dot
    (noDot : '.' ∉ table.name.toList) :
    table.qualifier? = none ∧ table.unqualifiedName = table.name := by
  simp [qualifier?, unqualifiedName, noDot]

end Table

theorem exists_first_dot
    {text : String}
    (dotted : '.' ∈ text.toList) :
    ∃ front back : String,
      text = front ++ "." ++ back ∧ '.' ∉ front.toList := by
  obtain ⟨front, back, parts, first⟩ := List.eq_append_cons_of_mem dotted
  refine ⟨String.ofList front, String.ofList back, ?_, by simpa using first⟩
  rw [← String.toList_inj, parts]
  simp

/-- The identifiers of a name: that of the database, if there is one, first. -/
def nameParts (database : Option String) (name : String) : List String :=
  database.toList ++ [name]

/--
Dividing a name undoes joining it if and only if the first identifier has no
dot.
-/
theorem Table.divide_joined_iff
    {table : Table} {database : Option String} {name : String}
    (joined : table.name = ".".intercalate (nameParts database name)) :
    table.qualifier? = database ∧ table.unqualifiedName = name ↔
      '.' ∉ (database.getD name).toList := by
  cases database with
  | none =>
      have whole : table.name = name := joined
      constructor
      · rintro ⟨unqualified, -⟩ dotted
        obtain ⟨front, back, parts, first⟩ := exists_first_dot dotted
        rw [(divide_at_first_dot (whole.trans parts) first).1] at unqualified
        cases unqualified
      · intro noDot
        rw [← whole]
        exact divide_without_dot (by rwa [whole])
  | some database =>
      have whole : table.name = database ++ "." ++ name := joined
      constructor
      · rintro ⟨qualified, -⟩ dotted
        obtain ⟨front, back, parts, first⟩ := exists_first_dot dotted
        have earlier : table.name = front ++ "." ++ (back ++ "." ++ name) := by
          have database_eq : database = front ++ "." ++ back := parts
          rw [whole, database_eq]
          simp [String.append_assoc]
        rw [(divide_at_first_dot earlier first).1] at qualified
        -- The part in front of the first dot would have to contain that dot.
        obtain rfl : front = database := by simpa using qualified
        exact first dotted
      · exact divide_at_first_dot whole

/-! ## Definitions of qualified tables -/

/-- The definition of a table with a single column. -/
def qualifiedDefinition (conditional : Bool) (database : Option String)
    (name : String) : String :=
  "CREATE TABLE " ++ (if conditional then "IF NOT EXISTS " else "") ++
    ".".intercalate ((nameParts database name).map (Token.quote .backtick)) ++
    " (\x60a\x60 INT)"

/-- The table that is defined. -/
def qualifiedTable (database : Option String) (name : String) : Table where
  name := ".".intercalate (nameParts database name)
  columns := [{ name := "a", dataType := "INT" }]

/-- The keywords of a definition, with or without the conditional ones. -/
def startTokens (conditional : Bool) : List Token :=
  if conditional then
    Statement.createKeywords ++ Statement.ifNotExistsKeywords
  else Statement.createKeywords

/-- The tokens of a name. -/
def nameTokens (database : Option String) (name : String) : List Token :=
  match database with
  | none => [Token.quote .backtick name]
  | some database =>
    [Token.quote .backtick database, ".", Token.quote .backtick name]

/-- The tokens of the only column. -/
def bodyTokens : List Token :=
  ["\x60a\x60", " ", "INT"]

/-- The tokens in front of the columns. -/
def headerTokens (conditional : Bool) (database : Option String)
    (name : String) : List Token :=
  startTokens conditional ++ nameTokens database name ++ [" "]

/-- The tokens of a definition. -/
def qualifiedTokens (conditional : Bool) (database : Option String)
    (name : String) : List Token :=
  headerTokens conditional database name ++ "(" :: (bodyTokens ++ [")"])

theorem startTokens_mem (conditional : Bool) :
    startTokens conditional ∈ Statement.headerStarts := by
  cases conditional <;> decide

theorem join_qualifiedTokens
    (conditional : Bool) (database : Option String) (name : String) :
    String.join (qualifiedTokens conditional database name) =
      qualifiedDefinition conditional database name := by
  rw [← String.toList_inj]
  cases conditional <;> cases database <;>
    simp [qualifiedTokens, headerTokens, startTokens, nameTokens, bodyTokens,
      qualifiedDefinition, nameParts, Statement.createKeywords,
      Statement.ifNotExistsKeywords]

/-! ## Reading the text -/

/-- An identifier as it is scanned. -/
def identifierLexeme (name : String) : Lexeme :=
  ⟨.literal .backtick true, (Token.quote .backtick name).toList⟩

@[simp]
theorem token_identifierLexeme (name : String) :
    (identifierLexeme name).token = Token.quote .backtick name := by
  rw [identifierLexeme, Lexeme.token, String.ofList_toList]

theorem head?_identifierLexeme (name : String) :
    (identifierLexeme name).text.head? = some '\x60' := by
  simp [identifierLexeme, Delimiter.mark]

/-- An identifier ends in front of whatever is not another backtick. -/
theorem identifierLexeme_standsBefore
    (name : String) {rest : List Char}
    (stop : rest.head? ≠ some '\x60') :
    (identifierLexeme name).StandsBefore rest := by
  have readable :
      Delimiter.backtick.escapes = true → '\\' ∉ name.toList := by
    rintro ⟨⟩
  obtain ⟨pieces, allowed, written⟩ := double_eq_written readable
  rw [identifierLexeme, Token.toList_quote, written]
  exact .literal allowed stop

/-- The lexemes of a name. -/
def nameLexemes (database : Option String) (name : String) : List Lexeme :=
  match database with
  | none => [identifierLexeme name]
  | some database =>
    [identifierLexeme database, ⟨.symbol, ['.']⟩, identifierLexeme name]

section Name

variable (database : Option String) (name : String)

theorem map_token_nameLexemes :
    (nameLexemes database name).map Lexeme.token =
      nameTokens database name := by
  cases database with
  | none => simp [nameLexemes, nameTokens]
  | some database =>
      have point : Lexeme.token ⟨.symbol, ['.']⟩ = "." := rfl
      simp [nameLexemes, nameTokens, point]

theorem isOpen_nameLexemes :
    ∀ lexeme ∈ nameLexemes database name, lexeme.isOpen = false := by
  have closed (name : String) : (identifierLexeme name).isOpen = false := rfl
  have point : Lexeme.isOpen ⟨.symbol, ['.']⟩ = false := rfl
  cases database <;> simp [nameLexemes, closed, point]

theorem head?_spelling_nameLexemes (back : List Lexeme) :
    (spelling (nameLexemes database name ++ back)).head? = some '\x60' := by
  cases database <;>
    simp [nameLexemes, List.head?_append, head?_identifierLexeme]

theorem reads_nameLexemes
    {rest : List Char}
    (stop : rest.head? ≠ some '\x60') :
    Reads (nameLexemes database name) rest := by
  have last := identifierLexeme_standsBefore name stop
  cases database with
  | none => exact ⟨by simpa using last, reads_nil rest⟩
  | some database =>
      refine ⟨?_, ?_, by simpa using last, reads_nil rest⟩
      · apply identifierLexeme_standsBefore
        simp
      · refine .symbol (by decide) ?_
        intro next member
        have mark : next = '\x60' := by
          simpa [List.head?_append, head?_identifierLexeme, eq_comm] using member
        rw [mark]
        decide

end Name

/-- The keywords end in a blank, which an identifier does not prolong. -/
theorem exists_reads_startTokens
    (conditional : Bool) {rest : List Char}
    (opens : rest.head? = some '\x60') :
    ∃ front, front.map Lexeme.token = startTokens conditional ∧
      Reads front rest ∧ ∀ lexeme ∈ front, lexeme.isOpen = false := by
  have fixed :
      let front := lexemes (String.join (startTokens conditional)).toList
      front.map Lexeme.token = startTokens conditional ∧
        front.getLast? = some ⟨.blank, [' ']⟩ ∧
        ∀ lexeme ∈ front, lexeme.isOpen = false := by
    cases conditional <;> decide +kernel
  obtain ⟨shown, last, closed⟩ := fixed
  refine ⟨_, shown, ?_, closed⟩
  apply (reads_lexemes _).swap
  · rw [opens]
    rintro next ⟨⟩
    decide
  · rw [last]
    rintro lexeme ⟨⟩
    refine .blank (by simp [isSeparator]) ?_
    rw [opens]
    rintro next ⟨⟩
    decide

theorem tokenize_qualifiedDefinition
    (conditional : Bool) (database : Option String) (name : String) :
    tokenize (qualifiedDefinition conditional database name) =
      ⟨qualifiedTokens conditional database name, none⟩ := by
  obtain ⟨back, shownBack, readsBack, startBack, closedBack⟩ :
      ∃ back, back.map Lexeme.token = [" "] ++ "(" :: (bodyTokens ++ [")"]) ∧
        Reads back [] ∧ (spelling back).head? = some ' ' ∧
        ∀ lexeme ∈ back, lexeme.isOpen = false :=
    ⟨lexemes " (\x60a\x60 INT)".toList, by decide +kernel, reads_lexemes _,
      by decide +kernel, by decide +kernel⟩
  obtain ⟨front, shownFront, readsFront, closedFront⟩ :=
    exists_reads_startTokens conditional
      (head?_spelling_nameLexemes database name back)
  have readsName :
      Reads (nameLexemes database name) (spelling back) := by
    apply reads_nameLexemes
    rw [startBack]
    decide
  have reads : Reads (front ++ (nameLexemes database name ++ back)) [] := by
    simp only [reads_append, List.append_nil]
    exact ⟨readsFront, readsName, readsBack⟩
  have shown :
      (front ++ (nameLexemes database name ++ back)).map Lexeme.token =
        qualifiedTokens conditional database name := by
    simp [shownFront, shownBack, map_token_nameLexemes, qualifiedTokens,
      headerTokens]
  have closed :
      ∀ lexeme ∈ front ++ (nameLexemes database name ++ back),
        lexeme.isOpen = false := by
    simp only [List.forall_mem_append]
    exact ⟨closedFront, isOpen_nameLexemes database name, closedBack⟩
  rw [← join_qualifiedTokens, ← shown, tokenize_join_of_reads reads,
    (lastFault?_eq_none_iff 0 _).mpr closed]

/-! ## Reading the definition -/

section Definition

variable (conditional : Bool) (database : Option String) (name : String)

theorem map_canonical_qualifiedTokens :
    (qualifiedTokens conditional database name).map Token.canonical =
      qualifiedTokens conditional database name := by
  have keywords :
      (startTokens conditional).map Token.canonical =
        startTokens conditional := by
    cases conditional <;> decide +kernel
  have column :
      ([" "] ++ "(" :: (bodyTokens ++ [")"])).map Token.canonical =
        [" "] ++ "(" :: (bodyTokens ++ [")"]) := by
    decide +kernel
  have quoted (name : String) :
      (Token.quote .backtick name).canonical = Token.quote .backtick name := by
    simp [Token.canonical]
  have point : Token.canonical "." = "." := by decide +kernel
  have named :
      (nameTokens database name).map Token.canonical =
        nameTokens database name := by
    cases database <;> simp [nameTokens, quoted, point]
  rw [qualifiedTokens, headerTokens, List.append_assoc, List.map_append,
    List.map_append, keywords, named, column]

theorem isSpaced_qualifiedTokens :
    Token.IsSpaced (qualifiedTokens conditional database name) := by
  have solid (name : String) : Token.quote .backtick name ≠ " " :=
    ne_of_isQuoted (Token.isQuoted_quote _ _) (by decide)
  cases conditional <;> cases database <;>
    simp [Token.IsSpaced, qualifiedTokens, headerTokens, startTokens,
      nameTokens, bodyTokens, Statement.createKeywords,
      Statement.ifNotExistsKeywords, Token.blank, solid]

/-- The tokens of the definition are canonical as they are. -/
theorem canonical_qualifiedDefinition
    {extractor : Extractor}
    (few : extractor.minTokens ≤ 11) :
    extractor.canonical (qualifiedDefinition conditional database name) =
      qualifiedTokens conditional database name := by
  have enough :
      extractor.minTokens ≤
        (qualifiedTokens conditional database name).length := by
    refine few.trans ?_
    cases conditional <;> cases database <;>
      simp [qualifiedTokens, headerTokens, startTokens, nameTokens, bodyTokens,
        Statement.createKeywords, Statement.ifNotExistsKeywords]
  rw [Extractor.canonical, tokenize_qualifiedDefinition,
    Token.normalize_of_le enough, map_canonical_qualifiedTokens,
    (isSpaced_qualifiedTokens conditional database name).squeeze_eq_self]

/-- A header holds the words of the grammar, a point and identifiers. -/
theorem not_mem_headerTokens
    {token : Token}
    (bare : token.isQuoted = false)
    (other : token ∉
      Statement.createKeywords ++ Statement.ifNotExistsKeywords ++ ["."]) :
    token ∉ headerTokens conditional database name := by
  have keywords :
      ∀ word ∈ startTokens conditional, word ∈
        Statement.createKeywords ++ Statement.ifNotExistsKeywords ++ ["."] := by
    cases conditional <;> decide
  have named :
      ∀ part ∈ nameTokens database name, part = "." ∨ part.isQuoted = true := by
    cases database <;> simp [nameTokens]
  intro member
  simp only [headerTokens, List.mem_append, List.mem_singleton] at member
  rcases member with (start | inName) | rfl
  · exact other (keywords token start)
  · rcases named token inName with rfl | quoted
    · exact other (by decide)
    · rw [bare] at quoted
      cases quoted
  · exact other (by decide)

/-- The definition is a single statement. -/
theorem split_qualifiedTokens :
    Statement.split (qualifiedTokens conditional database name) =
      [qualifiedTokens conditional database name] := by
  have single : ";" ∉ qualifiedTokens conditional database name := by
    have header :=
      not_mem_headerTokens conditional database name
        (show Token.isQuoted ";" = false by decide) (by decide)
    simp [qualifiedTokens, bodyTokens, header]
  have trimmed :
      Token.trim (qualifiedTokens conditional database name) =
        qualifiedTokens conditional database name := by
    have first :
        Token.trimStart (qualifiedTokens conditional database name) =
          qualifiedTokens conditional database name := by
      cases conditional <;> rfl
    have last :
        (qualifiedTokens conditional database name).getLast? = some ")" := by
      simp [qualifiedTokens, bodyTokens, List.getLast?_append]
    have solid : some ")" ≠ some Token.blank := by decide
    rw [Token.trim, first, Token.trimEnd, last, if_neg solid]
  have split :=
    Statement.split_intercalate
      (List.forall_mem_singleton.mpr ⟨single, trimmed, by simp [qualifiedTokens]⟩)
  rwa [List.intercalate_singleton] at split

theorem identifies_nameTokens :
    Statement.Identifies (headerTokens conditional database name)
      ((nameParts database name).map (Token.quote .backtick)) := by
  have listed := startTokens_mem conditional
  have quoted (name : String) := Token.isQuoted_quote .backtick name
  rw [headerTokens, List.append_assoc]
  cases database with
  | none =>
      refine .plain listed (quoted name) ?_
      intro other more same
      simp at same
  | some database => exact .qualified listed (quoted database) (quoted name)

theorem read_qualifiedTokens
    (filled : "" ∉ nameParts database name) :
    Statement.read (qualifiedTokens conditional database name) =
      .definition { name := ".".intercalate (nameParts database name) }
        [bodyTokens] := by
  have values :
      ((nameParts database name).map (Token.quote .backtick)).map
          Token.unquote =
        nameParts database name := by
    cases database <;> simp [nameParts]
  have divides :
      Statement.Divides (qualifiedTokens conditional database name)
        (headerTokens conditional database name) bodyTokens [] := by
    refine ⟨rfl, ?_, ?_⟩
    · exact not_mem_headerTokens conditional database name (by decide) (by decide)
    · exact Bracket.balanced_of_not_mem (by decide) (by decide)
  have reads :
      Statement.Reads (qualifiedTokens conditional database name)
        (.ok (some
          { table := { name := ".".intercalate (nameParts database name) }
            body := bodyTokens })) := by
    have absent (token : Token) : token ∉ Token.trim [] := by simp
    have found :=
      Statement.Reads.definition divides
        (identifies_nameTokens conditional database name) (by rwa [values])
        (.of_not_mem (absent _)) (.of_not_mem (absent _) [])
        (.long (.of_not_mem (absent _) []) (.of_not_mem (absent _) _))
        (.of_not_mem (absent _) [])
    rwa [Statement.joinedName, values] at found
  rw [Statement.read, reads.clauses_eq]
  rfl

end Definition

/--
The qualifier of a table that was read is the database of its definition, and
its unqualified name the name of the table, if and only if the first identifier
of the definition has no dot.
-/
theorem qualifier_recovered_iff
    {extractor : Extractor} {database : Option String} {name : String}
    (few : extractor.minTokens ≤ 11)
    (filled : ∀ part ∈ nameParts database name, part ≠ "")
    (conditional : Bool) :
    let table := qualifiedTable database name
    extractor.extract (qualifiedDefinition conditional database name) =
        { tables := [table], diagnostics := [] } ∧
      (table.qualifier? = database ∧ table.unqualifiedName = name ↔
        '.' ∉ (database.getD name).toList) := by
  intro table
  have named : "" ∉ nameParts database name := by
    intro member
    exact filled "" member rfl
  have statements :
      Statement.split (qualifiedTokens conditional database name) =
        [table].map fun _ => qualifiedTokens conditional database name :=
    split_qualifiedTokens conditional database name
  refine ⟨?_, Table.divide_joined_iff rfl⟩
  rw [extract_eq_ofTokens,
    canonical_qualifiedDefinition conditional database name few,
    tokenize_qualifiedDefinition]
  apply ofTokens_of_tables statements
  rw [List.forall_mem_singleton]
  exact ⟨_, _, read_qualifiedTokens conditional database name named, rfl, rfl⟩

/-- A dot matters in a name without a database, but not behind a database. -/
theorem qualifier_recovered_iff_dotted :
    let extractor : Extractor := { minTokens := 0 }
    let qualified := qualifiedTable (some "é\x60;") "b.c"
    let plain := qualifiedTable none "b.c"
    extractor.extract (qualifiedDefinition true (some "é\x60;") "b.c") =
        { tables := [qualified], diagnostics := [] } ∧
      qualified.name = "é\x60;.b.c" ∧
      qualified.qualifier? = some "é\x60;" ∧
      qualified.unqualifiedName = "b.c" ∧
      extractor.extract (qualifiedDefinition false none "b.c") =
        { tables := [plain], diagnostics := [] } ∧
      plain.name = "b.c" ∧
      ¬(plain.qualifier? = none ∧ plain.unqualifiedName = "b.c") := by
  intro extractor qualified plain
  have few : extractor.minTokens ≤ 11 := Nat.zero_le 11
  obtain ⟨first, recovered⟩ :=
    qualifier_recovered_iff few
      (show ∀ part ∈ nameParts (some "é\x60;") "b.c", part ≠ "" by decide) true
  obtain ⟨second, lost⟩ :=
    qualifier_recovered_iff few
      (show ∀ part ∈ nameParts none "b.c", part ≠ "" by decide) false
  obtain ⟨database, name⟩ := recovered.mpr (by decide)
  refine ⟨first, rfl, database, name, second, rfl, ?_⟩
  rw [lost]
  decide

/-- A dot in the name of the database moves the divide into that name. -/
theorem qualifier_of_dotted_database :
    qualifiedDefinition false (some "a.b") "c" =
        "CREATE TABLE \x60a.b\x60.\x60c\x60 (\x60a\x60 INT)" ∧
      ((Extractor.mk 0).extract
          (qualifiedDefinition false (some "a.b") "c")).tables.map
          (fun table => (table.qualifier?, table.unqualifiedName)) =
        [(some "a", "b.c")] := by
  decide +kernel

end SqlCatalog
