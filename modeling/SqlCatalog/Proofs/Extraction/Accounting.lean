import SqlCatalog.Proofs.Extraction.OpenToken
import SqlCatalog.Proofs.Extraction.Ordering

/-!
# Accounting for statements and fragments

Each statement of a text comes to exactly one of three ends: it defines a
table, one diagnostic is about it as a whole, or nothing is said about it.
Likewise each fragment of a table definition defines a column, is reported
once or is passed over.  Tables and columns keep the order of the statements
and fragments that they come from.

An end is told by what an extraction shows: by the numbers of the statements
that the tables come from, and by the diagnostics at each place.
-/

namespace SqlCatalog

open Extractor

/-! ## What becomes of a fragment -/

/--
What becomes of the fragment at a place of a statement's body, given the
places of the fragments that columns come from: exactly one of three.
-/
inductive Fragment.Fate (extraction : Extraction) (places : List Nat)
    (number place : Nat) (fragment : List Token) : Prop
  /-- A column comes from the fragment. -/
  | column
      (listed : place ∈ places)
      (silent : extraction.reportsAt (.column number place) = [])
  /-- The fragment is reported once. -/
  | fault {fault : Fault}
      (unlisted : place ∉ places)
      (failed : Fragment.column fragment = .error fault)
      (once : extraction.reportsAt (.column number place) =
        [⟨.column number place, fault⟩])
  /-- The fragment is empty or starts without a name. -/
  | passed
      (unlisted : place ∉ places)
      (silent : extraction.reportsAt (.column number place) = [])
      (nameless : ∀ first ∈ fragment.head?, first.isQuoted = false)

/--
The table that a statement defines.  Its columns come from the fragments of
its body, and what becomes of each fragment can be told.
-/
inductive Statement.Defines (extraction : Extraction) (number : Nat)
    (statement : List Token) (table : Table) : Prop
  | intro {found : Clauses} {places : List Nat}
      (read : clauses statement = .ok (some found))
      (header : table = withColumns found.table (Fragment.split found.body))
      (columns : ComeFrom
        (fun _ fragment column => Fragment.column fragment = .ok (some column))
        (Fragment.split found.body) places table.columns)
      (fragments : ∀ place fragment,
        (Fragment.split found.body)[place]? = some fragment →
          Fragment.Fate extraction places number place fragment)
      (others : ∀ place, (Fragment.split found.body).length ≤ place →
        extraction.reportsAt (.column number place) = [])

namespace Fragment

theorem column?_eq_some_iff {fragment : List Token} {found : Column} :
    column? fragment = some found ↔ column fragment = .ok (some found) := by
  unfold column?
  split <;> simp_all

/-- Each column is read from one of the fragments. -/
theorem mem_columns_iff {fragments : List (List Token)} {found : Column} :
    found ∈ columns fragments ↔
      ∃ fragment ∈ fragments, column fragment = .ok (some found) := by
  simp only [columns, List.mem_filterMap, column?_eq_some_iff]

/-- Only a fragment that starts without a name is passed over. -/
theorem nameless_of_column_eq_none
    {fragment : List Token}
    (passed : column fragment = .ok none) :
    ∀ first ∈ fragment.head?, first.isQuoted = false := by
  cases fragment with
  | nil => simp
  | cons first rest =>
      rintro other ⟨⟩
      cases quoted : first.isQuoted with
      | false => rfl
      | true =>
          simp only [column, quoted, Bool.not_true, Bool.false_eq_true,
            if_false] at passed
          split at passed
          · cases passed
          · split at passed
            · cases passed
            · obtain ⟨value, -, read⟩ := bind_ok_cases passed
              cases read

/-- The columns of fragments as images of the fragments by their places. -/
theorem columns_eq_filterMap_zipIdx (fragments : List (List Token)) :
    columns fragments =
      fragments.zipIdx.filterMap fun entry => column? entry.1 := by
  have pairs := List.zipIdx_map_fst 0 fragments
  conv_lhs => rw [columns, ← pairs, List.filterMap_map]
  rfl

/-- The diagnostics of a table definition, as images of its fragments. -/
theorem diagnostics_definition_eq
    (header : Table) (fragments : List (List Token)) (number : Nat) :
    (Outcome.read (.definition header fragments)).diagnostics number =
      fragments.zipIdx.flatMap fun entry =>
        ((fault? entry.1).map fun fault =>
          Diagnostic.mk (.column number entry.2) fault).toList := by
  rw [Outcome.diagnostics, faults, List.map_filterMap,
    List.filterMap_eq_flatMap_toList]
  simp only [Option.map_map]
  rfl

/-- A fragment is reported at its place, if it is at fault. -/
theorem filter_diagnostics_definition
    {fragments : List (List Token)} {place : Nat} {fragment : List Token}
    (listed : fragments[place]? = some fragment)
    (header : Table) (number : Nat) :
    ((Outcome.read (.definition header fragments)).diagnostics number).filter
        (fun diagnostic => diagnostic.location = .column number place) =
      ((fault? fragment).map fun fault =>
        Diagnostic.mk (.column number place) fault).toList := by
  rw [diagnostics_definition_eq, filter_flatMap_zipIdx listed]
  · cases fault? fragment <;> simp
  · rintro ⟨other, elsewhere⟩ apart
    cases fault? other <;> simp [apart]

end Fragment

/-! ## What becomes of a statement -/

/-- An open token reaches into the statement, which is then the last one. -/
structure Extractor.Spoils (extractor : Extractor) (sql : String)
    (token : Unterminated) (number : Nat) : Prop where
  /-- The text leaves the token open. -/
  unclosed : (tokenize sql).fault = some token
  /-- The end of the text belongs to a statement. -/
  ends : extractor.EndsInStatement sql
  /-- No other statement comes later. -/
  last : (Statement.split (extractor.canonical sql)).length = number + 1

/--
What becomes of the statement with the given number, given the numbers of the
statements that tables come from: exactly one of three.
-/
inductive Statement.Fate (extractor : Extractor) (sql : String)
    (numbers : List Nat) (number : Nat) (statement : List Token) : Prop
  /-- A table comes from the statement. -/
  | table
      (listed : number ∈ numbers)
      (silent : (extractor.extract sql).reportsAt (.statement number) = [])
  /-- The statement is reported once and its fragments are not. -/
  | fault {fault : Fault}
      (unlisted : number ∉ numbers)
      (once : (extractor.extract sql).reportsAt (.statement number) =
        [⟨.statement number, fault⟩])
      (parts : ∀ place,
        (extractor.extract sql).reportsAt (.column number place) = [])
      (cause : Statement.clauses statement = .error fault ∨
        ∃ token, fault = .unterminated token ∧
          extractor.Spoils sql token number)
  /-- The statement is none of a table and is not the one left open. -/
  | passed
      (unlisted : number ∉ numbers)
      (silent : (extractor.extract sql).reportsAt (.statement number) = [])
      (parts : ∀ place,
        (extractor.extract sql).reportsAt (.column number place) = [])
      (unrelated : Statement.isCreateTable statement = false)
      (unspoiled : ∀ token, ¬extractor.Spoils sql token number)

theorem broken?_eq_some_iff
    {extractor : Extractor} {sql : String} {number : Nat}
    {token : Unterminated} :
    broken? (extractor.canonical sql) (tokenize sql).fault =
        some (number, token) ↔
      extractor.Spoils sql token number := by
  have held := trim_tail_canonical_eq_nil_iff extractor sql
  rw [broken?, Option.bind_eq_some_iff]
  constructor
  · rintro ⟨other, unclosed, found⟩
    obtain ⟨place, last, pair⟩ := Option.map_eq_some_iff.mp found
    cases pair
    simp only [lastStatement?, List.isEmpty_iff] at last
    split at last
    case isTrue => cases last
    case isFalse filled =>
      rw [held, not_not] at filled
      split at last
      · cases last
      · cases last
        exact ⟨unclosed, filled, by assumption⟩
  · rintro ⟨unclosed, ends, last⟩
    refine ⟨token, unclosed, ?_⟩
    have filled : Token.trim (Statement.tail (extractor.canonical sql)) ≠ [] :=
      fun nothing => held.mp nothing ends
    simp [lastStatement?, filled, last]

/-- Only a statement of another kind is read as unrelated to tables. -/
theorem Statement.isCreateTable_of_clauses_eq_none
    {statement : List Token}
    (read : clauses statement = .ok none) :
    isCreateTable statement = false := by
  cases create : isCreateTable statement with
  | false => rfl
  | true =>
      rw [clauses, if_pos create] at read
      obtain ⟨parts, -, read⟩ := bind_ok_cases read
      obtain ⟨found, -, read⟩ := bind_ok_cases read
      cases read

section Whole

variable
    {extractor : Extractor} {sql : String}
    {number : Nat} {statement : List Token}

/-- The outcome of a statement of a text. -/
def Extractor.outcomeOf (extractor : Extractor) (sql : String)
    (entry : List Token × Nat) : Outcome :=
  outcome (broken? (extractor.canonical sql) (tokenize sql).fault) entry.1
    entry.2

/-- A statement is spoiled by the open token, or it is read. -/
theorem outcomeOf_cases
    (extractor : Extractor) (sql : String) (statement : List Token)
    (number : Nat) :
    (∃ token, extractor.Spoils sql token number ∧
      extractor.outcomeOf sql (statement, number) = .unterminated token) ∨
    (∀ token, ¬extractor.Spoils sql token number) ∧
      extractor.outcomeOf sql (statement, number) =
        .read (Statement.read statement) := by
  simp only [← broken?_eq_some_iff, outcomeOf]
  cases broken? (extractor.canonical sql) (tokenize sql).fault with
  | none => exact Or.inr ⟨by simp, rfl⟩
  | some place =>
      rcases place with ⟨last, token⟩
      by_cases same : number = last
      · exact Or.inl ⟨token, by rw [same], by simp [outcome, same]⟩
      · refine Or.inr ⟨?_, by simp [outcome, same]⟩
        rintro other ⟨⟩
        exact same rfl

/-- What is reported about a statement is found in its outcome. -/
theorem reportsAt_eq_of_listed
    (listed : (Statement.split (extractor.canonical sql))[number]? =
      some statement)
    {place : Location}
    (inside : place.statement? = some number) :
    (extractor.extract sql).reportsAt place =
      ((extractor.outcomeOf sql (statement, number)).diagnostics
        number).filter fun diagnostic => diagnostic.location = place := by
  have outside :
      ∀ dangling : Option Unterminated,
        (dangling.map fun token =>
            Diagnostic.mk .input (.unterminated token)).toList.filter
          (fun diagnostic => diagnostic.location = place) = [] := by
    intro dangling
    have apart : Location.input ≠ place := by
      rintro rfl
      cases inside
    cases dangling <;> simp [apart]
  rw [extract_eq_ofTokens, Extraction.reportsAt, Extraction.ofTokens,
    List.filter_append, outside, List.append_nil,
    filter_flatMap_zipIdx listed]
  · rfl
  · rintro ⟨other, elsewhere⟩ apart
    rw [List.filter_eq_nil_iff]
    intro diagnostic member same
    rw [decide_eq_true_eq] at same
    have found := statement?_of_mem_diagnostics member
    rw [same, inside] at found
    cases found
    exact apart rfl

/-- The numbers of the statements that tables come from. -/
def Extractor.tableNumbers (extractor : Extractor) (sql : String) : List Nat :=
  numbersOf (fun entry => (extractor.outcomeOf sql entry).table?)
    (Statement.split (extractor.canonical sql))

/-- An outcome with a table comes from the clauses of the statement. -/
theorem clauses_of_table?
    {table : Table}
    (found : (extractor.outcomeOf sql (statement, number)).table? =
      some table) :
    ∃ clauses, Statement.clauses statement = .ok (some clauses) ∧
      extractor.outcomeOf sql (statement, number) =
        .read (.definition clauses.table (Fragment.split clauses.body)) ∧
      table = Statement.withColumns clauses.table
        (Fragment.split clauses.body) := by
  rcases outcomeOf_cases extractor sql statement number with
    ⟨token, -, outcome⟩ | ⟨-, outcome⟩
  · rw [outcome] at found
    cases found
  · rw [outcome, Statement.read] at found
    rw [outcome, Statement.read]
    split at found
    · cases found
    · cases found
    case h_3 clauses read =>
      cases found
      exact ⟨clauses, read, rfl, rfl⟩

/-- Each fragment of a table definition is accounted for. -/
theorem fragmentFate_of_listed
    {fragments : List (List Token)} {header : Table}
    (listed : (Statement.split (extractor.canonical sql))[number]? =
      some statement)
    (outcome : extractor.outcomeOf sql (statement, number) =
      .read (.definition header fragments))
    {place : Nat} {fragment : List Token}
    (here : fragments[place]? = some fragment) :
    Fragment.Fate (extractor.extract sql)
      (numbersOf (fun entry => Fragment.column? entry.1) fragments) number
      place fragment := by
  have reported :
      (extractor.extract sql).reportsAt (.column number place) =
        ((Fragment.fault? fragment).map fun fault =>
          Diagnostic.mk (.column number place) fault).toList := by
    rw [reportsAt_eq_of_listed listed rfl, outcome,
      Fragment.filter_diagnostics_definition here]
  cases read : Fragment.column fragment with
  | error fault =>
      refine .fault ?_ read ?_
      · rw [mem_numbersOf_iff here, Fragment.column?, read]
        exact Bool.noConfusion
      · rw [reported, Fragment.fault?, read]
        rfl
  | ok found =>
      have silent : (extractor.extract sql).reportsAt (.column number place) = [] := by
        rw [reported, Fragment.fault?, read]
        rfl
      cases found with
      | none =>
          refine .passed ?_ silent (Fragment.nameless_of_column_eq_none read)
          rw [mem_numbersOf_iff here, Fragment.column?, read]
          decide
      | some column =>
          refine .column ?_ silent
          rw [mem_numbersOf_iff here, Fragment.column?, read]
          rfl

/-- A table is defined by the statement that it comes from. -/
theorem defines_of_table?
    (listed : (Statement.split (extractor.canonical sql))[number]? =
      some statement)
    {table : Table}
    (found : (extractor.outcomeOf sql (statement, number)).table? =
      some table) :
    Statement.Defines (extractor.extract sql) number statement table := by
  obtain ⟨clauses, read, outcome, rfl⟩ := clauses_of_table? found
  have columns :
      ComeFrom
        (fun _ fragment column => Fragment.column fragment = .ok (some column))
        (Fragment.split clauses.body)
        (numbersOf (fun entry => Fragment.column? entry.1)
          (Fragment.split clauses.body))
        (Fragment.columns (Fragment.split clauses.body)) := by
    rw [Fragment.columns_eq_filterMap_zipIdx]
    refine comeFrom_numbersOf ?_
    intro place fragment column here defined
    exact Fragment.column?_eq_some_iff.mp defined
  refine .intro read rfl columns ?_ ?_
  · intro place fragment here
    exact fragmentFate_of_listed listed outcome here
  · intro place behind
    rw [reportsAt_eq_of_listed listed rfl, outcome, List.filter_eq_nil_iff]
    intro diagnostic member same
    obtain ⟨⟨other, fault⟩, faulty, rfl⟩ := List.mem_map.mp member
    rw [decide_eq_true_eq, Location.column.injEq] at same
    simp only [Fragment.faults, List.mem_filterMap,
      Option.map_eq_some_iff] at faulty
    obtain ⟨⟨fragment, index⟩, inside, _, -, pair⟩ := faulty
    have bound := List.snd_lt_of_mem_zipIdx inside
    cases pair
    omega

/-- A statement with one diagnostic about it as a whole is at fault. -/
theorem statementFate_of_single
    (listed : (Statement.split (extractor.canonical sql))[number]? =
      some statement)
    {fault : Fault}
    (tableless : (extractor.outcomeOf sql (statement, number)).table? = none)
    (single : (extractor.outcomeOf sql (statement, number)).diagnostics number =
      [⟨.statement number, fault⟩])
    (cause : Statement.clauses statement = .error fault ∨
      ∃ token, fault = .unterminated token ∧
        extractor.Spoils sql token number) :
    Statement.Fate extractor sql (extractor.tableNumbers sql) number
      statement := by
  have reported :
      ∀ place : Location, place.statement? = some number →
        (extractor.extract sql).reportsAt place =
          [Diagnostic.mk (.statement number) fault].filter
            fun diagnostic => diagnostic.location = place :=
    fun place inside => single ▸ reportsAt_eq_of_listed listed inside
  refine .fault ?_ ?_ ?_ cause
  · intro member
    have defined := (mem_numbersOf_iff listed).mp member
    simp only [tableless, Option.isSome_none, Bool.false_eq_true] at defined
  · simp [reported (.statement number) rfl]
  · intro place
    simp [reported (.column number place) rfl]

/-- Each statement of a text is accounted for. -/
theorem statementFate_of_listed
    (listed : (Statement.split (extractor.canonical sql))[number]? =
      some statement) :
    Statement.Fate extractor sql (extractor.tableNumbers sql) number
      statement := by
  rcases outcomeOf_cases extractor sql statement number with
    ⟨token, spoiled, outcome⟩ | ⟨unspoiled, outcome⟩
  · refine statementFate_of_single listed ?_ ?_ (Or.inr ⟨token, rfl, spoiled⟩)
    all_goals rw [outcome]; rfl
  · have reported :
        ∀ place : Location, place.statement? = some number →
          (extractor.extract sql).reportsAt place =
            ((Outcome.read (Statement.read statement)).diagnostics
              number).filter fun diagnostic => diagnostic.location = place :=
      fun place inside => outcome ▸ reportsAt_eq_of_listed listed inside
    have numbered :
        number ∈ extractor.tableNumbers sql ↔
          (Outcome.read (Statement.read statement)).table?.isSome = true :=
      outcome ▸ mem_numbersOf_iff listed
    rw [Statement.read] at outcome reported numbered
    cases read : Statement.clauses statement with
    | error fault =>
        rw [read] at outcome
        refine statementFate_of_single listed ?_ ?_ (Or.inl read)
        all_goals rw [outcome]; rfl
    | ok found =>
        rw [read] at reported numbered
        cases found with
        | none =>
            refine .passed ?_ (reported _ rfl) (fun place => reported _ rfl)
              (Statement.isCreateTable_of_clauses_eq_none read) unspoiled
            exact fun member => Bool.noConfusion (numbered.mp member)
        | some clauses =>
            refine .table (numbered.mpr rfl) ?_
            rw [reported _ rfl, List.filter_eq_nil_iff]
            intro diagnostic member same
            obtain ⟨⟨place, fault⟩, -, rfl⟩ := List.mem_map.mp member
            simp at same

/-- The tables of a text as images of its statements. -/
theorem tables_extract (extractor : Extractor) (sql : String) :
    (extractor.extract sql).tables =
      (Statement.split (extractor.canonical sql)).zipIdx.filterMap
        fun entry => (extractor.outcomeOf sql entry).table? := by
  rw [extract_eq_ofTokens]
  rfl

/-- Each table is read from one of the statements. -/
theorem exists_clauses_of_mem_tables
    {table : Table}
    (member : table ∈ (extractor.extract sql).tables) :
    ∃ statement ∈ Statement.split (extractor.canonical sql),
      ∃ found, Statement.clauses statement = .ok (some found) ∧
        table = Statement.withColumns found.table
          (Fragment.split found.body) := by
  rw [tables_extract, List.mem_filterMap] at member
  obtain ⟨⟨statement, number⟩, numbered, defined⟩ := member
  obtain ⟨found, read, -, same⟩ := clauses_of_table? defined
  exact ⟨statement, List.fst_mem_of_mem_zipIdx numbered, found, read, same⟩

/-- The tables of a text come from its statements, in the order of these. -/
theorem comeFrom_tables (extractor : Extractor) (sql : String) :
    ComeFrom (Statement.Defines (extractor.extract sql))
      (Statement.split (extractor.canonical sql)) (extractor.tableNumbers sql)
      (extractor.extract sql).tables := by
  conv => arg 4; rw [tables_extract]
  refine comeFrom_numbersOf ?_
  intro number statement table listed found
  exact defines_of_table? listed found

/-- A diagnostic about a statement is about one of those of the text. -/
theorem lt_length_split_of_mem_diagnostics
    {diagnostic : Diagnostic}
    (member : diagnostic ∈ (extractor.extract sql).diagnostics)
    (inside : diagnostic.location.statement? = some number) :
    number < (Statement.split (extractor.canonical sql)).length := by
  rw [extract_eq_ofTokens, Extraction.ofTokens] at member
  rcases List.mem_append.mp member with early | late
  · obtain ⟨⟨statement, place⟩, listed, reported⟩ := List.mem_flatMap.mp early
    have found := statement?_of_mem_diagnostics reported
    have bound := List.snd_lt_of_mem_zipIdx listed
    cases found.symm.trans inside
    omega
  · rw [Option.mem_toList] at late
    obtain ⟨token, -, rfl⟩ := Option.map_eq_some_iff.mp late
    cases inside

end Whole

/-! ## Whole texts -/

/--
Every statement and every fragment is accounted for.  Tables come from
statements in the order of these, and so do their columns from fragments.  No
place is reported twice, and reports come in the order of their places.  What
is reported at all is about one of the statements or about none.
-/
theorem extract_accounted (extractor : Extractor) (sql : String) :
    ∃ numbers,
      ComeFrom (Statement.Defines (extractor.extract sql))
        (Statement.split (extractor.canonical sql)) numbers
        (extractor.extract sql).tables ∧
      (∀ number statement,
        (Statement.split (extractor.canonical sql))[number]? = some statement →
          Statement.Fate extractor sql numbers number statement) ∧
      (∀ diagnostic ∈ (extractor.extract sql).diagnostics,
        ∀ number ∈ diagnostic.location.statement?,
          number < (Statement.split (extractor.canonical sql)).length) ∧
      InOrder (extractor.extract sql).diagnostics ∧
      (∀ place, ((extractor.extract sql).reportsAt place).length ≤ 1) ∧
      ∀ number fragment,
        (extractor.extract sql).reportsAt (.statement number) = [] ∨
          (extractor.extract sql).reportsAt (.column number fragment) = [] := by
  have ordered : InOrder (extractor.extract sql).diagnostics := by
    rw [extract_eq_ofTokens]
    exact inOrder_ofTokens _ _
  refine ⟨extractor.tableNumbers sql, ?_, ?_, ?_, ordered,
    ordered.length_reportsAt_le, ordered.reportsAt_eq_nil_or⟩
  · exact comeFrom_tables extractor sql
  · intro number statement listed
    exact statementFate_of_listed listed
  · intro diagnostic member number inside
    exact lt_length_split_of_mem_diagnostics member inside

/--
An unrelated statement, a table with a constraint and a nameless column
definition among its fragments, and an open literal in the last statement.
-/
theorem extract_accounted_mixed :
    let sql := "SELECT 1; CREATE TABLE 'a' ('b' INT, KEY 'k', 'c'); DROP 'd"
    (Statement.split ((Extractor.mk 3).canonical sql))[1]? =
        some ["CREATE", " ", "TABLE", " ", "'a'", " ", "(", "'b'", " ", "INT",
          ",", " ", "KEY", " ", "'k'", ",", " ", "'c'", ")"] ∧
      (Statement.split ((Extractor.mk 3).canonical sql))[2]? =
        some ["DROP", " ", "'d"] ∧
      ∃ numbers,
        ComeFrom (Statement.Defines ((Extractor.mk 3).extract sql))
          (Statement.split ((Extractor.mk 3).canonical sql)) numbers
          [{ name := "a", columns := [{ name := "b", dataType := "INT" }] }] ∧
        Statement.Fate ⟨3⟩ sql numbers 1
          ["CREATE", " ", "TABLE", " ", "'a'", " ", "(", "'b'", " ", "INT",
            ",", " ", "KEY", " ", "'k'", ",", " ", "'c'", ")"] ∧
        Statement.Fate ⟨3⟩ sql numbers 2 ["DROP", " ", "'d"] := by
  intro sql
  have second :
      (Statement.split ((Extractor.mk 3).canonical sql))[1]? =
        some ["CREATE", " ", "TABLE", " ", "'a'", " ", "(", "'b'", " ", "INT",
          ",", " ", "KEY", " ", "'k'", ",", " ", "'c'", ")"] := by
    decide +kernel
  have third :
      (Statement.split ((Extractor.mk 3).canonical sql))[2]? =
        some ["DROP", " ", "'d"] := by
    decide +kernel
  have tables :
      ((Extractor.mk 3).extract sql).tables =
        [{ name := "a", columns := [{ name := "b", dataType := "INT" }] }] := by
    decide +kernel
  obtain ⟨numbers, comeFrom, fates, -⟩ := extract_accounted ⟨3⟩ sql
  rw [tables] at comeFrom
  exact ⟨second, third, numbers, comeFrom, fates 1 _ second, fates 2 _ third⟩

end SqlCatalog
