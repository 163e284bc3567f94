import SqlCatalog.Proofs.Bracket.Matching
import SqlCatalog.Proofs.Extraction.OpenToken

/-!
# Which fault is reported where

Outside of statements only an open token is reported.  A statement is left out
for an open token, for one of its clauses or for a body that is never closed,
and the parenthesis that is named then is the one that starts the body.

A fragment is left out for its name only.  Reading a fragment looks for the
close of a default in parentheses and could miss it, but not in a fragment
that comes from a statement: the body of the statement ends at the close of
its first parenthesis, so it is balanced, and so are its fragments.
-/

namespace SqlCatalog

/-! ## How a statement is cut -/

namespace Statement

/-- The body of a table definition is balanced. -/
theorem balanced_body
    {statement : List Token} {found : Clauses}
    (read : clauses statement = .ok (some found)) :
    Bracket.Balanced found.body := by
  obtain ⟨parts, cutting, body⟩ := spans_of_clauses read
  have cut := isCut_spans statement
  rw [cutting] at cut
  cases cut with
  | whole _ balanced =>
      rw [body]
      exact balanced.trim

/-- No parenthesis of a table definition stands among its keywords. -/
theorem four_le_length
    {front rest : List Token}
    (create : isCreateTable (front ++ "(" :: rest) = true) :
    4 ≤ front.length := by
  rw [isCreateTable_append_open] at create
  exact Pattern.length_le_of_fits create

end Statement

/-! ## How a fragment of a statement is read -/

namespace Fragment

/-- A default in parentheses is closed inside of a balanced fragment. -/
theorem hasClose_of_default
    {front rest : List Token}
    (balanced : Bracket.Balanced
      (front ++ "DEFAULT" :: Token.blank :: "(" :: rest)) :
    Bracket.HasClose rest := by
  have parts :
      front ++ "DEFAULT" :: Token.blank :: "(" :: rest =
        (front ++ ["DEFAULT", Token.blank]) ++ "(" :: rest := by
    simp
  rw [parts] at balanced
  exact balanced.hasClose

theorem defaultValue_ne_error
    {fragment : List Token}
    (balanced : Bracket.Balanced fragment)
    (fault : Fault) :
    defaultValue fragment ≠ .error fault := by
  intro failed
  obtain ⟨front, rest, rfl, unclosed⟩ := defaultValue_error_cases failed
  obtain ⟨inside, behind, rfl, inner⟩ := hasClose_of_default balanced
  have closed :=
    Bracket.closing_of_balanced inner ["DEFAULT", Token.blank] behind
  cases closed.symm.trans unclosed

/-- A balanced fragment is at fault for its name only. -/
theorem column_error_of_balanced
    {fragment : List Token} {fault : Fault}
    (balanced : Bracket.Balanced fragment)
    (failed : column fragment = .error fault) :
    fault = .bareColumnName 1 ∨ fault = .emptyColumnName := by
  rcases column_error_cases failed with bare | empty | default
  · exact Or.inl bare
  · exact Or.inr empty
  · exact absurd default (defaultValue_ne_error balanced fault)

end Fragment

/-! ## Whole texts -/

/-- The faults that can be reported at a place, given the statements. -/
inductive Diagnostic.Admissible (statements : List (List Token)) :
    Diagnostic → Prop
  /-- Outside of statements there are open tokens only. -/
  | input (token : Unterminated) :
      Admissible statements ⟨.input, .unterminated token⟩
  /-- A statement can hold an open token. -/
  | unterminated {number : Nat}
      (listed : number < statements.length)
      (token : Unterminated) :
      Admissible statements ⟨.statement number, .unterminated token⟩
  /-- A part of a table definition can be missing or malformed. -/
  | definition {number : Nat} {fault : Fault}
      (listed : number < statements.length)
      (kind : fault ∈
        [.missingBody, .unrecognizedName, .malformedComment]) :
      Admissible statements ⟨.statement number, fault⟩
  /-- The first parenthesis of a table definition can have no partner. -/
  | unclosed {number : Nat} {front rest : List Token}
      (listed : statements[number]? = some (front ++ "(" :: rest))
      (first : "(" ∉ front)
      (keywords : 4 ≤ front.length)
      (unclosed : ¬Bracket.HasClose rest) :
      Admissible statements
        ⟨.statement number, .unclosedParenthesis front.length⟩
  /-- A column can have an empty name or end after its name. -/
  | column {number : Nat} {fault : Fault}
      (listed : number < statements.length)
      (fragment : Nat)
      (kind : fault ∈ [.emptyColumnName, .bareColumnName 1]) :
      Admissible statements ⟨.column number fragment, fault⟩

/-- The faults of a statement as a whole are admissible. -/
theorem admissible_of_clauses_error
    {statements : List (List Token)} {number : Nat} {statement : List Token}
    {fault : Fault}
    (listed : statements[number]? = some statement)
    (failed : Statement.clauses statement = .error fault) :
    Diagnostic.Admissible statements ⟨.statement number, fault⟩ := by
  have inside := (List.getElem?_eq_some_iff.mp listed).1
  rcases Statement.clauses_error_cases failed with
    ⟨create, cutting⟩ | rfl | rfl
  · have cut := Statement.isCut_spans statement
    rw [cutting] at cut
    cases cut with
    | missing => exact .definition inside (by simp)
    | unclosed noOpen unclosed =>
        exact .unclosed listed noOpen (Statement.four_le_length create) unclosed
  · exact .definition inside (by simp)
  · exact .definition inside (by simp)

/-- What reading a statement leaves out is admissible. -/
theorem admissible_of_mem_read
    {statements : List (List Token)} {number : Nat} {statement : List Token}
    {diagnostic : Diagnostic}
    (listed : statements[number]? = some statement)
    (member : diagnostic ∈
      (Outcome.read (Statement.read statement)).diagnostics number) :
    diagnostic.Admissible statements := by
  rcases of_mem_read member with
    ⟨fault, failed, rfl⟩ | ⟨clauses, place, fault, found, faulty, rfl⟩
  · exact admissible_of_clauses_error listed failed
  · obtain ⟨fragment, inBody, failed⟩ := Fragment.of_mem_faults faulty
    have balanced :=
      Fragment.balanced_of_mem_split (Statement.balanced_body found) inBody
    have inside := (List.getElem?_eq_some_iff.mp listed).1
    rcases Fragment.column_error_of_balanced balanced failed with rfl | rfl
    · exact .column inside place (by simp)
    · exact .column inside place (by simp)

/-- The complaint about an open token is admissible. -/
theorem admissible_open (tokens : List Token) (token : Unterminated) :
    Diagnostic.Admissible (Statement.split tokens)
      ⟨openPlace tokens, .unterminated token⟩ := by
  by_cases outside : Token.trim (Statement.tail tokens) = []
  · rw [openPlace_of_trim_nil outside]
    exact .input token
  · obtain ⟨before, count, place⟩ := openPlace_of_held outside
    rw [place]
    exact .unterminated (by omega) token

/--
Every fault that is reported is admissible at its place.  No parenthesis is
ever reported for a column: reading a fragment can fail at one, but the
fragments of a table definition are balanced, so defaults in parentheses are
closed inside of them.
-/
theorem extract_admissible (extractor : Extractor) (sql : String) :
    (∀ diagnostic ∈ (extractor.extract sql).diagnostics,
      diagnostic.Admissible (Statement.split (extractor.canonical sql))) ∧
    (∀ statement clauses,
      Statement.clauses statement = .ok (some clauses) →
        ∀ fragment ∈ Fragment.split clauses.body,
          Bracket.Balanced fragment ∧
            ∀ front rest,
              fragment = front ++ "DEFAULT" :: Token.blank :: "(" :: rest →
                Bracket.HasClose rest) ∧
    ∃ fragment, Fragment.column fragment = .error (.unclosedParenthesis 2) := by
  refine ⟨?_, ?_, ?_⟩
  · intro diagnostic member
    rw [extract_eq_ofTokens] at member
    rcases of_mem_ofTokens member with
      ⟨token, -, rfl⟩ | ⟨statement, number, listed, reported⟩
    · exact admissible_open _ token
    · rw [List.mem_zipIdx_iff_getElem?] at listed
      exact admissible_of_mem_read listed reported
  · intro statement clauses found fragment member
    have balanced :=
      Fragment.balanced_of_mem_split (Statement.balanced_body found) member
    refine ⟨balanced, ?_⟩
    rintro front rest rfl
    exact Fragment.hasClose_of_default balanced
  · exact ⟨["'a'", " ", "DEFAULT", " ", "("], by decide +kernel⟩

/-- The parenthesis that is named is the first one, not the one inside. -/
theorem extract_unclosed_body :
    let sql := "CREATE TABLE 'a' ('b' INT DEFAULT (1), 'c'; SELECT 2"
    let diagnostic : Diagnostic := ⟨.statement 0, .unclosedParenthesis 6⟩
    (Extractor.mk 10).extract sql = ⟨[], [diagnostic]⟩ ∧
      diagnostic.Admissible
        (Statement.split ((Extractor.mk 10).canonical sql)) := by
  intro sql diagnostic
  have reported : (Extractor.mk 10).extract sql = ⟨[], [diagnostic]⟩ := by
    decide +kernel
  refine ⟨reported, (extract_admissible ⟨10⟩ sql).1 diagnostic ?_⟩
  rw [reported]
  exact List.mem_singleton_self diagnostic

end SqlCatalog
