import SqlCatalog.Proofs.Extraction.Composition
import SqlCatalog.Proofs.Lexing.Symbols

/-!
# Texts that leave a token open

An open literal or comment reaches to the end of the text, so it stands behind
the last semicolon.  What stands up to that semicolon is extracted as if the
text ended there, and one more diagnostic is added behind all others: it names
the last statement, or no statement if the open token is a comment with
nothing but layout around it.

Which of the two it is depends on the tokens of the text, but is decided on
the canonical ones.  The two agree since canonical form keeps semicolons and
makes up no others.
-/

namespace SqlCatalog

open Extractor

/-! ## Canonical tokens -/

/-- The extraction of a text with one more diagnostic behind all others. -/
def Extraction.withLast (extraction : Extraction) (last : Diagnostic) :
    Extraction :=
  { extraction with diagnostics := extraction.diagnostics ++ [last] }

theorem Unterminated.moved_zero (token : Unterminated) :
    token.moved 0 = token := by
  cases token <;> simp [Unterminated.moved]

/-- Without a semicolon nothing is read and the open token is reported. -/
theorem ofTokens_open_of_not_mem
    {tokens : List Token}
    (single : ";" ∉ tokens)
    (token : Unterminated) :
    Extraction.ofTokens tokens (some token) =
      ⟨[], [⟨openPlace tokens, .unterminated token⟩]⟩ := by
  have tail := Statement.tail_of_not_mem single
  have chunks := Statement.chunks_of_not_mem single
  cases empty : (Token.trim tokens).isEmpty with
  | true =>
      have last : lastStatement? tokens = none := by
        simp [lastStatement?, tail, empty]
      simp [Extraction.ofTokens, Statement.split, chunks, empty, broken?,
        dangling?, openPlace, last]
  | false =>
      have last : lastStatement? tokens = some 0 := by
        simp [lastStatement?, Statement.split, tail, chunks, empty]
      simp [Extraction.ofTokens, Statement.split, chunks, empty, broken?,
        dangling?, openPlace, last, outcome, Outcome.table?,
        Outcome.diagnostics]

/-- An open token adds a diagnostic to what is finished before it. -/
theorem ofTokens_open (tokens : List Token) (token : Unterminated) :
    Extraction.ofTokens tokens (some token) =
      (Extraction.ofTokens (Statement.finished tokens) none).withLast
        ⟨openPlace tokens, .unterminated token⟩ := by
  by_cases several : ";" ∈ tokens
  · obtain ⟨front, back, rfl, last⟩ :=
      Statement.exists_last_semicolon several
    -- The front is read on its own, both with the open token behind it and
    -- with nothing at all.
    have whole := ofTokens_append_semicolon front back (some token) 0
    have early := ofTokens_append_semicolon front [] none 0
    rw [Option.map_some, Unterminated.moved_zero] at whole
    rw [Option.map_none] at early
    have place :
        openPlace (front ++ ";" :: back) =
          (openPlace back).moved (Statement.split front).length := by
      rw [openPlace, openPlace, lastStatement?_append_semicolon]
      cases lastStatement? back <;> rfl
    rw [Statement.finished_append_semicolon, Statement.finished_of_not_mem last,
      whole, early, ofTokens_open_of_not_mem last, place]
    simp [Extraction.withLast, Extraction.ofTokens, Statement.split,
      Token.trim_nil, broken?, dangling?, Diagnostic.moved, Fault.moved,
      Unterminated.moved_zero]
  · rw [Statement.finished_of_not_mem several,
      ofTokens_open_of_not_mem several]
    rfl

/-- With nothing left open every diagnostic comes from reading. -/
theorem of_mem_ofTokens_none
    {tokens : List Token} {diagnostic : Diagnostic}
    (member : diagnostic ∈ (Extraction.ofTokens tokens none).diagnostics) :
    diagnostic.fault.isUnterminated = false ∧ diagnostic.location ≠ .input := by
  rcases of_mem_ofTokens member with
    ⟨token, found, -⟩ | ⟨statement, number, -, reported⟩
  · cases found
  · refine ⟨isUnterminated_of_mem_read reported, ?_⟩
    rcases of_mem_read reported with ⟨fault, -, rfl⟩ | ⟨_, place, fault, -, -, rfl⟩
    · exact Location.noConfusion
    · exact Location.noConfusion

/-- An open token spoils the last statement if that reaches to the end. -/
theorem openPlace_of_held
    {tokens : List Token}
    (held : Token.trim (Statement.tail tokens) ≠ []) :
    ∃ before, (Statement.split tokens).length = before + 1 ∧
      openPlace tokens = .statement before := by
  have filled : (Token.trim (Statement.tail tokens)).isEmpty = false := by
    simpa using held
  obtain ⟨before, count⟩ :=
    Nat.exists_eq_succ_of_ne_zero
      (mt List.length_eq_zero_iff.mp (Statement.split_ne_nil_of_tail filled))
  refine ⟨before, count, ?_⟩
  simp [openPlace, lastStatement?, filled, count]

theorem openPlace_of_trim_nil
    {tokens : List Token}
    (nothing : Token.trim (Statement.tail tokens) = []) :
    openPlace tokens = .input := by
  simp [openPlace, lastStatement?, nothing]

/-! ## Semicolons of the text and of its canonical form -/

/-- No token but a semicolon becomes a semicolon in canonical form. -/
def KeepsSemicolons (tokens : List Token) : Prop :=
  ∀ token ∈ tokens, token.canonical = ";" → token = ";"

theorem KeepsSemicolons.not_mem_squeeze
    {tokens : List Token}
    (keeps : KeepsSemicolons tokens)
    (single : ";" ∉ tokens) :
    ";" ∉ Token.squeeze (tokens.map Token.canonical) := by
  rw [Token.mem_squeeze_iff]
  intro member
  obtain ⟨token, listed, canonical⟩ := List.mem_map.mp member
  rw [keeps token listed canonical] at listed
  exact single listed

/-- The last semicolon divides the canonical form where it divides the text. -/
theorem KeepsSemicolons.squeeze_cut
    {tokens : List Token}
    (keeps : KeepsSemicolons tokens) :
    Statement.finished (Token.squeeze (tokens.map Token.canonical)) =
        Token.squeeze ((Statement.finished tokens).map Token.canonical) ∧
      Statement.tail (Token.squeeze (tokens.map Token.canonical)) =
        Token.squeeze ((Statement.tail tokens).map Token.canonical) := by
  by_cases several : ";" ∈ tokens
  · obtain ⟨front, back, rfl, last⟩ :=
      Statement.exists_last_semicolon several
    have itself : Token.canonical ";" = ";" := by decide
    have other : (";" : Token) ≠ Token.blank := by decide
    have behind : KeepsSemicolons back := fun token member =>
      keeps token (List.mem_append_right front (List.mem_cons_of_mem _ member))
    have absent := behind.not_mem_squeeze last
    simp only [Statement.finished_append_semicolon,
      Statement.tail_append_semicolon, List.map_append, List.map_cons, itself,
      Token.squeeze_append_cons_of_ne other, Statement.finished_of_not_mem last,
      Statement.finished_of_not_mem absent, Statement.tail_of_not_mem last,
      Statement.tail_of_not_mem absent, List.map_nil, Token.squeeze_nil,
      and_self]
  · have absent := keeps.not_mem_squeeze several
    simp only [Statement.finished_of_not_mem several,
      Statement.finished_of_not_mem absent, Statement.tail_of_not_mem several,
      Statement.tail_of_not_mem absent, List.map_nil, Token.squeeze_nil,
      and_self]

/-- The tokens of a text make up no semicolons. -/
theorem keepsSemicolons_tokenize (sql : String) :
    KeepsSemicolons (tokenize sql).tokens := by
  intro token member canonical
  rw [tokenize_tokens] at member
  obtain ⟨lexeme, listed, rfl⟩ := List.mem_map.mp member
  obtain ⟨front, back, parts⟩ := List.append_of_mem listed
  have reads := reads_lexemes sql.toList
  rw [parts, reads_append] at reads
  exact reads.2.1.canonical_eq_semicolon_iff.mp canonical

/-! ## The finished part of a text -/

/-- The text up to its last semicolon, empty if it has none. -/
def finishedPart (sql : String) : String :=
  String.join (Statement.finished (tokenize sql).tokens)

/-- A lexeme that is spelled like a semicolon is one. -/
theorem Lexeme.StandsBefore.eq_semicolon
    {lexeme : Lexeme} {rest : List Char}
    (stands : lexeme.StandsBefore rest)
    (token : lexeme.token = ";") :
    lexeme = semicolon := by
  have text : lexeme.text = semicolon.text := by
    simpa [Lexeme.token, semicolon] using congrArg String.toList token
  have here := lexemes_of_standsBefore stands
  rw [text, lexemes_of_standsBefore (standsBefore_semicolon rest)] at here
  exact (List.cons.inj here).1.symm

/-- A text can be cut behind each of its semicolons. -/
theorem reads_through_semicolon
    {front : List Lexeme} {rest : List Char}
    (reads : Reads (front ++ [semicolon]) rest) :
    Reads (front ++ [semicolon]) [] ∧
      ∀ lexeme ∈ front ++ [semicolon], lexeme.isOpen = false := by
  have before := ((reads_append _ _ _).mp reads).1
  constructor
  · refine reads.swap (by simp) ?_
    intro lexeme last
    obtain rfl : semicolon = lexeme := by simpa using last
    exact standsBefore_semicolon []
  · intro lexeme member
    rcases List.mem_append.mp member with early | last
    · exact before.isOpen_eq_false (by simp [semicolon]) lexeme early
    · obtain rfl := List.mem_singleton.mp last
      rfl

/-- The finished part is read as in the whole text and leaves nothing open. -/
theorem tokenize_finishedPart (sql : String) :
    (tokenize (finishedPart sql)).tokens =
        Statement.finished (tokenize sql).tokens ∧
      (tokenize (finishedPart sql)).fault = none := by
  by_cases several : ";" ∈ (tokenize sql).tokens
  · obtain ⟨front, back, parts, last⟩ :=
      Statement.exists_last_semicolon several
    have tokens : Statement.finished (tokenize sql).tokens = front ++ [";"] := by
      rw [parts, Statement.finished_append_semicolon,
        Statement.finished_of_not_mem last]
    rw [tokenize_tokens, List.map_eq_append_iff] at parts
    obtain ⟨before, later, split, rfl, cons⟩ := parts
    obtain ⟨lexeme, behind, rfl, token, -⟩ := List.map_eq_cons_iff.mp cons
    have reads := reads_lexemes sql.toList
    rw [split, ← List.singleton_append, ← List.append_assoc,
      reads_append] at reads
    have stands := (reads_append _ _ _).mp reads.1
    obtain rfl := stands.2.1.eq_semicolon token
    -- Nothing depends on what followed the semicolon, so it can be left out.
    obtain ⟨alone, closed⟩ := reads_through_semicolon reads.1
    have text : (finishedPart sql).toList = spelling (before ++ [semicolon]) := by
      rw [finishedPart, tokens, ← toList_join_tokens, List.map_append]
      rfl
    have again : lexemes (finishedPart sql).toList = before ++ [semicolon] := by
      have lexed := lexemes_of_reads alone
      rwa [List.append_nil, lexemes_nil, List.append_nil, ← text] at lexed
    rw [tokenize_tokens, tokenize_fault, again, tokens]
    refine ⟨by simp [semicolon, Lexeme.token], ?_⟩
    exact (lastFault?_eq_none_iff _ _).mpr closed
  · have nothing := Statement.finished_of_not_mem several
    have empty : (finishedPart sql).toList = [] := by
      rw [finishedPart, nothing]
      rfl
    rw [tokenize_tokens, tokenize_fault, empty, lexemes_nil, nothing]
    exact ⟨rfl, rfl⟩

/-! ## Whole texts -/

/-- The text is not too short, and its end belongs to a statement. -/
structure Extractor.EndsInStatement (extractor : Extractor) (sql : String) :
    Prop where
  /-- The text has tokens enough to be read at all. -/
  enough : extractor.minTokens ≤ (tokenize sql).tokens.length
  /-- Behind the last semicolon there is more than layout. -/
  filled : ∃ token ∈ Statement.tail (tokenize sql).tokens,
    token.canonical ≠ Token.blank

theorem trim_tail_canonical_eq_nil_iff (extractor : Extractor) (sql : String) :
    Token.trim (Statement.tail (extractor.canonical sql)) = [] ↔
      ¬extractor.EndsInStatement sql := by
  by_cases enough : extractor.minTokens ≤ (tokenize sql).tokens.length
  · have cut := (keepsSemicolons_tokenize sql).squeeze_cut.2
    rw [Extractor.canonical, Token.normalize_of_le enough, cut,
      Token.trim_squeeze_eq_nil_iff]
    constructor
    · rintro blanks ⟨-, token, member, filled⟩
      exact filled (blanks _ (List.mem_map_of_mem member))
    · intro outside canonical member
      obtain ⟨token, listed, rfl⟩ := List.mem_map.mp member
      by_contra filled
      exact outside ⟨enough, token, listed, filled⟩
  · -- A text that is too short counts as empty.
    have nothing : extractor.canonical sql = [] := by
      rw [Extractor.canonical, Token.normalize, if_pos (Nat.not_le.mp enough)]
    rw [nothing]
    exact iff_of_true rfl fun ends => enough ends.enough

/-- Canonical form does not change what counts as finished. -/
theorem finished_canonical
    {extractor : Extractor} {sql : String}
    (enough :
      extractor.minTokens ≤ (tokenize (finishedPart sql)).tokens.length) :
    Statement.finished (extractor.canonical sql) =
      extractor.canonical (finishedPart sql) := by
  have tokens := (tokenize_finishedPart sql).1
  have cut := (keepsSemicolons_tokenize sql).squeeze_cut.1
  have whole : extractor.minTokens ≤ (tokenize sql).tokens.length := by
    have parts := Statement.finished_append_tail (tokenize sql).tokens
    rw [tokens] at enough
    rw [← parts, List.length_append]
    omega
  rw [Extractor.canonical, Extractor.canonical, Token.normalize_of_le enough,
    Token.normalize_of_le whole, cut, tokens]

/--
A text that leaves no token open has no complaint about one and none outside
of its statements.  A text that does has exactly one such complaint, behind
all others.  It is about the last statement if that reaches to the end of the
text, and about no statement otherwise.  The rest of the extraction is that of
the finished part of the text, if that part is not too short to be read.
-/
theorem extract_open_token (extractor : Extractor) (sql : String) :
    ((tokenize sql).fault = none →
      ∀ diagnostic ∈ (extractor.extract sql).diagnostics,
        diagnostic.fault.isUnterminated = false ∧
          diagnostic.location ≠ .input) ∧
    ∀ token, (tokenize sql).fault = some token →
      ∃ others location,
        (extractor.extract sql).diagnostics =
            others ++ [⟨location, .unterminated token⟩] ∧
          (∀ diagnostic ∈ others,
            diagnostic.fault.isUnterminated = false ∧
              diagnostic.location ≠ .input) ∧
          (extractor.EndsInStatement sql →
            ∃ before,
              (Statement.split (extractor.canonical sql)).length = before + 1 ∧
                location = .statement before) ∧
          (¬extractor.EndsInStatement sql → location = .input) ∧
          (extractor.minTokens ≤ (tokenize (finishedPart sql)).tokens.length →
            (extractor.extract sql).tables =
                (extractor.extract (finishedPart sql)).tables ∧
              others = (extractor.extract (finishedPart sql)).diagnostics) := by
  constructor
  · intro closed diagnostic member
    rw [extract_eq_ofTokens, closed] at member
    exact of_mem_ofTokens_none member
  · intro token unclosed
    have whole := extract_eq_ofTokens extractor sql
    rw [unclosed, ofTokens_open] at whole
    rw [whole]
    refine ⟨_, _, rfl, ?_, ?_, ?_, ?_⟩
    · intro diagnostic member
      exact of_mem_ofTokens_none member
    · intro ends
      apply openPlace_of_held
      rw [Ne, trim_tail_canonical_eq_nil_iff, not_not]
      exact ends
    · intro outside
      apply openPlace_of_trim_nil
      exact (trim_tail_canonical_eq_nil_iff extractor sql).mpr outside
    · intro enough
      rw [extract_eq_ofTokens, (tokenize_finishedPart sql).2,
        finished_canonical enough]
      exact ⟨rfl, rfl⟩

/--
The semicolons in the comment and in the open literal end nothing, so the
second statement is spoiled and the first one is read as if it stood alone.
-/
theorem extract_open_literal_behind_comment :
    let sql := "CREATE TABLE 'a' ('x'); /* ; */ SELECT 'ä;"
    (tokenize sql).fault = some (.literal 39) ∧
      (Extractor.mk 3).EndsInStatement sql ∧
      ((Extractor.mk 3).extract sql).tables = [{ name := "a" }] ∧
      ((Extractor.mk 3).extract sql).diagnostics =
        [⟨.column 0 0, .bareColumnName 1⟩,
          ⟨.statement 1, .unterminated (.literal 39)⟩] := by
  intro sql
  have unclosed : (tokenize sql).fault = some (.literal 39) := by
    decide +kernel
  have ends : (Extractor.mk 3).EndsInStatement sql :=
    ⟨by decide +kernel, by decide +kernel⟩
  have enough : 3 ≤ (tokenize (finishedPart sql)).tokens.length := by
    decide +kernel
  have finished :
      (Extractor.mk 3).extract (finishedPart sql) =
        ⟨[{ name := "a" }], [⟨.column 0 0, .bareColumnName 1⟩]⟩ := by
    decide +kernel
  have count :
      (Statement.split ((Extractor.mk 3).canonical sql)).length = 1 + 1 := by
    decide +kernel
  obtain ⟨others, location, diagnostics, -, held, -, rest⟩ :=
    (extract_open_token ⟨3⟩ sql).2 _ unclosed
  obtain ⟨before, same, rfl⟩ := held ends
  obtain ⟨tables, rfl⟩ := rest enough
  obtain rfl : before = 1 := by omega
  rw [finished] at tables diagnostics
  exact ⟨unclosed, ends, tables, diagnostics⟩

end SqlCatalog
