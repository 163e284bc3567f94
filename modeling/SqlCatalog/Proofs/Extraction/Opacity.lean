import SqlCatalog.Proofs.Extraction.Outline
import SqlCatalog.Proofs.Lexing.Class

/-!
# Opacity of quoted text

A closed literal can be exchanged for another one with the same delimiter,
whatever the new one holds: quotes, semicolons, parentheses, comment openings
or keywords.  As long as the value stays empty or stays not empty, the outline
of the extraction is the same.

Both texts have the same lexemes but for the literal, since neither what
stands in front of a literal nor what stands behind it looks further than its
mark.  The rest follows from the outlines behind the veil.
-/

namespace SqlCatalog

/-! ## Literals at a place -/

namespace Lexeme.StandsBefore

/-- A closed literal ends in front of whatever does not start with its mark. -/
theorem literal_parts
    {delimiter : Delimiter} {text rest : List Char}
    (stands : Lexeme.StandsBefore ⟨.literal delimiter true, text⟩ rest) :
    (∃ body, text = delimiter.mark :: body) ∧
      rest.head? ≠ some delimiter.mark ∧
      ∀ other : List Char, other.head? ≠ some delimiter.mark →
        Lexeme.StandsBefore ⟨.literal delimiter true, text⟩ other := by
  cases stands with
  | literal allowed stop =>
      exact ⟨⟨_, rfl⟩, stop, fun other ends => .literal allowed ends⟩

/-- A closed lexeme whose token starts with a mark is a literal. -/
theorem kind_of_delimiter?
    {lexeme : Lexeme} {rest : List Char} {delimiter : Delimiter}
    (stands : lexeme.StandsBefore rest)
    (closed : lexeme.isOpen = false)
    (mark : lexeme.token.delimiter? = some delimiter) :
    lexeme.kind = .literal delimiter true := by
  have quoted : lexeme.token.isQuoted = true := by
    simp [Token.isQuoted, mark]
  rw [stands.isQuoted_token] at quoted
  cases stands with
  | literal allowed stop =>
      simp [Lexeme.token, Token.delimiter?] at mark
      rw [mark]
  | openLiteral unclosed => cases closed
  | _ => cases quoted

end Lexeme.StandsBefore

/-- A text that is a single closed literal. -/
structure IsLiteral (delimiter : Delimiter) (text : String) : Prop where
  /-- The text is its only token and leaves nothing open. -/
  alone : tokenize text = ⟨[text], none⟩
  /-- The token starts with the mark of the delimiter. -/
  mark : Token.delimiter? text = some delimiter

theorem IsLiteral.standsBefore
    {delimiter : Delimiter} {text : String}
    (literal : IsLiteral delimiter text)
    {rest : List Char}
    (stop : rest.head? ≠ some delimiter.mark) :
    Lexeme.StandsBefore ⟨.literal delimiter true, text.toList⟩ rest := by
  have tokens : (lexemes text.toList).map Lexeme.token = [text] :=
    congrArg Lexed.tokens literal.alone
  have fault : (tokenize text).fault = none := by
    rw [literal.alone]
  rw [tokenize_fault, lastFault?_eq_none_iff] at fault
  rcases List.map_eq_singleton_iff.mp tokens with ⟨lexeme, only, token⟩
  have reads := reads_lexemes text.toList
  rw [only] at reads fault
  have kind :=
    reads.1.kind_of_delimiter? (fault lexeme List.mem_cons_self)
      (token ▸ literal.mark)
  have spelled : lexeme = ⟨.literal delimiter true, text.toList⟩ := by
    rw [← kind, ← token]
    simp [Lexeme.token]
  have stands := reads.1
  rw [spelled] at stands
  exact stands.literal_parts.2.2 rest stop

/-- In place of a closed literal another one with the same delimiter is read. -/
theorem Placed.exchange
    {front old new behind : String} {delimiter : Delimiter}
    {before : List Lexeme}
    (placed : Placed front old behind (.literal delimiter true) before)
    (literal : IsLiteral delimiter new) :
    Placed front new behind (.literal delimiter true) before := by
  rcases placed.parts with ⟨reads, stands, -⟩
  rcases stands.literal_parts with ⟨⟨oldBody, oldText⟩, stop, -⟩
  have newStands := literal.standsBefore stop
  rcases newStands.literal_parts with ⟨⟨newBody, newText⟩, -, -⟩
  have noPoint : delimiter.mark ≠ '.' := by
    cases delimiter <;> decide
  have noDigit : delimiter.mark.isDigit = false := by
    cases delimiter <;> decide
  have again : Reads before (new.toList ++ behind.toList) := by
    rw [oldText, List.cons_append] at reads
    rw [newText, List.cons_append]
    apply reads.swap
    · simpa using noDigit
    · intro lexeme final
      apply (reads.standsBefore_of_getLast? final).swap_behind
      intro point
      exact absurd point noPoint
  have text :
      (front ++ new ++ behind).toList =
        spelling before ++ (new.toList ++ behind.toList) := by
    simp [placed.place]
  have cut := lexemes_of_standsBefore newStands
  exact ⟨placed.place, lexemes behind.toList,
    by rw [text, lexemes_of_reads again, cut]⟩

/-! ## Whole texts -/

/-- Texts with the same tokens but for a literal look alike behind the veil. -/
theorem normalize_veiled
    {old new : Token}
    (same : new.veiled = old.veiled)
    (oldQuoted : old.isQuoted = true) (newQuoted : new.isQuoted = true)
    (minTokens : Nat) (front back : List Token) :
    (Token.normalize minTokens (front ++ new :: back)).map Token.veiled =
      (Token.normalize minTokens (front ++ old :: back)).map Token.veiled := by
  have oldItself : old.canonical = old := by
    simp [Token.canonical, oldQuoted]
  have newItself : new.canonical = new := by
    simp [Token.canonical, newQuoted]
  simp only [Token.normalize, List.length_append, List.length_cons]
  split
  · rfl
  · rw [← Token.squeeze_veiled, ← Token.squeeze_veiled]
    simp [oldItself, newItself, same]

/-- The token in the place of a literal starts with the mark of that. -/
theorem Placed.delimiter?_eq
    {front token behind : String} {delimiter : Delimiter}
    {before : List Lexeme}
    (placed : Placed front token behind (.literal delimiter true) before) :
    Token.delimiter? token = some delimiter := by
  obtain ⟨body, text⟩ := placed.parts.2.1.literal_parts.1
  simp [Token.delimiter?, text]

/-- Behind the veil the canonical tokens around either literal are the same. -/
theorem Placed.canonical_veiled
    {front old new behind : String} {delimiter : Delimiter}
    {before : List Lexeme}
    (placed : Placed front old behind (.literal delimiter true) before)
    (exchanged : Placed front new behind (.literal delimiter true) before)
    (value : (Token.unquote new).isEmpty = (Token.unquote old).isEmpty)
    (extractor : Extractor) :
    (extractor.canonical (front ++ new ++ behind)).map Token.veiled =
      (extractor.canonical (front ++ old ++ behind)).map Token.veiled := by
  have oldQuoted : Token.isQuoted old = true := by
    simp [Token.isQuoted, placed.delimiter?_eq]
  have newQuoted : Token.isQuoted new = true := by
    simp [Token.isQuoted, exchanged.delimiter?_eq]
  have veiled : Token.veiled new = Token.veiled old :=
    Token.veiled_eq_veiled
      (by rw [exchanged.delimiter?_eq, placed.delimiter?_eq]) value newQuoted
  have token (text : String) :
      Lexeme.token ⟨.literal delimiter true, text.toList⟩ = text := by
    simp [Lexeme.token]
  rw [Extractor.canonical, Extractor.canonical, tokenize_tokens,
    tokenize_tokens, placed.parts.2.2, exchanged.parts.2.2, List.map_append,
    List.map_append, List.map_cons, List.map_cons, token, token]
  exact normalize_veiled veiled oldQuoted newQuoted _ _ _

/--
Exchanging a closed literal for another one with the same delimiter, empty if
and only if the first one is, keeps the outline of every table and all
diagnostics but for the position of an open token.  That token stands behind
the literal, so it moves by the difference of the lengths.
-/
theorem extract_replace_literal
    (extractor : Extractor) (front old new behind : String)
    {delimiter : Delimiter} {before : List Lexeme}
    (placed : Placed front old behind (.literal delimiter true) before)
    (literal : IsLiteral delimiter new)
    (value : (Token.unquote new).isEmpty = (Token.unquote old).isEmpty) :
    (extractor.extract (front ++ new ++ behind)).tables.map Table.outline =
        (extractor.extract (front ++ old ++ behind)).tables.map Table.outline ∧
      (extractor.extract (front ++ new ++ behind)).diagnostics =
        (extractor.extract (front ++ old ++ behind)).diagnostics.map
          (Diagnostic.moved 0
            (byteLength new.toList - byteLength old.toList)) ∧
      ∀ diagnostic ∈ (extractor.extract (front ++ old ++ behind)).diagnostics,
        ∀ token, diagnostic.fault = .unterminated token →
          byteLength (front ++ old).toList ≤ token.position := by
  have exchanged := placed.exchange literal
  have tokens := placed.canonical_veiled exchanged value extractor
  have fault :
      (tokenize (front ++ new ++ behind)).fault =
        (tokenize (front ++ old ++ behind)).fault.map
          (Unterminated.moved
            (byteLength new.toList - byteLength old.toList)) := by
    rw [placed.fault rfl, exchanged.fault rfl]
    exact lastFault?_exchanged front old new _
  rw [extract_eq_ofTokens, extract_eq_ofTokens]
  refine ⟨?_, ?_, ?_⟩
  · rw [← (ofTokens_veiled _ _).1, tokens, (ofTokens_veiled _ _).1, fault,
      ofTokens_moved]
  · rw [← (ofTokens_veiled _ _).2, tokens, (ofTokens_veiled _ _).2, fault,
      ofTokens_moved]
  · intro diagnostic member token unclosed
    rw [← extract_eq_ofTokens] at member
    exact placed.le_position rfl member unclosed

/--
A literal full of punctuation, keywords and escaped marks in place of a plain
one: the column stays what it is, and only the open literal moves.
-/
theorem extract_replace_argument :
    IsLiteral .apostrophe "'); NOT NULL \\' ''/*,'" ∧
      ((Extractor.mk 10).extract
          ("CREATE TABLE 't' ('a' ENUM(" ++ "'); NOT NULL \\' ''/*,'" ++
            ") DEFAULT 'd', 'b'); SELECT 'open")).tables.map Table.outline =
        [⟨"", "", "", [⟨false, false, true⟩]⟩] ∧
      ((Extractor.mk 10).extract
          ("CREATE TABLE 't' ('a' ENUM(" ++ "'); NOT NULL \\' ''/*,'" ++
            ") DEFAULT 'd', 'b'); SELECT 'open")).diagnostics =
        [⟨.column 0 1, .bareColumnName 1⟩,
          ⟨.statement 1, .unterminated (.literal 77)⟩] := by
  have literal : IsLiteral .apostrophe "'); NOT NULL \\' ''/*,'" :=
    ⟨by decide +kernel, by decide +kernel⟩
  have placed :
      Placed "CREATE TABLE 't' ('a' ENUM(" "'x'"
        ") DEFAULT 'd', 'b'); SELECT 'open" (.literal .apostrophe true)
        (lexemes "CREATE TABLE 't' ('a' ENUM(".toList) :=
    ⟨by decide +kernel,
      lexemes ") DEFAULT 'd', 'b'); SELECT 'open".toList, by decide +kernel⟩
  have same :=
    extract_replace_literal ⟨10⟩ _ _ _ _ placed literal (by decide +kernel)
  refine ⟨literal, ?_, ?_⟩
  · rw [same.1]
    decide +kernel
  · rw [same.2.1]
    decide +kernel

end SqlCatalog
