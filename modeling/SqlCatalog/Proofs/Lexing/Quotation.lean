import SqlCatalog.Proofs.Lexing.Plain

/-!
# Values of literals

A literal is a sequence of pieces between two marks.  Its value is that of its
pieces: a doubled mark counts for one, and all else stands for itself, a
backslash and the character that it takes along included.

Reading a token back knows nothing of pieces, since it pairs up marks from left
to right wherever they stand.  Behind a backslash it can pair up others than
the pieces do: an escaped mark with the first half of a doubled one.  This
leaves the second half in place of the escaped mark, so the value is the same.
-/

namespace SqlCatalog

namespace Literal

theorem value_cons
    (delimiter : Delimiter) (piece : Piece) (pieces : List Piece) :
    value delimiter (piece :: pieces) =
      piece.value delimiter ++ value delimiter pieces := by
  simp [value]

variable {delimiter : Delimiter} {pieces : List Piece}

/--
Reading marks in pairs gives the value of the pieces, with or without a mark in
front that the pieces do not account for.
-/
theorem collapse_written
    (allowed : ∀ piece ∈ pieces, piece.Allowed delimiter) :
    collapse delimiter.mark (written delimiter pieces) =
        value delimiter pieces ∧
      collapse delimiter.mark (delimiter.mark :: written delimiter pieces) =
        delimiter.mark :: value delimiter pieces := by
  induction pieces with
  | nil => exact ⟨rfl, rfl⟩
  | cons piece pieces hypothesis =>
      rw [List.forall_mem_cons] at allowed
      obtain ⟨first, later⟩ := allowed
      obtain ⟨plain, marked⟩ := hypothesis later
      rw [written_cons, value_cons]
      cases piece with
      | plain char =>
          have other : char ≠ delimiter.mark := first.1
          simp [Piece.written, Piece.value, collapse, other,
            collapse_cons_of_ne other, plain]
      | doubled =>
          simp [Piece.written, Piece.value, collapse, plain, marked]
      | escaped char =>
          have backslash := (Delimiter.mark_ne_backslash delimiter).symm
          by_cases mark : char = delimiter.mark
          · simp [Piece.written, Piece.value, collapse, mark, backslash,
              collapse_cons_of_ne backslash, marked]
          · simp [Piece.written, Piece.value, collapse, backslash,
              collapse_cons_of_ne backslash, collapse_cons_of_ne mark, plain]

/--
The first piece of a literal can be told from what is written: no piece is the
start of another one.
-/
theorem Piece.eq_of_written_append_eq
    {piece other : Piece} {rest behind : List Char}
    (allowed : piece.Allowed delimiter)
    (also : other.Allowed delimiter)
    (same : other.written delimiter ++ rest =
      piece.written delimiter ++ behind) :
    other = piece ∧ rest = behind := by
  have backslash := Delimiter.mark_ne_backslash delimiter
  cases piece with
  | plain char =>
      cases other with
      | plain another => simpa [written] using same
      | doubled =>
          simp only [written, List.cons_append, List.cons.injEq] at same
          exact absurd same.1.symm allowed.1
      | escaped another =>
          simp only [written, List.cons_append, List.cons.injEq] at same
          exact absurd same.1.symm (allowed.2 also)
  | doubled =>
      cases other with
      | plain another =>
          simp only [written, List.cons_append, List.cons.injEq] at same
          exact absurd same.1 also.1
      | doubled => simpa [written] using same
      | escaped another =>
          simp only [written, List.cons_append, List.cons.injEq] at same
          exact absurd same.1.symm backslash
  | escaped char =>
      cases other with
      | plain another =>
          simp only [written, List.cons_append, List.cons.injEq] at same
          exact absurd same.1 (also.2 allowed)
      | doubled =>
          simp only [written, List.cons_append, List.cons.injEq] at same
          exact absurd same.1 backslash
      | escaped another => simpa [written] using same

theorem Piece.written_ne_nil (piece : Piece) :
    piece.written delimiter ≠ [] := by
  cases piece <;> simp [written]

/-- Pieces can be told from how they are written. -/
theorem eq_of_written_eq
    {others : List Piece}
    (allowed : ∀ piece ∈ pieces, piece.Allowed delimiter)
    (also : ∀ piece ∈ others, piece.Allowed delimiter)
    (same : written delimiter others = written delimiter pieces) :
    others = pieces := by
  induction pieces generalizing others with
  | nil =>
      cases others with
      | nil => rfl
      | cons other others =>
          rw [written_cons] at same
          exact absurd (List.append_eq_nil_iff.mp same).1 other.written_ne_nil
  | cons piece pieces hypothesis =>
      cases others with
      | nil =>
          rw [written_cons] at same
          exact absurd (List.append_eq_nil_iff.mp same.symm).1
            piece.written_ne_nil
      | cons other others =>
          rw [List.forall_mem_cons] at allowed also
          rw [written_cons, written_cons] at same
          obtain ⟨rfl, rest⟩ :=
            Piece.eq_of_written_append_eq allowed.1 also.1 same
          rw [hypothesis allowed.2 also.2 rest]

/-- Without escapes the pieces are written by doubling marks of the value. -/
theorem double_value
    (noEscape : delimiter.escapes = false)
    (allowed : ∀ piece ∈ pieces, piece.Allowed delimiter) :
    double delimiter.mark (value delimiter pieces) =
      written delimiter pieces := by
  induction pieces with
  | nil => rfl
  | cons piece pieces hypothesis =>
      rw [List.forall_mem_cons] at allowed
      have later := hypothesis allowed.2
      rw [written_cons, value_cons]
      cases piece with
      | plain char =>
          have other : char ≠ delimiter.mark := allowed.1.1
          simp [Piece.written, Piece.value, double, other, later]
      | doubled => simp [Piece.written, Piece.value, double, later]
      | escaped char =>
          have escapes : delimiter.escapes = true := allowed.1
          rw [noEscape] at escapes
          cases escapes

/--
How a closed literal is put together: pieces that the delimiter allows, between
two marks.
-/
structure Spells (delimiter : Delimiter) (pieces : List Piece)
    (token : Token) : Prop where
  /-- All pieces may stand between the marks. -/
  allowed : ∀ piece ∈ pieces, piece.Allowed delimiter
  /-- The token is what the marks and the pieces are written as. -/
  toList_eq : token.toList =
    delimiter.mark :: (written delimiter pieces ++ [delimiter.mark])

namespace Spells

variable {token : Token}

/-- A token is put together in one way. -/
theorem unique
    {others : List Piece}
    (spells : Spells delimiter pieces token)
    (also : Spells delimiter others token) :
    others = pieces := by
  have same := also.toList_eq.symm.trans spells.toList_eq
  apply eq_of_written_eq spells.allowed also.allowed
  simpa using same

theorem unquote_eq
    (spells : Spells delimiter pieces token) :
    token.unquote = String.ofList (value delimiter pieces) := by
  rw [Token.unquote, spells.toList_eq]
  simp [(collapse_written spells.allowed).1]

theorem quote_unquote
    (spells : Spells delimiter pieces token)
    (noEscape : delimiter.escapes = false) :
    Token.quote delimiter token.unquote = token := by
  rw [← String.toList_inj, Token.toList_quote, spells.unquote_eq,
    spells.toList_eq, String.toList_ofList,
    double_value noEscape spells.allowed]

end Spells

/-- Every closed literal of a text is put together from pieces. -/
theorem exists_spells_of_mem_lexemes
    {text : List Char} {token : Token}
    (member : ⟨.literal delimiter true, token.toList⟩ ∈ lexemes text) :
    ∃ pieces, Spells delimiter pieces token := by
  obtain ⟨before, behind, cut⟩ := List.append_of_mem member
  have reads := reads_lexemes text
  rw [cut, reads_append] at reads
  have stands := reads.2.1
  generalize written : token.toList = chars at stands
  cases stands with
  | literal allowed _ => exact ⟨_, allowed, written⟩

end Literal

/-- What is quoted is one token, unless a backslash could take a mark along. -/
theorem Token.tokenize_quote
    {delimiter : Delimiter} {value : String}
    (readable : delimiter.escapes = true → '\\' ∉ value.toList) :
    tokenize (Token.quote delimiter value) =
      ⟨[Token.quote delimiter value], none⟩ := by
  have phrase : IsPhrase [Token.quote delimiter value] := by
    apply isPhrase_singleton
    refine ⟨.quote readable, ?_⟩
    exact ne_of_isQuoted (Token.isQuoted_quote delimiter value) (by decide)
  simpa using phrase.tokenize_join

/--
Reading back decodes exactly what the scanner delimits.  A quoted value is read
back whatever it holds, and it is one token unless it holds a backslash that
escapes.  A closed literal of any text consists of pieces in one way and has
their value.  A closed identifier is the quotation of its value.

It is the text read back that agrees with the pieces, not the marks one by one:
behind a backslash reading back may take an escaped mark and the first half of
a doubled one for a pair.
-/
theorem Token.unquote_decodes :
    (∀ delimiter value,
        (Token.quote delimiter value).unquote = value ∧
          (delimiter = .backtick ∨ '\\' ∉ value.toList →
            tokenize (Token.quote delimiter value) =
              ⟨[Token.quote delimiter value], none⟩)) ∧
      (∀ (sql : String) delimiter (token : Token),
        ⟨.literal delimiter true, token.toList⟩ ∈ lexemes sql.toList →
          ∃ pieces, Literal.Spells delimiter pieces token ∧
            (∀ others, Literal.Spells delimiter others token →
              others = pieces) ∧
            token.unquote =
              String.ofList (Literal.value delimiter pieces)) ∧
      ∀ (sql : String) (token : Token),
        ⟨.literal .backtick true, token.toList⟩ ∈ lexemes sql.toList →
          Token.quote .backtick token.unquote = token := by
  refine ⟨?_, ?_, ?_⟩
  · intro delimiter value
    refine ⟨Token.unquote_quote delimiter value, ?_⟩
    rintro (rfl | noBackslash)
    · apply Token.tokenize_quote
      rintro ⟨⟩
    · exact Token.tokenize_quote fun _ => noBackslash
  · intro sql delimiter token member
    obtain ⟨pieces, spells⟩ := Literal.exists_spells_of_mem_lexemes member
    exact ⟨pieces, spells, fun others also => spells.unique also,
      spells.unquote_eq⟩
  · intro sql token member
    obtain ⟨pieces, spells⟩ := Literal.exists_spells_of_mem_lexemes member
    exact spells.quote_unquote rfl

/--
An escaped mark, a doubled one and an escaped backslash: the marks pair up
otherwise than the pieces do, and the value is the same.
-/
theorem Token.unquote_decodes_escaped_mark :
    let sql := "é'\\'''\\\\'b"
    let token : Token := "'\\'''\\\\'"
    let pieces : List Literal.Piece := [.escaped '\x27', .doubled, .escaped '\\']
    (tokenize sql).tokens = ["é", token, "b"] ∧
      Literal.Spells .apostrophe pieces token ∧
      token.unquote = "\\''\\\\" ∧
      token.unquote =
        String.ofList (Literal.value .apostrophe pieces) ∧
      Token.quote .backtick (Token.unquote "\x60a\x60\x60\x60") =
        "\x60a\x60\x60\x60" := by
  intro sql token pieces
  have member :
      ⟨.literal .apostrophe true, token.toList⟩ ∈ lexemes sql.toList := by
    decide +kernel
  have named :
      ⟨.literal .backtick true, "\x60a\x60\x60\x60".toList⟩ ∈
        lexemes "\x60a\x60\x60\x60;".toList := by
    decide +kernel
  obtain ⟨-, literals, identifiers⟩ := Token.unquote_decodes
  obtain ⟨found, spells, only, decoded⟩ :=
    literals sql .apostrophe token member
  have these : Literal.Spells .apostrophe pieces token := by
    refine ⟨?_, by decide +kernel⟩
    simp [pieces, Literal.Piece.Allowed, Delimiter.escapes]
  obtain rfl : pieces = found := only pieces these
  refine ⟨by decide +kernel, these, by decide +kernel, decoded, ?_⟩
  exact identifiers _ _ named

end SqlCatalog
