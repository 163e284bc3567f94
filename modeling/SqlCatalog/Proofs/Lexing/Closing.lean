import SqlCatalog.Proofs.Lexing.Seam

/-!
# Where literals and comments end

A literal is closed by the grammar if what stands behind its opening mark is a
sequence of pieces, the mark, and something that does not start with the mark.
There is at most one way to read a text so, and the scanner finds it; if there
is none, the literal takes all that is left and a complaint is made.  The same
holds for block comments, which end behind their first star and slash.

Since what is left open takes all of the text, a complaint always concerns the
last token, and every last token that is open by the grammar is complained of.
-/

namespace SqlCatalog

/-! ## Literals -/

/--
The text behind an opening mark is closed: pieces of the grammar make up the
body, the mark follows, and it is not doubled by the rest.
-/
structure Literal.Closes (delimiter : Delimiter) (text body rest : List Char) :
    Prop where
  /-- The body is a sequence of pieces that may stand between the marks. -/
  body_written : ∃ pieces, (∀ piece ∈ pieces, piece.Allowed delimiter) ∧
    Literal.written delimiter pieces = body
  /-- Body, mark and rest make up the text. -/
  text_eq : text = body ++ delimiter.mark :: rest
  /-- The mark is not doubled. -/
  stop : rest.head? ≠ some delimiter.mark

variable {delimiter : Delimiter} {text body rest : List Char}

/-- The reader stops behind the mark that closes the text. -/
theorem Literal.Closes.cutLiteral_eq
    (closes : Literal.Closes delimiter text body rest) :
    cutLiteral delimiter text = ⟨body ++ [delimiter.mark], rest, true⟩ := by
  obtain ⟨pieces, allowed, rfl⟩ := closes.body_written
  rw [closes.text_eq]
  exact cutLiteral_written allowed closes.stop

/-- A text is closed in one way at most. -/
theorem Literal.Closes.unique
    {otherBody otherRest : List Char}
    (closes : Literal.Closes delimiter text body rest)
    (other : Literal.Closes delimiter text otherBody otherRest) :
    otherBody = body ∧ otherRest = rest := by
  have same := other.cutLiteral_eq.symm.trans closes.cutLiteral_eq
  simp only [Cut.mk.injEq, and_true] at same
  exact ⟨List.append_cancel_right same.1, same.2⟩

/-- A text that is not closed is taken whole. -/
theorem cutLiteral_of_not_closes
    (unclosed : ∀ body rest, ¬Literal.Closes delimiter text body rest) :
    cutLiteral delimiter text = ⟨text, [], false⟩ := by
  have ends := literalCut_cutLiteral delimiter text
  have whole := cutLiteral_append delimiter text
  generalize cutLiteral delimiter text = cut at ends whole
  cases ends with
  | @closed pieces rest allowed stop =>
      refine absurd ⟨⟨pieces, allowed, rfl⟩, ?_, stop⟩
        (unclosed (Literal.written delimiter pieces) rest)
      simpa using whole.symm
  | unclosed => rfl

/-- A text that is not closed by the reader is not closed by the grammar. -/
theorem not_closes_of_unclosed
    (unclosed : (cutLiteral delimiter text).closed = false)
    (body rest : List Char) :
    ¬Literal.Closes delimiter text body rest := by
  intro closes
  rw [closes.cutLiteral_eq] at unclosed
  cases unclosed

/-- A text without star and slash is taken whole. -/
theorem cutComment_of_not_infix
    (unclosed : ¬['*', '/'] <:+: text) :
    cutComment text = ⟨text, [], false⟩ := by
  have ends := commentCut_cutComment text
  generalize cutComment text = cut at ends
  cases ends with
  | @closed content rest _ => exact absurd ⟨content, rest, by simp⟩ unclosed
  | unclosed => rfl

/-! ## The next token -/

namespace Cursor

/-- The cursors that stand between two tokens of a text. -/
inductive Passed (sql : String) : Cursor → Prop
  | start : Passed sql (.start sql)
  | next {cursor later : Cursor} {token : Token}
      (passed : Passed sql cursor)
      (step : cursor.next? = some (token, later)) :
      Passed sql later

/-- A cursor knows its offset and has no complaint while there is text left. -/
structure StandsIn (sql : String) (cursor : Cursor) : Prop where
  /-- The position is the length of what was read. -/
  offset : ∃ front, sql.toList = front ++ cursor.rest ∧
    cursor.position = byteLength front
  /-- Only the last token is ever complained of. -/
  clean : cursor.rest ≠ [] → cursor.fault = none

/-- The token of a text that was taken, and the cursor behind it. -/
def taking (cursor : Cursor) (taken rest : List Char)
    (fault : Option Unterminated) : Token × Cursor :=
  (String.ofList taken,
    { rest, position := cursor.position + byteLength taken, fault })

/-- What the next token is where a literal opens. -/
structure ReadsLiteral (cursor : Cursor) (delimiter : Delimiter)
    (text : List Char) : Prop where
  /-- The literal closes in one way at most. -/
  unique : ∀ body rest otherBody otherRest,
    Literal.Closes delimiter text body rest →
    Literal.Closes delimiter text otherBody otherRest →
      otherBody = body ∧ otherRest = rest
  /-- A literal that closes is the token, and nothing is complained of. -/
  closed : ∀ body rest, Literal.Closes delimiter text body rest →
    cursor.next? =
      some (cursor.taking (delimiter.mark :: (body ++ [delimiter.mark])) rest
        cursor.fault)
  /-- A literal that does not close is all that is left. -/
  unclosed : (∀ body rest, ¬Literal.Closes delimiter text body rest) →
    cursor.next? =
      some (cursor.taking cursor.rest [] (some (.literal cursor.position)))

/-- What the next token is where a block comment opens. -/
structure ReadsComment (cursor : Cursor) (text : List Char) : Prop where
  /-- A comment ends behind its first star and slash. -/
  closed : ∀ content rest, text = content ++ '*' :: '/' :: rest →
    ¬['*', '/'] <:+: content →
    cursor.next? =
      some (cursor.taking ('/' :: '*' :: (content ++ ['*', '/'])) rest
        cursor.fault)
  /-- A comment without star and slash is all that is left. -/
  unclosed : ¬['*', '/'] <:+: text →
    cursor.next? =
      some (cursor.taking cursor.rest [] (some (.comment cursor.position)))

theorem next?_eq_taking
    {cursor : Cursor} {first : Char} {text : List Char}
    (left : cursor.rest = first :: text) :
    cursor.next? =
      some (cursor.taking (scan first text).lexeme.text (scan first text).rest
        ((scan first text).lexeme.fault? cursor.position <|> cursor.fault)) := by
  rw [next?, left]
  rfl

theorem readsLiteral
    {cursor : Cursor}
    (opening : cursor.rest = delimiter.mark :: text) :
    cursor.ReadsLiteral delimiter text where
  unique _ _ _ _ closes other := closes.unique other
  closed body rest closes := by
    rw [next?_eq_taking opening, scan_mark, closes.cutLiteral_eq]
    rfl
  unclosed unclosed := by
    rw [next?_eq_taking opening, scan_mark, cutLiteral_of_not_closes unclosed,
      opening]
    rfl

theorem readsComment
    {cursor : Cursor}
    (opening : cursor.rest = '/' :: '*' :: text) :
    cursor.ReadsComment text where
  closed content rest parts inside := by
    rw [next?_eq_taking opening, scan_blockComment, parts,
      cutComment_append_close inside]
    rfl
  unclosed unclosed := by
    rw [next?_eq_taking opening, scan_blockComment,
      cutComment_of_not_infix unclosed, opening]
    rfl

/-- Every token leaves the cursor at its offset, and clean if text is left. -/
theorem StandsIn.next
    {sql : String} {cursor later : Cursor} {token : Token}
    (stands : StandsIn sql cursor)
    (step : cursor.next? = some (token, later)) :
    StandsIn sql later := by
  obtain ⟨front, text, position⟩ := stands.offset
  cases left : cursor.rest with
  | nil => simp [next?, left] at step
  | cons first rest =>
      rw [next?_eq_taking left, taking, Option.some.injEq, Prod.mk.injEq] at step
      obtain ⟨-, rfl⟩ := step
      constructor
      · refine ⟨front ++ (scan first rest).lexeme.text, ?_, ?_⟩
        · rw [List.append_assoc, scan_append, text, left]
        · rw [byteLength_append, position]
      · intro more
        have closed : (scan first rest).lexeme.isOpen = false := by
          cases unclosed : (scan first rest).lexeme.isOpen with
          | false => rfl
          | true =>
              have nothing :=
                (standsBefore_scan first rest).eq_nil_of_isOpen unclosed
              exact absurd nothing more
        have clean := stands.clean (by simp [left])
        simp [Lexeme.fault?_eq_none_of_closed closed, clean]

theorem Passed.standsIn
    {sql : String} {cursor : Cursor}
    (passed : Passed sql cursor) :
    StandsIn sql cursor := by
  induction passed with
  | start => exact ⟨⟨[], rfl, rfl⟩, fun _ => rfl⟩
  | next _ step hypothesis => exact hypothesis.next step

end Cursor

/-! ## The complaint -/

/-- A complaint that a token deserves which starts at a position. -/
inductive Unterminated.Describes (position : Nat) (token : Token) :
    Unterminated → Prop
  /-- The token is a literal that does not close. -/
  | literal {delimiter : Delimiter} {text : List Char}
      (opening : token.toList = delimiter.mark :: text)
      (unclosed : ∀ body rest, ¬Literal.Closes delimiter text body rest) :
      Describes position token (.literal position)
  /-- The token is a block comment without star and slash. -/
  | comment {text : List Char}
      (opening : token.toList = '/' :: '*' :: text)
      (unclosed : ¬['*', '/'] <:+: text) :
      Describes position token (.comment position)

/-- The last lexeme of a text is complained of if it deserves it. -/
theorem Lexeme.StandsBefore.fault?_eq_some_iff
    {lexeme : Lexeme}
    (last : lexeme.StandsBefore [])
    (position : Nat) (fault : Unterminated) :
    lexeme.fault? position = some fault ↔
      fault.Describes position lexeme.token := by
  have spelled : lexeme.token.toList = lexeme.text := String.toList_ofList
  constructor
  · intro found
    cases last with
    | openLiteral unclosed =>
        cases found
        exact .literal spelled (not_closes_of_unclosed unclosed)
    | openComment unclosed =>
        cases found
        exact .comment spelled unclosed
    | _ => cases found
  · intro describes
    obtain ⟨first, behind, text, scanned⟩ := scan_of_standsBefore last
    rw [List.append_nil] at scanned
    cases describes with
    | literal opening unclosed =>
        rw [spelled, text] at opening
        injection opening with mark same
        subst mark same
        rw [scan_mark, cutLiteral_of_not_closes unclosed] at scanned
        injection scanned with read _
        rw [← read]
        rfl
    | comment opening unclosed =>
        rw [spelled, text] at opening
        injection opening with slash same
        subst slash same
        rw [scan_blockComment, cutComment_of_not_infix unclosed] at scanned
        injection scanned with read _
        rw [← read]
        rfl

/-- The complaint about a text is the one about its last lexeme. -/
theorem lastFault?_concat
    {before : List Lexeme} {last : Lexeme}
    (reads : Reads (before ++ [last]) []) :
    Lexeme.lastFault? 0 (before ++ [last]) =
      last.fault? (byteLength (spelling before)) := by
  rw [reads_append] at reads
  have filled : spelling [last] ++ [] ≠ [] := by
    simpa using reads.2.1.text_ne_nil
  rw [lastFault?_append_closed (reads.1.isOpen_eq_false filled)]
  simp [Lexeme.lastFault?]

/-- A text is complained of exactly if its last token deserves it. -/
theorem tokenize_fault_eq_some_iff (sql : String) (fault : Unterminated) :
    (tokenize sql).fault = some fault ↔
      ∃ front token, (tokenize sql).tokens = front ++ [token] ∧
        fault.Describes (byteLength (String.join front).toList) token := by
  have reads := reads_lexemes sql.toList
  rw [tokenize_fault, tokenize_tokens]
  rcases List.eq_nil_or_concat (lexemes sql.toList) with
    empty | ⟨before, last, whole⟩
  · simp [empty, Lexeme.lastFault?]
  · rw [List.concat_eq_append] at whole
    rw [whole] at reads
    have final : last.StandsBefore [] :=
      reads.standsBefore_of_getLast? (by simp)
    rw [whole, lastFault?_concat reads, final.fault?_eq_some_iff,
      ← toList_join_tokens, List.map_append, List.map_singleton]
    constructor
    · intro describes
      exact ⟨before.map Lexeme.token, last.token, rfl, describes⟩
    · rintro ⟨front, token, same, describes⟩
      obtain ⟨rfl, rfl⟩ := List.concat_inj.mp (by simpa using same)
      exact describes

/--
Literals and block comments are read as the grammar has them.  A cursor that
stands in front of one takes the one text that the grammar closes, and if
there is none, it takes all that is left and complains of it at its offset.
So a text is complained of exactly if its last token does not close.
-/
theorem next?_follows_grammar
    {sql : String} {cursor : Cursor}
    (passed : cursor.Passed sql) :
    cursor.StandsIn sql ∧
      (∀ delimiter text, cursor.rest = delimiter.mark :: text →
        cursor.ReadsLiteral delimiter text) ∧
      (∀ text, cursor.rest = '/' :: '*' :: text → cursor.ReadsComment text) ∧
      ∀ fault, (tokenize sql).fault = some fault ↔
        ∃ front token, (tokenize sql).tokens = front ++ [token] ∧
          fault.Describes (byteLength (String.join front).toList) token := by
  refine ⟨passed.standsIn, ?_, ?_, tokenize_fault_eq_some_iff sql⟩
  · intro delimiter text opening
    exact Cursor.readsLiteral opening
  · intro text opening
    exact Cursor.readsComment opening

/--
A doubled and an escaped mark do not close a literal, and the star that opens
a comment does not close it.
-/
theorem next?_at_inner_marks :
    Cursor.Passed "x 'a''\\'b'/*/" ⟨"'a''\\'b'/*/".toList, 2, none⟩ ∧
      Cursor.next? ⟨"'a''\\'b'/*/".toList, 2, none⟩ =
        some ("'a''\\'b'", ⟨"/*/".toList, 10, none⟩) ∧
      (tokenize "x 'a''\\'b'/*/").fault = some (.comment 10) := by
  have passed :
      Cursor.Passed "x 'a''\\'b'/*/" ⟨"'a''\\'b'/*/".toList, 2, none⟩ := by
    have first : Cursor.next? (.start "x 'a''\\'b'/*/") =
        some ("x", ⟨" 'a''\\'b'/*/".toList, 1, none⟩) := by
      decide +kernel
    have second : Cursor.next? ⟨" 'a''\\'b'/*/".toList, 1, none⟩ =
        some (" ", ⟨"'a''\\'b'/*/".toList, 2, none⟩) := by
      decide +kernel
    exact .next (.next .start first) second
  have closes :
      Literal.Closes .apostrophe "a''\\'b'/*/".toList "a''\\'b".toList
        "/*/".toList := by
    refine ⟨⟨[.plain 'a', .doubled, .escaped '\x27', .plain 'b'], ?_, ?_⟩,
      ?_, ?_⟩
    · simp [Literal.Piece.Allowed, Delimiter.mark, Delimiter.escapes]
    · decide +kernel
    · decide +kernel
    · decide +kernel
  obtain ⟨-, literals, -, complaint⟩ := next?_follows_grammar passed
  refine ⟨passed, ?_, ?_⟩
  · exact (literals .apostrophe _ rfl).closed _ _ closes
  · refine (complaint _).mpr ⟨["x", " ", "'a''\\'b'"], "/*/", by decide +kernel, ?_⟩
    exact .comment rfl (by decide +kernel)

end SqlCatalog
