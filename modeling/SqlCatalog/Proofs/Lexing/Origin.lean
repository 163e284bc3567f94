import SqlCatalog.Proofs.Bracket.Partner
import SqlCatalog.Proofs.Lexing.Symbols
import SqlCatalog.Proofs.Token.Gaps

/-!
# Tokens and what they were read as

The scanner knows what it takes a token for, and the later stages have nothing
but the text of the token.  No harm comes of it: the text of a token shows
whether it was read as a literal or as a comment, blanks are seen to be blank,
and words and symbols are taken neither for literals nor for comments.

So a parenthesis, a comma or another symbol that the later stages look for is
one of the text.  Every canonical token other than a blank comes from exactly
one token, the one in front of which the same tokens are kept and behind which
the same tokens are kept; and a symbol comes from that very symbol, which was
read as such and stands neither in a literal nor in a comment.
-/

namespace SqlCatalog

/-! ## Classes -/

/-- The text of a lexeme shows the class under which it was read. -/
structure Lexeme.ShowsClass (lexeme : Lexeme) : Prop where
  /-- Exactly the literals, closed or not, are quoted. -/
  literal : lexeme.token.isQuoted = true ↔ lexeme.kind.isLiteral = true
  /-- Exactly the comments of both kinds look like comments. -/
  comment : lexeme.token.isComment = true ↔ lexeme.kind.isComment = true
  /-- No token is taken for both. -/
  apart : ¬(lexeme.token.isQuoted = true ∧ lexeme.token.isComment = true)
  /-- Blanks are blank. -/
  blank : lexeme.kind = .blank → lexeme.token.isBlank = true
  /-- Words and symbols are neither quoted nor comments. -/
  bare : lexeme.kind = .word ∨ lexeme.kind = .symbol →
    lexeme.token.isQuoted = false ∧ lexeme.token.isComment = false

theorem Lexeme.StandsBefore.showsClass
    {lexeme : Lexeme} {rest : List Char}
    (stands : lexeme.StandsBefore rest) :
    lexeme.ShowsClass := by
  have quoted := stands.isQuoted_token
  have comment := stands.isComment_token
  refine ⟨by rw [quoted], by rw [comment], ?_, stands.isBlank_token, ?_⟩
  · rw [quoted, comment]
    rintro ⟨literal, other⟩
    cases kind : lexeme.kind <;>
      simp [kind, Kind.isLiteral, Kind.isComment] at literal other
  · rw [quoted, comment]
    rintro (word | symbol)
    · rw [word]
      exact ⟨rfl, rfl⟩
    · rw [symbol]
      exact ⟨rfl, rfl⟩

/-- A lexeme of a text is what the scanner takes at its place. -/
theorem scan_of_lexemes_eq
    {text : List Char} {front back : List Lexeme} {lexeme : Lexeme}
    (parts : lexemes text = front ++ lexeme :: back) :
    lexeme.StandsBefore (spelling back) ∧
      ∃ first rest, text = spelling front ++ first :: rest ∧
        scan first rest = ⟨lexeme, spelling back⟩ := by
  obtain ⟨whole, reads, alone⟩ := reads_of_lexemes_eq parts
  have stands : lexeme.StandsBefore (spelling back) := by
    have all := reads_lexemes text
    rw [parts, reads_append] at all
    simpa using all.2.1
  obtain ⟨first, rest, filled, scanned⟩ := scan_of_standsBefore stands
  refine ⟨stands, first, rest ++ spelling back, ?_, ?_⟩
  · rw [whole, spelling_cons, filled, List.cons_append]
  · exact scanned

/-! ## Origins -/

/-- Items of a class with equally many of the class before them are the same. -/
theorem front_eq_of_length_filter_eq
    {α : Type} (inClass : α → Bool)
    {front back otherFront otherBack : List α} {item other : α}
    (same : front ++ item :: back = otherFront ++ other :: otherBack)
    (member : inClass item = true)
    (otherMember : inClass other = true)
    (count : (front.filter inClass).length =
      (otherFront.filter inClass).length) :
    front = otherFront := by
  rcases List.append_eq_append_iff.mp same with
    ⟨more, rfl, later⟩ | ⟨more, rfl, later⟩
  · cases more with
    | nil => simp
    | cons first more =>
        obtain rfl := (List.cons.inj later).1
        simp [member] at count
  · cases more with
    | nil => simp
    | cons first more =>
        obtain rfl := (List.cons.inj later).1
        simp [otherMember] at count

namespace Token

/-- What is no blank divides a sequence where it divides the shortened one. -/
theorem exists_parts_of_squeeze
    {tokens front back : List Token} {token : Token}
    (other : token ≠ blank)
    (parts : squeeze tokens = front ++ token :: back) :
    ∃ before behind, tokens = before ++ token :: behind ∧
      squeeze before = front ∧ squeeze behind = back := by
  have solid : decide (token ≠ blank) = true := decide_eq_true other
  have kept := filter_squeeze tokens
  rw [parts, List.filter_append, List.filter_cons, if_pos solid] at kept
  obtain ⟨early, late, rfl, earlier, later⟩ :=
    List.filter_eq_append_iff.mp kept.symm
  obtain ⟨gap, behind, rfl, blanks, -, -⟩ := List.filter_eq_cons_iff.mp later
  rw [← List.append_assoc] at parts ⊢
  rw [squeeze_append_cons_of_ne other] at parts
  have same : squeeze (early ++ gap) = front := by
    apply front_eq_of_length_filter_eq (· ≠ blank) parts solid solid
    rw [filter_squeeze, List.filter_append, earlier,
      List.filter_eq_nil_iff.mpr blanks, List.append_nil]
  rw [same] at parts
  exact ⟨early ++ gap, behind, rfl, same,
    (List.cons.inj (List.append_cancel_left parts)).2⟩

/--
The token at an index is the origin of a canonical token: it has that token for
its canonical form, and so have the tokens before and behind it what stands
before and behind that token.
-/
structure IsOrigin (raw : List Token) (index : Nat)
    (front : List Token) (token : Token) (back : List Token) : Prop where
  /-- The canonical form of the token at the index. -/
  spelled : raw[index]?.map canonical = some token
  /-- The canonical form of the tokens before it. -/
  before : normalize 0 (raw.take index) = front
  /-- The canonical form of the tokens behind it. -/
  behind : normalize 0 (raw.drop (index + 1)) = back

theorem isOrigin_iff
    {raw front back : List Token} {token : Token} {index : Nat} :
    IsOrigin raw index front token back ↔
      ∃ before behind, raw.map canonical = before ++ token :: behind ∧
        before.length = index ∧ squeeze before = front ∧
          squeeze behind = back := by
  constructor
  · rintro ⟨spelled, rfl, rfl⟩
    obtain ⟨origin, there, rfl⟩ := Option.map_eq_some_iff.mp spelled
    obtain ⟨before, behind, rfl, rfl⟩ :=
      Bracket.exists_parts_of_getElem? there
    refine ⟨before.map canonical, behind.map canonical, ?_, ?_, ?_, ?_⟩ <;>
      simp
  · rintro ⟨before, behind, parts, rfl, rfl, rfl⟩
    obtain ⟨first, others, rfl, rfl, rest⟩ := List.map_eq_append_iff.mp parts
    obtain ⟨origin, later, rfl, rfl, rfl⟩ := List.map_eq_cons_iff.mp rest
    refine ⟨?_, ?_, ?_⟩ <;> simp

/-- A canonical token that is no blank has one origin. -/
theorem exists_origin
    {raw front back : List Token} {token : Token}
    (other : token ≠ blank)
    (parts : normalize 0 raw = front ++ token :: back) :
    ∃ origin, ∀ index,
      IsOrigin raw index front token back ↔ index = origin := by
  have solid : decide (token ≠ blank) = true := decide_eq_true other
  rw [normalize_zero] at parts
  obtain ⟨before, behind, division, first, second⟩ :=
    exists_parts_of_squeeze other parts
  refine ⟨before.length, fun index => isOrigin_iff.trans ?_⟩
  constructor
  · rintro ⟨otherBefore, otherBehind, otherDivision, rfl, rfl, rfl⟩
    have same : otherBefore = before := by
      apply front_eq_of_length_filter_eq (· ≠ blank)
        (otherDivision.symm.trans division) solid solid
      rw [← filter_squeeze, ← first, filter_squeeze]
    rw [same]
  · rintro rfl
    exact ⟨before, behind, division, rfl, first, second⟩

end Token

/-! ## Symbols -/

/-- The symbols that the later stages look for. -/
def structuralSymbols : List Char :=
  ['(', ')', ',', ';', '.', '=']

theorem isSymbolChar_of_mem_structuralSymbols
    {char : Char}
    (listed : char ∈ structuralSymbols) :
    isSymbolChar char = true := by
  have all : structuralSymbols.all isSymbolChar = true := by decide
  exact List.all_eq_true.mp all char listed

/-- No symbol is a blank. -/
theorem singleton_ne_blank
    {char : Char}
    (symbol : isSymbolChar char = true) :
    String.singleton char ≠ Token.blank := by
  intro alone
  have text : [char] = [' '] := by
    simpa [Token.blank] using congrArg String.toList alone
  obtain rfl := (List.cons.inj text).1
  exact absurd symbol (by decide)

/-- A lexeme that consists of a character of symbols is a symbol. -/
theorem Lexeme.StandsBefore.eq_symbol
    {lexeme : Lexeme} {rest : List Char} {char : Char}
    (stands : lexeme.StandsBefore rest)
    (symbol : isSymbolChar char = true)
    (alone : lexeme.token = String.singleton char) :
    lexeme = ⟨.symbol, [char]⟩ := by
  have text : lexeme.text = [char] := by
    simpa [token] using congrArg String.toList alone
  have bare := of_isSymbolChar symbol
  cases stands with
  | literal => simp at text
  | @openLiteral delimiter =>
      obtain rfl := (List.cons.inj text).1
      simp at bare
  | lineComment opening =>
      obtain ⟨rfl, rfl⟩ := List.cons.inj text
      rcases opening with hash | ⟨-, second⟩
      · exact absurd hash bare.2
      · cases second
  | blockComment => simp at text
  | openComment => simp at text
  | blank run =>
      obtain ⟨rfl, rfl⟩ := List.cons.inj text
      have separator := run _ List.mem_cons_self
      simp [isSymbolChar, separator] at symbol
  | word run =>
      obtain ⟨rfl, rfl⟩ := List.cons.inj text
      have word := run _ List.mem_cons_self
      simp [isSymbolChar, word] at symbol
  | decimal _ run => simp at text
  | symbol => exact congrArg (Lexeme.mk .symbol) text
  | longSymbol => simp at text

/--
Tokens are classified by their text as they were read, and a symbol that the
later stages look for comes from that very symbol, which was read as one and is
no part of a literal or a comment.
-/
theorem classified_as_read (sql : String) :
    (tokenize sql).tokens = (lexemes sql.toList).map Lexeme.token ∧
      (∀ front lexeme back, lexemes sql.toList = front ++ lexeme :: back →
        lexeme.ShowsClass ∧
          ∃ first rest, sql.toList = spelling front ++ first :: rest ∧
            scan first rest = ⟨lexeme, spelling back⟩) ∧
      ∀ char ∈ structuralSymbols, ∀ front back,
        Token.normalize 0 (tokenize sql).tokens =
            front ++ String.singleton char :: back →
          ∃ origin,
            (∀ index,
              Token.IsOrigin (tokenize sql).tokens index front
                  (String.singleton char) back ↔
                index = origin) ∧
            (lexemes sql.toList)[origin]? = some ⟨.symbol, [char]⟩ := by
  refine ⟨rfl, ?_, ?_⟩
  · intro front lexeme back parts
    obtain ⟨stands, taken⟩ := scan_of_lexemes_eq parts
    exact ⟨stands.showsClass, taken⟩
  · intro char listed front back parts
    have symbol := isSymbolChar_of_mem_structuralSymbols listed
    obtain ⟨origin, exactly⟩ :=
      Token.exists_origin (singleton_ne_blank symbol) parts
    refine ⟨origin, exactly, ?_⟩
    have spelled := ((exactly origin).mpr rfl).spelled
    rw [tokenize_tokens, List.getElem?_map, Option.map_map,
      Option.map_eq_some_iff] at spelled
    obtain ⟨lexeme, there, canonical⟩ := spelled
    obtain ⟨before, behind, division⟩ :=
      List.append_of_mem (List.mem_of_getElem? there)
    have stands := (scan_of_lexemes_eq division).1
    rw [there, stands.eq_symbol symbol (stands.token_of_canonical symbol canonical)]

/-- A semicolon in a literal, and parentheses in front of one in a comment. -/
theorem classified_as_read_hidden :
    let sql := "é(';')/*(*/"
    let literal : Lexeme := ⟨.literal .apostrophe true, ['\x27', ';', '\x27']⟩
    literal ∈ lexemes sql.toList ∧ literal.ShowsClass ∧
      Token.IsOrigin (tokenize sql).tokens 3 ["É", "(", "';'"]
        (String.singleton ')') [" "] ∧
      (lexemes sql.toList)[3]? = some ⟨.symbol, [')']⟩ := by
  intro sql literal
  obtain ⟨-, classes, symbols⟩ := classified_as_read sql
  have division :
      lexemes sql.toList =
        [⟨.word, ['é']⟩, ⟨.symbol, ['(']⟩] ++ literal ::
          [⟨.symbol, [')']⟩,
            ⟨.blockComment true, ['/', '*', '(', '*', '/']⟩] := by
    decide +kernel
  have parts :
      Token.normalize 0 (tokenize sql).tokens =
        ["É", "(", "';'"] ++ String.singleton ')' :: [" "] := by
    decide +kernel
  obtain ⟨origin, exactly, there⟩ := symbols ')' (by decide) _ _ parts
  have third :
      Token.IsOrigin (tokenize sql).tokens 3 ["É", "(", "';'"]
        (String.singleton ')') [" "] :=
    ⟨by decide +kernel, by decide +kernel, by decide +kernel⟩
  obtain rfl := (exactly 3).mp third
  refine ⟨?_, (classes _ literal _ division).1, third, there⟩
  rw [division]
  simp

end SqlCatalog
