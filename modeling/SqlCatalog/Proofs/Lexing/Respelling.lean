import SqlCatalog.Proofs.Lexing.Division
import SqlCatalog.Proofs.Lexing.Uppercase
import SqlCatalog.Proofs.Token.Spacing

/-!
# Texts spelled in canonical form

The canonical tokens of a text, joined, are read as those tokens.  Upper case
keeps the class of a word, so a capital ends and prolongs the same lexemes as
the letter that it stands for; and where a blank takes the place of something
else, it ends every lexeme.

Canonical tokens can stand side by side only if the tokens that they come from
did: those between two of them leave a blank.  So it is enough to compare what
follows a lexeme in the text with what follows it in the new spelling.
-/

namespace SqlCatalog

/-! ## What follows a lexeme -/

/--
What follows a lexeme in a text, and what follows it in the new spelling: a
blank in place of something, or a character in upper case.  Behind a point
comes no digit that was not there.
-/
inductive Resumes : List Char → List Char → Prop
  | ended : Resumes [] []
  | gap {old new : List Char} (more : old ≠ []) : Resumes old (' ' :: new)
  | char {first image : Char} {old new : List Char}
      (upper : image = first ∨ IsLetter first ∧ IsCapital image)
      (point : first = '.' →
        ∀ next ∈ new.head?, next.isDigit = true → next ∈ old.head?) :
      Resumes (first :: old) (image :: new)

/-- A digit that follows in the new spelling follows in the text. -/
theorem Resumes.digit
    {old new : List Char} {next : Char}
    (resumes : Resumes old new)
    (first : next ∈ new.head?)
    (digit : next.isDigit = true) :
    next ∈ old.head? := by
  cases resumes with
  | ended => exact first
  | gap =>
      obtain rfl : ' ' = next := by simpa using first
      cases digit
  | @char char image _ _ upper =>
      obtain rfl : image = next := by simpa using first
      rcases upper with rfl | ⟨-, capital⟩
      · rfl
      · rw [capital.noDigit] at digit
        cases digit

/-- Behind a character that is no point, anything may follow. -/
theorem Resumes.same
    {first : Char} (noPoint : first ≠ '.') (old new : List Char) :
    Resumes (first :: old) (first :: new) :=
  .char (Or.inl rfl) fun point => absurd point noPoint

/-- A word in upper case starts with the same character or with a capital. -/
theorem Resumes.upper_word
    {first : Char}
    (inWord : isWordChar first = true)
    (body old new : List Char) :
    Resumes (first :: old) (Unicode.upper (first :: body) ++ new) := by
  have noPoint : first ≠ '.' := by
    rintro rfl
    cases inWord
  rcases Unicode.upper_cons_cases first body with
    same | ⟨letter, capital, later, upper, image⟩
  · rw [same]
    exact .same noPoint _ _
  · rw [upper]
    exact .char (Or.inr ⟨letter, image⟩) fun point => absurd point noPoint

namespace Lexeme.StandsBefore

/-- A lexeme that a letter ends, a capital ends as well. -/
theorem swap_letter
    {lexeme : Lexeme} {letter capital : Char} {old new : List Char}
    (stands : lexeme.StandsBefore (letter :: old))
    (before : IsLetter letter)
    (behind : IsCapital capital) :
    lexeme.StandsBefore (capital :: new) := by
  have ended {inRun : Char → Bool} (outside : inRun capital = false) :
      ∀ char ∈ (capital :: new).head?, inRun char = false := by
    simpa using outside
  cases stands with
  | @literal delimiter _ _ allowed stop =>
      refine .literal allowed ?_
      intro mark
      obtain rfl : capital = delimiter.mark := by simpa using mark
      exact absurd behind.word (by simp [isWordChar_mark])
  | lineComment _ _ stop =>
      obtain rfl : letter = '\n' := by simpa using stop
      exact absurd before.word (by decide)
  | blockComment inside => exact .blockComment inside
  | blank run _ => exact .blank run (ended (ne_of_isWordChar behind.word).2)
  | word _ stop _ =>
      have noWord : isWordChar letter = false := by simpa using stop
      exact absurd before.word (by simp [noWord])
  | decimal start run fraction numeric _ =>
      exact .decimal start run fraction numeric (ended behind.noDigit)
  | @symbol first _ start _ =>
      refine .symbol start (ended ?_)
      have seconds :
          ∀ pair ∈ ('-', '-') :: ('/', '*') :: longSymbols,
            isWordChar pair.2 = false := by
        decide
      rw [Bool.eq_false_iff]
      intro joined
      have listed : (first, capital) ∈ ('-', '-') :: ('/', '*') :: longSymbols := by
        simp only [joins, Bool.or_eq_true, Bool.and_eq_true, beq_iff_eq,
          List.contains_iff_mem] at joined
        simpa [or_assoc] using joined
      have second := seconds _ listed
      exact absurd behind.word (by simp [second])
  | longSymbol listed => exact .longSymbol listed

/-- What follows in the new spelling ends a lexeme as what followed before. -/
theorem resumed
    {lexeme : Lexeme} {old new : List Char}
    (stands : lexeme.StandsBefore old)
    (resumes : Resumes old new)
    (noLine : lexeme.kind ≠ .lineComment)
    (noBlank : lexeme.kind ≠ .blank) :
    lexeme.StandsBefore new := by
  cases resumes with
  | ended => exact stands
  | gap more =>
      have closed : lexeme.isOpen = false := by
        rw [Bool.eq_false_iff]
        exact fun unclosed => more (stands.eq_nil_of_isOpen unclosed)
      exact stands.before_neutral closed (by decide)
        (fun line => absurd line noLine) (fun blank => absurd blank noBlank) _
  | char upper point =>
      rcases upper with rfl | ⟨letter, capital⟩
      · exact stands.swap_behind point
      · exact stands.swap_letter letter capital

end Lexeme.StandsBefore

/-! ## Lexemes in canonical form -/

/-- The lexeme that the canonical form of a lexeme is read as. -/
def Lexeme.respelled (lexeme : Lexeme) : Lexeme :=
  if lexeme.token.canonical = Token.blank then ⟨.blank, [' ']⟩
  else ⟨lexeme.kind, lexeme.token.canonical.toList⟩

@[simp]
theorem Lexeme.token_respelled (lexeme : Lexeme) :
    lexeme.respelled.token = lexeme.token.canonical := by
  unfold respelled
  split
  case isTrue blank =>
    rw [blank]
    rfl
  case isFalse => simp [token]

/-- Upper case leaves digits alone. -/
theorem upperChar_of_isDigit
    {char : Char}
    (digit : char.isDigit = true) :
    Unicode.upperChar char = [char] := by
  rcases upperChar_cases char with fixed | letter
  · exact fixed
  · rw [letter.noDigit] at digit
    cases digit

/-- In upper case characters of words become characters of words. -/
theorem isWordChar_of_mem_upper
    {text : List Char}
    (run : ∀ char ∈ text, isWordChar char = true) :
    ∀ image ∈ Unicode.upper text, isWordChar image = true := by
  intro image member
  obtain ⟨char, listed, inside⟩ := List.mem_flatMap.mp member
  exact (isWordChar_upperChar (run char listed)).2 image inside

namespace Lexeme.StandsBefore

variable {lexeme : Lexeme} {rest : List Char}

/-- A literal is its own canonical form. -/
theorem respelled_of_literal
    (stands : lexeme.StandsBefore rest)
    (solid : lexeme.token.canonical ≠ Token.blank)
    (literal : lexeme.kind.isLiteral = true) :
    lexeme.respelled = lexeme := by
  have kept : lexeme.token.canonical = lexeme.token := by
    rw [Token.canonical, stands.isQuoted_token, if_pos literal]
  rw [Lexeme.respelled, if_neg solid, kept]
  simp [token]

/-- Words and symbols are written in upper case. -/
theorem respelled_of_bare
    (stands : lexeme.StandsBefore rest)
    (solid : lexeme.token.canonical ≠ Token.blank)
    (bare : lexeme.kind.isLiteral = false) :
    lexeme.respelled = ⟨lexeme.kind, Unicode.upper lexeme.text⟩ := by
  rw [← stands.isQuoted_token] at bare
  rw [Lexeme.respelled, if_neg solid, Token.canonical_eq_upper bare solid]
  simp [token]

/--
A lexeme with a canonical form of its own stands where it stood in the new
spelling.  Literals are kept, signs and digits are their own upper case, and
other characters of words become characters of words.
-/
theorem respelled
    (stands : lexeme.StandsBefore rest)
    (solid : lexeme.token.canonical ≠ Token.blank) :
    lexeme.respelled.StandsBefore rest := by
  have kept := stands.respelled_of_literal solid
  have bare := stands.respelled_of_bare solid
  have gap := stands.not_gap solid
  cases stands with
  | literal allowed stop =>
      rw [kept rfl]
      exact .literal allowed stop
  | openLiteral unclosed =>
      rw [kept rfl]
      exact .openLiteral unclosed
  | lineComment => exact absurd (Or.inr rfl) gap
  | blockComment => exact absurd (Or.inr rfl) gap
  | openComment => exact absurd (Or.inr rfl) gap
  | blank => exact absurd (Or.inl rfl) gap
  | @word first body _ run stop whole =>
      rw [bare rfl]
      have image := isWordChar_of_mem_upper run
      rcases Unicode.upper_cons_cases first body with
        same | ⟨-, capital, later, upper, letter⟩
      · rw [same] at image ⊢
        exact .word image stop whole
      · rw [upper] at image ⊢
        refine .word image stop ?_
        intro digit
        rw [letter.noDigit] at digit
        cases digit
  | @decimal first body digits _ start run fraction numeric stop =>
      have number : Unicode.upper digits = digits :=
        Unicode.upper_eq_self fun char member =>
          upperChar_of_isDigit (numeric char member)
      have point : Unicode.upperChar '.' = ['.'] := by decide
      have image :
          Unicode.upper (first :: (body ++ '.' :: digits)) =
            first :: (Unicode.upper body ++ '.' :: digits) := by
        simp [upperChar_of_isDigit start, number, point]
      have word := isWordChar_of_mem_upper run
      rw [Unicode.upper_cons, upperChar_of_isDigit start,
        List.singleton_append] at word
      rw [bare rfl, image]
      exact .decimal start word fraction numeric stop
  | @symbol first _ start alone =>
      have image : Unicode.upper [first] = [first] := by
        simp [upperChar_of_isSymbolChar start]
      rw [bare rfl, image]
      exact .symbol start alone
  | @longSymbol first second _ listed =>
      have each :
          ∀ pair ∈ longSymbols,
            Unicode.upper [pair.1, pair.2] = [pair.1, pair.2] := by
        decide
      rw [bare rfl, each _ listed]
      exact .longSymbol listed

end Lexeme.StandsBefore

/-! ## Sequences in canonical form -/

/-- The canonical tokens of a sequence of lexemes. -/
def canonicalTokens (sequence : List Lexeme) : List Token :=
  Token.squeeze (sequence.map fun lexeme => lexeme.token.canonical)

theorem canonical_of_mem_canonicalTokens
    {sequence : List Lexeme} {token : Token}
    (member : token ∈ canonicalTokens sequence) :
    token.canonical = token := by
  rw [canonicalTokens, Token.mem_squeeze_iff] at member
  obtain ⟨lexeme, -, rfl⟩ := List.mem_map.mp member
  exact lexeme.token.canonical_canonical

/-- A respelled lexeme starts as the lexeme does, or with a capital. -/
theorem Lexeme.StandsBefore.resumes
    {lexeme : Lexeme} {rest old new : List Char}
    (stands : lexeme.StandsBefore rest)
    (solid : lexeme.token.canonical ≠ Token.blank)
    (behind : Resumes old new) :
    Resumes (lexeme.text ++ old) (lexeme.respelled.text ++ new) := by
  have kept := stands.respelled_of_literal solid
  have bare := stands.respelled_of_bare solid
  have gap := stands.not_gap solid
  have marks (delimiter : Delimiter) : delimiter.mark ≠ '.' := by
    cases delimiter <;> decide
  cases stands with
  | literal =>
      rw [kept rfl]
      exact .same (marks _) _ _
  | openLiteral =>
      rw [kept rfl]
      exact .same (marks _) _ _
  | lineComment => exact absurd (Or.inr rfl) gap
  | blockComment => exact absurd (Or.inr rfl) gap
  | openComment => exact absurd (Or.inr rfl) gap
  | blank => exact absurd (Or.inl rfl) gap
  | word run =>
      rw [bare rfl]
      exact .upper_word (run _ List.mem_cons_self) _ _ _
  | decimal _ run =>
      rw [bare rfl]
      exact .upper_word (run _ List.mem_cons_self) _ _ _
  | symbol start =>
      have image := upperChar_of_isSymbolChar start
      rw [bare rfl, Unicode.upper_cons, image]
      -- A point may be followed by a digit, which is followed up in both texts.
      exact .char (Or.inl rfl) fun _ next first digit => behind.digit first digit
  | @longSymbol first second _ listed =>
      have each :
          ∀ pair ∈ longSymbols,
            Unicode.upperChar pair.1 = [pair.1] ∧ pair.1 ≠ '.' := by
        decide
      obtain ⟨image, noPoint⟩ := each _ listed
      rw [bare rfl, Unicode.upper_cons, image]
      exact .same noPoint _ _

/-- A token in canonical form that is not the blank starts with no separator. -/
theorem Lexeme.StandsBefore.isSeparator_eq_false
    {lexeme : Lexeme} {rest : List Char}
    (stands : lexeme.StandsBefore rest)
    (canonical : lexeme.token.canonical = lexeme.token)
    (solid : lexeme.token ≠ Token.blank) :
    ∀ first ∈ lexeme.text.head?, isSeparator first = false := by
  rw [← canonical] at solid
  have gap := stands.not_gap solid
  cases stands with
  | literal => simp [isSeparator_mark]
  | openLiteral => simp [isSeparator_mark]
  | lineComment => exact absurd (Or.inr rfl) gap
  | blockComment => exact absurd (Or.inr rfl) gap
  | openComment => exact absurd (Or.inr rfl) gap
  | blank => exact absurd (Or.inl rfl) gap
  | word run => simp [(ne_of_isWordChar (run _ List.mem_cons_self)).2]
  | decimal _ run => simp [(ne_of_isWordChar (run _ List.mem_cons_self)).2]
  | symbol start =>
      simp only [isSymbolChar, Bool.and_eq_true, Bool.not_eq_true'] at start
      simp [start.1.2]
  | longSymbol listed =>
      have start := (isSymbolChar_of_mem_longSymbols listed).1
      simp only [isSymbolChar, Bool.and_eq_true, Bool.not_eq_true'] at start
      simp [start.1.2]

/-- The text of a sequence starts with the text of its first lexeme. -/
theorem head?_spelling
    {lexeme : Lexeme} {later : List Lexeme} {rest : List Char}
    (stands : lexeme.StandsBefore rest) :
    (spelling (lexeme :: later)).head? = lexeme.text.head? := by
  obtain ⟨first, body, text⟩ := List.exists_cons_of_ne_nil stands.text_ne_nil
  simp [text]

/-- What the canonical tokens of a sequence of lexemes are read as. -/
structure IsRespelling (sequence read : List Lexeme) : Prop where
  /-- The lexemes are the canonical tokens. -/
  tokens : read.map Lexeme.token = canonicalTokens sequence
  /-- The lexemes can stand side by side. -/
  reads : Reads read []
  /-- The new text follows as the old one did. -/
  resumes : Resumes (spelling sequence) (spelling read)
  /-- Nothing is left open that was not open before. -/
  closed : (∀ lexeme ∈ sequence, lexeme.isOpen = false) →
    ∀ lexeme ∈ read, lexeme.isOpen = false

namespace IsRespelling

variable {lexeme : Lexeme} {later read : List Lexeme} {rest : List Char}

/-- A lexeme that leaves a blank adds nothing in front of a blank. -/
theorem blank_absorbed
    (respelling : IsRespelling later read)
    (stands : lexeme.StandsBefore rest)
    (blank : lexeme.token.canonical = Token.blank)
    (first : (canonicalTokens later).head? = some Token.blank) :
    IsRespelling (lexeme :: later) read where
  tokens := by
    rw [respelling.tokens, canonicalTokens, canonicalTokens, List.map_cons,
      blank, Token.squeeze_blank_cons, if_pos]
    rwa [canonicalTokens, Token.head?_squeeze] at first
  reads := respelling.reads
  resumes := by
    have start : (spelling read).head? = some ' ' := by
      rw [← respelling.tokens] at first
      cases read with
      | nil => cases first
      | cons next behind =>
          have token : next.token = Token.blank := by simpa using first
          have text := congrArg String.toList token
          rw [Lexeme.token, String.toList_ofList] at text
          simp [text, Token.blank]
    obtain ⟨new, text⟩ := List.head?_eq_some_iff.mp start
    rw [text]
    exact .gap (by simp [stands.text_ne_nil])
  closed all := respelling.closed (List.forall_mem_cons.mp all).2

/-- A lexeme that leaves a blank puts it in front of anything else. -/
theorem blank_cons
    (respelling : IsRespelling later read)
    (stands : lexeme.StandsBefore rest)
    (blank : lexeme.token.canonical = Token.blank)
    (other : (canonicalTokens later).head? ≠ some Token.blank) :
    IsRespelling (lexeme :: later) (⟨.blank, [' ']⟩ :: read) where
  tokens := by
    rw [List.map_cons, respelling.tokens, canonicalTokens, canonicalTokens,
      List.map_cons, blank, Token.squeeze_blank_cons, if_neg]
    · rfl
    · rwa [canonicalTokens, Token.head?_squeeze] at other
  reads := by
    refine ⟨.blank (List.forall_mem_singleton.mpr rfl) ?_, respelling.reads⟩
    have reads := respelling.reads
    rw [← respelling.tokens] at other
    cases read with
    | nil => simp
    | cons next behind =>
        have member : next.token ∈ canonicalTokens later := by
          rw [← respelling.tokens]
          exact List.mem_cons_self
        have solid : next.token ≠ Token.blank := by simpa using other
        rw [List.append_nil, head?_spelling reads.1]
        exact reads.1.isSeparator_eq_false
          (canonical_of_mem_canonicalTokens member) solid
  resumes := .gap (by simp [stands.text_ne_nil])
  closed all := by
    rw [List.forall_mem_cons]
    exact ⟨rfl, respelling.closed (List.forall_mem_cons.mp all).2⟩

/-- Any other lexeme is respelled. -/
theorem solid_cons
    (respelling : IsRespelling later read)
    (stands : lexeme.StandsBefore (spelling later))
    (solid : lexeme.token.canonical ≠ Token.blank) :
    IsRespelling (lexeme :: later) (lexeme.respelled :: read) := by
  have kind : lexeme.respelled.kind = lexeme.kind := by
    rw [Lexeme.respelled, if_neg solid]
  have gap := stands.not_gap solid
  refine ⟨?_, ⟨?_, respelling.reads⟩, ?_, ?_⟩
  · rw [List.map_cons, Lexeme.token_respelled, respelling.tokens,
      canonicalTokens, canonicalTokens, List.map_cons,
      Token.squeeze_cons_of_ne solid]
  · rw [List.append_nil]
    apply (stands.respelled solid).resumed respelling.resumes
    · rw [kind]
      exact fun line => gap (Or.inr (by rw [line]; rfl))
    · rw [kind]
      exact fun layout => gap (Or.inl layout)
  · exact stands.resumes solid respelling.resumes
  · intro all
    rw [List.forall_mem_cons] at all ⊢
    refine ⟨?_, respelling.closed all.2⟩
    rw [← all.1, Lexeme.isOpen, Lexeme.isOpen, Lexeme.fault?, Lexeme.fault?,
      kind]

end IsRespelling

/-- Lexemes that are read have a respelling, built up from the end. -/
theorem exists_isRespelling
    {sequence : List Lexeme}
    (reads : Reads sequence []) :
    ∃ read, IsRespelling sequence read := by
  induction sequence with
  | nil => exact ⟨[], rfl, reads_nil [], .ended, fun closed => closed⟩
  | cons lexeme later hypothesis =>
      obtain ⟨stands, others⟩ := reads
      obtain ⟨read, respelling⟩ := hypothesis others
      rw [List.append_nil] at stands
      by_cases blank : lexeme.token.canonical = Token.blank
      · by_cases first : (canonicalTokens later).head? = some Token.blank
        · exact ⟨_, respelling.blank_absorbed stands blank first⟩
        · exact ⟨_, respelling.blank_cons stands blank first⟩
      · exact ⟨_, respelling.solid_cons stands blank⟩

end SqlCatalog
